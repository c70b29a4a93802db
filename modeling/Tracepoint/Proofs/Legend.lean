import Mathlib.Data.List.Forall2
import Tracepoint.Keyword.Legend
import Tracepoint.Proofs.SourceMap
/-!
The legend and the templates.  What the legend shows of a keyword is a template for that keyword
alone, and each keyword part of a template is read where the text of a legend entry stands.
-/

namespace Tracepoint.Template

open Keyword (Table LegendEntry IsLongestMatch)

variable {table : Table} {template : List Char} {read : List Token}

namespace Part

def ofLegendEntry (entry : LegendEntry) : Part :=
  match entry.argument with
  | some argument => .numbered entry.kind argument
  | none => .plain entry.kind

def isKeyword : Part → Bool
  | .numbered .. | .plain _ => true
  | .text _ | .expression _ => false

theorem isKeyword_ofKeyword (keyword : Keyword) : (ofKeyword keyword).isKeyword = true := by
  unfold ofKeyword
  split <;> rfl

theorem filter_joinTo (part : Part) (parts : List Part) :
    (part.joinTo parts).filter isKeyword = (part :: parts).filter isKeyword := by
  rcases part.joinTo_cases parts with ⟨front, back, others, rfl, rfl, joined⟩ | ⟨-, joined⟩
  · simp [joined, isKeyword]
  · rw [joined]

end Part

/-- An entry of the legend beside its keyword. -/
structure Explains (table : Table) (keyword : Keyword) (entry : LegendEntry) : Prop where
  typed : entry.keyword = "$" ++ keyword.name
  kind : entry.kind = keyword.kind
  argument : entry.argument = keyword.argument
  description : entry.description = keyword.description
  compiles : (compile table entry.keyword).parts = [.ofLegendEntry entry]

/-- The text of a legend entry for a part stands at a byte offset of a template. -/
def Explained (table : Table) (template : List Char) (part : Part) (offset : Nat) : Prop :=
  ∃ entry ∈ table.legend, Part.ofLegendEntry entry = part ∧
    Text.IsSlice template offset (offset + Text.byteLength entry.keyword.toList)
      entry.keyword.toList

theorem filter_assemble (tokens : List Token) :
    (assemble tokens).filter Part.isKeyword =
      (tokens.filterMap Token.keyword?).map Part.ofKeyword := by
  induction tokens with
  | nil => rfl
  | cons token tokens ih =>
    rw [assemble_cons, Part.filter_joinTo]
    cases token with
    | keyword found =>
      rw [List.filterMap_cons_some (f := Token.keyword?) rfl, List.map_cons, ← ih, Token.part,
        List.filter_cons_of_pos (Part.isKeyword_ofKeyword found)]
    | escape | literal | expression =>
      rw [List.filterMap_cons_none (f := Token.keyword?) rfl, ← ih]
      rfl

theorem compile_keyword (accepted : table.Accepted) {keyword : Keyword}
    (member : keyword ∈ table.keywords) :
    (compile table ("$" ++ keyword.name)).parts = [.ofKeyword keyword] := by
  have longest : IsLongestMatch table (keyword.name.toList ++ []) keyword := by
    refine Keyword.isLongestMatch_append_iff.mpr ⟨member, ?_⟩
    intro longer _ more nonempty _ begins
    exact nonempty (List.prefix_nil.mp begins)
  have written : ("$" ++ keyword.name).toList = '$' :: (keyword.name.toList ++ []) := by simp
  have first : Next table ("$" ++ keyword.name).toList (.keyword keyword) [] :=
    written ▸ .keyword longest rfl
  rw [compile_of_reads accepted (.next first .done)]
  exact Part.joinTo_nil _

namespace Cursor

variable {s : Cursor}

def keywordOffsets (table : Table) (s : Cursor) : List Nat :=
  if _ : s.rest = [] then []
  else ((s.keywordAhead? table).map fun _ => s.skipPlain.position).toList ++
    (s.advance table).keywordOffsets table
termination_by s.rest.length
decreasing_by exact advance_rest_length_lt table ‹_›

theorem HasRead.explained {found : Keyword} (sound : s.HasRead table template read)
    (ahead : s.keywordAhead? table = some found) :
    Explained table template (.ofKeyword found) s.skipPlain.position := by
  unfold keywordAhead? at ahead
  split at ahead
  case h_1 after here =>
    have longest := Table.match?_isLongestMatch ahead
    rcases longest.begins with ⟨beyond, rfl⟩
    have written := sound.skipPlain.reads.source_append
    rw [here] at written
    refine ⟨_, List.mem_map_of_mem longest.mem, rfl, ?_⟩
    rw [Keyword.legendEntry, String.toList_append]
    refine ⟨_, beyond, ?_, sound.skipPlain.position.symm, ?_⟩
    · rw [written]
      simp
    · rw [sound.skipPlain.position]
  case h_2 => cases ahead

theorem HasRead.keywordsAhead_explained (sound : s.HasRead table template read) :
    List.Forall₂ (Explained table template) ((s.keywordsAhead table).map Part.ofKeyword)
      (s.keywordOffsets table) := by
-- The keywords and their offsets come from the same advances.
  fun_induction Cursor.keywordsAhead table s generalizing read with
  | case1 s done =>
    rw [keywordOffsets, dif_pos done]
    exact .nil
  | case2 s unread ih =>
    rcases sound.advance with ⟨_, taken, -⟩
    rw [keywordOffsets.eq_def, dif_neg unread]
    cases ahead : s.keywordAhead? table with
    | none => exact ih taken
    | some found => exact .cons (sound.explained ahead) (ih taken)

end Cursor

theorem legend_explains (accepted : table.Accepted) :
    List.Forall₂ (Explains table) table.keywords table.legend ∧
      ∀ template, List.Forall₂ (Explained table template.toList)
        ((compile table template).parts.filter Part.isKeyword)
        ((Cursor.atStart template).keywordOffsets table) := by
  constructor
  · rw [Table.legend, List.forall₂_map_right_iff, List.forall₂_same]
    intro keyword member
    exact ⟨rfl, rfl, rfl, rfl, compile_keyword accepted member⟩
  · intro template
    rcases compile_reads table template with ⟨read, reading, parts, keywords⟩
    rw [parts, filter_assemble, keywords]
    exact (Cursor.HasRead.atStart table template).keywordsAhead_explained

theorem standard_explained :
    Table.standard.Accepted ∧
      List.Forall₂ (Explains .standard) Table.standard.keywords Table.standard.legend ∧
      List.Forall₂ (Explained .standard "é$CALLER10\x7b$TID\x7d$$PID".toList)
        ((compile .standard "é$CALLER10\x7b$TID\x7d$$PID").parts.filter Part.isKeyword)
        ((Cursor.atStart "é$CALLER10\x7b$TID\x7d$$PID").keywordOffsets .standard) := by
  obtain ⟨entries, parts⟩ := legend_explains Table.standard_accepted
  exact ⟨Table.standard_accepted, entries, parts _⟩

end Tracepoint.Template
