import Tracepoint.Keyword.Legend
import Tracepoint.Proofs.Scan
/-!
What a change of a keyword table does to templates.  Of a table, compiling only asks what it matches
behind the dollar signs that the template holds: `compile_congr`.  The authored order of keywords
never shows there, and a keyword that is added shows only where its name is written.
-/

namespace Tracepoint.Keyword

namespace Table

/-- A keyword is written at a byte offset where a table finds nothing or a shorter name. -/
def Prevails (table : Table) (added : Keyword) (text : String) (offset : Nat) : Prop :=
  (∃ rest, Text.dropBytes? text.toList offset = some rest ∧ added.name.toList <+: rest) ∧
    ∀ found, table.lookup? text offset = some found → found.nameLength < added.nameLength

/-- A table lists its keywords in their authored order, also where names are equally long. -/
structure Follows (table : Table) (authored : List Keyword) : Prop where
  keywords : table.keywords = authored
  legend : table.legend = authored.map legendEntry
  ranks : ∀ length, table.matchOrder.filter (·.nameLength == length) =
    authored.filter (·.nameLength == length)

end Table

variable {table other larger : Table} {text : List Char} {found added : Keyword}

theorem IsLongestMatch.of_mem_iff
    (same : ∀ keyword, keyword ∈ table.keywords ↔ keyword ∈ other.keywords)
    (longest : IsLongestMatch table text found) : IsLongestMatch other text found where
  mem := (same found).mp longest.mem
  begins := longest.begins
  longest := by
    intro keyword member
    exact longest.longest keyword ((same keyword).mpr member)

namespace Table

theorem ofKeywords_follows (keywords : List Keyword) : (ofKeywords keywords).Follows keywords where
  keywords := rfl
  legend := rfl
  ranks := matchOrder_filter (ofKeywords keywords)

section SameKeywords

variable (accepted : table.Accepted) (otherAccepted : other.Accepted)
  (same : table.keywords.Perm other.keywords)

include accepted otherAccepted same

theorem Accepted.match?_eq_of_perm (text : List Char) : table.match? text = other.match? text := by
  apply Option.ext
  intro found
  rw [accepted.match?_eq_some_iff, otherAccepted.match?_eq_some_iff]
  constructor
  · exact .of_mem_iff fun _ => same.mem_iff
  · exact .of_mem_iff fun _ => same.symm.mem_iff

theorem Accepted.lookup?_eq_of_perm (text : String) (offset : Nat) :
    table.lookup? text offset = other.lookup? text offset :=
  congrArg (Option.bind _) (funext (accepted.match?_eq_of_perm otherAccepted same))

theorem Accepted.get?_eq_of_perm (name : String) : table.get? name = other.get? name := by
  apply Option.ext
  intro found
  rw [accepted.get?_eq_some_iff, otherAccepted.get?_eq_some_iff, same.mem_iff]

end SameKeywords

theorem map_nameLength_matchOrder (same : table.keywords.Perm other.keywords) :
    table.matchOrder.map nameLength = other.matchOrder.map nameLength := by
  have perm := (table.matchOrder_perm.trans (same.trans other.matchOrder_perm.symm)).map nameLength
  have descending : (table.matchOrder.map nameLength).Pairwise fun front back => back ≤ front :=
    List.pairwise_map.mpr table.matchOrder_descending
  have otherDescending :
      (other.matchOrder.map nameLength).Pairwise fun front back => back ≤ front :=
    List.pairwise_map.mpr other.matchOrder_descending
  refine List.Perm.eq_of_pairwise ?_ descending otherDescending perm
  intro front back _ _ backLe frontLe
  exact Nat.le_antisymm frontLe backLe

section AddedKeyword

variable (accepted : larger.Accepted)
  (inserted : ∀ keyword, keyword ∈ larger.keywords ↔ keyword = added ∨ keyword ∈ table.keywords)

include accepted inserted

theorem Accepted.match?_eq_added (begins : added.name.toList <+: text)
    (shorter : ∀ found, table.match? text = some found → found.nameLength < added.nameLength) :
    larger.match? text = some added := by
  refine accepted.match?_eq_some_iff.mpr ⟨(inserted added).mpr (.inl rfl), begins, ?_⟩
  intro keyword member keywordBegins
  rcases (inserted keyword).mp member with rfl | member
  · exact Nat.le_refl _
  · cases matched : table.match? text with
    | none => exact absurd keywordBegins (match?_eq_none_iff.mp matched keyword member)
    | some found =>
      have longest := (match?_isLongestMatch matched).longest keyword member keywordBegins
      have := shorter found matched
      omega

theorem Accepted.match?_eq_before
    (loses : ¬ (added.name.toList <+: text ∧
      ∀ found, table.match? text = some found → found.nameLength < added.nameLength)) :
    larger.match? text = table.match? text := by
  cases matched : table.match? text with
  | none =>
    rw [match?_eq_none_iff] at matched ⊢
    intro keyword member begins
    rcases (inserted keyword).mp member with rfl | member
    · refine loses ⟨begins, ?_⟩
      intro found foundMatch
      rw [match?_eq_none_iff.mpr matched] at foundMatch
      cases foundMatch
    · exact matched keyword member begins
  | some found =>
-- The added name is no longer than the match here, so the match stays the longest.
    have longest := match?_isLongestMatch matched
    refine accepted.match?_eq_some_iff.mpr ⟨(inserted found).mpr (.inr longest.mem),
      longest.begins, ?_⟩
    intro keyword member begins
    rcases (inserted keyword).mp member with rfl | member
    · by_contra longer
      refine loses ⟨begins, ?_⟩
      intro other otherMatch
      rw [matched] at otherMatch
      cases otherMatch
      omega
    · exact longest.longest keyword member begins

theorem Accepted.lookup?_eq_added {text : String} {offset : Nat}
    (prevails : table.Prevails added text offset) : larger.lookup? text offset = some added := by
  rcases prevails with ⟨⟨rest, place, begins⟩, shorter⟩
  simp only [lookup?, place, Option.bind_some] at shorter ⊢
  exact accepted.match?_eq_added inserted begins shorter

theorem Accepted.lookup?_eq_before {text : String} {offset : Nat}
    (loses : ¬ table.Prevails added text offset) :
    larger.lookup? text offset = table.lookup? text offset := by
  simp only [Prevails, lookup?] at loses ⊢
  cases place : Text.dropBytes? text.toList offset with
  | none => rfl
  | some rest =>
    simp only [place, Option.bind_some, Option.some.injEq, exists_eq_left'] at loses
    exact accepted.match?_eq_before inserted loses

end AddedKeyword

end Table

end Tracepoint.Keyword

namespace Tracepoint.Template

open Keyword (Table)

variable {table other larger : Table} {keywords others : List Keyword} {added : Keyword}
  {read : List Token}

namespace Cursor

variable {s : Cursor}

theorem readKeyword_congr {after : List Char} (same : table.match? after = other.match? after)
    (s : Cursor) : s.readKeyword table after = s.readKeyword other after := by
  rw [readKeyword, readKeyword, same]

theorem advance_congr (same : ∀ after, s.skipPlain.rest = '$' :: after →
    table.match? after = other.match? after) : s.advance table = s.advance other := by
  simp only [advance]
  split
  case h_3 after here => exact readKeyword_congr (same after here) s.skipPlain
  all_goals rfl

/-- Two tables lead a cursor the same way while they match the same behind each dollar sign. -/
theorem HasRead.toEnd_congr {template : List Char} (sound : s.HasRead table template read)
    (same : ∀ after, '$' :: after <:+ template → table.match? after = other.match? after) :
    s.toEnd table = s.toEnd other := by
  fun_induction Cursor.toEnd table s generalizing read with
  | case1 s done => rw [Cursor.toEnd, dif_pos done]
  | case2 s unread ih =>
    have step : s.advance table = s.advance other := by
      apply advance_congr
      intro after here
      apply same
      rw [← here]
      exact ⟨_, sound.skipPlain.reads.source_append.symm⟩
    rcases sound.advance with ⟨_, taken, -⟩
    rw [Cursor.toEnd.eq_def other s, dif_neg unread, ← step]
    exact ih taken

end Cursor

theorem compile_congr {template : String}
    (same : ∀ after, '$' :: after <:+ template.toList →
      table.match? after = other.match? after) :
    compile table template = compile other template := by
  have final := (Cursor.HasRead.atStart table template).toEnd_congr same
  rw [compile, compile, final]

/-- The authored order of keywords is for readers of the table; templates do not depend on it. -/
theorem compile_perm (perm : keywords.Perm others) :
    ((∃ table, Table.ofKeywords? keywords = .ok table) ↔
        ∃ table, Table.ofKeywords? others = .ok table) ∧
      ∀ table other, Table.ofKeywords? keywords = .ok table →
        Table.ofKeywords? others = .ok other →
        (∀ text offset, table.lookup? text offset = other.lookup? text offset) ∧
        (∀ name, table.get? name = other.get? name) ∧
        (∀ template, compile table template = compile other template) ∧
        table.matchOrder.map Keyword.nameLength = other.matchOrder.map Keyword.nameLength ∧
        table.Follows keywords ∧ other.Follows others := by
  constructor
  · rw [Table.exists_ofKeywords?_iff, Table.exists_ofKeywords?_iff,
      (perm.map Keyword.name).nodup_iff]
    simp only [perm.mem_iff]
  · intro table other built otherBuilt
    have accepted : table.Accepted := ⟨keywords, built⟩
    have otherAccepted : other.Accepted := ⟨others, otherBuilt⟩
    rcases Table.ofKeywords?_eq_ok_iff.mp built with ⟨-, rfl⟩
    rcases Table.ofKeywords?_eq_ok_iff.mp otherBuilt with ⟨-, rfl⟩
    refine ⟨accepted.lookup?_eq_of_perm otherAccepted perm,
      accepted.get?_eq_of_perm otherAccepted perm, ?_, Table.map_nameLength_matchOrder perm,
      Table.ofKeywords_follows keywords, Table.ofKeywords_follows others⟩
    intro template
    apply compile_congr
    intro after _
    exact accepted.match?_eq_of_perm otherAccepted perm after

theorem standard_perm :
    Keyword.standardKeywords.Perm Keyword.standardKeywords.reverse ∧
      Table.ofKeywords? Keyword.standardKeywords = .ok .standard ∧
      Table.ofKeywords? Keyword.standardKeywords.reverse =
        .ok (.ofKeywords Keyword.standardKeywords.reverse) ∧
      compile .standard "$CALLER10$CALLSTACK5$$" =
        compile (.ofKeywords Keyword.standardKeywords.reverse) "$CALLER10$CALLSTACK5$$" := by
  have perm : Keyword.standardKeywords.Perm Keyword.standardKeywords.reverse :=
    (List.reverse_perm _).symm
  have built : Table.ofKeywords? Keyword.standardKeywords = .ok .standard :=
    Table.ofKeywords?_eq_ok_iff.mpr ⟨by decide, rfl⟩
  have reversed : Table.ofKeywords? Keyword.standardKeywords.reverse =
      .ok (.ofKeywords Keyword.standardKeywords.reverse) :=
    Table.ofKeywords?_eq_ok_iff.mpr ⟨by decide, rfl⟩
  exact ⟨perm, built, reversed, ((compile_perm perm).2 _ _ built reversed).2.2.1 _⟩

/-- A keyword that is added changes a look-up only where it is the longest match, and a template
only where it is written. -/
theorem compile_insert (accepted : larger.Accepted)
    {before after : List Keyword} (authored : table.keywords = before ++ after)
    (inserted : larger.keywords = before ++ added :: after) :
    (∀ text offset,
      (table.Prevails added text offset → larger.lookup? text offset = some added) ∧
      (¬ table.Prevails added text offset →
        larger.lookup? text offset = table.lookup? text offset)) ∧
      ∀ template : String, ¬ '$' :: added.name.toList <:+: template.toList →
        compile larger template = compile table template := by
  have members : ∀ keyword, keyword ∈ larger.keywords ↔
      keyword = added ∨ keyword ∈ table.keywords := by
    intro keyword
    rw [authored, inserted]
    simp only [List.mem_append, List.mem_cons]
    tauto
  constructor
  · intro text offset
    exact ⟨accepted.lookup?_eq_added members, accepted.lookup?_eq_before members⟩
  · intro template unwritten
    apply compile_congr
    intro ahead inside
    apply accepted.match?_eq_before members
    intro prevails
    have written : '$' :: added.name.toList <+: '$' :: ahead :=
      List.cons_prefix_cons.mpr ⟨rfl, prevails.1⟩
    exact unwritten (written.isInfix.trans inside.isInfix)

def tenthCaller : Keyword := ⟨"CALLER10", .caller, some 10, "Name of the tenth caller"⟩

theorem tenthCaller_insert :
    (Table.ofKeywords (tenthCaller :: Keyword.standardKeywords)).Accepted ∧
      Table.standard.Prevails tenthCaller "é$CALLER10" 3 ∧
      (Table.ofKeywords (tenthCaller :: Keyword.standardKeywords)).lookup? "é$CALLER10" 3 =
        some tenthCaller ∧
      ¬ '$' :: tenthCaller.name.toList <:+: "$CALLER1\x7b0\x7d$CALLER".toList ∧
      compile (.ofKeywords (tenthCaller :: Keyword.standardKeywords)) "$CALLER1\x7b0\x7d$CALLER" =
        compile .standard "$CALLER1\x7b0\x7d$CALLER" := by
  have accepted : (Table.ofKeywords (tenthCaller :: Keyword.standardKeywords)).Accepted :=
    Table.accepted_iff.mpr ⟨by decide, by decide⟩
  have authored : Table.standard.keywords = [] ++ Keyword.standardKeywords := rfl
  have inserted : (Table.ofKeywords (tenthCaller :: Keyword.standardKeywords)).keywords =
      [] ++ tenthCaller :: Keyword.standardKeywords := rfl
  have shorter : ∀ keyword ∈ Table.standard.keywords,
      keyword.name.toList <+: "CALLER10".toList → keyword.nameLength < 8 := by decide
  have place : Text.dropBytes? "é$CALLER10".toList 3 = some "CALLER10".toList :=
    Text.dropBytes?_append "é$".toList "CALLER10".toList
  have prevails : Table.standard.Prevails tenthCaller "é$CALLER10" 3 := by
    refine ⟨⟨_, place, List.prefix_rfl⟩, ?_⟩
    intro found matched
    rw [Table.lookup?, place, Option.bind_some] at matched
    have longest := Table.match?_isLongestMatch matched
    exact shorter found longest.mem longest.begins
  have unwritten :
      ¬ '$' :: tenthCaller.name.toList <:+: "$CALLER1\x7b0\x7d$CALLER".toList := by
    simp [tenthCaller, List.infix_cons_iff]
  have changes := compile_insert accepted authored inserted
  exact ⟨accepted, prevails, (changes.1 _ 3).1 prevails, unwritten, changes.2 _ unwritten⟩

end Tracepoint.Template
