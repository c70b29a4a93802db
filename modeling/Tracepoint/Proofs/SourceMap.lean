import Tracepoint.Proofs.Scan
/-!
Where the parts of a template come from.  Each part stands for a stretch of the template, and the
stretches follow each other from the first byte to the last.
-/

namespace Tracepoint.Text

def IsSlice (text : List Char) (first last : Nat) (slice : List Char) : Prop :=
  ∃ before after, text = before ++ slice ++ after ∧ byteLength before = first ∧
    byteLength before + byteLength slice = last

end Tracepoint.Text

namespace Tracepoint.Template

open Keyword (Table)

variable {table : Table} {text slice after rest : List Char} {read : List Token} {token : Token}
  {parts : List Part} {part : Part}

def unescape : List Char → List Char
  | '\\' :: letter :: rest =>
    match escaped? letter with
    | some meaning => meaning :: unescape rest
    | none => '\\' :: unescape (letter :: rest)
  | c :: rest => c :: unescape rest
  | [] => []

/-- A part is read from a slice of a template; a keyword part, from the keyword that is found after
the first character of the slice. -/
def IsSource (found? : Option Keyword) (slice : List Char) : Part → Prop
  | .text content => unescape slice = content.toList
  | .expression source => slice = '{' :: source.toList ++ ['}']
  | part => ∃ found, found? = some found ∧ slice = '$' :: found.name.toList ∧
      part = .ofKeyword found

def StandsAt (table : Table) (template : String) (first last : Nat) (part : Part) : Prop :=
  ∃ slice, Text.IsSlice template.toList first last slice ∧
    IsSource (table.lookup? template (first + 1)) slice part

def writtenOut (found? : Option Keyword) : Part → List Char
  | .text content => content.toList
  | .expression source => '{' :: source.toList ++ ['}']
  | _ => '$' :: (found?.map (·.name.toList)).getD []

theorem unescape_known {letter meaning : Char} (known : escaped? letter = some meaning) :
    unescape ('\\' :: letter :: rest) = meaning :: unescape rest := by
  rw [unescape, known]

theorem unescape_inert (inert : ∀ letter ∈ rest.head?, escaped? letter = none) :
    unescape ('\\' :: rest) = '\\' :: unescape rest := by
  cases rest with
  | nil => rfl
  | cons letter rest => rw [unescape, inert letter (by simp)]

theorem unescape_cons {c : Char} (other : c ≠ '\\') :
    unescape (c :: rest) = c :: unescape rest := by
  rw [unescape]
  intro letter _ same
  exact absurd same other

theorem unescape_eq_self (none : '\\' ∉ text) : unescape text = text := by
  induction text with
  | nil => rfl
  | cons c text ih =>
    rw [List.mem_cons, not_or] at none
    rw [unescape_cons (Ne.symm none.1), ih none.2]

theorem Next.unescape_source {c : Char}
    (first : Next table (token.source ++ (slice ++ after)) token (slice ++ after))
    (adds : token.char? = some c) :
    unescape (token.source ++ slice) = c :: unescape slice := by
  cases token with
  | escape letter meaning =>
    cases adds
    cases first with
    | escape known => exact unescape_known (escaped?_eq_some_iff.mpr known)
  | literal d =>
    cases adds
    by_cases backslash : c = '\\'
    · -- No escape begins here in the template, so none does where the slice is cut off.
      subst backslash
      apply unescape_inert
      intro letter ahead
      cases slice with
      | nil => cases ahead
      | cons head slice =>
        cases ahead
        by_contra known
        rcases Option.ne_none_iff_exists'.mp known with ⟨meaning, known⟩
        exact first.not_construct (.escape (escaped?_eq_some_iff.mp known))
    · exact unescape_cons backslash
  | _ => cases adds

theorem IsSource.writtenOut_eq {found? : Option Keyword} (source : IsSource found? slice part)
    (none : '\\' ∉ slice) : writtenOut found? part = slice := by
  cases part with
  | text content => rw [writtenOut, ← source, unescape_eq_self none]
  | expression chars => exact source.symm
  | _ =>
    rcases source with ⟨found, rfl, rfl, -⟩
    rfl

theorem IsSource.ofKeyword (found : Keyword) :
    IsSource (some found) ('$' :: found.name.toList) (.ofKeyword found) := by
  generalize same : Part.ofKeyword found = part
  cases part with
  | numbered | plain => exact ⟨found, rfl, rfl, same.symm⟩
  | text | expression => cases here : found.argument <;> simp [Part.ofKeyword, here] at same

theorem Next.isSource (accepted : table.Accepted)
    (first : Next table (token.source ++ after) token after) :
    IsSource (table.match? (token.source ++ after).tail) token.source token.part := by
  cases adds : token.char? with
  | some c =>
    have single : unescape (token.source ++ []) = c :: unescape [] := first.unescape_source adds
    rw [List.append_nil] at single
    simp [Token.part_of_char? adds, IsSource, single, unescape]
  | none =>
    cases token with
    | keyword found =>
      cases first with
      | keyword longest spelled =>
        rw [spelled] at longest
        have matched := accepted.match?_eq_some_iff.mpr longest
        rw [Token.source, List.cons_append, List.tail_cons, matched]
        exact .ofKeyword found
    | expression source => simp [Token.part, IsSource, Token.source]
    | _ => cases adds

/-- Parts are read from the slices of a text one after the other. -/
inductive Covers (table : Table) : List Char → List Part → Prop
  | done : Covers table [] []
  | next {slice after : List Char} {part : Part} {parts : List Part} (nonempty : slice ≠ [])
    (source : IsSource (table.match? (slice ++ after).tail) slice part)
    (others : Covers table after parts) : Covers table (slice ++ after) (part :: parts)

theorem Reads.covers (accepted : table.Accepted) (reading : Reads table text read rest)
    (finished : rest = []) : Covers table text (assemble read) := by
  induction reading with
  | done =>
    subst finished
    exact .done
  | @next text between rest token read first others ih =>
    have covered := ih finished
    rcases first.source_append with rfl
    rcases assemble_cons_cases token read with ⟨c, back, parts, adds, backText, joined⟩ | joined
    · -- The token's characters go in front of the slice that the text after it is read from.
      rw [joined]
      rw [backText] at covered
      cases covered with
      | @next slice after _ _ nonempty source others =>
        have same : unescape slice = back.toList := source
        have longer : unescape (token.source ++ slice) = (String.singleton c ++ back).toList := by
          rw [first.unescape_source adds, same]
          simp
        rw [← List.append_assoc]
        exact .next (by simp [token.source_ne_nil]) longer others
    · rw [joined]
      exact .next token.source_ne_nil (first.isSource accepted) covered

theorem lookup?_after (table : Table) {template : String} {before ahead : List Char} {c : Char}
    (here : template.toList = before ++ c :: ahead) (single : c.utf8Size = 1) :
    table.lookup? template (Text.byteLength before + 1) = table.match? ahead := by
  have place : Text.dropBytes? template.toList (Text.byteLength before + 1) = some ahead := by
    rw [Text.dropBytes?_eq_some_iff]
    exact ⟨before ++ [c], by simp [here], by simp [single]⟩
  rw [Table.lookup?, place, Option.bind_some]

def startingAt (first : Nat) (offset : Nat → Nat) : Nat → Nat
  | 0 => first
  | i + 1 => offset i

theorem Covers.offsets {template : String} {before : List Char} (covered : Covers table text parts)
    (here : template.toList = before ++ text) :
    ∃ offset : Nat → Nat, offset 0 = Text.byteLength before ∧
      offset parts.length = template.utf8ByteSize ∧
      (∀ i (inside : i < parts.length), offset i < offset (i + 1) ∧
        StandsAt table template (offset i) (offset (i + 1)) parts[i]) ∧
      ('\\' ∉ text → (parts.mapIdx fun i part =>
        writtenOut (table.lookup? template (offset i + 1)) part).flatten = text) := by
  induction covered generalizing before with
  | done =>
    have finish : Text.byteLength before = template.utf8ByteSize := by
      rw [← Text.byteLength_toList, here, List.append_nil]
    exact ⟨fun _ => Text.byteLength before, rfl, finish, by simp, by simp⟩
  | @next slice after part parts nonempty source _ ih =>
    have here : template.toList = before ++ slice ++ after := by simp [here]
    rcases ih here with ⟨offset, start, finish, stands, written⟩
    have size := Text.byteLength_pos nonempty
    rw [Text.byteLength_append] at start
    have place : IsSource (table.lookup? template (Text.byteLength before + 1)) slice part := by
      cases part with
      | numbered | plain =>
        rcases source with ⟨found, matched, rfl, same⟩
        rw [List.append_assoc] at here
        exact ⟨found, (lookup?_after table here (by decide)).trans matched, rfl, same⟩
      | text | expression => exact source
-- The slice goes in front of those that the rest of the text is cut into.
    refine ⟨startingAt (Text.byteLength before) offset, rfl, finish, ?_, ?_⟩
    · intro i inside
      cases i with
      | zero =>
        have further : Text.byteLength before < offset 0 := by omega
        exact ⟨further, slice, ⟨before, after, here, rfl, start.symm⟩, place⟩
      | succ i => exact stands i (by simpa using inside)
    · intro none
      rw [List.mem_append, not_or] at none
      rw [List.mapIdx_cons, List.flatten_cons]
      exact congrArg₂ (· ++ ·) (place.writtenOut_eq none.1) (written none.2)

/-- Nothing of a template is lost, doubled or moved. -/
theorem compile_source_map (accepted : table.Accepted) (template : String) :
    ∃ offset : Nat → Nat, offset 0 = 0 ∧
      offset (compile table template).parts.length = template.utf8ByteSize ∧
      ((compile table template).parts = [] ↔ template = "") ∧
      (∀ i (inside : i < (compile table template).parts.length), offset i < offset (i + 1) ∧
        StandsAt table template (offset i) (offset (i + 1)) (compile table template).parts[i]) ∧
      ('\\' ∉ template.toList →
        ((compile table template).parts.mapIdx fun i part =>
          writtenOut (table.lookup? template (offset i + 1)) part).flatten = template.toList) := by
  rcases compile_reads table template with ⟨read, reading, parts, -⟩
  have covered : Covers table template.toList (compile table template).parts :=
    parts ▸ reading.covers accepted rfl
  rcases covered.offsets (List.nil_append _).symm with ⟨offset, start, finish, stands, written⟩
  refine ⟨offset, start, finish, ?_, stands, written⟩
  constructor
  · intro none
    rw [none, List.length_nil, start] at finish
    exact String.utf8ByteSize_eq_zero_iff.mp finish.symm
  · intro empty
    subst empty
    have nothing : read = [] := reading.eq_nil
    rw [parts, nothing, assemble_nil]

theorem standard_source_map :
    Table.standard.Accepted ∧
      ∃ offset : Nat → Nat, offset 0 = 0 ∧
        offset (compile .standard "é\\\\$CALLER7").parts.length = 12 ∧
        ∀ i (inside : i < (compile .standard "é\\\\$CALLER7").parts.length),
          offset i < offset (i + 1) ∧ StandsAt .standard "é\\\\$CALLER7" (offset i) (offset (i + 1))
            (compile .standard "é\\\\$CALLER7").parts[i] := by
  rcases compile_source_map Table.standard_accepted "é\\\\$CALLER7" with
    ⟨offset, start, finish, -, stands, -⟩
  exact ⟨Table.standard_accepted, offset, start, finish, stands⟩

end Tracepoint.Template
