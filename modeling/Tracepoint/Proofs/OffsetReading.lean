import Tracepoint.Proofs.Lookup
import Tracepoint.Proofs.Scan
import Tracepoint.Text.Slices
/-!
Reading a template by byte offsets.  Here a cursor knows its place as a byte offset alone: whatever
it looks at it cuts out of the template, and a cut out of range or inside a character stops it.
None does: every turn comes to the same as `Cursor.advance`, and there are no more turns than the
template has bytes.
-/

namespace Tracepoint.Template

open Keyword (Table)

variable {table : Table} {template : String} {read : List Token} {after : List Char}

namespace Cursor

def seek? (template : String) (offset : Nat) (s : Cursor) : Option Cursor :=
  (Text.dropBytes? template.toList offset).map fun rest =>
    { s with position := offset, rest := rest }

def keepTriggerAt? (template : String) (trigger : Char) (s : Cursor) : Option Cursor :=
  seek? template (s.position + 1) { s with openText := s.openText.push trigger }

def readEscapeAt? (template : String) (s : Cursor) : Option Cursor := do
  let after ← Text.dropBytes? template.toList (s.position + 1)
  match after.head?.bind escaped? with
  | some meaning =>
    seek? template (s.position + 2) { s with openText := s.openText.push meaning }
  | none => (s.report (.inertEscape s.position)).keepTriggerAt? template '\\'

def readKeywordAt? (table : Table) (template : String) (s : Cursor) : Option Cursor :=
  match table.lookup? template (s.position + 1) with
  | some keyword =>
    (s.addPart (.ofKeyword keyword)).seek? template (s.position + (1 + keyword.nameLength))
  | none => (s.report (.unknownKeyword s.position)).keepTriggerAt? template '$'

/-- The length in bytes of the source of an expression that begins at a byte offset; not looked for
when no closing brace is known to follow. -/
def sourceLength? (template : String) (start : Nat) (s : Cursor) : Option (Option Nat) :=
  if s.noBraceAhead then some none
  else (Text.dropBytes? template.toList start).map (Text.find? (· == '}'))

def readExpressionAt? (template : String) (s : Cursor) : Option Cursor := do
  let start := s.position + 1
  match ← s.sourceLength? template start with
  | some length =>
    let source ← Text.slice? template.toList start (start + length)
    (s.addPart (.expression (String.ofList source))).seek? template (start + length + 1)
  | none =>
    let s := if s.noBraceAhead then s else s.report (.unterminatedExpression s.position)
    { s with noBraceAhead := true }.keepTriggerAt? template '{'

def readTriggerAt? (table : Table) (template : String) (s : Cursor) : Option Cursor := do
  let byte ← Text.byteAt? template s.position
  if byte = '\\'.val.toUInt8 then s.readEscapeAt? template
  else if byte = '$'.val.toUInt8 then s.readKeywordAt? table template
  else s.readExpressionAt? template

def advanceAt? (table : Table) (template : String) (s : Cursor) : Option Cursor := do
  let rest ← Text.dropBytes? template.toList s.position
  match Text.find? isTrigger rest with
  | some length =>
    let plain ← Text.takeBytes? rest length
    let skipped ← seek? template (s.position + length)
      { s with openText := s.openText ++ String.ofList plain }
    skipped.readTriggerAt? table template
  | none =>
    seek? template template.utf8ByteSize { s with openText := s.openText ++ String.ofList rest }

def toEndWithin? (table : Table) (template : String) (turns : Nat) (s : Cursor) : Option Cursor :=
  if s.position < template.utf8ByteSize then
    match turns with
    | 0 => none
    | turns + 1 => (s.advanceAt? table template).bind (toEndWithin? table template turns)
  else some s.closeText

variable {s : Cursor}

@[simp] theorem addPart_position (part : Part) (s : Cursor) :
    (s.addPart part).position = s.position :=
  closeText_position s

@[simp] theorem report_position (event : Log.Event) (s : Cursor) :
    (s.report event).position = s.position := rfl

theorem HasRead.dropBytes? (sound : s.HasRead table template.toList read) :
    Text.dropBytes? template.toList s.position = some s.rest := by
  rw [sound.reads.source_append, sound.position, Text.dropBytes?_append]

theorem HasRead.dropBytes?_after (sound : s.HasRead table template.toList read)
    (front : List Char) (ahead : s.rest = front ++ after) :
    Text.dropBytes? template.toList (s.position + Text.byteLength front) = some after := by
  rw [sound.reads.source_append, sound.position, ahead, ← List.append_assoc,
    ← Text.byteLength_append, Text.dropBytes?_append]

theorem HasRead.position_add_rest (sound : s.HasRead table template.toList read) :
    s.position + Text.byteLength s.rest = template.utf8ByteSize := by
  rw [sound.position, ← Text.byteLength_append, ← sound.reads.source_append,
    Text.byteLength_toList]

theorem HasRead.seek? {bytes : Nat}
    (sound : (s.moveTo bytes after).HasRead table template.toList read) :
    s.seek? template (s.position + bytes) = some (s.moveTo bytes after) := by
  have cut : Text.dropBytes? template.toList (s.position + bytes) = some after := sound.dropBytes?
  rw [Cursor.seek?, cut]
  rfl

theorem HasRead.keepTriggerAt? {trigger : Char}
    (kept : (s.keepTrigger trigger after).HasRead table template.toList read) :
    s.keepTriggerAt? template trigger = some (s.keepTrigger trigger after) :=
  HasRead.seek? kept

theorem HasRead.readEscapeAt? (sound : s.HasRead table template.toList read)
    (here : s.rest = '\\' :: after) :
    s.readEscapeAt? template = some (s.readEscape after) := by
  rcases sound.readEscape here with ⟨token, taken, -⟩
  have cut : Text.dropBytes? template.toList (s.position + 1) = some after :=
    sound.dropBytes?_after ['\\'] here
  rw [Cursor.readEscapeAt?, cut, Option.bind_eq_bind, Option.bind_some]
  cases after with
  | nil => exact HasRead.keepTriggerAt? taken
  | cons letter beyond =>
    rw [List.head?_cons, Option.bind_some]
    rw [Cursor.readEscape] at taken ⊢
    cases known : escaped? letter with
    | some meaning =>
      rw [known] at taken
      exact HasRead.seek? taken
    | none =>
      rw [known] at taken
      exact HasRead.keepTriggerAt? taken

theorem HasRead.readKeywordAt? (sound : s.HasRead table template.toList read)
    (here : s.rest = '$' :: after) :
    s.readKeywordAt? table template = some (s.readKeyword table after) := by
  rcases sound.readKeyword here with ⟨token, taken, -⟩
  have cut : Text.dropBytes? template.toList (s.position + 1) = some after :=
    sound.dropBytes?_after ['$'] here
  rw [Cursor.readKeywordAt?, Table.lookup?, cut, Option.bind_some]
  rw [Cursor.readKeyword] at taken ⊢
  cases matched : table.match? after with
  | some keyword =>
    rw [matched] at taken
    simpa using HasRead.seek? taken
  | none =>
    rw [matched] at taken
    exact HasRead.keepTriggerAt? taken

theorem HasRead.sourceLength? (sound : s.HasRead table template.toList read)
    (here : s.rest = '{' :: after) :
    s.sourceLength? template (s.position + 1) =
      some ((s.splitAtBrace? after).map fun split => Text.byteLength split.1) := by
  have cut : Text.dropBytes? template.toList (s.position + 1) = some after :=
    sound.dropBytes?_after ['{'] here
  rw [Cursor.sourceLength?]
  cases known : s.noBraceAhead with
  | true => simp [splitAtBrace?, known]
  | false =>
    rw [if_neg Bool.false_ne_true, cut, Option.map_some]
    apply congrArg some
    cases found : s.splitAtBrace? after with
    | none =>
      have none := splitAtBrace?_eq_none found known
      apply Text.find?_eq_none
      intro c member
      exact beq_eq_false_iff_ne.mpr (ne_of_mem_of_not_mem member none)
    | some split =>
      rcases splitAtBrace?_eq_some found with ⟨first, closed⟩
      rw [closed]
      apply Text.find?_append
      · intro c member
        exact beq_eq_false_iff_ne.mpr (ne_of_mem_of_not_mem member first)
      · rfl

theorem HasRead.readExpressionAt? (sound : s.HasRead table template.toList read)
    (here : s.rest = '{' :: after) :
    s.readExpressionAt? template = some (s.readExpression after) := by
  rcases sound.readExpression here with ⟨token, taken, -⟩
  simp only [Cursor.readExpressionAt?, sound.sourceLength? here, Option.bind_eq_bind,
    Option.bind_some]
  rw [Cursor.readExpression] at taken ⊢
  cases found : s.splitAtBrace? after with
  | some split =>
    rw [found] at taken
    rcases split with ⟨source, beyond⟩
    rcases splitAtBrace?_eq_some found with ⟨-, closed⟩
    have whole : template.toList =
        (read.flatMap Token.source ++ ['{']) ++ source ++ '}' :: beyond := by
      simp [sound.reads.source_append, here, closed]
    have start : Text.byteLength (read.flatMap Token.source ++ ['{']) = s.position + 1 := by
      rw [Text.byteLength_append, ← sound.position]
      rfl
    have slice : Text.slice? template.toList (s.position + 1)
        (s.position + 1 + Text.byteLength source) = some source := by
      rw [whole, ← start, Text.slice?_append]
    have sought := HasRead.seek? taken
    rw [addPart_position] at sought
    rw [Option.map_some]
    simp only [slice, Option.bind_some]
    rw [← sought]
    congr 1
    omega
  | none =>
    rw [found] at taken
    exact HasRead.keepTriggerAt? taken

theorem HasRead.readTriggerAt? {c : Char} (skipped : s.skipPlain.HasRead table template.toList read)
    (here : s.skipPlain.rest = c :: after) :
    s.skipPlain.readTriggerAt? table template = some (s.advance table) := by
  have byte (single : c.utf8Size = 1) :
      Text.byteAt? template s.skipPlain.position = some c.val.toUInt8 := by
    rw [skipped.position]
    exact Text.byteAt?_append (here ▸ skipped.reads.source_append) single
  simp only [Cursor.advance, here, Cursor.readTriggerAt?]
  have trigger := isTrigger_of_skipPlain here
  simp only [isTrigger, Bool.or_eq_true, beq_iff_eq] at trigger
  rcases trigger with (rfl | rfl) | rfl
  · rw [byte (by decide), Option.bind_eq_bind, Option.bind_some, if_pos rfl]
    exact skipped.readEscapeAt? here
  · rw [byte (by decide), Option.bind_eq_bind, Option.bind_some, if_neg (by decide), if_pos rfl]
    exact skipped.readKeywordAt? here
  · rw [byte (by decide), Option.bind_eq_bind, Option.bind_some, if_neg (by decide),
      if_neg (by decide)]
    exact skipped.readExpressionAt? here

theorem HasRead.advanceAt? (sound : s.HasRead table template.toList read) :
    s.advanceAt? table template = some (s.advance table) := by
  let plain := s.rest.takeWhile (!isTrigger ·)
  have split : plain ++ s.skipPlain.rest = s.rest := List.takeWhile_append_dropWhile
  have ordinary : ∀ c ∈ plain, isTrigger c = false := by
    intro c member
    simpa using List.mem_takeWhile_imp member
  have skipped := sound.skipPlain
  have sought : Cursor.seek? template (s.position + Text.byteLength plain)
      { s with openText := s.openText ++ String.ofList plain } = some s.skipPlain :=
    HasRead.seek? skipped
  rw [Cursor.advanceAt?, sound.dropBytes?, Option.bind_eq_bind, Option.bind_some]
  cases here : s.skipPlain.rest with
  | nil =>
    rw [here, List.append_nil] at split
    rw [split, sound.position_add_rest] at sought
    simp only [Text.find?_eq_none (split ▸ ordinary), Cursor.advance, here]
    exact sought
  | cons c after =>
    have length : Text.find? isTrigger s.rest = some (Text.byteLength plain) := by
      rw [← split, here]
      exact Text.find?_append ordinary (isTrigger_of_skipPlain here)
    have taken : Text.takeBytes? s.rest (Text.byteLength plain) = some plain := by
      rw [← split, Text.takeBytes?_append]
    simp only [length, taken, Option.bind_eq_bind, Option.bind_some, sought]
    exact skipped.readTriggerAt? here

theorem HasRead.position_lt_advance (sound : s.HasRead table template.toList read)
    (unread : s.rest ≠ []) : s.position < (s.advance table).position := by
  rcases sound.advance with ⟨step, taken, -⟩
  have shorter := advance_rest_length_lt table unread
  have consumed : step.flatMap Token.source ≠ [] := by
    intro nothing
    have sources := sound.reads.source_append.symm.trans taken.reads.source_append
    rw [List.flatMap_append, nothing, List.append_nil] at sources
    rw [List.append_cancel_left sources] at shorter
    exact Nat.lt_irrefl _ shorter
  have positive := Text.byteLength_pos consumed
  rw [taken.position, ← sound.position_after]
  omega

theorem HasRead.position_lt_iff (sound : s.HasRead table template.toList read) :
    s.position < template.utf8ByteSize ↔ s.rest ≠ [] := by
  rw [← sound.position_add_rest]
  constructor
  · intro before nothing
    simp [nothing] at before
  · intro unread
    have positive := Text.byteLength_pos unread
    omega

/-- Each turn takes a byte at least, so there are turns enough when there is one for each byte. -/
theorem HasRead.toEndWithin? {turns : Nat} (sound : s.HasRead table template.toList read)
    (enough : Text.byteLength s.rest ≤ turns) :
    s.toEndWithin? table template turns = some (s.toEnd table) := by
  fun_induction Cursor.toEnd table s generalizing read turns with
  | case1 s done =>
    have atEnd : ¬ s.position < template.utf8ByteSize := by
      rw [sound.position_lt_iff, done]
      simp
    rw [Cursor.toEndWithin?.eq_def, if_neg atEnd]
  | case2 s unread ih =>
    rcases sound.advance with ⟨step, taken, -⟩
    have size := sound.position_add_rest
    have sizeAfter := taken.position_add_rest
    have further := sound.position_lt_advance unread
    cases turns with
    | zero =>
      have positive := Text.byteLength_pos unread
      omega
    | succ turns =>
      rw [Cursor.toEndWithin?, if_pos (sound.position_lt_iff.mpr unread), sound.advanceAt?,
        Option.bind_some]
      exact ih taken (by omega)

theorem HasRead.toEnd_place (sound : s.HasRead table template.toList read) :
    (s.toEnd table).position = template.utf8ByteSize ∧ (s.toEnd table).rest = [] ∧
      (s.toEnd table).openText = "" := by
  fun_induction Cursor.toEnd table s generalizing read with
  | case1 s done =>
    have size := sound.position_add_rest
    rw [done, Text.byteLength_nil, Nat.add_zero] at size
    simp [size, done]
  | case2 s unread ih =>
    rcases sound.advance with ⟨step, taken, -⟩
    exact ih taken

end Cursor

/-- Wherever a turn begins, the byte offset is one of a character or of the end; a turn finds all
that it cuts out of the template and takes a byte at least, and the turns come to the end with no
text left open. -/
theorem reading_stays_in_range (table : Table) (template : String) :
    (∀ s, Cursor.Reached table template s →
      ((String.Pos.Raw.mk s.position).IsValid template ∧ s.position ≤ template.utf8ByteSize) ∧
        (s.position < template.utf8ByteSize ↔ s.rest ≠ []) ∧
        (s.position < template.utf8ByteSize →
          s.advanceAt? table template = some (s.advance table) ∧
            s.position < (s.advance table).position)) ∧
      let start := Cursor.atStart template
      let final := start.toEnd table
      start.toEndWithin? table template template.utf8ByteSize = some final ∧
        final.position = template.utf8ByteSize ∧ final.rest = [] ∧ final.openText = "" ∧
        (compile table template).parts = final.parts.toList := by
  constructor
  · intro s reached
    rcases reached.hasRead with ⟨read, sound⟩
    have cut : Text.CutAt template s.position (String.ofList s.rest) := by
      rw [← Text.dropBytes?_toList_eq_some_iff, String.toList_ofList, sound.dropBytes?]
    have valid := Text.exists_cutAt_iff.mp ⟨_, cut⟩
    refine ⟨⟨valid, valid.le_utf8ByteSize⟩, sound.position_lt_iff, ?_⟩
    intro before
    exact ⟨sound.advanceAt?, sound.position_lt_advance (sound.position_lt_iff.mp before)⟩
  · have sound := Cursor.HasRead.atStart table template
    have size : Text.byteLength (Cursor.atStart template).rest ≤ template.utf8ByteSize :=
      Nat.le_of_eq (Text.byteLength_toList template)
    rcases sound.toEnd_place with ⟨position, rest, openText⟩
    exact ⟨sound.toEndWithin? size, position, rest, openText, rfl⟩

theorem standard_reading_in_range :
    Cursor.Reached .standard "é\\" ((Cursor.atStart "é\\").advance .standard) ∧
      (String.Pos.Raw.mk ((Cursor.atStart "é\\").advance .standard).position).IsValid "é\\" ∧
      (Cursor.atStart "é\\").toEndWithin? .standard "é\\" 3 =
        some ((Cursor.atStart "é\\").toEnd .standard) := by
  have reached : Cursor.Reached .standard "é\\" ((Cursor.atStart "é\\").advance .standard) :=
    .advance .start (by decide)
  have ranges := reading_stays_in_range .standard "é\\"
  exact ⟨reached, (ranges.1 _ reached).1.1, ranges.2.1⟩

end Tracepoint.Template
