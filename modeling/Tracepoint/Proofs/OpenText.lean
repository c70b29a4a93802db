import Tracepoint.Proofs.OffsetReading
import Tracepoint.Proofs.SourceMap
/-!
What holds wherever an advance begins: `reached_invariant`.  The parts do not end in text.  The open
text is what the template says since the last keyword or expression, with its escapes replaced.  And
where no closing brace is expected none is left, so a search for one would fail as well.
-/

namespace Tracepoint.Template

open Keyword (Table)

variable {table : Table} {template : String} {text rest : List Char}
  {read front closed literals : List Token}

theorem Reads.unescape_source (reading : Reads table text read rest)
    (texts : ∀ token ∈ read, token.char?.isSome) :
    unescape (read.flatMap Token.source) = read.filterMap Token.char? := by
  induction reading with
  | done => rfl
  | next first others ih =>
    rw [List.forall_mem_cons] at texts
    rcases Option.isSome_iff_exists.mp texts.1 with ⟨c, adds⟩
    rw [first.source_append, others.source_append] at first
    rw [List.flatMap_cons, List.filterMap_cons_some adds, first.unescape_source adds, ih texts.2]

theorem eq_nil_of_apart (apart : (front ++ literals).getLast?.bind Token.char? = none)
    (texts : ∀ token ∈ literals, token.char?.isSome) : literals = [] := by
  cases last : literals.getLast? with
  | none => exact List.getLast?_eq_none_iff.mp last
  | some token =>
    have adds := texts token (List.mem_of_getLast? last)
    rw [List.getLast?_append, last, Option.some_or, Option.bind_some] at apart
    rw [apart] at adds
    cases adds

theorem closed_unique {otherClosed otherLiterals : List Token}
    (same : closed ++ literals = otherClosed ++ otherLiterals)
    (apart : closed.getLast?.bind Token.char? = none)
    (texts : ∀ token ∈ literals, token.char?.isSome)
    (otherApart : otherClosed.getLast?.bind Token.char? = none)
    (otherTexts : ∀ token ∈ otherLiterals, token.char?.isSome) :
    closed = otherClosed ∧ literals = otherLiterals := by
  rcases List.append_eq_append_iff.mp same with ⟨middle, rfl, rfl⟩ | ⟨middle, rfl, rfl⟩
  · have none : middle = [] :=
      eq_nil_of_apart otherApart fun token member => texts token (by simp [member])
    simp [none]
  · have none : middle = [] :=
      eq_nil_of_apart apart fun token member => otherTexts token (by simp [member])
    simp [none]

theorem length_assemble_lt_append {more : List Token}
    (apart : closed.getLast?.bind Token.char? = none) (nonempty : more ≠ []) :
    (assemble closed).length < (assemble (closed ++ more)).length := by
  rcases List.exists_cons_of_ne_nil nonempty with ⟨token, others, rfl⟩
  rw [assemble_append (.inl apart), List.length_append]
  exact Nat.lt_add_of_pos_right (List.length_pos_iff.mpr (assemble_ne_nil token others))

theorem isText_of_getLast?_assemble {part : Part}
    (apart : closed.getLast?.bind Token.char? = none)
    (last : part ∈ (assemble closed).getLast?) : part.isText = false := by
  rcases List.eq_nil_or_concat closed with rfl | ⟨front, token, rfl⟩
  · cases last
  · rw [List.concat_eq_append] at apart last
    have apart : token.char? = none := by simpa using apart
    rw [assemble_append (.inr (by simpa using apart)), assemble_cons_of_apart apart, assemble_nil,
      List.getLast?_concat, Option.mem_some_iff] at last
    rw [← last, token.isText_part, apart]
    rfl

namespace Cursor

variable {s : Cursor} {since : Nat}

/-- Since which byte offset text is open after an advance.  An advance that adds parts leaves no
text open; any other keeps the offset. -/
def openSinceAfter (table : Table) (since : Nat) (s : Cursor) : Nat :=
  if (s.advance table).parts.size = s.parts.size then since else (s.advance table).position

/-- The cursors on the way through a template, each where an advance begins, with the byte offset
since which text is open: where the last keyword or expression ended, or the start. -/
inductive OpenSince (table : Table) (template : String) : Nat → Cursor → Prop
  | start : OpenSince table template 0 (atStart template)
  | advance {since : Nat} {s : Cursor} (before : OpenSince table template since s)
    (unread : s.rest ≠ []) :
    OpenSince table template (s.openSinceAfter table since) (s.advance table)

/-- What holds of a cursor where an advance begins, with text open since a byte offset. -/
structure Invariant (table : Table) (template : String) (since : Nat) (s : Cursor) : Prop where
  place : Text.dropBytes? template.toList s.position = some s.rest
  lastPart : ∀ part ∈ s.parts.toList.getLast?, part.isText = false
  parts : ∃ closed ahead, Text.dropBytes? template.toList since = some ahead ∧
    Reads table template.toList closed ahead ∧ closed.getLast?.bind Token.char? = none ∧
    s.parts.toList = assemble closed
  openText : ∃ literals between, Text.slice? template.toList since s.position = some between ∧
    Reads table (between ++ s.rest) literals s.rest ∧
    (∀ token ∈ literals, token.char?.isSome) ∧ s.openText.toList = unescape between
  noBrace : s.noBraceAhead = true → '}' ∉ s.rest
  search : ∀ after, '{' :: after <:+ s.rest →
    s.splitAtBrace? after = { s with noBraceAhead := false }.splitAtBrace? after

/-- A cursor has read tokens up to its place; those since a byte offset are literal characters and
still open, and those before it are its parts. -/
structure HasOpen (table : Table) (template : List Char) (since : Nat)
    (closed literals : List Token) (s : Cursor) : Prop where
  sound : s.HasRead table template (closed ++ literals)
  since_eq : since = Text.byteLength (closed.flatMap Token.source)
  apart : closed.getLast?.bind Token.char? = none
  texts : ∀ token ∈ literals, token.char?.isSome
  parts : s.parts.toList = assemble closed
  openText : s.openText.toList = literals.filterMap Token.char?

theorem HasRead.advance_cases (sound : s.HasRead table text read) :
    ∃ step, (s.advance table).HasRead table text (read ++ step) ∧
      ((∀ token ∈ step, token.char?.isSome) ∨
        step ≠ [] ∧ step.getLast?.bind Token.char? = none) := by
  rcases sound.advance_run with ⟨plain, last, taken, -⟩
  refine ⟨_, taken, ?_⟩
  have texts : ∀ token ∈ plain.map Token.literal, token.char?.isSome := by simp [Token.char?]
  cases last with
  | none =>
    left
    simpa using texts
  | some token =>
    cases adds : token.char? with
    | none => exact .inr ⟨by simp, by simp [adds]⟩
    | some c => exact .inl (List.forall_mem_append.mpr ⟨texts, by simp [adds]⟩)

theorem HasOpen.advance (opened : s.HasOpen table text since closed literals) :
    ∃ closed literals,
      (s.advance table).HasOpen table text (s.openSinceAfter table since) closed literals := by
  rcases opened.sound.advance_cases with ⟨step, taken, texts | ⟨nonempty, apart⟩⟩
  · -- Nothing is closed, so the new characters only go behind the open ones.
    have allTexts : ∀ token ∈ literals ++ step, token.char?.isSome :=
      List.forall_mem_append.mpr ⟨opened.texts, texts⟩
    rw [List.append_assoc] at taken
    rcases taken.holds with ⟨_, _, same, otherApart, otherTexts, parts, openText⟩
    rcases closed_unique same opened.apart allTexts otherApart otherTexts with ⟨rfl, rfl⟩
    have kept : (s.advance table).parts.size = s.parts.size := by
      rw [← Array.length_toList, ← Array.length_toList, parts, opened.parts]
    refine ⟨closed, literals ++ step, taken, ?_, opened.apart, allTexts, parts, openText⟩
    rw [openSinceAfter, if_pos kept, opened.since_eq]
  · -- The last token closes all that was open before it.
    have allApart : (closed ++ literals ++ step).getLast?.bind Token.char? = none := by
      rwa [List.getLast?_append_of_ne_nil _ nonempty]
    rcases taken.holds with ⟨_, _, same, otherApart, otherTexts, parts, openText⟩
    rw [← List.append_nil (closed ++ literals ++ step)] at same
    rcases closed_unique same allApart (by simp) otherApart otherTexts with ⟨rfl, rfl⟩
    have grown : (s.advance table).parts.size ≠ s.parts.size := by
      rw [← Array.length_toList, ← Array.length_toList, parts, opened.parts, List.append_assoc]
      exact Nat.ne_of_gt (length_assemble_lt_append opened.apart (by simp [nonempty]))
    refine ⟨closed ++ literals ++ step, [], by rwa [List.append_nil], ?_, allApart, by simp, parts,
      openText⟩
    rw [openSinceAfter, if_neg grown, taken.position]

theorem OpenSince.hasOpen (opened : OpenSince table template since s) :
    ∃ closed literals, s.HasOpen table template.toList since closed literals := by
  induction opened with
  | start => exact ⟨[], [], .atStart table template, rfl, rfl, by simp, rfl, rfl⟩
  | advance _ _ ih =>
    rcases ih with ⟨closed, literals, opened⟩
    exact opened.advance

theorem splitAtBrace?_afresh {after : List Char}
    (noBrace : s.noBraceAhead = true → '}' ∉ after) :
    s.splitAtBrace? after = { s with noBraceAhead := false }.splitAtBrace? after := by
  cases known : s.noBraceAhead with
  | false => simp [splitAtBrace?, known]
  | true =>
    have none : after.dropWhile (· != '}') = [] := by
      rw [List.dropWhile_eq_nil_iff]
      intro c member
      simpa using ne_of_mem_of_not_mem member (noBrace known)
    simp [splitAtBrace?, known, none]

theorem HasOpen.slice? (opened : s.HasOpen table template.toList since closed literals) :
    Text.slice? template.toList since s.position = some (literals.flatMap Token.source) := by
  have whole := opened.sound.reads.source_append
  rw [List.flatMap_append] at whole
  rw [opened.sound.position, List.flatMap_append, Text.byteLength_append, opened.since_eq, whole,
    Text.slice?_append]

theorem HasOpen.reads_since (opened : s.HasOpen table template.toList since closed literals) :
    ∃ ahead, Text.dropBytes? template.toList since = some ahead ∧
      Reads table template.toList closed ahead ∧ Reads table ahead literals s.rest := by
  rcases opened.sound.reads.of_append with ⟨ahead, front, back⟩
  refine ⟨ahead, ?_, front, back⟩
  rw [opened.since_eq, front.source_append, Text.dropBytes?_append]

theorem HasOpen.invariant (opened : s.HasOpen table template.toList since closed literals) :
    s.Invariant table template since where
  place := opened.sound.dropBytes?
  lastPart := by
    intro part last
    rw [opened.parts] at last
    exact isText_of_getLast?_assemble opened.apart last
  parts := by
    rcases opened.reads_since with ⟨ahead, cut, front, -⟩
    exact ⟨closed, ahead, cut, front, opened.apart, opened.parts⟩
  openText := by
    rcases opened.reads_since with ⟨ahead, -, -, back⟩
    refine ⟨literals, _, opened.slice?, back.source_append ▸ back, opened.texts, ?_⟩
    rw [opened.openText, back.unescape_source opened.texts]
  noBrace := opened.sound.noBrace
  search := by
    intro after inside
    apply splitAtBrace?_afresh
    intro known member
    exact opened.sound.noBrace known (inside.subset (by simp [member]))

theorem Reached.openSince (reached : s.Reached table template) :
    ∃ since, OpenSince table template since s := by
  induction reached with
  | start => exact ⟨0, .start⟩
  | advance _ unread ih =>
    rcases ih with ⟨since, before⟩
    exact ⟨_, before.advance unread⟩

/-- Wherever an advance begins, there is an offset since which text is open, and the invariant holds
with it. -/
theorem reached_invariant (reached : s.Reached table template) :
    (∃ since, OpenSince table template since s) ∧
      ∀ since, OpenSince table template since s → s.Invariant table template since := by
  refine ⟨reached.openSince, ?_⟩
  intro since openSince
  rcases openSince.hasOpen with ⟨closed, literals, opened⟩
  exact opened.invariant

/-- A template in which the search for a closing brace succeeds once and then fails. -/
def unclosed : String := "é\x7bx\x7d\\n\x7ba\x7b"

def afterUnclosed : Cursor :=
  (((atStart unclosed).advance .standard).advance .standard).advance .standard

theorem unclosed_invariant :
    afterUnclosed.Reached .standard unclosed ∧ OpenSince .standard unclosed 5 afterUnclosed ∧
      afterUnclosed.noBraceAhead = true ∧ afterUnclosed.rest = ['a', '{'] ∧
      afterUnclosed.Invariant .standard unclosed 5 := by
  have reached : afterUnclosed.Reached .standard unclosed :=
    ((Reached.start.advance (by decide)).advance (by decide)).advance (by decide)
  have openSince : OpenSince .standard unclosed 5 afterUnclosed :=
    ((OpenSince.start.advance (by decide)).advance (by decide)).advance (by decide)
  exact ⟨reached, openSince, by decide, by decide, (reached_invariant reached).2 5 openSince⟩

end Cursor

end Tracepoint.Template
