import Tracepoint.Proofs.TokenBorder
import Tracepoint.Proofs.WellFormed
/-!
The log of a compilation.  What is reported can be told from the template alone: each backslash and
each dollar sign that begins a token and stays as text, and the first opening brace that does.  The
log names them from left to right and ends with the size of what was compiled.
-/

namespace Tracepoint.Template

open Keyword (Table)
open Log (Event)

variable {table : Table} {text after rest : List Char} {read : List Token} {position : Nat}
  {event : Event}

def TokenAt (table : Table) (text : List Char) (position : Nat) (rest : List Char) : Prop :=
  ∃ before, Reads table text before rest ∧ Text.byteLength (before.flatMap Token.source) = position

/-- What a text gives reason to report: triggers that begin a token and stay as text. -/
inductive Reported (table : Table) (text : List Char) : Event → Prop
  | inertEscape {position : Nat} {after : List Char}
    (begins : TokenAt table text position ('\\' :: after))
    (inert : ∀ letter ∈ after.head?, letter ∉ escapes.map Prod.fst) :
    Reported table text (.inertEscape position)
  | unknownKeyword {position : Nat} {after : List Char}
    (begins : TokenAt table text position ('$' :: after))
    (unknown : ∀ keyword ∈ table.keywords, ¬ keyword.name.toList <+: after) :
    Reported table text (.unknownKeyword position)
  | unterminatedExpression {position : Nat} {after : List Char}
    (begins : TokenAt table text position ('{' :: after)) (unclosed : '}' ∉ after)
    (first : ∀ earlier ahead, TokenAt table text earlier ('{' :: ahead) → '}' ∉ ahead →
      position ≤ earlier) :
    Reported table text (.unterminatedExpression position)

/-- The events that a template gives reason to report, each once and from left to right. -/
structure Notes (table : Table) (template : String) (notes : List Event) : Prop where
  mem_iff : ∀ event, event ∈ notes ↔ Reported table template.toList event
  ordered : notes.Pairwise Event.Precedes
  level : ∀ event ∈ notes, event.level = .debug
  trigger : ∀ event ∈ notes, ∃ trigger position after,
    event.keptTrigger? = some (trigger, position) ∧
      Text.dropBytes? template.toList position = some (trigger :: after)
  brace : (∃ position after, TokenAt table template.toList position ('{' :: after) ∧
      '}' ∉ after) ↔ ∃! position, .unterminatedExpression position ∈ notes
  noExpression : ∀ position, .unterminatedExpression position ∈ notes →
    ∃ front back, template = front ++ back ∧ front.utf8ByteSize = position ∧
      (compile table template).parts =
        fuse (compile table front).parts (compile table back).parts ∧
      ∀ source, .expression source ∉ (compile table back).parts

theorem tokenAt_literal_iff (accepted : table.Accepted) (reading : Reads table text read [])
    (position : Nat) (c : Char) :
    (∃ after, TokenAt table text position (c :: after) ∧ ¬ Construct table (c :: after)) ↔
      ∃ before others, read = before ++ .literal c :: others ∧
        Text.byteLength (before.flatMap Token.source) = position := by
  constructor
  · rintro ⟨after, ⟨before, front, size⟩, plain⟩
    rcases exists_reads table after with ⟨others, back⟩
    have whole := front.append (.next (.literal plain) back)
    exact ⟨before, others, reading.unique accepted whole, size⟩
  · rintro ⟨before, others, rfl, size⟩
    rcases reading.of_append with ⟨between, front, back⟩
    cases back with
    | next first _ =>
      have plain := first.not_construct
      cases first
      exact ⟨_, ⟨before, front, size⟩, plain⟩

/-- A literal brace with no other before it in a reading is the first place where one is left
open. -/
theorem first_brace_iff (accepted : table.Accepted) (reading : Reads table text read [])
    {before others : List Token} (shape : read = before ++ .literal '{' :: others) :
    .literal '{' ∉ before ↔ ∀ earlier ahead, TokenAt table text earlier ('{' :: ahead) →
      '}' ∉ ahead → Text.byteLength (before.flatMap Token.source) ≤ earlier := by
  have places {position : Nat} := tokenAt_literal_iff accepted reading position '{'
  constructor
  · intro unseen earlier ahead begins unclosed
    rcases places.mp ⟨ahead, begins, not_construct_brace_iff.mpr unclosed⟩ with
      ⟨front, back, otherShape, rfl⟩
    rcases List.append_eq_append_iff.mp (shape.symm.trans otherShape) with
      ⟨more, rfl, -⟩ | ⟨more, rfl, same⟩
    · simp
    · cases more with
      | nil => simp
      | cons first more =>
        cases same
        simp at unseen
  · intro first seen
    rcases List.append_of_mem seen with ⟨front, back, rfl⟩
    have earlier : read = front ++ .literal '{' :: (back ++ .literal '{' :: others) := by
      simp [shape]
    rcases places.mpr ⟨front, _, earlier, rfl⟩ with ⟨ahead, begins, plain⟩
    have least := first _ ahead begins (not_construct_brace_iff.mp plain)
    have positive := Text.byteLength_pos (Token.source_ne_nil (.literal '{'))
    simp only [List.flatMap_append, List.flatMap_cons, Text.byteLength_append] at least
    omega

theorem mem_eventsOf_iff_reported (accepted : table.Accepted)
    (reading : Reads table text read []) :
    event ∈ eventsOf 0 false read ↔ Reported table text event := by
  have places {position : Nat} {c : Char} := tokenAt_literal_iff accepted reading position c
  rw [mem_eventsOf_iff]
  constructor
  · rintro ⟨before, token, others, shape, reported⟩
    rw [Nat.zero_add, Bool.false_or] at reported
    rcases Token.event?_eq_some reported with ⟨trigger, rfl, -⟩
    rcases places.mpr ⟨before, others, shape, rfl⟩ with ⟨after, begins, plain⟩
    unfold Token.event? at reported
    split at reported
    case h_1 same =>
      cases same
      cases reported
      exact .inertEscape begins (not_construct_backslash_iff.mp plain)
    case h_2 same =>
      cases same
      cases reported
      exact .unknownKeyword begins (not_construct_dollar_iff.mp plain)
    case h_3 same =>
      cases same
      split at reported
      case isTrue => cases reported
      case isFalse unseen =>
        cases reported
        rw [decide_eq_true_eq, first_brace_iff accepted reading shape] at unseen
        exact .unterminatedExpression begins (not_construct_brace_iff.mp plain) unseen
    case h_4 => cases reported
  · intro reported
    cases reported with
    | inertEscape begins inert =>
      rcases places.mp ⟨_, begins, not_construct_backslash_iff.mpr inert⟩ with
        ⟨before, others, shape, rfl⟩
      exact ⟨before, _, others, shape, by simp [Token.event?]⟩
    | unknownKeyword begins unknown =>
      rcases places.mp ⟨_, begins, not_construct_dollar_iff.mpr unknown⟩ with
        ⟨before, others, shape, rfl⟩
      exact ⟨before, _, others, shape, by simp [Token.event?]⟩
    | unterminatedExpression begins unclosed first =>
      rcases places.mp ⟨_, begins, not_construct_brace_iff.mpr unclosed⟩ with
        ⟨before, others, shape, rfl⟩
      have unseen := (first_brace_iff accepted reading shape).mpr first
      exact ⟨before, _, others, shape, by simp [Token.event?, unseen]⟩

theorem existsUnique_reported_brace (accepted : table.Accepted) (reading : Reads table text read [])
    (begins : TokenAt table text position ('{' :: after)) (unclosed : '}' ∉ after) :
    ∃! first, Reported table text (.unterminatedExpression first) := by
  rcases (tokenAt_literal_iff accepted reading _ _).mp
    ⟨after, begins, not_construct_brace_iff.mpr unclosed⟩ with ⟨front, back, rfl, -⟩
  -- The brace may not be the one that is reported: that is the first literal brace of the reading.
  have member : Token.literal '{' ∈ front ++ .literal '{' :: back := by simp
  rcases List.eq_append_cons_of_mem member with ⟨before, others, shape, unseen⟩
  refine ⟨Text.byteLength (before.flatMap Token.source), ?_, ?_⟩
  · apply (mem_eventsOf_iff_reported accepted reading).mp
    rw [mem_eventsOf_iff]
    exact ⟨before, _, others, shape, by simp [Token.event?, unseen]⟩
  · intro other reported
    cases reported with
    | unterminatedExpression otherBegins otherUnclosed otherFirst =>
      rcases (tokenAt_literal_iff accepted reading _ _).mpr ⟨before, others, shape, rfl⟩ with
        ⟨ahead, firstBegins, plain⟩
      have least := (first_brace_iff accepted reading shape).mp unseen other _ otherBegins
        otherUnclosed
      have otherLeast := otherFirst _ ahead firstBegins (not_construct_brace_iff.mp plain)
      exact Nat.le_antisymm otherLeast least

theorem compile_events_eq (table : Table) (template : String) :
    ∃ read, Reads table template.toList read [] ∧
      (compile table template).events = eventsOf 0 false read ++
        [.templateCompiled template.utf8ByteSize (compile table template).parts.length] := by
  rcases (Cursor.HasRead.atStart table template).toEnd with ⟨read, reading, -, -, reports⟩
  refine ⟨read, reading, ?_⟩
  rw [compile, Array.toList_push, reports.events]
  rfl

theorem TokenAt.dropBytes? (begins : TokenAt table text position rest) :
    Text.dropBytes? text position = some rest := by
  rcases begins with ⟨before, reading, size⟩
  exact Text.dropBytes?_eq_some_iff.mpr ⟨_, reading.source_append, size⟩

theorem expression_not_mem_compile {template : String} (unclosed : '}' ∉ template.toList)
    (source : String) : .expression source ∉ (compile table template).parts := by
  intro member
  rcases compile_reads table template with ⟨read, reading, parts, -⟩
  rw [parts] at member
  have taken := expression_mem_assemble_iff.mp member
  have written : '}' ∈ read.flatMap Token.source :=
    List.mem_flatMap.mpr ⟨_, taken, by simp [Token.source]⟩
  rw [reading.source_append] at unclosed
  exact unclosed (List.mem_append_left _ written)

theorem eventsOf_notes (accepted : table.Accepted) {template : String}
    (reading : Reads table template.toList read []) :
    Notes table template (eventsOf 0 false read) where
  mem_iff event := mem_eventsOf_iff_reported accepted reading
  ordered := pairwise_eventsOf 0 false read
  level := by
    intro event member
    cases (mem_eventsOf_iff_reported accepted reading).mp member <;> rfl
  trigger := by
    intro event member
    cases (mem_eventsOf_iff_reported accepted reading).mp member with
    | inertEscape begins => exact ⟨_, _, _, rfl, begins.dropBytes?⟩
    | unknownKeyword begins => exact ⟨_, _, _, rfl, begins.dropBytes?⟩
    | unterminatedExpression begins => exact ⟨_, _, _, rfl, begins.dropBytes?⟩
  brace := by
    simp only [mem_eventsOf_iff_reported accepted reading]
    constructor
    · rintro ⟨position, after, begins, unclosed⟩
      exact existsUnique_reported_brace accepted reading begins unclosed
    · rintro ⟨position, reported, -⟩
      cases reported with
      | unterminatedExpression begins unclosed => exact ⟨_, _, begins, unclosed⟩
  noExpression := by
    intro position member
    cases (mem_eventsOf_iff_reported accepted reading).mp member with
    | @unterminatedExpression _ after begins unclosed =>
      rcases begins with ⟨before, front, size⟩
      have whole : template =
          String.ofList (before.flatMap Token.source) ++ String.ofList ('{' :: after) := by
        rw [← String.ofList_append, ← front.source_append, String.ofList_toList]
      refine ⟨_, _, whole, ?_, ?_, ?_⟩
      · rw [← Text.byteLength_toList, String.toList_ofList, size]
      · have cut : Reads table (String.ofList (before.flatMap Token.source) ++
            String.ofList ('{' :: after)).toList before (String.ofList ('{' :: after)).toList := by
          rwa [← whole, String.toList_ofList]
        rw [whole]
        exact compile_append_of_reads accepted cut
      · exact expression_not_mem_compile (by simp [unclosed])

theorem Notes.filter_level {notes : List Event} {template : String}
    (noted : Notes table template notes) (length parts : Nat) :
    let events := notes ++ [Event.templateCompiled length parts]
    events.filter (·.level = .debug) = notes ∧
      events.filter (·.level = .trace) = [Event.templateCompiled length parts] := by
  have debug : notes.filter (·.level = .debug) = notes := by
    rw [List.filter_eq_self]
    intro event member
    simp [noted.level event member]
  have trace : notes.filter (·.level = .trace) = [] := by
    rw [List.filter_eq_nil_iff]
    intro event member
    simp [noted.level event member]
  constructor
  · rw [List.filter_append, debug]
    exact List.append_nil notes
  · rw [List.filter_append, trace]
    rfl

/-- A compilation reports the triggers that stay as text, and then the size of what it made. -/
theorem compile_log (accepted : table.Accepted) (template : String) :
    ∃ notes summary, Notes table template notes ∧
      summary = .templateCompiled template.utf8ByteSize (compile table template).parts.length ∧
      (compile table template).events = notes ++ [summary] ∧
      (compile table template).events.filter (·.level = .debug) = notes ∧
      (compile table template).events.filter (·.level = .trace) = [summary] := by
  rcases compile_events_eq table template with ⟨read, reading, events⟩
  have noted := eventsOf_notes accepted reading
  refine ⟨_, _, noted, rfl, events, ?_⟩
  rw [events]
  exact noted.filter_level _ _

theorem standard_log :
    Table.standard.Accepted ∧ ∃ notes summary, Notes .standard "é\\x$NAME\x7b$TID\x7b$" notes ∧
      summary = .templateCompiled 16 (compile .standard "é\\x$NAME\x7b$TID\x7b$").parts.length ∧
      (compile .standard "é\\x$NAME\x7b$TID\x7b$").events = notes ++ [summary] := by
  rcases compile_log Table.standard_accepted "é\\x$NAME\x7b$TID\x7b$" with
    ⟨notes, summary, noted, size, events, -, -⟩
  exact ⟨Table.standard_accepted, notes, summary, noted, size, events⟩

end Tracepoint.Template
