import Mathlib.Data.List.TakeWhile
import Tracepoint.Proofs.Assembly
import Tracepoint.Proofs.Grammar
import Tracepoint.Proofs.TokenEvents
import Tracepoint.Template.Compilation
/-!
What a cursor has read.  A cursor that goes from trigger to trigger follows the grammar: its place,
its parts, its open text, its events and what it knows about closing braces all come from the tokens
behind it.
-/

namespace Tracepoint.Template

open Keyword (Table)

variable {table : Table} {template after rest : List Char} {read run : List Token} {token : Token}

theorem byteLength_escape {letter meaning : Char} (known : (letter, meaning) ∈ escapes) :
    Text.byteLength (Token.escape letter meaning).source = 2 := by
  have ascii : ∀ pair ∈ escapes, pair.1.utf8Size = 1 := by decide
  have size : letter.utf8Size = 1 := ascii _ known
  have backslash : '\\'.utf8Size = 1 := by decide
  simp [Token.source, size, backslash]

theorem byteLength_keyword (found : Keyword) :
    Text.byteLength (Token.keyword found).source = 1 + found.nameLength := by
  have dollar : '$'.utf8Size = 1 := by decide
  simp [Token.source, Keyword.nameLength, dollar]

theorem byteLength_expression (source : List Char) :
    Text.byteLength (Token.expression source).source = Text.byteLength source + 2 := by
  have opening : '{'.utf8Size = 1 := by decide
  have closing : '}'.utf8Size = 1 := by decide
  simp only [Token.source, Text.byteLength_append, Text.byteLength_cons, Text.byteLength_nil,
    opening, closing]
  omega

def Cursor.keywordAhead? (table : Table) (s : Cursor) : Option Keyword :=
  match s.skipPlain.rest with
  | '$' :: after => table.match? after
  | _ => none

/-- The parts and the open text of a cursor stand for the tokens it has read: the tokens since the
last one that is no literal character are still open. -/
def Cursor.Holds (read : List Token) (s : Cursor) : Prop :=
  ∃ closed literals, read = closed ++ literals ∧ closed.getLast?.bind Token.char? = none ∧
    (∀ token ∈ literals, token.char?.isSome) ∧ s.parts.toList = assemble closed ∧
    s.openText.toList = literals.filterMap Token.char?

structure Cursor.HasRead (table : Table) (template : List Char) (read : List Token) (s : Cursor) :
    Prop where
  reads : Reads table template read s.rest
  position : s.position = Text.byteLength (read.flatMap Token.source)
  holds : s.Holds read
  noBrace : s.noBraceAhead = true → '}' ∉ s.rest

/-- On its way from one place to another a cursor has reported the tokens between them. -/
structure Cursor.Reports (run : List Token) (s next : Cursor) : Prop where
  events : next.events.toList = s.events.toList ++ eventsOf s.position s.noBraceAhead run
  noBraceAhead : next.noBraceAhead = (s.noBraceAhead || decide (.literal '{' ∈ run))

namespace Cursor

variable {s : Cursor}

@[simp] theorem closeText_position (s : Cursor) : s.closeText.position = s.position := by
  unfold closeText; split <;> rfl

@[simp] theorem closeText_noBraceAhead (s : Cursor) :
    s.closeText.noBraceAhead = s.noBraceAhead := by
  unfold closeText; split <;> rfl

@[simp] theorem closeText_events (s : Cursor) : s.closeText.events = s.events := by
  unfold closeText; split <;> rfl

@[simp] theorem closeText_openText (s : Cursor) : s.closeText.openText = "" := by
  unfold closeText
  split
  case isTrue empty => exact String.isEmpty_iff.mp empty
  case isFalse => rfl

theorem closeText_parts (s : Cursor) :
    s.closeText.parts.toList = s.parts.toList ++ textPart s.openText.toList := by
  unfold closeText textPart
  by_cases empty : s.openText = ""
  · simp [empty]
  · simp [empty, String.ofList_toList]

theorem Holds.closeText_parts (holds : s.Holds read) :
    s.closeText.parts.toList = assemble read := by
  rcases holds with ⟨closed, literals, rfl, apart, texts, parts, openText⟩
  calc
    s.closeText.parts.toList = assemble closed ++ textPart (literals.filterMap Token.char?) := by
      rw [Cursor.closeText_parts, parts, openText]
    _ = assemble closed ++ assemble literals := by rw [assemble_texts texts]
    _ = assemble (closed ++ literals) := (assemble_append (.inl apart)).symm

theorem HasRead.atStart (table : Table) (template : String) :
    (Cursor.atStart template).HasRead table template.toList [] where
  reads := .done
  position := rfl
  holds := ⟨[], [], rfl, rfl, by simp, rfl, rfl⟩
  noBrace := by simp [Cursor.atStart]

theorem HasRead.report (event : Log.Event) (sound : s.HasRead table template read) :
    (s.report event).HasRead table template read :=
  ⟨sound.reads, sound.position, sound.holds, sound.noBrace⟩

theorem HasRead.learn (sound : s.HasRead table template read) (none : '}' ∉ s.rest) :
    { s with noBraceAhead := true }.HasRead table template read :=
  ⟨sound.reads, sound.position, sound.holds, fun _ => none⟩

theorem HasRead.noBrace_after (sound : s.HasRead table template read)
    (ahead : Reads table s.rest run after) (known : s.noBraceAhead = true) : '}' ∉ after := by
  have none := sound.noBrace known
  rw [ahead.source_append, List.mem_append, not_or] at none
  exact none.2

theorem HasRead.position_after (sound : s.HasRead table template read) (run : List Token) :
    s.position + Text.byteLength (run.flatMap Token.source) =
      Text.byteLength ((read ++ run).flatMap Token.source) := by
  rw [sound.position, List.flatMap_append, Text.byteLength_append]

theorem HasRead.takeTexts (sound : s.HasRead table template read)
    (ahead : Reads table s.rest run after) (texts : ∀ token ∈ run, token.char?.isSome)
    (openText : String) (grown : openText.toList = s.openText.toList ++ run.filterMap Token.char?) :
    ({ s with openText := openText }.moveTo (Text.byteLength (run.flatMap Token.source))
      after).HasRead table template (read ++ run) where
  reads := sound.reads.append ahead
  position := sound.position_after run
  holds := by
    rcases sound.holds with ⟨closed, literals, rfl, apart, before, parts, text⟩
    refine ⟨closed, literals ++ run, by simp, apart, List.forall_mem_append.mpr ⟨before, texts⟩,
      parts, ?_⟩
    simp [moveTo, grown, text]
  noBrace := sound.noBrace_after ahead

theorem HasRead.takePart (sound : s.HasRead table template read)
    (first : Next table s.rest token after) (apart : token.char? = none) :
    ((s.addPart token.part).moveTo (Text.byteLength token.source) after).HasRead table template
      (read ++ [token]) where
  reads := sound.reads.concat first
  position := by
    rw [← sound.position_after [token]]
    simp [moveTo, addPart]
  holds := by
    -- The part closes the open text, so nothing stays open.
    refine ⟨read ++ [token], [], by simp, by simp [apart], by simp, ?_, ?_⟩
    · rw [assemble_append (.inr (by simpa using apart)), assemble_cons_of_apart apart]
      simp [moveTo, addPart, sound.holds.closeText_parts]
    · simp [moveTo, addPart]
  noBrace := by
    have := sound.noBrace_after (.next first .done)
    simpa [moveTo, addPart] using this

theorem HasRead.skipPlain (sound : s.HasRead table template read) :
    s.skipPlain.HasRead table template
      (read ++ (s.rest.takeWhile (!isTrigger ·)).map Token.literal) := by
  let run := s.rest.takeWhile (!isTrigger ·)
  have ordinary : ∀ c ∈ run, isTrigger c = false := by
    intro c member
    simpa using List.mem_takeWhile_imp member
  have ahead : Reads table s.rest (run.map Token.literal) (s.rest.dropWhile (!isTrigger ·)) := by
    have plain : Reads table (run ++ s.rest.dropWhile (!isTrigger ·)) _ _ := .plain ordinary
    rwa [List.takeWhile_append_dropWhile] at plain
  have chars : (run.map Token.literal).filterMap Token.char? = run := by
    simp [List.filterMap_map, Function.comp_def, Token.char?]
  have sources : (run.map Token.literal).flatMap Token.source = run := by
    simp [List.flatMap_map, Token.source]
  have taken := sound.takeTexts ahead (by simp [Token.char?]) (s.openText ++ String.ofList run)
    (by simp [chars])
  rwa [sources] at taken

theorem HasRead.keepTrigger {trigger : Char} (sound : s.HasRead table template read)
    (first : Next table s.rest (.literal trigger) after) (single : trigger.utf8Size = 1) :
    (s.keepTrigger trigger after).HasRead table template (read ++ [.literal trigger]) := by
  have taken := sound.takeTexts (.next first .done) (by simp [Token.char?])
    (s.openText.push trigger) (by simp [Token.char?])
  simpa [Cursor.keepTrigger, Token.source, single] using taken

theorem Reports.skipPlain (s : Cursor) :
    s.Reports ((s.rest.takeWhile (!isTrigger ·)).map Token.literal) s.skipPlain := by
  have ordinary : ∀ c ∈ s.rest.takeWhile (!isTrigger ·), isTrigger c = false := by
    intro c member
    simpa using List.mem_takeWhile_imp member
  constructor
  · rw [eventsOf_plain ordinary, List.append_nil]
    rfl
  · have noBrace : Token.literal '{' ∉ (s.rest.takeWhile (!isTrigger ·)).map Token.literal := by
      intro member
      rcases List.mem_map.mp member with ⟨c, inside, same⟩
      cases same
      exact absurd (ordinary _ inside) (by decide)
    simp [noBrace, Cursor.skipPlain, moveTo]

theorem Reports.append {next final : Cursor} {more : List Token}
    (sound : s.HasRead table template read) (soundNext : next.HasRead table template (read ++ run))
    (first : s.Reports run next) (second : next.Reports more final) :
    s.Reports (run ++ more) final := by
  constructor
  · rw [second.events, first.events, first.noBraceAhead, soundNext.position, eventsOf_append,
      sound.position_after, List.append_assoc]
  · rw [second.noBraceAhead, first.noBraceAhead]
    simp [Bool.or_assoc]

theorem Reports.silent {next : Cursor} (quiet : ∀ trigger, token ≠ .literal trigger)
    (events : next.events = s.events) (noBraceAhead : next.noBraceAhead = s.noBraceAhead) :
    s.Reports [token] next := by
  have none : token.event? s.position s.noBraceAhead = none := by
    by_contra reported
    rcases Option.ne_none_iff_exists'.mp reported with ⟨event, reported⟩
    rcases Token.event?_eq_some reported with ⟨trigger, literal, -⟩
    exact quiet trigger literal
  constructor
  · simp [eventsOf, none, events]
  · simp [noBraceAhead, (quiet '{').symm]

theorem HasRead.readEscape (sound : s.HasRead table template read)
    (here : s.rest = '\\' :: after) :
    ∃ token, (s.readEscape after).HasRead table template (read ++ [token]) ∧
      token.keyword? = none ∧ s.Reports [token] (s.readEscape after) := by
  have inert (plain : ¬ Construct table ('\\' :: after)) :
      ((s.report (.inertEscape s.position)).keepTrigger '\\' after).HasRead table template
        (read ++ [.literal '\\']) := by
    have first : Next table s.rest (.literal '\\') after := here ▸ .literal plain
    exact (sound.report _).keepTrigger first (by decide)
  have reported : s.Reports [.literal '\\']
      ((s.report (.inertEscape s.position)).keepTrigger '\\' after) :=
    ⟨by simp [Cursor.report, Cursor.keepTrigger, moveTo, eventsOf, Token.event?],
      by simp [Cursor.report, Cursor.keepTrigger, moveTo]⟩
  unfold Cursor.readEscape
  split
  case h_1 letter beyond =>
    split
    case h_1 meaning known =>
      have known := escaped?_eq_some_iff.mp known
      have first : Next table s.rest (.escape letter meaning) beyond := here ▸ .escape known
      have taken := sound.takeTexts (.next first .done) (by simp [Token.char?])
        (s.openText.push meaning) (by simp [Token.char?])
      rw [List.flatMap_singleton, byteLength_escape known] at taken
      exact ⟨.escape letter meaning, taken, rfl, .silent (by simp) rfl rfl⟩
    case h_2 unknown =>
      refine ⟨.literal '\\', inert ?_, rfl, reported⟩
      intro begun
      cases begun with
      | escape known =>
        rw [escaped?_eq_some_iff.mpr known] at unknown
        cases unknown
  case h_2 =>
    refine ⟨.literal '\\', inert ?_, rfl, reported⟩
    intro begun
    cases begun

theorem HasRead.readKeyword (sound : s.HasRead table template read)
    (here : s.rest = '$' :: after) :
    ∃ token, (s.readKeyword table after).HasRead table template (read ++ [token]) ∧
      token.keyword? = table.match? after ∧ s.Reports [token] (s.readKeyword table after) := by
  unfold Cursor.readKeyword
  split
  case h_1 found matched =>
    have longest := Table.match?_isLongestMatch matched
    rcases longest.begins with ⟨beyond, rfl⟩
    have first : Next table s.rest (.keyword found) beyond := here ▸ .keyword longest rfl
    have taken := sound.takePart first rfl
    rw [byteLength_keyword] at taken
    refine ⟨.keyword found, ?_, matched.symm, ?_⟩
    · simpa [Token.part] using taken
    · exact .silent (by simp) (closeText_events s) (closeText_noBraceAhead s)
  case h_2 unmatched =>
    have plain : ¬ Construct table ('$' :: after) := by
      intro begun
      cases begun with
      | keyword member begins => exact Table.match?_eq_none_iff.mp unmatched _ member begins
    have first : Next table s.rest (.literal '$') after := here ▸ .literal plain
    refine ⟨.literal '$', (sound.report _).keepTrigger first (by decide), unmatched.symm, ?_, ?_⟩
    · simp [Cursor.report, Cursor.keepTrigger, moveTo, eventsOf, Token.event?]
    · simp [Cursor.report, Cursor.keepTrigger, moveTo]

theorem splitAtBrace?_eq_some {source beyond : List Char}
    (found : s.splitAtBrace? after = some (source, beyond)) :
    '}' ∉ source ∧ after = source ++ '}' :: beyond := by
  unfold splitAtBrace? at found
  split at found
  case isTrue => cases found
  case isFalse =>
    split at found
    case h_1 brace tail here =>
      cases found
      have closing : brace = '}' := by
        have stops := List.head?_dropWhile_not (· != '}') after
        simpa [here] using stops
      subst closing
      constructor
      · intro member
        simpa using List.mem_takeWhile_imp member
      · rw [← here, List.takeWhile_append_dropWhile]
    case h_2 => cases found

theorem splitAtBrace?_eq_none (missing : s.splitAtBrace? after = none)
    (unknown : s.noBraceAhead = false) : '}' ∉ after := by
  unfold splitAtBrace? at missing
  rw [unknown] at missing
  simp only [Bool.false_eq_true, if_false] at missing
  split at missing
  case h_1 => cases missing
  case h_2 none =>
    intro member
    simpa using List.dropWhile_eq_nil_iff.mp none _ member

theorem HasRead.readExpression (sound : s.HasRead table template read)
    (here : s.rest = '{' :: after) :
    ∃ token, (s.readExpression after).HasRead table template (read ++ [token]) ∧
      token.keyword? = none ∧ s.Reports [token] (s.readExpression after) := by
  unfold Cursor.readExpression
  split
  case h_1 source beyond found =>
    rcases splitAtBrace?_eq_some found with ⟨first, closed⟩
    have next : Next table s.rest (.expression source) beyond := here ▸ .expression first closed
    have taken := sound.takePart next rfl
    rw [byteLength_expression] at taken
    exact ⟨.expression source, taken, rfl,
      .silent (by simp) (closeText_events s) (closeText_noBraceAhead s)⟩
  case h_2 missing =>
    -- Either the search failed here, or one before it did and nothing has changed since.
    have none : '}' ∉ after := by
      cases known : s.noBraceAhead with
      | true =>
        have noneAhead := sound.noBrace known
        rw [here, List.mem_cons, not_or] at noneAhead
        exact noneAhead.2
      | false => exact splitAtBrace?_eq_none missing known
    have plain : ¬ Construct table ('{' :: after) := by
      intro begun
      cases begun with
      | expression closed => exact none closed
    have first : Next table s.rest (.literal '{') after := here ▸ .literal plain
    have noneAhead : '}' ∉ s.rest := by simp [here, none]
    refine ⟨.literal '{', ?_, rfl, ?_, ?_⟩
    · split
      · exact (sound.learn noneAhead).keepTrigger first (by decide)
      · exact ((sound.report _).learn noneAhead).keepTrigger first (by decide)
    · cases known : s.noBraceAhead <;>
        simp [known, Cursor.report, Cursor.keepTrigger, moveTo, eventsOf, Token.event?]
    · simp [Cursor.keepTrigger, moveTo]

theorem isTrigger_of_skipPlain {c : Char} (here : s.skipPlain.rest = c :: after) :
    isTrigger c = true := by
  have stops := List.head?_dropWhile_not (!isTrigger ·) s.rest
  rw [← skipPlain_rest, here] at stops
  simpa using stops

theorem HasRead.advance_trigger {c : Char} (skipped : s.skipPlain.HasRead table template read)
    (here : s.skipPlain.rest = c :: after) :
    ∃ token, (s.advance table).HasRead table template (read ++ [token]) ∧
      token.keyword? = s.keywordAhead? table ∧ s.skipPlain.Reports [token] (s.advance table) := by
  have trigger := isTrigger_of_skipPlain here
  simp only [isTrigger, Bool.or_eq_true, beq_iff_eq] at trigger
  simp only [Cursor.advance, keywordAhead?, here]
  rcases trigger with (rfl | rfl) | rfl
  · exact skipped.readEscape here
  · exact skipped.readKeyword here
  · exact skipped.readExpression here

theorem HasRead.advance_run (sound : s.HasRead table template read) :
    ∃ (plain : List Char) (last : Option Token),
      (s.advance table).HasRead table template
        (read ++ (plain.map Token.literal ++ last.toList)) ∧
      last.bind Token.keyword? = s.keywordAhead? table ∧
      s.Reports (plain.map Token.literal ++ last.toList) (s.advance table) := by
  have skipped := sound.skipPlain
  have reported : s.Reports _ s.skipPlain := .skipPlain s
  refine ⟨s.rest.takeWhile (!isTrigger ·), ?_⟩
  cases here : s.skipPlain.rest with
  | nil =>
    have still : s.advance table = s.skipPlain := by simp only [Cursor.advance, here]
    rw [still]
    refine ⟨none, ?_, ?_, ?_⟩
    · simpa using skipped
    · rw [keywordAhead?, here]
      rfl
    · simpa using reported
  | cons c after =>
    rcases skipped.advance_trigger here with ⟨token, taken, keyword, tokenReported⟩
    refine ⟨some token, ?_, keyword, reported.append sound skipped tokenReported⟩
    rwa [List.append_assoc] at taken

theorem HasRead.advance (sound : s.HasRead table template read) :
    ∃ step, (s.advance table).HasRead table template (read ++ step) ∧
      step.filterMap Token.keyword? = (s.keywordAhead? table).toList ∧
      s.Reports step (s.advance table) := by
  rcases sound.advance_run with ⟨plain, last, taken, keyword, reported⟩
  refine ⟨_, taken, ?_, reported⟩
  have noKeyword : (plain.map Token.literal).filterMap Token.keyword? = [] := by
    simp [Token.keyword?]
  rw [List.filterMap_append, noKeyword, List.nil_append, ← keyword]
  cases last with
  | none => rfl
  | some token => cases token <;> rfl

def keywordsAhead (table : Table) (s : Cursor) : List Keyword :=
  if _ : s.rest = [] then []
  else (s.keywordAhead? table).toList ++ (s.advance table).keywordsAhead table
termination_by s.rest.length
decreasing_by exact advance_rest_length_lt table ‹_›

theorem HasRead.toEnd (sound : s.HasRead table template read) :
    ∃ more, Reads table template (read ++ more) [] ∧
      (s.toEnd table).parts.toList = assemble (read ++ more) ∧
      more.filterMap Token.keyword? = s.keywordsAhead table ∧ s.Reports more (s.toEnd table) := by
-- The tokens of each advance go behind those read before, as `HasRead` says of the cursor.
  fun_induction Cursor.toEnd table s generalizing read with
  | case1 s done =>
    refine ⟨[], ?_, ?_, ?_, ?_⟩
    · simpa [done] using sound.reads
    · simpa using sound.holds.closeText_parts
    · rw [keywordsAhead, dif_pos done]
      rfl
    · exact ⟨by simp [eventsOf], by simp⟩
  | case2 s unread ih =>
    rcases sound.advance with ⟨step, taken, keyword, reported⟩
    rcases ih taken with ⟨more, reads, parts, keywords, moreReported⟩
    refine ⟨step ++ more, ?_, ?_, ?_, ?_⟩
    · rwa [← List.append_assoc]
    · rwa [← List.append_assoc]
    · rw [List.filterMap_append, keyword, keywords, keywordsAhead.eq_def table s, dif_neg unread]
    · exact reported.append sound taken moreReported

/-- The cursors on the way through a template, each where an advance begins. -/
inductive Reached (table : Table) (template : String) : Cursor → Prop
  | start : Reached table template (atStart template)
  | advance {s : Cursor} (before : Reached table template s) (unread : s.rest ≠ []) :
    Reached table template (s.advance table)

theorem Reached.hasRead {template : String} (reached : s.Reached table template) :
    ∃ read, s.HasRead table template.toList read := by
  induction reached with
  | start => exact ⟨[], .atStart table template⟩
  | advance _ _ ih =>
    rcases ih with ⟨read, sound⟩
    rcases sound.advance with ⟨step, taken, -⟩
    exact ⟨read ++ step, taken⟩

end Cursor

theorem compile_reads (table : Table) (template : String) :
    ∃ read, Reads table template.toList read [] ∧
      (compile table template).parts = assemble read ∧
      read.filterMap Token.keyword? = (Cursor.atStart template).keywordsAhead table := by
  rcases (Cursor.HasRead.atStart table template).toEnd with ⟨read, reading, parts, keywords, -⟩
  exact ⟨read, reading, parts, keywords⟩

theorem compile_of_reads {template : String} (accepted : table.Accepted)
    (reading : Reads table template.toList read []) :
    (compile table template).parts = assemble read := by
  rcases compile_reads table template with ⟨other, otherReading, parts, -⟩
  rw [parts, reading.unique accepted otherReading]

/-- A template has one reading, and compiling comes to the parts of that reading. -/
theorem compile_follows_grammar (accepted : table.Accepted) (template : String) :
    ∃ read, (∀ other, Reads table template.toList other [] ↔ other = read) ∧
      (compile table template).parts = assemble read := by
  rcases compile_reads table template with ⟨read, reading, parts, -⟩
  refine ⟨read, ?_, parts⟩
  intro other
  constructor
  · intro otherReading
    exact otherReading.unique accepted reading
  · intro same
    rw [same]
    exact reading

theorem standard_follows_grammar :
    Table.standard.Accepted ∧ ∃ read,
      (∀ other, Reads .standard "é\\\\$CALLER10 \x7b$TID\x7d\x7b".toList other [] ↔ other = read) ∧
        (compile .standard "é\\\\$CALLER10 \x7b$TID\x7d\x7b").parts = assemble read :=
  ⟨Table.standard_accepted, compile_follows_grammar Table.standard_accepted _⟩

end Tracepoint.Template
