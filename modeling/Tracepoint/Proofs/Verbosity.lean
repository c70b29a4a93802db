import Tracepoint.Proofs.PreviewRun
/-!
The option for a verbose log.  It changes neither what a command prints nor how it ends, and sets
the least level of the log to debug.  From any other level that the environment asks for this adds
lines; from trace it takes one, the summary of what was compiled.
-/

namespace Tracepoint

namespace Log

variable {event : Event} {filter : Filter}

theorem Event.level_eq (event : Event) : event.level = .debug ∨ event.level = .trace := by
  cases event <;> simp [level]

theorem Filter.shows_trace (level : Level) : Filter.shows (some .trace) level = true := by
  cases level <;> rfl

theorem Filter.shows_debug_iff :
    Filter.shows (some .debug) event.level = true ↔ event.level = .debug := by
  obtain debug | trace := event.level_eq
  · rw [debug]
    decide
  · rw [trace]
    decide

theorem Filter.shows_debug_of_shows (below : filter ≠ some .trace)
    (shown : filter.shows event.level = true) :
    Filter.shows (some .debug) event.level = true := by
  rw [shows_debug_iff]
  obtain debug | trace := event.level_eq
  · exact debug
  · rw [trace] at shown
    cases filter with
    | none => cases shown
    | some least =>
      cases least with
      | trace => exact absurd rfl below
      | _ => cases shown

theorem Filter.ofName?_eq_trace_iff {name : String} :
    Filter.ofName? name = some (some .trace) ↔ name.toLower ∈ ["trace", "5"] := by
  unfold ofName?
  split <;> simp_all

end Log

namespace CommandLine

open Keyword (Table)
open Template (compile)
open Sample (Context)
open Log (Event Filter)

variable {environment : Environment} {files : Files} {command : Command} {summary : Event}

/-! ## The option -/

theorem exists_ok_of_bind {ε α β : Type} {first : Except ε α} {next : α → Except ε β} {result : β}
    (bound : first >>= next = .ok result) : ∃ a, first = .ok a ∧ next a = .ok result := by
  cases first with
  | error => cases bound
  | ok a => exact ⟨a, rfl, bound⟩

namespace Given

variable {grammar : Grammar} {given next : Given} {text value : String}

theorem addFlag_eq_ok {flag : Flag} (added : given.addFlag grammar flag = .ok next) :
    next.flags = flag :: given.flags ∧ flag ≠ .help ∧ flag ≠ .version := by
  unfold addFlag at added
  split at added
  case h_1 => cases added
  case h_2 => cases added
  case h_3 notHelp notVersion =>
    split at added
    case isTrue => cases added
    case isFalse =>
      cases added
      exact ⟨rfl, notHelp, notVersion⟩

theorem flags_of_setContext (named : given.setContext value = .ok next) :
    next.flags = given.flags := by
  unfold setContext at named
  split at named
  case isTrue => cases named
  case isFalse =>
    split at named <;> cases named
    rfl

theorem flags_of_addArgument (added : given.addArgument grammar text = .ok next) :
    next.flags = given.flags := by
  unfold addArgument at added
  split at added <;> cases added
  rfl

section Kept

variable {flag : Flag} (before : flag ∈ given.flags)

include before

theorem mem_flags_of_addFlag {other : Flag} (added : given.addFlag grammar other = .ok next) :
    flag ∈ next.flags := by
  rw [(addFlag_eq_ok added).1]
  exact List.mem_cons_of_mem _ before

theorem mem_flags_of_readLong {name : List Char} {value : Option String}
    (read : given.readLong grammar text name value = .ok next) : flag ∈ next.flags := by
  unfold readLong at read
  split at read
  case isTrue =>
    cases value with
    | some value => rwa [flags_of_setContext read]
    | none =>
      cases read
      exact before
  case isFalse =>
    split at read
    case h_1 =>
      split at read
      case isTrue => cases read
      case isFalse => exact mem_flags_of_addFlag before read
    case h_2 => cases read

theorem mem_flags_of_readLetters {letters : List Char}
    (read : given.readLetters grammar text letters = .ok next) : flag ∈ next.flags := by
  induction letters generalizing given with
  | nil =>
    cases read
    exact before
  | cons letter letters ih =>
    unfold readLetters at read
    split at read
    case isTrue =>
      split at read
      case h_1 =>
        cases read
        exact before
      case h_2 => rwa [flags_of_setContext read]
      case h_3 => rwa [flags_of_setContext read]
    case isFalse =>
      split at read
      case h_1 =>
        obtain ⟨between, added, others⟩ := exists_ok_of_bind read
        exact ih (mem_flags_of_addFlag before added) others
      case h_2 => cases read

theorem mem_flags_of_read (read : given.read grammar text = .ok next) : flag ∈ next.flags := by
  unfold Given.read at read
  split at read
  case isTrue => rwa [flags_of_addArgument read]
  case isFalse =>
    split at read
    case h_1 => cases read
    case h_2 => rwa [flags_of_setContext read]
    case h_3 =>
      cases read
      exact before
    case h_4 => exact mem_flags_of_readLong before read
    case h_5 => exact mem_flags_of_readLetters before read
    case h_6 => rwa [flags_of_addArgument read]

end Kept

section BeforeCommand

theorem verbose_mem_of_addFlag {flag : Flag} (known : flag ∈ commonGrammar.flags)
    (added : given.addFlag commonGrammar flag = .ok next) : .verbose ∈ next.flags := by
  obtain ⟨flags, notHelp, notVersion⟩ := addFlag_eq_ok added
  have verbose : flag = .verbose := by
    cases flag <;> simp_all [commonGrammar]
  rw [flags, verbose]
  exact List.mem_cons_self

theorem verbose_mem_of_readLong {name : List Char} {value : Option String}
    (read : given.readLong commonGrammar text name value = .ok next) :
    .verbose ∈ next.flags := by
  unfold readLong at read
  split at read
  case isTrue context => simp [commonGrammar] at context
  case isFalse =>
    split at read
    case h_1 found =>
      split at read
      case isTrue => cases read
      case isFalse => exact verbose_mem_of_addFlag (List.mem_of_find?_eq_some found) read
    case h_2 => cases read

theorem verbose_mem_of_readLetters {letter : Char} {letters : List Char}
    (read : given.readLetters commonGrammar text (letter :: letters) = .ok next) :
    .verbose ∈ next.flags := by
  unfold readLetters at read
  split at read
  case isTrue context => simp [commonGrammar] at context
  case isFalse =>
    split at read
    case h_1 found =>
      obtain ⟨between, added, others⟩ := exists_ok_of_bind read
      have verbose := verbose_mem_of_addFlag (List.mem_of_find?_eq_some found) added
      exact mem_flags_of_readLetters verbose others
    case h_2 => cases read

/-- Of the options before the name of a command only the one for a verbose log goes on. -/
theorem verbose_mem_of_read {letter : Char} {letters : List Char}
    (option : text.toList = '-' :: letter :: letters) (longer : letter = '-' → letters ≠ [])
    (read : Given.read commonGrammar {} text = .ok next) : .verbose ∈ next.flags := by
  unfold Given.read at read
  split at read
  case isTrue ended => cases ended
  case isFalse =>
    split at read
    case h_1 awaits _ => cases awaits
    case h_2 awaits _ => cases awaits
    case h_3 dashes =>
      cases option.symm.trans dashes
      exact absurd rfl (longer rfl)
    case h_4 => exact verbose_mem_of_readLong read
    case h_5 => exact verbose_mem_of_readLetters read
    case h_6 noOption => exact absurd option (noOption _ _)

end BeforeCommand

end Given

theorem verbose_of_readInvocation {contextPath : Option String} {given : Given}
    {arguments : List String} {invocation : Invocation} (before : .verbose ∈ given.flags)
    (asked : readInvocation contextPath given arguments = .ok invocation) :
    invocation.verbose = true := by
  induction arguments generalizing given with
  | nil => cases asked
  | cons text arguments ih =>
    unfold readInvocation at asked
    split at asked
    case h_1 => cases asked
    case h_2 =>
      obtain ⟨next, read, others⟩ := exists_ok_of_bind asked
      exact ih (Given.mem_flags_of_read before read) others
    case h_3 =>
      obtain ⟨found, _, same⟩ := exists_ok_of_bind asked
      cases same
      simp [Given.has, before]

theorem ofArguments_verbose {contextPath : Option String} {arguments : List String}
    (asked : Request.ofArguments contextPath arguments = .ok (.run ⟨false, command⟩)) :
    Request.ofArguments contextPath ("--verbose" :: arguments) = .ok (.run ⟨true, command⟩) := by
  have quiet : readInvocation contextPath {} arguments = .ok ⟨false, command⟩ := by
    unfold Request.ofArguments at asked
    split at asked <;> cases asked
    assumption
  have loud : readInvocation contextPath { flags := [.verbose] } arguments =
      .ok ⟨true, command⟩ := by
    cases arguments with
    | nil => cases quiet
    | cons text arguments =>
      unfold readInvocation at quiet ⊢
      split at quiet
      case h_1 => cases quiet
      case h_2 letter letters dashes option =>
        -- An option that comes first asks for the verbose log, so the run would not be quiet.
        obtain ⟨next, read, others⟩ := exists_ok_of_bind quiet
        have verbose := Given.verbose_mem_of_read option dashes read
        cases verbose_of_readInvocation verbose others
      case h_3 =>
        obtain ⟨found, read, same⟩ := exists_ok_of_bind quiet
        have sameCommand : found.command = command :=
          congrArg Invocation.command (Except.ok.inj same)
        rw [read, ← sameCommand]
        rfl
  have first : readInvocation contextPath {} ("--verbose" :: arguments) =
      readInvocation contextPath { flags := [.verbose] } arguments := rfl
  rw [Request.ofArguments, first, loud]

/-! ## Lines of the log -/

def Environment.AsksForTrace (environment : Environment) : Prop :=
  ∃ name, environment.logLevel = some name ∧ name.toLower ∈ ["trace", "5"]

theorem logFilter_eq_trace_iff :
    logFilter environment false = some .trace ↔ environment.AsksForTrace := by
  unfold Environment.AsksForTrace logFilter
  cases environment.logLevel with
  | none => simp
  | some name =>
    have asks : (∃ other, some name = some other ∧ other.toLower ∈ ["trace", "5"]) ↔
        Filter.ofName? name = some (some .trace) := by
      simp [Filter.ofName?_eq_trace_iff]
    rw [asks]
    by_cases empty : name = ""
    · subst empty
      have lower : "".toLower = "" := by decide +kernel
      simp [Filter.ofName?_eq_trace_iff, lower]
    · simp only [Bool.false_eq_true, ↓reduceIte, String.isEmpty_iff, empty]
      cases Filter.ofName? name <;> simp

/-- A command compiles a template, and the log sums up what was compiled. -/
inductive Summary (environment : Environment) (files : Files) : Command → Event → Prop
  | compile (template : String) (json : Bool) :
    Summary environment files (.compile template json) (.templateCompiled template.utf8ByteSize
      (Template.compile Table.standard template).parts.length)
  | preview (template : String) {path : String} {context : Context}
    (loaded : Context.load path (files path) environment.explain = .ok context) :
    Summary environment files (.preview template path) (.templateCompiled template.utf8ByteSize
      (Template.compile Table.standard template).parts.length)

theorem Summary.level (sums : Summary environment files command summary) :
    summary.level = .trace := by
  cases sums <;> rfl

theorem exists_notes (template : String) :
    ∃ notes, Template.Notes Table.standard template notes ∧
      (compile Table.standard template).events =
        notes ++ [.templateCompiled template.utf8ByteSize
          (compile Table.standard template).parts.length] := by
  obtain ⟨read, reading, events⟩ := Template.compile_events_eq Table.standard template
  exact ⟨_, Template.eventsOf_notes Table.standard_accepted reading, events⟩

theorem Summary.output (sums : Summary environment files command summary) :
    ∃ stdout before after,
      command.output environment files = .ok (stdout, before ++ summary :: after) ∧
      ∀ event ∈ before ++ after, event.level = .debug := by
  cases sums with
  | compile template json =>
    obtain ⟨notes, noted, events⟩ := exists_notes template
    exact ⟨_, notes, [], by rw [Command.output, events], by simpa using noted.level⟩
  | @preview template path context loaded =>
    obtain ⟨notes, noted, events⟩ := exists_notes template
    have output := output_preview_of_load template loaded
    rw [events] at output
    generalize context.unvalued _ = missing at output
    refine ⟨(context.render (Template.compile Table.standard template).parts).1 ++ "\n",
      .contextLoaded path context.frames.length context.expressions.length :: notes,
      .previewStarted (Template.compile Table.standard template).parts.length ::
        missing.map .valueMissing, by simpa using output, ?_⟩
    intro event member
    simp only [List.mem_append, List.mem_cons, List.mem_map] at member
    obtain (rfl | note) | rfl | ⟨source, _, rfl⟩ := member
    · rfl
    · exact noted.level event note
    · rfl
    · rfl

theorem output_of_no_summary (sumless : ∀ summary, ¬ Summary environment files command summary) :
    (∃ reason, command.output environment files = .error reason) ∨
      ∃ stdout, command.output environment files = .ok (stdout, []) := by
  cases command with
  | compile template json => exact absurd (.compile template json) (sumless _)
  | keywords json => exact .inr ⟨_, rfl⟩
  | preview template path =>
    cases loaded : Context.load path (files path) environment.explain with
    | error error => exact .inl ⟨_, output_preview_of_not_load template loaded⟩
    | ok context => exact absurd (.preview template loaded) (sumless _)

theorem logLines_trace (color : Bool) (events : List Event) :
    logLines color (some .trace) events = events.map (logLine color) := by
  have all : events.filter (fun event => Filter.shows (some .trace) event.level) = events :=
    List.filter_eq_self.mpr fun event _ => Filter.shows_trace event.level
  rw [logLines, all]

theorem logLines_debug_of_summary {before after : List Event} (color : Bool)
    (trace : summary.level = .trace) (debug : ∀ event ∈ before ++ after, event.level = .debug) :
    logLines color (some .debug) (before ++ summary :: after) =
      (before ++ after).map (logLine color) := by
  have hidden : ¬ Filter.shows (some .debug) summary.level = true := by
    rw [trace]
    decide
  have shown : (before ++ after).filter (fun event => Filter.shows (some .debug) event.level) =
      before ++ after :=
    List.filter_eq_self.mpr fun event member => Filter.shows_debug_iff.mpr (debug event member)
  rw [logLines, List.filter_append, List.filter_cons, if_neg hidden, ← List.filter_append, shown]

theorem logLines_sublist {filter : Filter} (below : filter ≠ some .trace) (color : Bool)
    (events : List Event) :
    (logLines color filter events).Sublist (logLines color (some .debug) events) := by
  apply List.Sublist.map
  apply List.monotone_filter_right
  intro event shown
  exact Filter.shows_debug_of_shows below shown

/-! ## Two runs of a command -/

theorem run_verbose_eq (verbose : Bool) :
    (Invocation.run environment files ⟨verbose, command⟩).exitCode =
        (Invocation.run environment files ⟨false, command⟩).exitCode ∧
      (Invocation.run environment files ⟨verbose, command⟩).stdout =
        (Invocation.run environment files ⟨false, command⟩).stdout := by
  cases output : command.output environment files with
  | error reason =>
    rw [run_of_failure output, run_of_failure output]
    exact ⟨rfl, rfl⟩
  | ok result =>
    rw [run_of_output output, run_of_output output]
    exact ⟨rfl, rfl⟩

theorem Summary.hidden (sums : Summary environment files command summary)
    (asks : environment.AsksForTrace) :
    ∃ before after,
      (Invocation.run environment files ⟨false, command⟩).stderr =
        before ++ logLine environment.logColor summary :: after ∧
      (Invocation.run environment files ⟨true, command⟩).stderr = before ++ after := by
  obtain ⟨stdout, before, after, output, debug⟩ := sums.output
  refine ⟨before.map (logLine environment.logColor), after.map (logLine environment.logColor),
    ?_, ?_⟩
  · rw [run_of_output output, logFilter_eq_trace_iff.mpr asks, logLines_trace, List.map_append]
    rfl
  · have filter : logFilter environment true = some .debug := rfl
    rw [run_of_output output, filter, logLines_debug_of_summary _ sums.level debug,
      List.map_append]

theorem stderr_sublist
    (kept : ¬ (environment.AsksForTrace ∧ ∃ summary, Summary environment files command summary)) :
    (Invocation.run environment files ⟨false, command⟩).stderr.Sublist
      (Invocation.run environment files ⟨true, command⟩).stderr := by
  by_cases asks : environment.AsksForTrace
  · have sumless (summary : Event) : ¬ Summary environment files command summary := fun sums =>
      kept ⟨asks, summary, sums⟩
    obtain ⟨reason, output⟩ | ⟨stdout, output⟩ := output_of_no_summary sumless
    · rw [run_of_failure output, run_of_failure output]
    · rw [run_of_output output, run_of_output output]
      exact List.Sublist.refl []
  · have below : logFilter environment false ≠ some .trace := mt logFilter_eq_trace_iff.mp asks
    cases output : command.output environment files with
    | error reason => rw [run_of_failure output, run_of_failure output]
    | ok result =>
      rw [run_of_output output, run_of_output output]
      exact logLines_sublist below _ _

/-- The option keeps every line of the log, unless the environment asks for all of the log of a
command that compiles; then it takes one line, the summary of what was compiled.  The environment
sets no level, or sets one by name or number, as `logFilter` takes it to. -/
theorem verbose_keeps_log_iff (environment : Environment) (files : Files) {arguments : List String}
    (asked : Request.ofArguments environment.contextPath arguments = .ok (.run ⟨false, command⟩)) :
    let quiet := run environment files arguments
    let loud := run environment files ("--verbose" :: arguments)
    (∀ others, Request.ofArguments environment.contextPath others = .ok (.run ⟨true, command⟩) →
      run environment files others = loud) ∧
    Request.ofArguments environment.contextPath ("--verbose" :: arguments) =
      .ok (.run ⟨true, command⟩) ∧
    loud.exitCode = quiet.exitCode ∧ loud.stdout = quiet.stdout ∧
    (quiet.stderr.Sublist loud.stderr ↔
      ¬ (environment.AsksForTrace ∧ ∃ summary, Summary environment files command summary)) ∧
    (environment.AsksForTrace → ∀ summary, Summary environment files command summary →
      ∃ before after, quiet.stderr = before ++ logLine environment.logColor summary :: after ∧
        loud.stderr = before ++ after) := by
  intro quiet loud
  have askedLoud := ofArguments_verbose asked
  have quietRun : quiet = Invocation.run environment files ⟨false, command⟩ := by
    simp only [quiet, run, asked]
  have loudRun : loud = Invocation.run environment files ⟨true, command⟩ := by
    simp only [loud, run, askedLoud]
  obtain ⟨exitCode, stdout⟩ : loud.exitCode = quiet.exitCode ∧ loud.stdout = quiet.stdout := by
    rw [quietRun, loudRun]
    exact run_verbose_eq true
  have hidden (asks : environment.AsksForTrace) (summary : Event)
      (sums : Summary environment files command summary) :
      ∃ before after, quiet.stderr = before ++ logLine environment.logColor summary :: after ∧
        loud.stderr = before ++ after := by
    rw [quietRun, loudRun]
    exact sums.hidden asks
  refine ⟨?others, askedLoud, exitCode, stdout, ⟨?lost, ?kept⟩, hidden⟩
  case others =>
    intro others askedOthers
    rw [loudRun]
    simp only [run, askedOthers]
  case lost =>
    intro sublist both
    obtain ⟨asks, summary, sums⟩ := both
    obtain ⟨before, after, quietLines, loudLines⟩ := hidden asks summary sums
    -- The loud run has one line less.
    have longer := sublist.length_le
    rw [quietLines, loudLines, List.length_append, List.length_append, List.length_cons] at longer
    omega
  case kept =>
    intro kept
    rw [quietRun, loudRun]
    exact stderr_sublist kept

def tracing : Environment := { logLevel := some "trace" }

theorem tracing_asksForTrace : tracing.AsksForTrace :=
  ⟨"trace", rfl, by decide +kernel⟩

theorem tracedCompile_loses_summary :
    Request.ofArguments tracing.contextPath ["compile", "a"] =
        .ok (.run ⟨false, .compile "a" false⟩) ∧
      ∃ before after,
        (run tracing (fun _ => .error .notFound) ["compile", "a"]).stderr = before ++
          logLine false (.templateCompiled 1 (compile Table.standard "a").parts.length) :: after ∧
        (run tracing (fun _ => .error .notFound) ["--verbose", "compile", "a"]).stderr =
          before ++ after := by
  have asked : Request.ofArguments tracing.contextPath ["compile", "a"] =
      .ok (.run ⟨false, .compile "a" false⟩) := rfl
  obtain ⟨-, -, -, -, -, lost⟩ := verbose_keeps_log_iff tracing (fun _ => .error .notFound) asked
  exact ⟨asked, lost tracing_asksForTrace _ (.compile "a" false)⟩

theorem tracedCompile_not_kept :
    Request.ofArguments tracing.contextPath ["--verbose", "compile", "a"] =
        .ok (.run ⟨true, .compile "a" false⟩) ∧
      ¬ (run tracing (fun _ => .error .notFound) ["compile", "a"]).stderr.Sublist
        (run tracing (fun _ => .error .notFound) ["--verbose", "compile", "a"]).stderr := by
  have quiet : run tracing (fun _ => .error .notFound) ["compile", "a"] =
      ⟨0, "text \"a\"\n", ["TRACE tracemsg_core::compiler: compiled tracepoint template " ++
        "template_len=1 parts=1"]⟩ := by
    decide +kernel
  have loud : run tracing (fun _ => .error .notFound) ["--verbose", "compile", "a"] =
      ⟨0, "text \"a\"\n", []⟩ := by
    decide +kernel
  refine ⟨rfl, ?_⟩
  rw [quiet, loud]
  decide

end CommandLine

end Tracepoint
