import Tracepoint.CommandLine.Run
import Tracepoint.Proofs.CompileLog
import Tracepoint.Proofs.Loading
import Tracepoint.Proofs.Preview
/-!
Running the preview command.  It succeeds just if the context loads; the message is then the whole
output, and the library has reported the context, the compilation and the expressions without a
value, in this order.  Otherwise a line about the context is all there is.
-/

namespace Tracepoint

namespace Log.Event

/-- Whether the library reports an event, and not the command line around it. -/
def isLibrary (event : Event) : Bool := "tracemsg_core".toList.isPrefixOf event.target.toList

theorem isLibrary_iff {event : Event} :
    event.isLibrary = true ↔ ∀ parts, event ≠ .previewStarted parts := by
  cases event <;> simp [isLibrary, target]

theorem isLibrary_of_keptTrigger? {event : Event} {trigger : Char × Nat}
    (kept : event.keptTrigger? = some trigger) : event.isLibrary = true := by
  rw [isLibrary_iff]
  rintro parts rfl
  cases kept

end Log.Event

namespace Template

open Log (Event)

def Part.source? : Part → Option String
  | .expression source => some source
  | _ => none

theorem filter_isLibrary_compile (table : Keyword.Table) (template : String) :
    (compile table template).events.filter Event.isLibrary = (compile table template).events := by
  rw [List.filter_eq_self]
  intro event member
  obtain ⟨read, -, events⟩ := compile_events_eq table template
  rw [events, List.mem_append, List.mem_singleton] at member
  rcases member with note | rfl
  · obtain ⟨before, token, after, -, reported⟩ := mem_eventsOf_iff.mp note
    obtain ⟨trigger, -, kept⟩ := Token.event?_eq_some reported
    exact Event.isLibrary_of_keptTrigger? kept
  · simp [Event.isLibrary_iff]

end Template

namespace Sample

open Template (Part)

def Context.unvalued (context : Context) (parts : List Part) : List String :=
  (parts.filterMap Part.source?).filter (· ∉ context.expressions.map Prod.fst)

theorem Context.missing?_eq (context : Context) (part : Part) :
    context.missing? part =
      (part.source?.filter (· ∉ context.expressions.map Prod.fst)).map .valueMissing := by
  cases part with
  | text | numbered | plain => rfl
  | expression source =>
    rw [missing?]
    simp only [Part.source?, Option.filter_some, ← Expressions.lookup_isSome_iff_mem]
    split <;> simp_all

theorem Context.filterMap_missing? (context : Context) (parts : List Part) :
    parts.filterMap context.missing? = (context.unvalued parts).map .valueMissing := by
  calc
    parts.filterMap context.missing? = parts.filterMap fun part =>
        (part.source?.filter (· ∉ context.expressions.map Prod.fst)).map .valueMissing := by
      rw [funext context.missing?_eq]
    _ = (parts.filterMap fun part =>
        part.source?.filter (· ∉ context.expressions.map Prod.fst)).map .valueMissing :=
      List.map_filterMap.symm
    _ = (context.unvalued parts).map .valueMissing := by rw [unvalued, List.filter_filterMap]

end Sample

namespace CommandLine

open Keyword (Table)
open Template (Part compile)
open Sample (Context LoadError FailsWith)
open Log (Event)

/-- What a preview shows of a context that loads. -/
structure Previews (environment : Environment) (files : Files) (verbose : Bool)
    (template path : String) (context : Context) (outcome : Outcome) : Prop where
  exitCode : outcome.exitCode = 0
  stdout : outcome.stdout = (context.render (compile Table.standard template).parts).1 ++ "\n"
  log : ∃ events,
    Command.output environment files (.preview template path) =
      .ok (outcome.stdout, events) ∧
    outcome.stderr = logLines environment.logColor (logFilter environment verbose) events ∧
    events.filter Event.isLibrary =
      .contextLoaded path context.frames.length context.expressions.length ::
        (compile Table.standard template).events ++
          (context.unvalued (compile Table.standard template).parts).map .valueMissing
  counted : (context.expressions.map Prod.fst).Nodup

/-- What a preview shows of a path whose content is no context.  The error says what keeps the path
from holding a text, or in the words of the environment why its text describes no context. -/
structure Refuses (environment : Environment) (files : Files) (template path : String)
    (error : LoadError) (outcome : Outcome) : Prop where
  exitCode : outcome.exitCode = 1
  stdout : outcome.stdout = ""
  log : ∃ reason,
    Command.output environment files (.preview template path) = .error reason ∧
    outcome.stderr = ["Error: " ++ reason] ∧
    reason = "Failed to load sample context " ++ path ++ ": " ++ error.message
  readError : "CONTEXT_READ_ERROR: ".toList <+: error.message.toList ↔
    ∃ failure, FailsWith (files path) failure
  invalid : "CONTEXT_INVALID: ".toList <+: error.message.toList ↔
    ∀ failure, ¬ FailsWith (files path) failure
  unread : ∀ failure, FailsWith (files path) failure → error = .unreadable path failure
  undescribed : ∀ text : String, files path = .ok text.toByteArray →
    error = .invalid ⟨path, environment.explain text⟩

section

variable {environment : Environment} {files : Files} {invocation : Invocation}
  {path : String} {context : Context} {error : LoadError}

theorem run_of_output {stdout : String} {events : List Event}
    (output : invocation.command.output environment files = .ok (stdout, events)) :
    invocation.run environment files =
      ⟨0, stdout,
        logLines environment.logColor (logFilter environment invocation.verbose) events⟩ := by
  rw [Invocation.run, output]

theorem run_of_failure {reason : String}
    (output : invocation.command.output environment files = .error reason) :
    invocation.run environment files = ⟨1, "", ["Error: " ++ reason]⟩ := by
  rw [Invocation.run, output]

theorem output_preview_of_load (template : String)
    (loaded : Context.load path (files path) environment.explain = .ok context) :
    Command.output environment files (.preview template path) =
      .ok ((context.render (compile Table.standard template).parts).1 ++ "\n",
        .contextLoaded path context.frames.length context.expressions.length ::
          (compile Table.standard template).events ++
            .previewStarted (compile Table.standard template).parts.length ::
              (context.unvalued (compile Table.standard template).parts).map .valueMissing) := by
  simp only [Command.output, loaded, Context.loaded, ← Context.filterMap_missing?,
    Context.render_eq]

theorem output_preview_of_not_load (template : String)
    (failed : Context.load path (files path) environment.explain = .error error) :
    Command.output environment files (.preview template path) =
      .error ("Failed to load sample context " ++ path ++ ": " ++ error.message) := by
  simp only [Command.output, failed]

theorem previews_of_load (verbose : Bool) (template : String)
    (loaded : Context.load path (files path) environment.explain = .ok context) :
    Previews environment files verbose template path context
      (Invocation.run environment files ⟨verbose, .preview template path⟩) := by
  have output := output_preview_of_load template loaded
  rw [run_of_output output]
  refine ⟨rfl, rfl, ⟨_, output, rfl, ?_⟩, (Context.ascending_of_load loaded).nodup⟩
  have missing (sources : List String) :
      (sources.map Event.valueMissing).filter Event.isLibrary = sources.map .valueMissing := by
    rw [List.filter_eq_self, List.forall_mem_map]
    intro source _
    simp [Event.isLibrary_iff]
  rw [List.filter_append, List.filter_cons_of_pos (by simp [Event.isLibrary_iff]),
    Template.filter_isLibrary_compile, List.filter_cons_of_neg (by simp [Event.isLibrary_iff]),
    missing]

theorem refuses_of_not_load (verbose : Bool) (template : String)
    (failed : Context.load path (files path) environment.explain = .error error) :
    Refuses environment files template path error
      (Invocation.run environment files ⟨verbose, .preview template path⟩) := by
  have output := output_preview_of_not_load template failed
  rw [run_of_failure output]
  obtain ⟨readError, invalid⟩ := Context.begins_of_load failed
  refine ⟨rfl, rfl, ⟨_, output, rfl, rfl⟩, readError, invalid,
    fun _ => Context.eq_unreadable_of_load failed, fun text held => ?_⟩
  rw [held] at failed
  exact Context.eq_invalid_of_load failed

end

theorem ofArguments_preview (environment : Option String) (template : String) {path : String}
    (named : path ≠ "") :
    Request.ofArguments environment ["preview", "--context=" ++ path, "--", template] =
      .ok (.run ⟨false, .preview template path⟩) := by
  have nonempty : path.isEmpty = false := by simpa using named
  have command : readPreview environment ["--context=" ++ path, "--", template] =
      .ok ⟨false, .preview template path⟩ := by
    simp [readPreview, Given.readAll, Given.read, Given.readLong, Given.setContext,
      Given.addArgument, Given.requireTemplate, Given.requireContext, Given.has, nonempty, bind,
      Except.bind, pure, Except.pure]
  simp [Request.ofArguments, readInvocation, readCommand, command, Given.has]

/-- Whether the context loads decides all of it: how the command ends, what it prints and what it
reports. -/
theorem run_preview (environment : Environment) (files : Files) {arguments : List String}
    {verbose : Bool} {template path : String}
    (asked : Request.ofArguments environment.contextPath arguments =
      .ok (.run ⟨verbose, .preview template path⟩)) :
    let outcome := run environment files arguments
    (outcome.exitCode = 0 ↔
      ∃ context, Context.load path (files path) environment.explain = .ok context) ∧
    (∀ context, Context.load path (files path) environment.explain = .ok context →
      Previews environment files verbose template path context outcome) ∧
    (∀ error, Context.load path (files path) environment.explain = .error error →
      Refuses environment files template path error outcome) := by
  intro outcome
  have ran : outcome = Invocation.run environment files ⟨verbose, .preview template path⟩ := by
    simp only [outcome, run, asked]
  rw [ran]
  refine ⟨?_, fun _ => previews_of_load verbose template,
    fun _ => refuses_of_not_load verbose template⟩
  constructor
  · intro succeeded
    cases loaded : Context.load path (files path) environment.explain with
    | ok context => exact ⟨context, rfl⟩
    | error error =>
      have failed := (refuses_of_not_load verbose template loaded).exitCode
      rw [succeeded] at failed
      exact absurd failed (by decide)
  · rintro ⟨context, loaded⟩
    exact (previews_of_load verbose template loaded).exitCode

/-- What a reader of documents says of the text `frames = 1`. -/
def noSequence : String :=
  "TOML parse error at line 1, column 10\n  |\n1 | frames = 1\n  |          ^\n" ++
    "invalid type: integer `1`, expected a sequence\n"

def explaining : Environment := { explain := fun _ => noSequence }

theorem not_load_frames : Context.load "c.toml" (.ok "frames = 1".toByteArray) explaining.explain =
    .error (.invalid ⟨"c.toml", noSequence⟩) := by
  have undescribed : (Toml.parse? "frames = 1").bind Context.ofEntries? = none := by
    decide +kernel
  rw [Context.load_toByteArray, Context.parse_eq_error_iff]
  exact ⟨rfl, undescribed⟩

theorem sampleContexts_preview :
    let asked := ["preview", "--context=" ++ "c.toml", "--", "\x7bx\x7d"]
    let empty := run explaining (fun _ => .ok "".toByteArray) asked
    let missing := run explaining (fun _ => .error .notFound) asked
    let invalid := run explaining (fun _ => .ok "frames = 1".toByteArray) asked
    Request.ofArguments none asked = .ok (.run ⟨false, .preview "\x7bx\x7d" "c.toml"⟩) ∧
      empty.exitCode = 0 ∧ empty.stdout = "<unknown expression: x>\n" ∧
      missing = ⟨1, "", ["Error: Failed to load sample context c.toml: CONTEXT_READ_ERROR: " ++
        "failed to read 'c.toml': No such file or directory (os error 2)"]⟩ ∧
      invalid = ⟨1, "", ["Error: Failed to load sample context c.toml: CONTEXT_INVALID: " ++
        "failed to parse 'c.toml': " ++ noSequence]⟩ := by
  intro asked empty missing invalid
  have request : Request.ofArguments none asked =
      .ok (.run ⟨false, .preview "\x7bx\x7d" "c.toml"⟩) := ofArguments_preview none _ (by decide)
  have loaded : Context.load "c.toml" (.ok "".toByteArray) explaining.explain = .ok {} :=
    Context.load_eq_ok_iff.mpr ⟨"", rfl, rfl⟩
  have previews := (run_preview explaining (fun _ => .ok "".toByteArray) request).2.1 _ loaded
  have unread := (run_preview explaining (fun _ => .error .notFound) request).2.2 _ rfl
  have undescribed := (run_preview explaining (fun _ => .ok "frames = 1".toByteArray)
    request).2.2 _ not_load_frames
  have shown {outcome : Outcome} {files : Files} {error : LoadError}
      (refuses : Refuses explaining files "\x7bx\x7d" "c.toml" error outcome) :
      outcome = ⟨1, "", ["Error: " ++
        ("Failed to load sample context " ++ "c.toml" ++ ": " ++ error.message)]⟩ := by
    obtain ⟨reason, -, stderr, same⟩ := refuses.log
    have parts : outcome = ⟨outcome.exitCode, outcome.stdout, outcome.stderr⟩ := rfl
    rw [parts, refuses.exitCode, refuses.stdout, stderr, same]
  refine ⟨request, previews.exitCode, ?_, shown unread, shown undescribed⟩
  rw [previews.stdout, Context.render_eq]
  have reading : Template.Reads .standard "\x7bx\x7d".toList [.expression "x".toList] [] :=
    .next (.expression (by decide) rfl) .done
  rw [Template.compile_of_reads Table.standard_accepted reading]
  rfl

end CommandLine

end Tracepoint
