import Tracepoint.CommandLine.Help
import Tracepoint.Sample.Load
import Tracepoint.Sample.Preview
import Tracepoint.Template.Compilation
/-!
Running a command line: what it prints and how it ends, given the environment and the files.
-/

namespace Tracepoint.CommandLine

open Keyword (Table)

structure Environment where
  contextPath : Option String := none
  /-- The name of the level of the log.  Filters of other forms are outside this account. -/
  logLevel : Option String := none
  color : Bool := false
  logColor : Bool := false
  /-- Says why a text describes no context. -/
  explain : String → String := fun _ => ""

structure Outcome where
  exitCode : UInt32
  stdout : String
  stderr : List String
  deriving DecidableEq, Repr

/-- Warnings and graver events are shown unless the environment or the command line says
otherwise; the command line prevails.  The setting of the environment is taken to be the name of a
level or its number; other settings, such as a filter for one part of the program, are not
considered. -/
def logFilter (environment : Environment) (verbose : Bool) : Log.Filter :=
  if verbose then some .debug
  else
    match environment.logLevel with
    | none => some .warn
    | some name => if name.isEmpty then some .error else (Log.Filter.ofName? name).getD (some .warn)

def logLines (color : Bool) (filter : Log.Filter) (events : List Log.Event) : List String :=
  (events.filter fun event => filter.shows event.level).map (logLine color)

abbrev Files := String → Except ReadFailure ByteArray

/-- What a command prints, and the events on its way; or why it fails. -/
def Command.output (environment : Environment) (files : Files) :
    Command → Except String (String × List Log.Event)
  | .compile template json =>
    let compilation := Template.compile Table.standard template
    let print := if json then partJson else partListing environment.color
    .ok (print compilation.parts, compilation.events)
  | .keywords json =>
    let print := if json then legendJson else legendListing environment.color
    .ok (print Table.standard.legend, [])
  | .preview template path =>
    match Sample.Context.load path (files path) environment.explain with
    | .error error => .error ("Failed to load sample context " ++ path ++ ": " ++ error.message)
    | .ok context =>
      let compilation := Template.compile Table.standard template
      let (message, missing) := context.render compilation.parts
      .ok (message ++ "\n",
        context.loaded path :: compilation.events ++
          .previewStarted compilation.parts.length :: missing)

def Invocation.run (environment : Environment) (files : Files) (invocation : Invocation) :
    Outcome :=
  match invocation.command.output environment files with
  | .error reason => ⟨1, "", ["Error: " ++ reason]⟩
  | .ok (output, events) =>
    let filter := logFilter environment invocation.verbose
    ⟨0, output, logLines environment.logColor filter events⟩

def run (environment : Environment) (files : Files) (arguments : List String) : Outcome :=
  match Request.ofArguments environment.contextPath arguments with
  | .ok (.run invocation) => invocation.run environment files
  | .ok (.help topic) => ⟨0, (topic.page environment.contextPath).text, []⟩
  | .ok .version => ⟨0, versionText, []⟩
  | .error error => ⟨2, "", ["error: " ++ error.message]⟩

end Tracepoint.CommandLine
