import Tracepoint.CommandLine.Run
/-!
The command line program: reads the environment and the context file, runs the command and prints
what it gives.
-/

open Tracepoint CommandLine

/-- Whether an error carries an error number of the operating system, with either sign. -/
def hasNumber (code number : UInt32) : Bool := code == number || code == -number

def readFailure (error : IO.Error) : ReadFailure :=
  match error with
  | .noFileOrDirectory .. => .notFound
  | .inappropriateType _ code _ | .invalidArgument _ code _ =>
    if hasNumber code 21 then .isDirectory
    else if hasNumber code 20 then .notDirectory
    else if hasNumber code 36 then .nameTooLong
    else .other (toString error)
  | error => .other (toString error)

def readFile (path : String) : IO (Except ReadFailure ByteArray) := do
  if path.toList.contains '\x00' then return .error .nulInName
  try
    return .ok (← IO.FS.readBinFile path)
  catch error =>
    return .error (readFailure error)

def isOn (name : String) : IO Bool := do
  match ← IO.getEnv name with
  | some value => return value != "0"
  | none => return false

/-- Styles are forced by one variable, forbidden by others, and else used on a terminal. -/
def wantsColor : IO Bool := do
  if ← isOn "CLICOLOR_FORCE" then return true
  if (← IO.getEnv "NO_COLOR").isSome then return false
  if (← IO.getEnv "CLICOLOR") == some "0" then return false
  (← IO.getStdout).isTty

/-- Tells a text that is no document from a document that describes no context. -/
def explain (text : String) : String :=
  match Toml.parse? text with
  | none => "the text is no TOML document"
  | some _ => "the values of the document are not those of a sample context"

def filesFor (environment : Environment) (arguments : List String) : IO Files := do
  match Request.ofArguments environment.contextPath arguments with
  | .ok (.run ⟨_, .preview _ path⟩) =>
    let content ← readFile path
    return fun _ => content
  | _ => return fun _ => .error .notFound

def main (arguments : List String) : IO UInt32 := do
  let environment : Environment := {
    contextPath := ← IO.getEnv "TRACEMSG_CONTEXT"
    logLevel := ← IO.getEnv "RUST_LOG"
    color := ← wantsColor
    logColor := ((← IO.getEnv "NO_COLOR").getD "").isEmpty
    explain }
  let outcome := CommandLine.run environment (← filesFor environment arguments) arguments
  IO.print outcome.stdout
  for line in outcome.stderr do IO.eprintln line
  return outcome.exitCode
