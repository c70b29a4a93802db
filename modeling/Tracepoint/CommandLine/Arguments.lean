/-!
What a command line asks for.  Options may stand before or after the other arguments of a command,
one-letter flags may be joined, and nothing may be given twice.  That a command line is refused is
part of this account, the wording of the refusal is not.
-/

namespace Tracepoint.CommandLine

inductive Command
  | compile (template : String) (json : Bool)
  | keywords (json : Bool)
  | preview (template context : String)
  deriving DecidableEq, Repr

structure Invocation where
  verbose : Bool
  command : Command
  deriving DecidableEq, Repr

inductive HelpTopic
  | program
  | compile
  | keywords
  | preview
  | help
  deriving DecidableEq, Repr

inductive Request
  | run (invocation : Invocation)
  | help (topic : HelpTopic)
  | version
  deriving DecidableEq, Repr

inductive UsageError
  | missingCommand
  | unknownCommand (name : String)
  | unknownOption (text : String)
  | unexpectedArgument (text : String)
  | unexpectedValue (option : String)
  | missingValue (option : String)
  | repeated (option : String)
  | missingArgument (name : String)
  deriving DecidableEq, Repr

def UsageError.message : UsageError → String
  | .missingCommand => "a command is required"
  | .unknownCommand name => "unknown command '" ++ name ++ "'"
  | .unknownOption text => "unknown option '" ++ text ++ "'"
  | .unexpectedArgument text => "unexpected argument '" ++ text ++ "'"
  | .unexpectedValue option => "option '" ++ option ++ "' takes no value"
  | .missingValue option => "option '" ++ option ++ "' needs a value"
  | .repeated option => "option '" ++ option ++ "' is given more than once"
  | .missingArgument name => "argument " ++ name ++ " is missing"

/-- Why the reading of arguments ends before their end. -/
inductive Stop
  | usage (error : UsageError)
  | help (topic : HelpTopic)
  | version
  deriving DecidableEq, Repr

inductive Flag
  | verbose
  | json
  | help
  | version
  deriving DecidableEq, Repr

def Flag.name : Flag → String
  | .verbose => "verbose"
  | .json => "json"
  | .help => "help"
  | .version => "version"

def Flag.letter? : Flag → Option Char
  | .verbose => some 'v'
  | .json => none
  | .help => some 'h'
  | .version => some 'V'

structure Grammar where
  topic : HelpTopic
  flags : List Flag
  takesTemplate : Bool := false
  takesContext : Bool := false

structure Given where
  flags : List Flag := []
  template : Option String := none
  context : Option String := none
  awaitsContext : Bool := false
  optionsEnded : Bool := false

namespace Given

def contextOption : String := "--context"

def addFlag (grammar : Grammar) (flag : Flag) (given : Given) : Except Stop Given :=
  match flag with
  | .help => .error (.help grammar.topic)
  | .version => .error .version
  | flag =>
    if flag ∈ given.flags then .error (.usage (.repeated ("--" ++ flag.name)))
    else .ok { given with flags := flag :: given.flags }

def setContext (value : String) (given : Given) : Except Stop Given :=
  if value.isEmpty then .error (.usage (.missingValue contextOption))
  else if given.context.isSome then .error (.usage (.repeated contextOption))
  else .ok { given with context := some value, awaitsContext := false }

def awaitContext (given : Given) : Given := { given with awaitsContext := true }

def readLong (grammar : Grammar) (text : String) (name : List Char) (value : Option String)
    (given : Given) : Except Stop Given :=
  if grammar.takesContext && String.ofList name == "context" then
    match value with
    | some value => given.setContext value
    | none => .ok given.awaitContext
  else
    match grammar.flags.find? fun flag => flag.name.toList == name with
    | some flag =>
      if value.isSome then .error (.usage (.unexpectedValue ("--" ++ flag.name)))
      else given.addFlag grammar flag
    | none => .error (.usage (.unknownOption text))

/-- Joined one-letter options; the one for the context file takes what follows it. -/
def readLetters (grammar : Grammar) (text : String) : List Char → Given → Except Stop Given
  | [], given => .ok given
  | letter :: letters, given =>
    if grammar.takesContext && letter == 'c' then
      match letters with
      | [] => .ok given.awaitContext
      | '=' :: value => given.setContext (String.ofList value)
      | value => given.setContext (String.ofList value)
    else
      match grammar.flags.find? fun flag => flag.letter? == some letter with
      | some flag => do readLetters grammar text letters (← given.addFlag grammar flag)
      | none => .error (.usage (.unknownOption text))

def addArgument (grammar : Grammar) (text : String) (given : Given) : Except Stop Given :=
  if grammar.takesTemplate && given.template.isNone then .ok { given with template := some text }
  else .error (.usage (.unexpectedArgument text))

def read (grammar : Grammar) (given : Given) (text : String) : Except Stop Given :=
  if given.optionsEnded then given.addArgument grammar text
  else
    match given.awaitsContext, text.toList with
    | true, '-' :: _ :: _ => .error (.usage (.missingValue contextOption))
    | true, _ => given.setContext text
    | false, ['-', '-'] => .ok { given with optionsEnded := true }
    | false, '-' :: '-' :: option =>
      let name := option.takeWhile (· != '=')
      let value :=
        match option.dropWhile (· != '=') with
        | _ :: value => some (String.ofList value)
        | [] => none
      given.readLong grammar text name value
    | false, '-' :: letter :: letters => given.readLetters grammar text (letter :: letters)
    | false, _ => given.addArgument grammar text

def readAll (grammar : Grammar) (arguments : List String) : Except Stop Given := do
  let given ← arguments.foldlM (read grammar) {}
  if given.awaitsContext then .error (.usage (.missingValue contextOption))
  else .ok given

def has (flag : Flag) (given : Given) : Bool := given.flags.contains flag

def requireTemplate (given : Given) : Except Stop String :=
  match given.template with
  | some template => .ok template
  | none => .error (.usage (.missingArgument "TEMPLATE"))

/-- The context file, by its option before the environment. -/
def requireContext (environment : Option String) (given : Given) : Except Stop String :=
  match given.context.or environment with
  | some path => if path.isEmpty then .error (.usage (.missingValue contextOption)) else .ok path
  | none => .error (.usage (.missingArgument contextOption))

end Given

def readCompile (arguments : List String) : Except Stop Invocation := do
  let given ← Given.readAll ⟨.compile, [.json, .verbose, .help], true, false⟩ arguments
  return ⟨given.has .verbose, .compile (← given.requireTemplate) (given.has .json)⟩

def readKeywords (arguments : List String) : Except Stop Invocation := do
  let given ← Given.readAll ⟨.keywords, [.json, .verbose, .help], false, false⟩ arguments
  return ⟨given.has .verbose, .keywords (given.has .json)⟩

def readPreview (environment : Option String) (arguments : List String) :
    Except Stop Invocation := do
  let given ← Given.readAll ⟨.preview, [.verbose, .help], true, true⟩ arguments
  return ⟨given.has .verbose,
    .preview (← given.requireTemplate) (← given.requireContext environment)⟩

def HelpTopic.ofCommand? : String → Option HelpTopic
  | "compile" => some .compile
  | "keywords" => some .keywords
  | "preview" => some .preview
  | "help" => some .help
  | _ => none

/-- The names after the command that asks for help.  No command has commands of its own. -/
def readHelp : List String → Except Stop Invocation
  | [] => .error (.help .program)
  | name :: names =>
    match HelpTopic.ofCommand? name, names with
    | none, _ => .error (.usage (.unknownCommand name))
    | some topic, [] => .error (.help topic)
    | some _, other :: _ => .error (.usage (.unknownCommand other))

def readCommand (environment : Option String) (name : String) (arguments : List String) :
    Except Stop Invocation :=
  match name with
  | "compile" => readCompile arguments
  | "keywords" => readKeywords arguments
  | "preview" => readPreview environment arguments
  | "help" => readHelp arguments
  | name => .error (.usage (.unknownCommand name))

def commonGrammar : Grammar := ⟨.program, [.verbose, .help, .version], false, false⟩

def readInvocation (environment : Option String) (given : Given) :
    List String → Except Stop Invocation
  | [] => .error (.usage .missingCommand)
  | text :: arguments =>
    match text.toList with
    | ['-', '-'] => .error (.usage .missingCommand)
    | '-' :: _ :: _ => do readInvocation environment (← given.read commonGrammar text) arguments
    | _ => do
      let invocation ← readCommand environment text arguments
      return { invocation with verbose := given.has .verbose || invocation.verbose }

/-- What the arguments ask for; `environment` is the context file that the environment names. -/
def Request.ofArguments (environment : Option String) (arguments : List String) :
    Except UsageError Request :=
  match readInvocation environment {} arguments with
  | .ok invocation => .ok (.run invocation)
  | .error (.help topic) => .ok (.help topic)
  | .error .version => .ok .version
  | .error (.usage error) => .error error

end Tracepoint.CommandLine
