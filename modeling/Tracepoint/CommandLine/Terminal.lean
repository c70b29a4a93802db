import Tracepoint.Log.Event
/-!
Styled text on a terminal.
-/

namespace Tracepoint.CommandLine

inductive Style
  | bold
  | faint
  | italic
  | yellow
  | blue
  | magenta
  | cyan
  deriving DecidableEq, Repr

namespace Style

def start : Style → String
  | .bold => "\x1b[1m"
  | .faint => "\x1b[2m"
  | .italic => "\x1b[3m"
  | .yellow => "\x1b[33m"
  | .blue => "\x1b[34m"
  | .magenta => "\x1b[35m"
  | .cyan => "\x1b[36m"

def reset : String := "\x1b[0m"

/-- Text in a style, where styles are wanted.  A reset inside the text does not end the style. -/
def paint (color : Bool) (style : Style) (text : String) : String :=
  if color then style.start ++ text.replace reset (reset ++ style.start) ++ reset else text

end Style

/-- The line for an event, without the time that log lines begin with. -/
def logLine (color : Bool) (event : Log.Event) : String :=
  let severity := if event.level = .trace then Style.magenta else Style.blue
  let field := fun (name, value) =>
    " " ++ Style.paint color .italic name ++ Style.paint color .faint "=" ++ Log.Field.shown value
  Style.paint color severity event.level.name ++ " " ++ Style.paint color .faint event.target ++
    Style.paint color .faint ":" ++ " " ++ event.message ++ String.join (event.fields.map field)

end Tracepoint.CommandLine
