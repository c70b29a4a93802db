import Tracepoint.Log.Level
import Tracepoint.Text.Quoted
/-!
What the library reports while it works.  An event is a value that an operation returns beside its
result; each has a severity, the part of the program it belongs to, a message and named fields.
-/

namespace Tracepoint.Log

inductive Event
  | inertEscape (position : Nat)
  | unknownKeyword (position : Nat)
  | unterminatedExpression (position : Nat)
  | templateCompiled (length parts : Nat)
  | contextLoaded (path : String) (frames expressions : Nat)
  | previewStarted (parts : Nat)
  | valueMissing (source : String)
  deriving DecidableEq, Repr

inductive Field
  | number (n : Nat)
  | text (s : String)
  | path (s : String)
  deriving DecidableEq, Repr

/-- Texts are quoted, paths are not. -/
def Field.shown : Field → String
  | .number n => n.repr
  | .text s => Text.quoted s
  | .path s => s

namespace Event

def level : Event → Level
  | .templateCompiled .. => .trace
  | _ => .debug

def message : Event → String
  | .inertEscape _ => "inert escape kept as literal '\\'"
  | .unknownKeyword _ => "unknown keyword kept as literal '$'"
  | .unterminatedExpression _ => "unterminated expression kept as literal '\x7b'"
  | .templateCompiled .. => "compiled tracepoint template"
  | .contextLoaded .. => "loaded sample context"
  | .previewStarted _ => "rendering preview"
  | .valueMissing _ => "no sample value for expression"

def fields : Event → List (String × Field)
  | .inertEscape position | .unknownKeyword position | .unterminatedExpression position =>
    [("position", .number position)]
  | .templateCompiled length parts => [("template_len", .number length), ("parts", .number parts)]
  | .contextLoaded path frames expressions =>
    [("path", .path path), ("frames", .number frames), ("expressions", .number expressions)]
  | .previewStarted parts => [("parts", .number parts)]
  | .valueMissing source => [("source", .text source)]

def target : Event → String
  | .inertEscape _ | .unknownKeyword _ | .unterminatedExpression _ =>
    "tracemsg_core::compiler::scan"
  | .templateCompiled .. => "tracemsg_core::compiler"
  | .contextLoaded .. | .valueMissing _ => "tracemsg_core::context"
  | .previewStarted _ => "tracemsg::commands::preview"

end Event

end Tracepoint.Log
