import Tracepoint.Keyword.Basic
import Tracepoint.Json.Record
import Tracepoint.Text.Quoted
/-!
The parts of a compiled message template, and how listings show them.
-/

namespace Tracepoint.Template

inductive Part
  | text (content : String)
  | numbered (kind : Kind) (argument : UInt32)
  | plain (kind : Kind)
  /-- An expression for the evaluator, as written between the braces. -/
  | expression (source : String)
  deriving DecidableEq, Repr, Inhabited

namespace Part

def ofKeyword (keyword : Keyword) : Part :=
  match keyword.argument with
  | some argument => .numbered keyword.kind argument
  | none => .plain keyword.kind

def kind : Part → Kind
  | .text _ => .text
  | .numbered kind _ => kind
  | .plain kind => kind
  | .expression _ => .evaluatedExpression

def isText : Part → Bool
  | .text _ => true
  | _ => false

def listing : Part → String
  | .text content => "text " ++ Text.quoted content
  | .numbered kind argument => kind.name ++ "(" ++ argument.toNat.repr ++ ")"
  | .plain kind => kind.name
  | .expression source => "expr \x7b" ++ source ++ "\x7d"

def record : Part → Json.Record
  | .text content => [("type", .string "text"), ("text", .string content)]
  | .numbered kind argument =>
    [("type", .string "numbered"), ("kind", .string kind.name),
      ("argument", .number argument.toNat)]
  | .plain kind => [("type", .string "plain"), ("kind", .string kind.name)]
  | .expression source => [("type", .string "expression"), ("source", .string source)]

end Part

end Tracepoint.Template
