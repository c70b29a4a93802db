import Tracepoint.Render.Renderer
/-!
A renderer that records what it is asked for and where in the output, and writes a mark in place of
every value.
-/

namespace Tracepoint.Render

inductive Call
  | keyword (kind : Kind) (argument : Option UInt32) (offset : Nat)
  | expression (source : String) (offset : Nat)
  deriving DecidableEq, Repr

def keywordMark (kind : Kind) : Option UInt32 → String
  | some argument => "[" ++ kind.name ++ ":" ++ argument.toNat.repr ++ "]"
  | none => "[" ++ kind.name ++ "]"

def expressionMark : String := "<value>"

def recorder : Renderer (Array Call) where
  writeKeyword kind argument := fun (calls, out) =>
    (calls.push (.keyword kind argument out.utf8ByteSize), out ++ keywordMark kind argument)
  writeExpression source := fun (calls, out) =>
    (calls.push (.expression source out.utf8ByteSize), out ++ expressionMark)

end Tracepoint.Render
