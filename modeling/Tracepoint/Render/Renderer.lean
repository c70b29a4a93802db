import Tracepoint.Template.Part
/-!
Rendering a compiled template.  A renderer knows how to write keywords and expressions; it sees the
output so far and may carry a state from one part to the next.  Text parts are written as they
stand.
-/

namespace Tracepoint

open Template (Part)

structure Renderer (σ : Type) where
  writeKeyword : Kind → Option UInt32 → σ × String → σ × String
  writeExpression : String → σ × String → σ × String

namespace Renderer

variable {σ : Type}

def writePart (renderer : Renderer σ) (before : σ × String) : Part → σ × String
  | .text content => (before.1, before.2 ++ content)
  | .numbered kind argument => renderer.writeKeyword kind (some argument) before
  | .plain kind => renderer.writeKeyword kind none before
  | .expression source => renderer.writeExpression source before

def render (renderer : Renderer σ) (parts : List Part) (state : σ) : σ × String :=
  parts.foldl renderer.writePart (state, "")

end Renderer

end Tracepoint
