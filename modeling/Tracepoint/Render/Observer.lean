import Tracepoint.Render.Renderer
/-!
Listening to a renderer.  An observed renderer writes what it always writes, and keeps each call
with the state and the output before and after it.
-/

namespace Tracepoint.Render

inductive Request
  | keyword (kind : Kind) (argument : Option UInt32)
  | expression (source : String)
  deriving DecidableEq, Repr

/-- A call of a renderer, with the state and the output that it got and those that it left. -/
structure Exchange (σ : Type) where
  request : Request
  before : σ × String
  after : σ × String

end Tracepoint.Render

namespace Tracepoint

open Render (Request Exchange)

def Template.Part.request? : Template.Part → Option Request
  | .text _ => none
  | .numbered kind argument => some (.keyword kind (some argument))
  | .plain kind => some (.keyword kind none)
  | .expression source => some (.expression source)

namespace Renderer

variable {σ : Type}

def answer (renderer : Renderer σ) : Request → σ × String → σ × String
  | .keyword kind argument => renderer.writeKeyword kind argument
  | .expression source => renderer.writeExpression source

def overhear (renderer : Renderer σ) (request : Request) :
    (σ × List (Exchange σ)) × String → (σ × List (Exchange σ)) × String
  | ((state, heard), out) =>
    let after := renderer.answer request (state, out)
    ((after.1, heard ++ [⟨request, (state, out), after⟩]), after.2)

def observed (renderer : Renderer σ) : Renderer (σ × List (Exchange σ)) where
  writeKeyword kind argument := renderer.overhear (.keyword kind argument)
  writeExpression source := renderer.overhear (.expression source)

theorem writePart_request (renderer : Renderer σ) {part : Template.Part} {request : Request}
    (asked : part.request? = some request) (before : σ × String) :
    renderer.writePart before part = renderer.answer request before := by
  cases part <;> cases asked <;> rfl

theorem observed_answer (renderer : Renderer σ) (request : Request) :
    renderer.observed.answer request = renderer.overhear request := by
  cases request <;> rfl

end Renderer

end Tracepoint
