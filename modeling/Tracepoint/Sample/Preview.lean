import Tracepoint.Log.Event
import Tracepoint.Render.Renderer
import Tracepoint.Sample.Context
/-!
Rendering against a sample context.  The context supplies the values; an expression without one is
reported.
-/

namespace Tracepoint.Sample

structure Preview where
  context : Context
  events : Array Log.Event := #[]

namespace Preview

def report (event : Log.Event) (preview : Preview) : Preview :=
  { preview with events := preview.events.push event }

def writeKeyword (kind : Kind) (argument : Option UInt32) :
    Preview × String → Preview × String
  | (preview, out) => (preview, out ++ preview.context.keywordValue kind argument)

def writeExpression (source : String) : Preview × String → Preview × String
  | (preview, out) =>
    let known := (preview.context.expressions.lookup source).isSome
    (if known then preview else preview.report (.valueMissing source),
      out ++ preview.context.expressionText source)

def renderer : Renderer Preview := ⟨writeKeyword, writeExpression⟩

end Preview

def Context.render (context : Context) (parts : List Template.Part) :
    String × List Log.Event :=
  let (final, out) := Preview.renderer.render parts { context }
  (out, final.events.toList)

end Tracepoint.Sample
