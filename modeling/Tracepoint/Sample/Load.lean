import Tracepoint.FileTree
import Tracepoint.Log.Event
import Tracepoint.Sample.Reading
import Tracepoint.Toml.Document
/-!
Loading a sample context from a document or from the bytes of a file.  Why a text describes no
context is said by `explain`, in the words of whoever reads documents; nothing depends on them.
-/

namespace Tracepoint.Sample

/-- A text that is no document, or whose document describes no context. -/
structure InvalidText where
  path : String
  reason : String
  deriving DecidableEq, Repr

inductive LoadError
  | unreadable (path : String) (failure : ReadFailure)
  | invalid (text : InvalidText)
  deriving DecidableEq, Repr

def LoadError.message : LoadError → String
  | .unreadable path failure =>
    "CONTEXT_READ_ERROR: failed to read '" ++ path ++ "': " ++ failure.reason
  | .invalid text => "CONTEXT_INVALID: failed to parse '" ++ text.path ++ "': " ++ text.reason

namespace Context

/-- The context that a document describes; `path` tells where the document comes from. -/
def parse (path text : String) (explain : String → String := fun _ => "") :
    Except LoadError Context :=
  match (Toml.parse? text).bind ofEntries? with
  | some context => .ok context
  | none => .error (.invalid ⟨path, explain text⟩)

def loaded (path : String) (context : Context) : Log.Event :=
  .contextLoaded path context.frames.length context.expressions.length

def load (path : String) (content : Except ReadFailure ByteArray)
    (explain : String → String := fun _ => "") : Except LoadError Context :=
  match content with
  | .error failure => .error (.unreadable path failure)
  | .ok bytes =>
    match String.fromUTF8? bytes with
    | some text => parse path text explain
    | none => .error (.unreadable path .invalidText)

end Context

end Tracepoint.Sample
