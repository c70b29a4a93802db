import Tracepoint.Sample.Expressions
import Tracepoint.Kind
/-!
Sample contexts: a stand-in for a stopped program, from which a message can be rendered without
one.  `keywordValue` and `expressionText` say what each part of a message is replaced by.
-/

namespace Tracepoint.Sample

structure Process where
  id : UInt32 := 0
  name : String := ""
  deriving DecidableEq, Repr, Inhabited

structure Thread where
  id : UInt32 := 0
  name : String := ""
  managedId : UInt32 := 0
  deriving DecidableEq, Repr, Inhabited

structure Frame where
  function : String
  module : String := ""
  address : String := ""
  offset : String := ""
  token : String := ""
  deriving DecidableEq, Repr, Inhabited

structure Context where
  appDomainId : UInt32 := 0
  breakpointAddress : String := ""
  process : Process := {}
  thread : Thread := {}
  /-- The innermost frame first. -/
  frames : List Frame := []
  expressions : Expressions := []
  deriving DecidableEq, Repr, Inhabited

namespace Context

def pushFrame (frame : Frame) (context : Context) : Context :=
  { context with frames := context.frames ++ [frame] }

def truncateFrames (count : Nat) (context : Context) : Context :=
  { context with frames := context.frames.take count }

def setExpression (source value : String) (context : Context) : Context :=
  { context with expressions := context.expressions.set source value }

def removeExpression (source : String) (context : Context) : Context :=
  { context with expressions := context.expressions.remove source }

def frameText (context : Context) (index : Nat) (field : Frame → String) : String :=
  match context.frames[index]? with
  | some frame => field frame
  | none => "<no frame " ++ index.repr ++ ">"

def callStack (context : Context) (count : Nat) : String :=
  "\n".intercalate ((context.frames.take count).map (·.function))

/-- The value of a keyword.  Functions and addresses count frames from one, callers count them from
the frame below the innermost; an absent argument means one. -/
def keywordValue (context : Context) (kind : Kind) (argument : Option UInt32) : String :=
  let n := (argument.getD 1).toNat
  match kind with
  | .address => context.frameText (n - 1) (·.address)
  | .function => context.frameText (n - 1) (·.function)
  | .caller => context.frameText n (·.function)
  | .callerModule => context.frameText n (·.module)
  | .callerOffset => context.frameText n (·.offset)
  | .callerToken => context.frameText n (·.token)
  | .callStack => context.callStack n
  | .appDomainId => context.appDomainId.toNat.repr
  | .breakpointAddress => context.breakpointAddress
  | .managedId => context.thread.managedId.toNat.repr
  | .processId => context.process.id.toNat.repr
  | .processName => context.process.name
  | .threadId => context.thread.id.toNat.repr
  | .threadName => context.thread.name
  | .text | .evaluatedExpression => ""

def expressionText (context : Context) (source : String) : String :=
  (context.expressions.lookup source).getD ("<unknown expression: " ++ source ++ ">")

end Context

end Tracepoint.Sample
