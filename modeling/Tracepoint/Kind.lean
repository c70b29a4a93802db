/-!
The kinds of instruction that a compiled message is made of: literal text, evaluated expressions,
and the values that keywords stand for.
-/

namespace Tracepoint

inductive Kind
  | text
  | address
  | appDomainId
  | breakpointAddress
  | caller
  | callerModule
  | callerOffset
  | callerToken
  | callStack
  | function
  | managedId
  | processId
  | processName
  | threadId
  | threadName
  | evaluatedExpression
  deriving DecidableEq, Repr, Inhabited

namespace Kind

def all : List Kind :=
  [.text, .address, .appDomainId, .breakpointAddress, .caller, .callerModule, .callerOffset,
    .callerToken, .callStack, .function, .managedId, .processId, .processName, .threadId,
    .threadName, .evaluatedExpression]

def name : Kind → String
  | .text => "WriteText"
  | .address => "WriteAddress"
  | .appDomainId => "WriteAppDomainId"
  | .breakpointAddress => "WriteBreakpointAddress"
  | .caller => "WriteCaller"
  | .callerModule => "WriteCallerModule"
  | .callerOffset => "WriteCallerOffset"
  | .callerToken => "WriteCallerToken"
  | .callStack => "WriteCallStack"
  | .function => "WriteFunction"
  | .managedId => "WriteManagedId"
  | .processId => "WriteProcessId"
  | .processName => "WriteProcessName"
  | .threadId => "WriteThreadId"
  | .threadName => "WriteThreadName"
  | .evaluatedExpression => "WriteEvaluatedExpression"

def ofName? (name : String) : Option Kind := all.find? (·.name == name)

def takesArgument : Kind → Bool
  | .address | .caller | .callerModule | .callerOffset | .callerToken | .callStack | .function =>
    true
  | _ => false

/-- Whether a keyword may stand for this kind.  Text and expressions have a notation of their own
in templates. -/
def isKeyword : Kind → Bool
  | .text | .evaluatedExpression => false
  | _ => true

theorem mem_all (kind : Kind) : kind ∈ all := by cases kind <;> decide

end Kind

end Tracepoint
