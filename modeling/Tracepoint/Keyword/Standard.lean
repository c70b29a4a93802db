import Tracepoint.Keyword.Table
/-!
The standard keywords: families that name a stack frame, call stacks of several depths, and single
values of the debugged program.
-/

namespace Tracepoint.Keyword

structure FrameFamily where
  name : String
  kind : Kind
  description : String

namespace FrameFamily

/-- `NAME1` to `NAME5`, then the bare name for frame 1. -/
def keywords (family : FrameFamily) : List Keyword :=
  let numbered := ([1, 2, 3, 4, 5] : List UInt32).map fun frame =>
    ⟨family.name ++ frame.toNat.repr, family.kind, some frame,
      family.description ++ " " ++ frame.toNat.repr⟩
  let bare := ⟨family.name, family.kind, some 1,
    family.description ++ " 1 (same as $" ++ family.name ++ "1)"⟩
  numbered ++ [bare]

end FrameFamily

def frameFamilies : List FrameFamily :=
  [⟨"ADDRESS", .address, "Instruction address of frame"⟩,
    ⟨"CALLERMODULE", .callerModule, "Module of the calling function at depth"⟩,
    ⟨"CALLEROFFSET", .callerOffset, "IL offset in the calling function at depth"⟩,
    ⟨"CALLERTOKEN", .callerToken, "Metadata token of the calling function at depth"⟩,
    ⟨"CALLER", .caller, "Name of the calling function at depth"⟩,
    ⟨"FUNCTION", .function, "Name of the function in frame"⟩]

def callStack (name : String) (frames : UInt32) : Keyword :=
  ⟨name, .callStack, some frames, "Call stack, at most " ++ frames.toNat.repr ++ " frames"⟩

def callStacks : List Keyword :=
  [callStack "CALLSTACK5" 5, callStack "CALLSTACK10" 10, callStack "CALLSTACK" 20]

def singles : List Keyword :=
  [⟨"ADID", .appDomainId, none, "AppDomain id"⟩,
    ⟨"BPADDR", .breakpointAddress, none, "Breakpoint address"⟩,
    ⟨"MID", .managedId, none, "Managed thread id"⟩,
    ⟨"PID", .processId, none, "Process id"⟩,
    ⟨"PNAME", .processName, none, "Process name"⟩,
    ⟨"TID", .threadId, none, "Thread id"⟩,
    ⟨"TNAME", .threadName, none, "Thread name"⟩]

def standardKeywords : List Keyword :=
  frameFamilies.flatMap FrameFamily.keywords ++ callStacks ++ singles

def Table.standard : Table := .ofKeywords standardKeywords

end Tracepoint.Keyword
