import Tracepoint.Sample.Preview
/-!
The frames that keywords read.  Functions and addresses number the frames from one, callers number
them from the frame below the innermost.  A value comes from one frame alone, or says which frame is
missing; a call stack lists the functions with the numbers from one on, as far as there are frames.
-/

namespace Tracepoint.Sample

def Preview.added (preview : Preview) (kind : Kind) (argument : Option UInt32) : String :=
  (Preview.renderer.writeKeyword kind argument (preview, "")).2

theorem Preview.added_eq (preview : Preview) (kind : Kind) (argument : Option UInt32) :
    preview.added kind argument = preview.context.keywordValue kind argument :=
  String.empty_append

/-- The index of the frame, and the field of it, that a kind reads with a number. -/
inductive ReadsFrame (n : UInt32) : Kind → Nat → (Frame → String) → Prop
  | address : ReadsFrame n .address (max n.toNat 1 - 1) Frame.address
  | function : ReadsFrame n .function (max n.toNat 1 - 1) Frame.function
  | caller : ReadsFrame n .caller n.toNat Frame.function
  | callerModule : ReadsFrame n .callerModule n.toNat Frame.module
  | callerOffset : ReadsFrame n .callerOffset n.toNat Frame.offset
  | callerToken : ReadsFrame n .callerToken n.toNat Frame.token

/-- How the values of the frame keywords with a number go together in a preview. -/
structure FramesNumbered (preview : Preview) (n : UInt32) : Prop where
  appends : ∀ kind argument out,
    Preview.renderer.writeKeyword kind argument (preview, out) =
      (preview, out ++ preview.added kind argument)
  caller : n.toNat < UInt32.size - 1 →
    preview.added .caller (some n) = preview.added .function (some (n + 1))
  present : ∀ kind index field, ReadsFrame n kind index field →
    ∀ frame, preview.context.frames[index]? = some frame →
      preview.added kind (some n) = field frame
  missing : ∀ kind index field, ReadsFrame n kind index field →
    preview.context.frames.length ≤ index →
      preview.added kind (some n) = "<no frame " ++ index.repr ++ ">"
  alone : ∀ kind index field, ReadsFrame n kind index field →
    ∀ other : Preview, other.context.frames[index]? = preview.context.frames[index]? →
      other.added kind (some n) = preview.added kind (some n)
  callStack : preview.added .callStack (some n) =
    "\n".intercalate ((List.range (min n.toNat preview.context.frames.length)).map fun index =>
      preview.added .function (some (UInt32.ofNat (index + 1))))
  stacked : ∀ index < min n.toNat preview.context.frames.length,
    ∃ frame, preview.context.frames[index]? = some frame ∧
      preview.added .function (some (UInt32.ofNat (index + 1))) = frame.function
  unnumbered : ∀ kind, preview.added kind none = preview.added kind (some 1)

namespace Context

variable {context : Context} {kind : Kind} {n : UInt32} {index : Nat} {field : Frame → String}

theorem keywordValue_of_readsFrame (reads : ReadsFrame n kind index field) :
    context.keywordValue kind (some n) = context.frameText index field := by
  cases reads with
  | address | function =>
    have same : max n.toNat 1 - 1 = n.toNat - 1 := by omega
    rw [same]
    rfl
  | caller | callerModule | callerOffset | callerToken => rfl

theorem frameText_of_frame {frame : Frame} (present : context.frames[index]? = some frame) :
    context.frameText index field = field frame := by
  rw [frameText, present]

theorem frameText_of_length_le (missing : context.frames.length ≤ index) :
    context.frameText index field = "<no frame " ++ index.repr ++ ">" := by
  rw [frameText, List.getElem?_eq_none missing]

theorem function_of_lt (within : index < min n.toNat context.frames.length) :
    ∃ frame, context.frames[index]? = some frame ∧
      context.keywordValue .function (some (UInt32.ofNat (index + 1))) = frame.function := by
  have number : (UInt32.ofNat (index + 1)).toNat = index + 1 := by
    apply UInt32.toNat_ofNat_of_lt
    have bound := n.toNat_lt_size
    omega
  have place : max (UInt32.ofNat (index + 1)).toNat 1 - 1 = index := by omega
  have present : context.frames[index]? = some context.frames[index] :=
    List.getElem?_eq_getElem (by omega)
  refine ⟨_, present, ?_⟩
  rw [keywordValue_of_readsFrame .function, place, frameText_of_frame present]

theorem caller_eq_function (inRange : n.toNat < UInt32.size - 1) :
    context.keywordValue .caller (some n) = context.keywordValue .function (some (n + 1)) := by
  have number : (n + 1).toNat = n.toNat + 1 := by
    rw [UInt32.toNat_add]
    apply Nat.mod_eq_of_lt
    exact Nat.add_lt_of_lt_sub inRange
  have place : max (n + 1).toNat 1 - 1 = n.toNat := by omega
  rw [keywordValue_of_readsFrame .caller, keywordValue_of_readsFrame .function, place]

theorem callStack_eq_functions (context : Context) (n : UInt32) :
    context.keywordValue .callStack (some n) =
      "\n".intercalate ((List.range (min n.toNat context.frames.length)).map fun index =>
        context.keywordValue .function (some (UInt32.ofNat (index + 1)))) := by
  have names : (context.frames.take n.toNat).map Frame.function =
      (List.range (min n.toNat context.frames.length)).map fun index =>
        context.keywordValue .function (some (UInt32.ofNat (index + 1))) := by
    apply List.ext_getElem
    · simp
    · intro index taken listed
      have within : index < min n.toNat context.frames.length := by simpa using listed
      obtain ⟨frame, present, value⟩ := function_of_lt within
      obtain ⟨_, same⟩ := List.getElem?_eq_some_iff.mp present
      rw [List.getElem_map, List.getElem_take, List.getElem_map, List.getElem_range, value, same]
  calc
    context.keywordValue .callStack (some n) =
        "\n".intercalate ((context.frames.take n.toNat).map Frame.function) := rfl
    _ = _ := by rw [names]

end Context

/-- The frame keywords count the same frames, each in its own way. -/
theorem framesNumbered (preview : Preview) (n : UInt32) : FramesNumbered preview n where
  appends kind argument out := by
    rw [Preview.added_eq]
    rfl
  caller inRange := by
    rw [Preview.added_eq, Preview.added_eq, Context.caller_eq_function inRange]
  present kind index field reads frame present := by
    rw [Preview.added_eq, Context.keywordValue_of_readsFrame reads,
      Context.frameText_of_frame present]
  missing kind index field reads missing := by
    rw [Preview.added_eq, Context.keywordValue_of_readsFrame reads,
      Context.frameText_of_length_le missing]
  alone kind index field reads other same := by
    rw [Preview.added_eq, Preview.added_eq, Context.keywordValue_of_readsFrame reads,
      Context.keywordValue_of_readsFrame reads, Context.frameText, Context.frameText, same]
  callStack := by
    simp only [Preview.added_eq]
    exact Context.callStack_eq_functions preview.context n
  stacked index within := by
    rw [Preview.added_eq]
    exact Context.function_of_lt within
  unnumbered kind := by
    rw [Preview.added_eq, Preview.added_eq]
    rfl

end Tracepoint.Sample
