import Tracepoint.Proofs.WellFormed
import Tracepoint.Sample.Preview
/-!
What a preview shows of a sample context.  Each part of a message is replaced on its own:
`render_eq`.  The standard keywords reach only so many frames, and an expression stands in the
template between its braces, so the rest of a context never shows.
-/

namespace Tracepoint.Sample

open Keyword (Table)
open Template (Part Reads Token compile)

namespace Context

variable {one other : Context} {field : Frame → String} {first last index count : Nat}

def partText (context : Context) : Part → String
  | .text content => content
  | .numbered kind argument => context.keywordValue kind (some argument)
  | .plain kind => context.keywordValue kind none
  | .expression source => context.expressionText source

def missing? (context : Context) : Part → Option Log.Event
  | .expression source =>
    if (context.expressions.lookup source).isSome then none
    else some (.valueMissing source)
  | _ => none

def SameField (field : Frame → String) (first last : Nat) (one other : Context) : Prop :=
  ∀ index, first ≤ index → index ≤ last → ∀ frame ∈ one.frames[index]?,
    ∀ otherFrame ∈ other.frames[index]?, field frame = field otherFrame

instance (field : Frame → String) (first last : Nat) (one other : Context) :
    Decidable (SameField field first last one other) :=
  Nat.decidableLoHiLe first last _

/-- Two contexts agree on what the standard keywords reach and on the expressions of a template. -/
structure AgreesFor (template : String) (one other : Context) : Prop where
  appDomainId : one.appDomainId = other.appDomainId
  breakpointAddress : one.breakpointAddress = other.breakpointAddress
  process : one.process = other.process
  thread : one.thread = other.thread
  depth : min one.frames.length 20 = min other.frames.length 20
  functions : SameField Frame.function 0 19 one other
  addresses : SameField Frame.address 0 4 one other
  modules : SameField Frame.module 1 5 one other
  offsets : SameField Frame.offset 1 5 one other
  tokens : SameField Frame.token 1 5 one other
  expressions : ∀ source : String, '}' ∉ source.toList →
    '{' :: source.toList ++ ['}'] <:+: template.toList →
    one.expressions.lookup source = other.expressions.lookup source

theorem writePart_eq (context : Context) (events : Array Log.Event) (out : String) (part : Part) :
    Preview.renderer.writePart (⟨context, events⟩, out) part =
      (⟨context, events ++ (context.missing? part).toArray⟩, out ++ context.partText part) := by
  cases part with
  | text | numbered | plain =>
    simp [Renderer.writePart, Preview.renderer, Preview.writeKeyword, missing?, partText]
  | expression source =>
    cases known : (context.expressions.lookup source).isSome <;>
      simp [Renderer.writePart, Preview.renderer, Preview.writeExpression, Preview.report, missing?,
        partText, known]

/-- A preview is what its parts are replaced by, one after the other. -/
theorem render_eq (context : Context) (parts : List Part) :
    context.render parts =
      (String.join (parts.map context.partText), parts.filterMap context.missing?) := by
  have folded (events : Array Log.Event) (out : String) :
      parts.foldl Preview.renderer.writePart (⟨context, events⟩, out) =
        (⟨context, events ++ (parts.filterMap context.missing?).toArray⟩,
          out ++ String.join (parts.map context.partText)) := by
    induction parts generalizing events out with
    | nil => simp
    | cons part parts ih =>
      rw [List.foldl_cons, writePart_eq, ih, List.map_cons, String.join_cons]
      cases reported : context.missing? part <;> simp [reported, String.append_assoc]
  simp [render, Renderer.render, folded]

theorem render_congr {parts : List Part}
    (texts : ∀ part ∈ parts, one.partText part = other.partText part)
    (missing : ∀ part ∈ parts, one.missing? part = other.missing? part) :
    one.render parts = other.render parts := by
  rw [render_eq, render_eq, List.map_congr_left texts, List.filterMap_congr missing]

section FirstFrames

variable (depth : min one.frames.length 20 = min other.frames.length 20)

include depth

theorem getElem?_frames_cases (inside : index < 20) :
    (∃ frame otherFrame, one.frames[index]? = some frame ∧
      other.frames[index]? = some otherFrame) ∨
    (one.frames[index]? = none ∧ other.frames[index]? = none) := by
  by_cases reached : index < one.frames.length
  · have otherReached : index < other.frames.length := by omega
    exact .inl ⟨_, _, List.getElem?_eq_getElem reached, List.getElem?_eq_getElem otherReached⟩
  · right
    rw [List.getElem?_eq_none_iff, List.getElem?_eq_none_iff]
    omega

theorem frameText_congr (same : SameField field first last one other) (fromFirst : first ≤ index)
    (toLast : index ≤ last) (inside : index < 20) :
    one.frameText index field = other.frameText index field := by
  rw [frameText, frameText]
  rcases getElem?_frames_cases depth inside with ⟨frame, otherFrame, here, there⟩ | ⟨here, there⟩
  · rw [here, there]
    exact same index fromFirst toLast frame here otherFrame there
  · rw [here, there]

theorem callStack_congr (same : SameField Frame.function 0 19 one other) (inside : count ≤ 20) :
    one.callStack count = other.callStack count := by
  have names : (one.frames.take count).map Frame.function =
      (other.frames.take count).map Frame.function := by
    apply List.ext_getElem?
    intro index
    rw [List.getElem?_map, List.getElem?_map, List.getElem?_take, List.getElem?_take]
    split
    case isTrue taken =>
      rcases getElem?_frames_cases depth (show index < 20 by omega) with
        ⟨frame, otherFrame, here, there⟩ | ⟨here, there⟩
      · rw [here, there, Option.map_some, Option.map_some]
        exact congrArg some
          (same index (by omega) (by omega) frame here otherFrame there)
      · rw [here, there]
    case isFalse => rfl
  rw [callStack, callStack, names]

end FirstFrames

end Context

theorem standard_argument : ∀ keyword ∈ Table.standard.keywords,
    1 ≤ (keyword.argument.getD 1).toNat ∧
      (keyword.argument.getD 1).toNat ≤ if keyword.kind = .callStack then 20 else 5 := by
  decide

namespace Context

variable {one other : Context} {template : String}

theorem AgreesFor.keywordValue (agree : AgreesFor template one other) {kind : Kind}
    {argument : Option UInt32} (positive : 1 ≤ (argument.getD 1).toNat)
    (reach : (argument.getD 1).toNat ≤ if kind = .callStack then 20 else 5) :
    one.keywordValue kind argument = other.keywordValue kind argument := by
  by_cases stack : kind = .callStack
  · rw [if_pos stack] at reach
    rw [stack]
    exact callStack_congr agree.depth agree.functions reach
  · rw [if_neg stack] at reach
    cases kind with
    | address => exact frameText_congr agree.depth agree.addresses (by omega) (by omega) (by omega)
    | function => exact frameText_congr agree.depth agree.functions (by omega) (by omega) (by omega)
    | caller => exact frameText_congr agree.depth agree.functions (by omega) (by omega) (by omega)
    | callerModule => exact frameText_congr agree.depth agree.modules positive reach (by omega)
    | callerOffset => exact frameText_congr agree.depth agree.offsets positive reach (by omega)
    | callerToken => exact frameText_congr agree.depth agree.tokens positive reach (by omega)
    | callStack => exact absurd rfl stack
    | _ => simp [Context.keywordValue, agree.appDomainId, agree.breakpointAddress, agree.process,
        agree.thread]

theorem partText_ofKeyword (context : Context) (keyword : Keyword) :
    context.partText (.ofKeyword keyword) = context.keywordValue keyword.kind keyword.argument := by
  cases argument : keyword.argument <;> simp [Part.ofKeyword, argument, partText]

end Context

theorem expression_written {table : Table} {template source : String}
    (member : .expression source ∈ (compile table template).parts) :
    '}' ∉ source.toList ∧ '{' :: source.toList ++ ['}'] <:+: template.toList := by
  rcases Template.compile_reads table template with ⟨read, reading, parts, -⟩
  rw [parts] at member
  refine ⟨reading.wellFormed.sources source member, ?_⟩
  rcases List.append_of_mem (Template.expression_mem_assemble_iff.mp member) with
    ⟨before, after, rfl⟩
  refine ⟨before.flatMap Token.source, after.flatMap Token.source, ?_⟩
  rw [reading.source_append]
  simp [Token.source]

namespace Context

variable {one other : Context}

/-- Contexts that agree on what a template can show make the same of it, reports included. -/
theorem render_eq_of_agreesFor {template : String} (agree : AgreesFor template one other) :
    one.render (compile .standard template).parts =
      other.render (compile .standard template).parts := by
  have values : ∀ part ∈ (compile .standard template).parts,
      one.partText part = other.partText part ∧ one.missing? part = other.missing? part := by
    intro part member
    cases part with
    | text => exact ⟨rfl, rfl⟩
    | expression source =>
      have same := agree.expressions source (expression_written member).1
        (expression_written member).2
      simp only [partText, expressionText, missing?, same, and_self]
    | numbered | plain =>
      rcases Template.compile_reads .standard template with ⟨read, reading, parts, -⟩
      rw [parts] at member
      rcases reading.exists_keyword member rfl (by simp) with ⟨found, known, same⟩
      have reach := standard_argument found known
      refine ⟨?_, rfl⟩
      rw [← same, partText_ofKeyword, partText_ofKeyword]
      exact agree.keywordValue reach.1 reach.2
  apply render_congr
  · intro part member
    exact (values part member).1
  · intro part member
    exact (values part member).2

def shallow : Context where
  frames := List.replicate 20 ⟨"run", "m", "a", "o", "t"⟩
  expressions := [("x", "2")]

/-- The same with other fields where no keyword reads them, a frame more, and two more expressions
of which one holds a brace. -/
def deep : Context where
  frames :=
    ⟨"run", "", "a", "", ""⟩ :: List.replicate 5 ⟨"run", "m", "a", "o", "t"⟩ ++
      List.replicate 14 ⟨"run", "", "", "", ""⟩ ++ [⟨"main", "", "", "", ""⟩]
  expressions := [("a\x7db", "1"), ("x", "2"), ("y", "3")]

theorem deep_agreesFor : AgreesFor "$CALLSTACK $CALLERTOKEN5 \x7bx\x7d y\x7d" shallow deep where
  appDomainId := rfl
  breakpointAddress := rfl
  process := rfl
  thread := rfl
  depth := by decide
  functions := by decide
  addresses := by decide
  modules := by decide
  offsets := by decide
  tokens := by decide
  expressions := by
    intro source unclosed inside
    have whole : (source == "a\x7db") = false := by
      rw [beq_eq_false_iff_ne]
      rintro rfl
      exact absurd unclosed (by decide)
    have mentioned : (source == "y") = false := by
      rw [beq_eq_false_iff_ne]
      rintro rfl
      simp [List.infix_cons_iff] at inside
    simp [shallow, deep, List.lookup_cons, whole, mentioned]

theorem deep_render :
    AgreesFor "$CALLSTACK $CALLERTOKEN5 \x7bx\x7d y\x7d" shallow deep ∧
      shallow.render (compile .standard "$CALLSTACK $CALLERTOKEN5 \x7bx\x7d y\x7d").parts =
        deep.render (compile .standard "$CALLSTACK $CALLERTOKEN5 \x7bx\x7d y\x7d").parts :=
  ⟨deep_agreesFor, render_eq_of_agreesFor deep_agreesFor⟩

end Context

end Tracepoint.Sample
