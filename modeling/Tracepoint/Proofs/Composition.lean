import Tracepoint.Proofs.FrameNumbers
import Tracepoint.Proofs.Preview
import Tracepoint.Proofs.TokenBorder
import Tracepoint.Render.Observer
/-!
A preview is made piece by piece.  A context answers a request in the same way wherever it stands in
the message, its texts go into the output as they are, and where a template is cut between two
tokens the two sides are shown one after the other, whether or not the cut divides a text.
-/

namespace Tracepoint.Sample

open Keyword (Table)
open Render (Request)
open Template (Part TokenBorder compile fuse)

namespace Context

variable {context : Context} {part : Part} {request : Request} {value : String}

def answer (context : Context) : Request → String
  | .keyword kind argument => context.keywordValue kind argument
  | .expression source => context.expressionText source

/-- A part shows a text that the context holds. -/
inductive Shows (context : Context) : Part → String → Prop
  | breakpointAddress : Shows context (.plain .breakpointAddress) context.breakpointAddress
  | processName : Shows context (.plain .processName) context.process.name
  | threadName : Shows context (.plain .threadName) context.thread.name
  | frame {n : UInt32} {kind : Kind} {index : Nat} {field : Frame → String} {frame : Frame}
    (reads : ReadsFrame n kind index field) (present : context.frames[index]? = some frame) :
    Shows context (.numbered kind n) (field frame)
  | callStack {n : UInt32} :
    Shows context (.numbered .callStack n)
      ("\n".intercalate ((context.frames.take n.toNat).map Frame.function))
  | expression {source value : String}
    (known : context.expressions.lookup source = some value) :
    Shows context (.expression source) value

theorem partText_of_request (asked : part.request? = some request) :
    context.partText part = context.answer request := by
  cases part <;> cases asked <;> rfl

theorem exists_request (request : Request) : ∃ part : Part, part.request? = some request := by
  cases request with
  | keyword kind argument =>
    cases argument with
    | none => exact ⟨.plain kind, rfl⟩
    | some argument => exact ⟨.numbered kind argument, rfl⟩
  | expression source => exact ⟨.expression source, rfl⟩

/-- The output and the events so far have no say in an answer. -/
theorem answer_eq (context : Context) (request : Request) :
    ∃ reported, ∀ events out,
      Preview.renderer.answer request (⟨context, events⟩, out) =
        (⟨context, events ++ reported⟩, out ++ context.answer request) := by
  obtain ⟨part, asked⟩ := exists_request request
  refine ⟨(context.missing? part).toArray, fun events out => ?_⟩
  rw [← Preview.renderer.writePart_request asked, writePart_eq, partText_of_request asked]

theorem partText_of_shows (shown : context.Shows part value) : context.partText part = value := by
  cases shown with
  | breakpointAddress | processName | threadName | callStack => rfl
  | frame reads present =>
    rw [partText, keywordValue_of_readsFrame reads, frameText_of_frame present]
  | expression known =>
    rw [partText, expressionText, known]
    rfl

theorem render_cons (context : Context) (part : Part) (parts : List Part) :
    context.render (part :: parts) =
      (context.partText part ++ (context.render parts).1,
        (context.missing? part).toList ++ (context.render parts).2) := by
  rw [render_eq, render_eq, List.map_cons, String.join_cons]
  cases reported : context.missing? part <;> simp [reported]

theorem render_append (context : Context) (front back : List Part) :
    context.render (front ++ back) =
      ((context.render front).1 ++ (context.render back).1,
        (context.render front).2 ++ (context.render back).2) := by
  induction front with
  | nil => simp [render_eq]
  | cons part front ih =>
    rw [List.cons_append, render_cons, ih, render_cons]
    simp only [String.append_assoc, List.append_assoc]

theorem render_joinTo (context : Context) (part : Part) (parts : List Part) :
    context.render (part.joinTo parts) = context.render (part :: parts) := by
  rcases part.joinTo_cases parts with ⟨front, back, others, rfl, rfl, joined⟩ | ⟨-, joined⟩
  · rw [joined, render_cons, render_cons, render_cons]
    simp [partText, missing?, String.append_assoc]
  · rw [joined]

theorem render_fuse (context : Context) (front back : List Part) :
    context.render (fuse front back) = context.render (front ++ back) := by
  fun_induction fuse front back with
  | case1 back => rfl
  | case2 last back => exact render_joinTo context last back
  | case3 first next front back ih =>
    rw [List.cons_append, render_cons, ih, ← render_cons]

theorem render_state (context : Context) (parts : List Part) :
    (Preview.renderer.render parts { context }).1.context = context := by
  have kept (before : Preview × String) (here : before.1.context = context) :
      (parts.foldl Preview.renderer.writePart before).1.context = context := by
    induction parts generalizing before with
    | nil => exact here
    | cons part parts ih =>
      apply ih
      obtain ⟨⟨held, events⟩, out⟩ := before
      rw [writePart_eq]
      exact here
  exact kept _ rfl

/-- What a template shows is what its parts show, piece by piece and each as it stands. -/
theorem render_composes {table : Table} (accepted : table.Accepted) (context : Context) :
    (∀ request, ∃ reported, ∀ events out,
      Preview.renderer.answer request (⟨context, events⟩, out) =
        (⟨context, events ++ reported⟩, out ++ context.answer request)) ∧
    (∀ template,
      let parts := (compile table template).parts
      (Preview.renderer.render parts { context }).1.context = context ∧
        (context.render parts).1 = String.join (parts.map context.partText) ∧
        (∀ part ∈ parts, ∀ request, part.request? = some request →
          context.partText part = context.answer request) ∧
        ∀ front part back value, parts = front ++ part :: back → context.Shows part value →
          (context.render parts).1 =
            (context.render front).1 ++ value ++ (context.render back).1) ∧
    ∀ front back : String, TokenBorder table (front ++ back).toList front.utf8ByteSize →
      context.render (compile table (front ++ back)).parts =
        ((context.render (compile table front).parts).1 ++
            (context.render (compile table back).parts).1,
          (context.render (compile table front).parts).2 ++
            (context.render (compile table back).parts).2) := by
  refine ⟨context.answer_eq, ?_, ?_⟩
  · intro template parts
    refine ⟨context.render_state parts, ?_, fun _ _ _ => partText_of_request, ?_⟩
    · rw [render_eq]
    · intro front part back value cut shown
      rw [cut, render_append, render_cons, partText_of_shows shown, String.append_assoc]
  · intro front back border
    rw [String.toList_append, ← Text.byteLength_toList] at border
    obtain ⟨ahead, reading⟩ := (Template.tokenBorder_iff accepted).mp border
    rw [← String.toList_append] at reading
    rw [Template.compile_append_of_reads accepted reading, render_fuse, render_append]

/-- A context with a value that looks like a keyword and half an escape. -/
def misleading : Context where
  expressions := [("x", "$TID\\")]

theorem misleading_composes :
    Table.standard.Accepted ∧
      TokenBorder .standard ("\x7b$TID a" ++ "b \x7b$CALLER1").toList "\x7b$TID a".utf8ByteSize ∧
      (misleading.render (compile .standard ("\x7b$TID a" ++ "b \x7b$CALLER1")).parts).1 =
        (misleading.render (compile .standard "\x7b$TID a").parts).1 ++
          (misleading.render (compile .standard "b \x7b$CALLER1").parts).1 ∧
      (misleading.render (compile .standard "\x7bx\x7d").parts).1 = "$TID\\" := by
  obtain ⟨-, pieces, composed⟩ := render_composes Table.standard_accepted misleading
  have border := Template.standard_tokenBorder
  have reading : Template.Reads .standard "\x7bx\x7d".toList [.expression "x".toList] [] :=
    .next (.expression (by decide) rfl) .done
  have parts : (compile .standard "\x7bx\x7d").parts = [] ++ .expression "x" :: [] :=
    Template.compile_of_reads Table.standard_accepted reading
  refine ⟨Table.standard_accepted, border, congrArg Prod.fst (composed _ _ border), ?_⟩
  exact (pieces "\x7bx\x7d").2.2.2 [] (.expression "x") [] "$TID\\" parts (.expression rfl)

end Context

end Tracepoint.Sample
