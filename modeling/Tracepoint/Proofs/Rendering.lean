import Mathlib.Algebra.Ring.Nat
import Tracepoint.Proofs.Legend
import Tracepoint.Proofs.WellFormed
import Tracepoint.Render.Observer
import Tracepoint.Render.Recorder
/-!
What a rendering asks of its renderer.  A renderer may do what it likes with its state and with the
output; the rendering calls it once for each part that is no text, hands the state and the output
on as they are left, and adds the texts in between.
-/

namespace Tracepoint.Text

/-- A text without the characters that begin within one of the spans of byte offsets. -/
def cutOut (spans : List (Nat × Nat)) : Nat → List Char → List Char
  | _, [] => []
  | offset, c :: text =>
    if spans.any fun span => span.1 ≤ offset && offset < span.2 then
      cutOut spans (offset + c.utf8Size) text
    else c :: cutOut spans (offset + c.utf8Size) text

variable {spans : List (Nat × Nat)} {offset : Nat} {text : List Char}

theorem cutOut_append (spans : List (Nat × Nat)) (offset : Nat) (front back : List Char) :
    cutOut spans offset (front ++ back) =
      cutOut spans offset front ++ cutOut spans (offset + byteLength front) back := by
  induction front generalizing offset with
  | nil => rfl
  | cons c front ih =>
    rw [List.cons_append, cutOut, cutOut, ih, byteLength_cons, Nat.add_assoc]
    split <;> rfl

theorem cutOut_inside {span : Nat × Nat} (member : span ∈ spans) (begins : span.1 ≤ offset)
    (ends : offset + byteLength text ≤ span.2) : cutOut spans offset text = [] := by
  induction text generalizing offset with
  | nil => rfl
  | cons c text ih =>
    rw [byteLength_cons] at ends
    have positive := c.utf8Size_pos
    have covered : (spans.any fun span => span.1 ≤ offset && offset < span.2) = true := by
      rw [List.any_eq_true]
      exact ⟨span, member, by simp only [Bool.and_eq_true, decide_eq_true_eq]; omega⟩
    rw [cutOut, if_pos covered]
    exact ih (by omega) (by omega)

theorem cutOut_outside
    (apart : ∀ span ∈ spans, span.2 ≤ offset ∨ offset + byteLength text ≤ span.1) :
    cutOut spans offset text = text := by
  induction text generalizing offset with
  | nil => rfl
  | cons c text ih =>
    simp only [byteLength_cons] at apart
    have positive := c.utf8Size_pos
    have uncovered : ¬ (spans.any fun span => span.1 ≤ offset && offset < span.2) = true := by
      rw [List.any_eq_true]
      rintro ⟨span, member, covers⟩
      simp only [Bool.and_eq_true, decide_eq_true_eq] at covers
      rcases apart span member with before | behind <;> omega
    rw [cutOut, if_neg uncovered, ih]
    intro span member
    rcases apart span member with before | behind
    · exact .inl (by omega)
    · exact .inr (by omega)

theorem utf8ByteSize_append (front back : String) :
    (front ++ back).utf8ByteSize = front.utf8ByteSize + byteLength back.toList := by
  rw [String.utf8ByteSize_append, byteLength_toList]

end Tracepoint.Text

namespace Tracepoint

open Keyword (Table)
open Render (Request Exchange)
open Template (Part compile)

variable {σ : Type} {renderer : Renderer σ} {now final : σ × String} {parts : List Part}
  {calls : List (Exchange σ)} {table : Table}

namespace Renderer

/-- A rendering as a session.  A text is added to the output; for another part the renderer is
called with the state and the output as they are, and what it leaves is handed on. -/
inductive Session (renderer : Renderer σ) :
    σ × String → List Part → List (Exchange σ) → σ × String → Prop
  | done {now : σ × String} : Session renderer now [] [] now
  | text {now final : σ × String} {content : String} {parts : List Part}
    {calls : List (Exchange σ)}
    (others : Session renderer (now.1, now.2 ++ content) parts calls final) :
    Session renderer now (.text content :: parts) calls final
  | call {now final : σ × String} {part : Part} {request : Request} {parts : List Part}
    {calls : List (Exchange σ)} (asked : part.request? = some request)
    (others : Session renderer (renderer.answer request now) parts calls final) :
    Session renderer now (part :: parts) (⟨request, now, renderer.answer request now⟩ :: calls)
      final

def AppendsOnly (renderer : Renderer σ) : Prop :=
  ∀ request before, ∃ piece, (renderer.answer request before).2 = before.2 ++ piece

end Renderer

def Template.Part.literal : Part → List Char
  | .text content => content.toList
  | _ => []

theorem Template.Part.literal_of_request? {part : Part} {request : Request}
    (asked : part.request? = some request) : part.literal = [] := by
  cases part <;> cases asked <;> rfl

namespace Render

def Exchange.span (call : Exchange σ) : Nat × Nat :=
  (call.before.2.utf8ByteSize, call.after.2.utf8ByteSize)

def Exchange.growth (call : Exchange σ) : Nat := call.span.2 - call.span.1

def Request.isKeyword : Request → Bool
  | .keyword .. => true
  | .expression _ => false

def Request.ofKeyword (keyword : Keyword) : Request := .keyword keyword.kind keyword.argument

/-- What a renderer can rely on: a keyword of the table, of a kind that keywords stand for, with an
argument where the kind takes one; or an expression that its first closing brace has ended. -/
inductive Request.Sound (table : Table) : Request → Prop
  | keyword {found : Keyword} (member : found ∈ table.keywords)
    (kind : found.kind.isKeyword = true)
    (argument : found.argument.isSome = found.kind.takesArgument) :
    Sound table (.ofKeyword found)
  | expression {source : String} (unclosed : '}' ∉ source.toList) :
    Sound table (.expression source)

end Render

namespace Renderer

theorem observed_session (renderer : Renderer σ) (parts : List Part) (now : σ × String)
    (heard : List (Exchange σ)) :
    ∃ calls, renderer.Session now parts calls (parts.foldl renderer.writePart now) ∧
      parts.foldl renderer.observed.writePart ((now.1, heard), now.2) =
        (((parts.foldl renderer.writePart now).1, heard ++ calls),
          (parts.foldl renderer.writePart now).2) := by
-- The calls heard so far vary in the induction: each request adds one to them.
  induction parts generalizing now heard with
  | nil => exact ⟨[], .done, by simp⟩
  | cons part parts ih =>
    rw [List.foldl_cons, List.foldl_cons]
    cases asked : part.request? with
    | none =>
      cases part with
      | text content =>
        rcases ih (now.1, now.2 ++ content) heard with ⟨calls, session, same⟩
        exact ⟨calls, .text session, same⟩
      | _ => cases asked
    | some request =>
      let call : Exchange σ := ⟨request, now, renderer.answer request now⟩
      rcases ih (renderer.answer request now) (heard ++ [call]) with ⟨calls, session, same⟩
      rw [writePart_request _ asked, writePart_request _ asked, observed_answer]
      refine ⟨call :: calls, .call asked session, ?_⟩
      rw [List.append_assoc] at same
      exact same

namespace Session

theorem requests (session : renderer.Session now parts calls final) :
    calls.map Exchange.request = parts.filterMap Part.request? := by
  induction session with
  | done => rfl
  | text _ ih => rw [List.filterMap_cons_none (by rfl), ih]
  | call asked _ ih => rw [List.map_cons, List.filterMap_cons_some asked, ih]

section AppendsOnly

variable (appends : renderer.AppendsOnly)

include appends

theorem size_le (session : renderer.Session now parts calls final) :
    ∀ call ∈ calls, now.2.utf8ByteSize ≤ call.before.2.utf8ByteSize := by
  induction session with
  | done => simp
  | text _ ih =>
    intro call member
    have later := ih call member
    rw [String.utf8ByteSize_append] at later
    omega
  | @call now _ _ request _ _ _ _ ih =>
    rw [List.forall_mem_cons]
    refine ⟨Nat.le_refl _, ?_⟩
    intro call member
    have later := ih call member
    rcases appends request now with ⟨piece, added⟩
    rw [added, String.utf8ByteSize_append] at later
    omega

theorem cutOut_text {content : String}
    (others : renderer.Session (now.1, now.2 ++ content) parts calls final)
    {earlier : List (Nat × Nat)} (past : ∀ span ∈ earlier, span.2 ≤ now.2.utf8ByteSize) :
    Text.cutOut (earlier ++ calls.map Exchange.span) now.2.utf8ByteSize content.toList =
      content.toList := by
  apply Text.cutOut_outside
  intro span member
  rcases List.mem_append.mp member with old | new
  · exact .inl (past span old)
  · rcases List.mem_map.mp new with ⟨call, inside, rfl⟩
    have later := others.size_le appends call inside
    rw [Text.utf8ByteSize_append] at later
    exact .inr later

theorem cutOut_eq (session : renderer.Session now parts calls final)
    (earlier : List (Nat × Nat)) (past : ∀ span ∈ earlier, span.2 ≤ now.2.utf8ByteSize) :
    ∃ added, final.2.toList = now.2.toList ++ added ∧
      Text.cutOut (earlier ++ calls.map Exchange.span) now.2.utf8ByteSize added =
        parts.flatMap Part.literal := by
  -- The spans of the calls so far are carried along: they end before the output that is to come.
  induction session generalizing earlier with
  | done => exact ⟨[], by simp, rfl⟩
  | @text now final content parts calls others ih =>
    have size := Text.utf8ByteSize_append now.2 content
    have pastText : ∀ span ∈ earlier, span.2 ≤ (now.2 ++ content).utf8ByteSize := by
      intro span member
      have := past span member
      omega
    rcases ih earlier pastText with ⟨added, out, rest⟩
    refine ⟨content.toList ++ added, by simp [out], ?_⟩
    rw [size] at rest
    rw [Text.cutOut_append, others.cutOut_text appends past, rest]
    rfl
  | @call now final part request parts calls asked others ih =>
    rcases appends request now with ⟨piece, grown⟩
    have size : (renderer.answer request now).2.utf8ByteSize =
        now.2.utf8ByteSize + Text.byteLength piece.toList := by
      rw [grown, Text.utf8ByteSize_append]
    let own := (now.2.utf8ByteSize, (renderer.answer request now).2.utf8ByteSize)
    have pastCall : ∀ span ∈ earlier ++ [own],
        span.2 ≤ (renderer.answer request now).2.utf8ByteSize := by
      refine List.forall_mem_append.mpr ⟨?_, List.forall_mem_singleton.mpr (Nat.le_refl _)⟩
      intro span member
      have := past span member
      omega
    rcases ih (earlier ++ [own]) pastCall with ⟨added, out, rest⟩
    have ownMember : own ∈ earlier ++ [own] ++ calls.map Exchange.span := by simp
    have cut : Text.cutOut (earlier ++ [own] ++ calls.map Exchange.span) now.2.utf8ByteSize
        piece.toList = [] :=
      Text.cutOut_inside ownMember (Nat.le_refl _) (Nat.le_of_eq size.symm)
    refine ⟨piece.toList ++ added, by simp [out, grown], ?_⟩
    rw [size] at rest
    rw [List.map_cons, List.append_cons, Text.cutOut_append, List.flatMap_cons,
      Part.literal_of_request? asked]
    exact congrArg₂ (· ++ ·) cut rest

theorem size_eq (session : renderer.Session now parts calls final)
    {earlier later : List (Exchange σ)} {call : Exchange σ} (here : calls = earlier ++ call :: later) :
    ∃ front part back, parts = front ++ part :: back ∧ part.request? = some call.request ∧
      earlier.map Exchange.request = front.filterMap Part.request? ∧
      call.before.2.utf8ByteSize = now.2.utf8ByteSize +
        (front.map fun part => Text.byteLength part.literal).sum +
          (earlier.map Exchange.growth).sum := by
  -- The call is the first of the session, or one of the session behind it.
  induction session generalizing earlier with
  | done => simp at here
  | @text now _ content parts _ _ ih =>
    rcases ih here with ⟨front, part, back, rfl, asked, requests, size⟩
    refine ⟨.text content :: front, part, back, rfl, asked, ?_, ?_⟩
    · rw [requests, List.filterMap_cons_none (by rfl)]
    · have literal : (Part.text content).literal = content.toList := rfl
      rw [size, List.map_cons, List.sum_cons, literal, Text.utf8ByteSize_append]
      omega
  | @call now _ part request parts calls asked _ ih =>
    cases earlier with
    | nil =>
      cases here
      exact ⟨[], part, parts, rfl, asked, rfl, by simp⟩
    | cons first earlier =>
      cases here
      rcases ih rfl with ⟨front, next, back, rfl, nextAsked, requests, size⟩
      refine ⟨part :: front, next, back, rfl, nextAsked, ?_, ?_⟩
      · rw [List.map_cons, requests, List.filterMap_cons_some asked]
      · rcases appends request now with ⟨piece, grown⟩
        rw [size, List.map_cons, List.sum_cons, List.map_cons, List.sum_cons,
          Part.literal_of_request? asked, grown, String.utf8ByteSize_append]
        simp only [Exchange.growth, Exchange.span, grown, String.utf8ByteSize_append,
          Text.byteLength_nil]
        omega

end AppendsOnly

end Session

end Renderer

/-! What a compiled template asks for. -/

theorem Template.Part.request?_ofKeyword (keyword : Keyword) :
    (Part.ofKeyword keyword).request? = some (.ofKeyword keyword) := by
  cases argument : keyword.argument <;>
    simp [Part.ofKeyword, argument, Part.request?, Request.ofKeyword]

theorem filter_requests (parts : List Part) :
    (parts.filterMap Part.request?).filter Request.isKeyword =
      (parts.filter Part.isKeyword).filterMap Part.request? := by
  induction parts with
  | nil => rfl
  | cons part parts ih =>
    rw [List.filterMap_cons, List.filter_cons]
    cases part <;> simp [Part.request?, Part.isKeyword, Request.isKeyword, List.filter_cons, ih]

theorem compile_keyword_requests (table : Table) (template : String) :
    ((compile table template).parts.filterMap Part.request?).filter Request.isKeyword =
      ((Template.Cursor.atStart template).keywordsAhead table).map Request.ofKeyword := by
  rcases Template.compile_reads table template with ⟨read, -, parts, keywords⟩
  rw [filter_requests, parts, Template.filter_assemble, keywords, List.filterMap_map,
    ← List.filterMap_eq_map]
  exact List.filterMap_congr fun keyword _ => Part.request?_ofKeyword keyword

theorem compile_requests_sound (accepted : table.Accepted) (template : String) :
    ∀ request ∈ (compile table template).parts.filterMap Part.request?, request.Sound table := by
  intro request member
  rcases List.mem_filterMap.mp member with ⟨part, inside, asked⟩
  rcases Template.compile_reads table template with ⟨read, reading, parts, -⟩
  rw [parts] at inside
  cases part with
  | text => cases asked
  | expression source =>
    cases asked
    exact .expression (reading.wellFormed.sources source inside)
  | numbered | plain =>
    rcases reading.exists_keyword inside rfl (by simp) with ⟨found, known, same⟩
    have fits := accepted.fits known
    rw [← same, Part.request?_ofKeyword] at asked
    cases asked
    exact .keyword known fits.2.1 fits.2.2.symm

/-- Rendering a compiled template calls the renderer once for each part that is no text, in order
and with what the keyword or the expression says, and adds nothing but the texts itself. -/
theorem render_compile (accepted : table.Accepted) (template : String) (renderer : Renderer σ)
    (state : σ) :
    let parts := (compile table template).parts
    let final := renderer.render parts state
    let observed := renderer.observed.render parts (state, [])
    let heard := observed.1.2
    (observed.1.1, observed.2) = final ∧
      renderer.Session (state, "") parts heard final ∧
      heard.map Exchange.request = parts.filterMap Part.request? ∧
      (heard.map Exchange.request).filter Request.isKeyword =
        ((Template.Cursor.atStart template).keywordsAhead table).map Request.ofKeyword ∧
      (∀ call ∈ heard, call.request.Sound table) ∧
      (renderer.AppendsOnly →
        Text.cutOut (heard.map Exchange.span) 0 final.2.toList = parts.flatMap Part.literal ∧
        ∀ earlier call later, heard = earlier ++ call :: later →
          ∃ front part back, parts = front ++ part :: back ∧
            part.request? = some call.request ∧
            earlier.map Exchange.request = front.filterMap Part.request? ∧
            call.before.2.utf8ByteSize =
              (front.map fun part => Text.byteLength part.literal).sum +
                (earlier.map Exchange.growth).sum) := by
  intro parts final observed heard
  rcases renderer.observed_session parts (state, "") [] with ⟨calls, session, seen⟩
  have seen : observed = ((final.1, calls), final.2) := seen
  have same : heard = calls := by simp only [heard, seen]
  have requests := session.requests
  refine ⟨by rw [seen], same ▸ session, same ▸ requests, ?_, ?_, ?_⟩
  · rw [same, requests]
    exact compile_keyword_requests table template
  · intro call member
    rw [same] at member
    apply compile_requests_sound accepted template
    rw [← requests]
    exact List.mem_map_of_mem member
  · intro appends
    rw [same]
    constructor
    · rcases session.cutOut_eq appends [] (by simp) with ⟨added, out, texts⟩
      have whole : final.2.toList = added := out.trans (by simp)
      rw [whole]
      exact texts
    · intro earlier call later here
      rcases session.size_eq appends here with ⟨front, part, back, shape, asked, before, size⟩
      refine ⟨front, part, back, shape, asked, before, ?_⟩
      simpa using size

theorem recorder_appendsOnly : Render.recorder.AppendsOnly := by
  intro request before
  cases request with
  | keyword kind argument => exact ⟨Render.keywordMark kind argument, rfl⟩
  | expression source => exact ⟨Render.expressionMark, rfl⟩

theorem recorder_render :
    Table.standard.Accepted ∧ Render.recorder.AppendsOnly ∧
      let parts := (compile .standard "é$CALLER10\x7b$TID\x7d\\$").parts
      let heard := (Render.recorder.observed.render parts (#[], [])).1.2
      Text.cutOut (heard.map Exchange.span) 0 (Render.recorder.render parts #[]).2.toList =
        parts.flatMap Part.literal := by
  have rendered := render_compile Table.standard_accepted "é$CALLER10\x7b$TID\x7d\\$"
    Render.recorder #[]
  exact ⟨Table.standard_accepted, recorder_appendsOnly,
    (rendered.2.2.2.2.2 recorder_appendsOnly).1⟩

end Tracepoint
