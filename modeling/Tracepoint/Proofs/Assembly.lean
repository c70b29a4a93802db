import Tracepoint.Template.Token
/-!
How tokens come together to parts.  Only literal characters join, so a token sequence can be taken
apart wherever one side of the cut is something else: `assemble_append`.  At any other cut two texts
meet: `assemble_append_eq_fuse`.
-/

namespace Tracepoint.Template

variable {tokens : List Token} {token : Token} {part : Part} {parts : List Part}

/-- Two part sequences one after the other; a text that ends the first and a text that begins the
second become one. -/
def fuse : List Part → List Part → List Part
  | [], back => back
  | [last], back => last.joinTo back
  | first :: next :: front, back => first :: fuse (next :: front) back

def textPart (run : List Char) : List Part :=
  if run.isEmpty then [] else [.text (String.ofList run)]

namespace Part

def Apart (front back : Part) : Prop := ¬(front.isText = true ∧ back.isText = true)

theorem apart_of_left {front : Part} (other : front.isText = false) (back : Part) :
    front.Apart back := by
  simp [Apart, other]

theorem apart_of_right (front : Part) {back : Part} (other : back.isText = false) :
    front.Apart back := by
  simp [Apart, other]

theorem joinTo_nil (part : Part) : part.joinTo [] = [part] := by
  cases part <;> rfl

theorem joinTo_of_apart {next : Part} (apart : part.Apart next) :
    part.joinTo (next :: parts) = part :: next :: parts := by
  cases part <;> cases next <;> first | rfl | exact absurd ⟨rfl, rfl⟩ apart

theorem joinTo_of_not_text (other : part.isText = false) (parts : List Part) :
    part.joinTo parts = part :: parts := by
  cases parts with
  | nil => exact part.joinTo_nil
  | cons next parts => exact joinTo_of_apart (apart_of_left other next)

theorem joinTo_append (part next : Part) (front back : List Part) :
    part.joinTo (next :: front ++ back) = part.joinTo (next :: front) ++ back := by
  cases part <;> cases next <;> rfl

theorem joinTo_cases (part : Part) (parts : List Part) :
    (∃ front back others, part = .text front ∧ parts = .text back :: others ∧
      part.joinTo parts = .text (front ++ back) :: others) ∨
    ((∀ next ∈ parts.head?, part.Apart next) ∧ part.joinTo parts = part :: parts) := by
  cases parts with
  | nil => exact .inr ⟨by simp, part.joinTo_nil⟩
  | cons next others =>
    by_cases texts : part.isText = true ∧ next.isText = true
    · left
      cases part with
      | text front =>
        cases next with
        | text back => exact ⟨front, back, others, rfl, rfl, rfl⟩
        | _ => cases texts.2
      | _ => cases texts.1
    · right
      exact ⟨by simpa [Apart] using texts, joinTo_of_apart texts⟩

theorem mem_joinTo_iff {other : Part} (notText : other.isText = false) :
    other ∈ part.joinTo parts ↔ other = part ∨ other ∈ parts := by
  have ne_text : ∀ content, other ≠ .text content := by
    intro content same
    rw [same] at notText
    cases notText
  rcases part.joinTo_cases parts with ⟨front, back, others, rfl, rfl, joined⟩ | ⟨-, joined⟩
  · simp [joined, ne_text]
  · simp [joined]

end Part

theorem Part.isText_ofKeyword (keyword : Keyword) : (ofKeyword keyword).isText = false := by
  unfold ofKeyword
  split <;> rfl

theorem Token.isText_part (token : Token) : token.part.isText = token.char?.isSome := by
  cases token with
  | keyword found => exact Part.isText_ofKeyword found
  | _ => rfl

theorem Token.part_of_char? {c : Char} (adds : token.char? = some c) :
    token.part = .text (String.singleton c) := by
  cases token <;> cases adds <;> rfl

theorem Token.char?_of_part {content : String} (text : token.part = .text content) :
    ∃ c, token.char? = some c ∧ content = String.singleton c := by
  have adds : token.char?.isSome = true := by
    rw [← token.isText_part, text]
    rfl
  rcases Option.isSome_iff_exists.mp adds with ⟨c, adds⟩
  have single := Token.part_of_char? adds
  rw [text] at single
  exact ⟨c, adds, Part.text.inj single⟩

@[simp] theorem assemble_nil : assemble [] = [] := rfl

@[simp] theorem assemble_cons (token : Token) (tokens : List Token) :
    assemble (token :: tokens) = token.part.joinTo (assemble tokens) := rfl

theorem assemble_cons_of_apart (apart : token.char? = none) :
    assemble (token :: tokens) = token.part :: assemble tokens := by
  have notText : token.part.isText = false := by simp [token.isText_part, apart]
  rw [assemble_cons, Part.joinTo_of_not_text notText]

/-- A token's character goes in front of the text after it, or the token makes a part of its own. -/
theorem assemble_cons_cases (token : Token) (tokens : List Token) :
    (∃ c back others, token.char? = some c ∧ assemble tokens = .text back :: others ∧
      assemble (token :: tokens) = .text (String.singleton c ++ back) :: others) ∨
    assemble (token :: tokens) = token.part :: assemble tokens := by
  rw [assemble_cons]
  rcases token.part.joinTo_cases (assemble tokens) with
    ⟨front, back, others, frontText, backText, joined⟩ | ⟨-, joined⟩
  · left
    rcases Token.char?_of_part frontText with ⟨c, adds, rfl⟩
    exact ⟨c, back, others, adds, backText, joined⟩
  · exact .inr joined

theorem assemble_ne_nil (token : Token) (tokens : List Token) :
    assemble (token :: tokens) ≠ [] := by
  rcases assemble_cons_cases token tokens with ⟨_, _, _, -, -, joined⟩ | joined <;> simp [joined]

theorem assemble_append {front back : List Token}
    (border : front.getLast?.bind Token.char? = none ∨ back.head?.bind Token.char? = none) :
    assemble (front ++ back) = assemble front ++ assemble back := by
  induction front with
  | nil => rfl
  | cons first rest ih =>
    cases rest with
    | nil =>
      have single : assemble [first] = [first.part] := Part.joinTo_nil _
      rcases border with apart | apart
      · have apart : first.char? = none := by simpa using apart
        rw [List.singleton_append, assemble_cons_of_apart apart, single, List.singleton_append]
      · cases back with
        | nil => simp
        | cons second back =>
          have apart : second.char? = none := by simpa using apart
          have notText : second.part.isText = false := by simp [second.isText_part, apart]
          rw [List.singleton_append, assemble_cons, assemble_cons_of_apart apart, single,
            Part.joinTo_of_apart (Part.apart_of_right _ notText), List.singleton_append]
    | cons second rest =>
      have tail := ih (by simpa using border)
      -- The first token only sees what follows it inside `front`, which is not empty.
      rcases List.exists_cons_of_ne_nil (assemble_ne_nil second rest) with ⟨next, parts, shape⟩
      calc
        assemble (first :: second :: rest ++ back) =
            first.part.joinTo (assemble (second :: rest) ++ assemble back) := by
          rw [List.cons_append, assemble_cons, tail]
        _ = first.part.joinTo (assemble (second :: rest)) ++ assemble back := by
          rw [shape]
          exact Part.joinTo_append _ _ _ _

theorem fuse_cons_head (first : Part) (front back : List Part) :
    ∃ head others, fuse (first :: front) back = head :: others ∧ head.isText = first.isText := by
  cases front with
  | nil =>
    rcases first.joinTo_cases back with ⟨_, _, _, rfl, -, joined⟩ | ⟨-, joined⟩
    · exact ⟨_, _, joined, rfl⟩
    · exact ⟨_, _, joined, rfl⟩
  | cons next front => exact ⟨first, _, rfl, rfl⟩

theorem joinTo_fuse (part next : Part) (front back : List Part) :
    part.joinTo (fuse (next :: front) back) = fuse (part.joinTo (next :: front)) back := by
  rcases part.joinTo_cases (next :: front) with
    ⟨before, after, others, rfl, same, joined⟩ | ⟨apart, joined⟩
  · cases same
    rw [joined]
    cases front with
    | cons => rfl
    | nil =>
      -- The text between the two others may meet both of them.
      cases back with
      | nil => rfl
      | cons head back => cases head <;> simp [fuse, Part.joinTo, String.append_assoc]
  · rcases fuse_cons_head next front back with ⟨head, others, shape, sameKind⟩
    have headApart : part.Apart head := by
      rw [Part.Apart, sameKind]
      exact apart next rfl
    rw [joined, fuse, shape, Part.joinTo_of_apart headApart]

theorem assemble_append_eq_fuse (front back : List Token) :
    assemble (front ++ back) = fuse (assemble front) (assemble back) := by
  induction front with
  | nil => rfl
  | cons first rest ih =>
    rw [List.cons_append, assemble_cons, ih, assemble_cons]
    cases rest with
    | nil => rw [assemble_nil, Part.joinTo_nil, fuse, fuse]
    | cons second rest =>
      rcases List.exists_cons_of_ne_nil (assemble_ne_nil second rest) with ⟨next, parts, shape⟩
      rw [shape, joinTo_fuse]

theorem assemble_texts (texts : ∀ token ∈ tokens, token.char?.isSome) :
    assemble tokens = textPart (tokens.filterMap Token.char?) := by
  induction tokens with
  | nil => rfl
  | cons token tokens ih =>
    rw [List.forall_mem_cons] at texts
    rcases Option.isSome_iff_exists.mp texts.1 with ⟨c, adds⟩
    rw [assemble_cons, ih texts.2, List.filterMap_cons_some adds, Token.part_of_char? adds]
    cases tokens.filterMap Token.char? with
    | nil => rfl
    | cons d run => simp [textPart, Part.joinTo, String.ofList_cons]

end Tracepoint.Template
