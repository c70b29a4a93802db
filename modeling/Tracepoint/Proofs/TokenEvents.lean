import Tracepoint.Log.Event
import Tracepoint.Template.Token
/-!
What is reported of a token sequence.  A trigger that stays as text is reported at the byte offset
where it stands, except that of the opening braces only the first one is.  An event belongs to one
token, `mem_eventsOf_iff`, and events come in the order of their tokens, `pairwise_eventsOf`.
-/

namespace Tracepoint.Log.Event

def keptTrigger? : Event → Option (Char × Nat)
  | .inertEscape position => some ('\\', position)
  | .unknownKeyword position => some ('$', position)
  | .unterminatedExpression position => some ('{', position)
  | _ => none

def Precedes (front back : Event) : Prop :=
  ∃ left right, front.keptTrigger? = some left ∧ back.keptTrigger? = some right ∧ left.2 < right.2

end Tracepoint.Log.Event

namespace Tracepoint.Template

open Log (Event)

variable {offset : Nat} {braceKept : Bool} {token : Token} {tokens front back : List Token}
  {event : Event}

/-- What is reported of a token at a byte offset; `braceKept` says whether an opening brace before
it is known to have stayed as text. -/
def Token.event? (offset : Nat) (braceKept : Bool) : Token → Option Event
  | .literal '\\' => some (.inertEscape offset)
  | .literal '$' => some (.unknownKeyword offset)
  | .literal '{' => if braceKept then none else some (.unterminatedExpression offset)
  | _ => none

def eventsOf (offset : Nat) (braceKept : Bool) : List Token → List Event
  | [] => []
  | token :: tokens =>
    (token.event? offset braceKept).toList ++
      eventsOf (offset + Text.byteLength token.source)
        (braceKept || decide (token = .literal '{')) tokens

theorem Token.event?_eq_some (reported : token.event? offset braceKept = some event) :
    ∃ trigger, token = .literal trigger ∧ event.keptTrigger? = some (trigger, offset) := by
  unfold Token.event? at reported
  split at reported
  case h_1 | h_2 =>
    cases reported
    exact ⟨_, rfl, rfl⟩
  case h_3 =>
    split at reported
    case isTrue => cases reported
    case isFalse =>
      cases reported
      exact ⟨_, rfl, rfl⟩
  case h_4 => cases reported

theorem Token.event?_plain {c : Char} (ordinary : isTrigger c = false) :
    (Token.literal c).event? offset braceKept = none := by
  simp only [isTrigger, Bool.or_eq_false_iff, beq_eq_false_iff_ne] at ordinary
  unfold Token.event?
  split <;> simp_all

theorem eventsOf_append (offset : Nat) (braceKept : Bool) (front back : List Token) :
    eventsOf offset braceKept (front ++ back) =
      eventsOf offset braceKept front ++
        eventsOf (offset + Text.byteLength (front.flatMap Token.source))
          (braceKept || decide (.literal '{' ∈ front)) back := by
  induction front generalizing offset braceKept with
  | nil => simp [eventsOf]
  | cons token front ih =>
    rw [List.cons_append, eventsOf, eventsOf, ih, List.append_assoc]
    simp [Nat.add_assoc, Bool.or_assoc, eq_comm]

theorem eventsOf_plain {run : List Char} (ordinary : ∀ c ∈ run, isTrigger c = false) :
    eventsOf offset braceKept (run.map Token.literal) = [] := by
  induction run generalizing offset braceKept with
  | nil => rfl
  | cons c run ih =>
    rw [List.forall_mem_cons] at ordinary
    rw [List.map_cons, eventsOf, Token.event?_plain ordinary.1, ih ordinary.2]
    rfl

/-- An event is about one token, of which the tokens before it say where it stands. -/
theorem mem_eventsOf_iff :
    event ∈ eventsOf offset braceKept tokens ↔
      ∃ before token after, tokens = before ++ token :: after ∧
        token.event? (offset + Text.byteLength (before.flatMap Token.source))
          (braceKept || decide (.literal '{' ∈ before)) = some event := by
  constructor
  · intro member
    induction tokens generalizing offset braceKept with
    | nil => cases member
    | cons first rest ih =>
      rw [eventsOf, List.mem_append, Option.mem_toList] at member
      rcases member with reported | later
      · exact ⟨[], first, rest, rfl, by simpa using reported⟩
      · rcases ih later with ⟨before, token, after, rfl, reported⟩
        refine ⟨first :: before, token, after, rfl, ?_⟩
        simpa [Nat.add_assoc, Bool.or_assoc, eq_comm] using reported
  · rintro ⟨before, token, after, rfl, reported⟩
    rw [eventsOf_append, eventsOf, reported]
    simp

theorem pairwise_eventsOf (offset : Nat) (braceKept : Bool) (tokens : List Token) :
    (eventsOf offset braceKept tokens).Pairwise Event.Precedes := by
  induction tokens generalizing offset braceKept with
  | nil => exact .nil
  | cons token tokens ih =>
    rw [eventsOf, List.pairwise_append]
    refine ⟨?_, ih _ _, ?_⟩
    · cases token.event? offset braceKept with
      | none => exact .nil
      | some event => exact List.pairwise_singleton _ _
    · -- The token takes a byte at least, so an event about a later one is further to the right.
      intro event here other later
      rcases Token.event?_eq_some (Option.mem_toList.mp here) with ⟨trigger, -, place⟩
      rcases mem_eventsOf_iff.mp later with ⟨before, next, after, -, reported⟩
      rcases Token.event?_eq_some reported with ⟨otherTrigger, -, otherPlace⟩
      have positive := Text.byteLength_pos token.source_ne_nil
      exact ⟨_, _, place, otherPlace, by simp only; omega⟩

end Tracepoint.Template
