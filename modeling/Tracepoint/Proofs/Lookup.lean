import Tracepoint.Proofs.LongestMatch
/-!
Looking a keyword up at a byte offset of a text.  An offset in range and between two characters cuts
the text in two, and a look-up answers for the text behind the cut; at any other offset it finds
nothing.
-/

namespace Tracepoint.Text

variable {text back : String} {position : Nat}

/-- A byte offset cuts a text, with `back` behind the cut. -/
def CutAt (text : String) (position : Nat) (back : String) : Prop :=
  ∃ front, text = front ++ back ∧ front.utf8ByteSize = position

theorem dropBytes?_toList_eq_some_iff :
    dropBytes? text.toList position = some back.toList ↔ CutAt text position back := by
  rw [dropBytes?_eq_some_iff]
  constructor
  · rintro ⟨before, whole, size⟩
    refine ⟨String.ofList before, ?_, ?_⟩
    · rw [← String.toList_inj, String.toList_append, String.toList_ofList, whole]
    · rw [← byteLength_toList, String.toList_ofList, size]
  · rintro ⟨front, rfl, rfl⟩
    exact ⟨front.toList, String.toList_append, byteLength_toList front⟩

theorem exists_cutAt_iff :
    (∃ back, CutAt text position back) ↔ (String.Pos.Raw.mk position).IsValid text := by
  rw [String.Pos.Raw.isValid_iff_exists_append]
  constructor
  · rintro ⟨back, front, whole, size⟩
    exact ⟨front, back, whole, String.Pos.Raw.ext size.symm⟩
  · rintro ⟨front, back, whole, place⟩
    exact ⟨back, front, whole, (congrArg String.Pos.Raw.byteIdx place).symm⟩

theorem dropBytes?_toList_eq_none_iff :
    dropBytes? text.toList position = none ↔ ∀ back, ¬ CutAt text position back := by
  simp only [← dropBytes?_toList_eq_some_iff]
  constructor
  · intro uncut back cut
    rw [uncut] at cut
    cases cut
  · intro uncut
    cases cut : dropBytes? text.toList position with
    | none => rfl
    | some rest => exact absurd (by rw [cut, String.toList_ofList]) (uncut (String.ofList rest))

end Tracepoint.Text

namespace Tracepoint.Keyword.Table

open Text (CutAt)

variable {table : Table} {text back : String} {position : Nat} {found : Keyword}

theorem lookup?_of_cutAt (cut : CutAt text position back) :
    table.lookup? text position = table.match? back.toList := by
  rw [lookup?, Text.dropBytes?_toList_eq_some_iff.mpr cut, Option.bind_some]

theorem lookup?_of_not_cutAt (uncut : ∀ back, ¬ CutAt text position back) :
    table.lookup? text position = none := by
  rw [lookup?, Text.dropBytes?_toList_eq_none_iff.mpr uncut, Option.bind_none]

/-- In an accepted table no two names of one length begin a text, so the longest is longer than any
other. -/
theorem Accepted.isLongestMatch_iff {ahead : List Char} (accepted : table.Accepted) :
    IsLongestMatch table ahead found ↔ found ∈ table.keywords ∧ found.name.toList <+: ahead ∧
      ∀ other ∈ table.keywords, other ≠ found → other.name.toList <+: ahead →
        other.nameLength < found.nameLength := by
  constructor
  · intro longest
    refine ⟨longest.mem, longest.begins, ?_⟩
    intro other member different begins
    -- Another name of the same length would be a longest match as well.
    by_contra long
    have otherLongest : IsLongestMatch table ahead other := by
      refine ⟨member, begins, ?_⟩
      intro third thirdMember thirdBegins
      have := longest.longest third thirdMember thirdBegins
      omega
    exact different (accepted.longestMatch_unique otherLongest longest)
  · rintro ⟨member, begins, longer⟩
    refine ⟨member, begins, ?_⟩
    intro other otherMember otherBegins
    by_cases same : other = found
    · exact same ▸ Nat.le_refl _
    · exact Nat.le_of_lt (longer other otherMember same otherBegins)

theorem Accepted.lookup?_eq_some_iff (accepted : table.Accepted) :
    table.lookup? text position = some found ↔
      ∃ back, CutAt text position back ∧ found ∈ table.keywords ∧
        found.name.toList <+: back.toList ∧ ∀ other ∈ table.keywords, other ≠ found →
          other.name.toList <+: back.toList → other.nameLength < found.nameLength := by
  simp only [← accepted.isLongestMatch_iff, ← accepted.match?_eq_some_iff]
  constructor
  · intro looked
    by_cases cut : ∃ back, CutAt text position back
    · rcases cut with ⟨back, cut⟩
      exact ⟨back, cut, lookup?_of_cutAt cut ▸ looked⟩
    · rw [lookup?_of_not_cutAt (not_exists.mp cut)] at looked
      cases looked
  · rintro ⟨back, cut, matched⟩
    rw [lookup?_of_cutAt cut, matched]

theorem lookup?_eq_none_iff :
    table.lookup? text position = none ↔
      ¬ (String.Pos.Raw.mk position).IsValid text ∨
        ∃ back, CutAt text position back ∧
          ∀ keyword ∈ table.keywords, ¬ keyword.name.toList <+: back.toList := by
  rw [← Text.exists_cutAt_iff]
  by_cases cut : ∃ back, CutAt text position back
  · simp only [cut, not_true_eq_false, false_or, ← match?_eq_none_iff]
    constructor
    · intro missed
      rcases cut with ⟨back, cut⟩
      exact ⟨back, cut, lookup?_of_cutAt cut ▸ missed⟩
    · rintro ⟨back, cut, unmatched⟩
      rw [lookup?_of_cutAt cut, unmatched]
  · simp [cut, lookup?_of_not_cutAt (not_exists.mp cut)]

theorem Accepted.lookup?_append_name (accepted : table.Accepted) (member : found ∈ table.keywords)
    (front : String) :
    table.lookup? (front ++ found.name) front.utf8ByteSize = some found := by
  rw [lookup?_of_cutAt ⟨front, rfl, rfl⟩, accepted.match?_eq_some_iff]
  refine ⟨member, List.prefix_rfl, ?_⟩
  rintro other - ⟨more, spelled⟩
  rw [nameLength, nameLength, ← spelled, Text.byteLength_append]
  omega

/-- A look-up answers with the one keyword whose name is the longest at the place, and with none
just where the place is none or no name stands there. -/
theorem lookup_unique_longest (accepted : table.Accepted) (text : String) (position : Nat) :
    (∀ found, table.lookup? text position = some found ↔
      ((String.Pos.Raw.mk position).IsValid text ∧ position ≤ text.utf8ByteSize) ∧
        ∃ back, CutAt text position back ∧ found ∈ table.keywords ∧
          found.name.toList <+: back.toList ∧ ∀ other ∈ table.keywords, other ≠ found →
            other.name.toList <+: back.toList → other.nameLength < found.nameLength) ∧
      (table.lookup? text position = none ↔
        ¬ ((String.Pos.Raw.mk position).IsValid text ∧ position ≤ text.utf8ByteSize) ∨
          ∃ back, CutAt text position back ∧
            ∀ keyword ∈ table.keywords, ¬ keyword.name.toList <+: back.toList) ∧
      (∀ found ∈ table.keywords, ∀ front : String,
        table.lookup? (front ++ found.name) front.utf8ByteSize = some found ∧
          table.get? found.name = some found) := by
  have inRange : (String.Pos.Raw.mk position).IsValid text ∧ position ≤ text.utf8ByteSize ↔
      (String.Pos.Raw.mk position).IsValid text :=
    and_iff_left_of_imp String.Pos.Raw.IsValid.le_utf8ByteSize
  rw [inRange]
  refine ⟨?_, lookup?_eq_none_iff, ?_⟩
  · intro found
    rw [accepted.lookup?_eq_some_iff]
    constructor
    · rintro ⟨back, cut, longest⟩
      exact ⟨Text.exists_cutAt_iff.mp ⟨back, cut⟩, back, cut, longest⟩
    · exact And.right
  · intro found member front
    exact ⟨accepted.lookup?_append_name member front,
      accepted.get?_eq_some_iff.mpr ⟨member, rfl⟩⟩

def firstCaller : Keyword :=
  ⟨"CALLER1", .caller, some 1, "Name of the calling function at depth 1"⟩

theorem firstCaller_lookup :
    standard.Accepted ∧ firstCaller ∈ standard.keywords ∧
      standard.lookup? ("é$" ++ "CALLER1") "é$".utf8ByteSize = some firstCaller ∧
      standard.get? "CALLER1" = some firstCaller ∧
      ¬ (String.Pos.Raw.mk 1).IsValid "é$CALLER1" ∧ standard.lookup? "é$CALLER1" 1 = none := by
  have known : firstCaller ∈ standard.keywords := by decide
  have inside : ¬ (String.Pos.Raw.mk 1).IsValid "é$CALLER1" := by decide
  have looked := lookup_unique_longest standard_accepted "é$CALLER1" 1
  have found := looked.2.2 firstCaller known "é$"
  exact ⟨standard_accepted, known, found.1, found.2, inside,
    looked.2.1.mpr (.inl fun valid => inside valid.1)⟩

end Tracepoint.Keyword.Table
