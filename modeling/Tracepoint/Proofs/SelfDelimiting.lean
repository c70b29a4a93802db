import Mathlib.Logic.Function.Defs
/-!
Written forms that can be read back.  A form is self-delimiting if a text that begins with it shows
what was written and where the form ends.  Words over an alphabet are, and so are sequences of
self-delimiting forms, with or without separators.
-/

namespace Tracepoint.Text

variable {α β : Type} {known : α → Prop} {next : Option Char → Prop} {write : α → List Char}
  {closing : Option Char} {mark : Char}

/-- The form of a known item can be told from that of any other, given what kind of character may
come after it. -/
def SelfDelimiting (known : α → Prop) (next : Option Char → Prop) (write : α → List Char) : Prop :=
  ∀ ⦃one other : α⦄ ⦃rest otherRest : List Char⦄, known one → known other →
    next rest.head? → next otherRest.head? → write one ++ rest = write other ++ otherRest →
      one = other ∧ rest = otherRest

def EndsWord (letter : Char → Bool) (next : Option Char) : Prop := ∀ c ∈ next, letter c = false

@[simp] theorem endsWord_some {letter : Char → Bool} {c : Char} :
    EndsWord letter (some c) ↔ letter c = false := by
  simp [EndsWord]

theorem selfDelimiting_of_letters {letter : Char → Bool} (injective : Function.Injective write)
    (letters : ∀ item, known item → ∀ c ∈ write item, letter c) :
    SelfDelimiting known (EndsWord letter) write := by
  have word {item : α} {rest : List Char} (here : known item)
      (ended : EndsWord letter rest.head?) :
      (write item ++ rest).takeWhile letter = write item := by
    rw [List.takeWhile_append_of_pos (letters item here)]
    cases rest with
    | nil => simp
    | cons c rest => simp [endsWord_some.mp ended]
  intro one other rest otherRest here there ended otherEnded same
  have words : write one = write other := by
    rw [← word here ended, same, word there otherEnded]
  rw [words] at same
  exact ⟨injective words, List.append_cancel_left same⟩

namespace SelfDelimiting

theorem imp {fewer : α → Prop} {tighter : Option Char → Prop}
    (delimited : SelfDelimiting known next write) (isKnown : ∀ item, fewer item → known item)
    (fits : ∀ c, tighter c → next c) : SelfDelimiting fewer tighter write :=
  fun _ _ _ _ here there ended otherEnded same =>
    delimited (isKnown _ here) (isKnown _ there) (fits _ ended) (fits _ otherEnded) same

theorem eq_of_eq {one other : α} (delimited : SelfDelimiting known next write) (ended : next none)
    (here : known one) (there : known other) (same : write one = write other) : one = other := by
  have atEnd : next ([] : List Char).head? := ended
  exact (delimited here there atEnd atEnd (congrArg (· ++ []) same)).1

theorem comp {content : β → α} (delimited : SelfDelimiting known next write)
    (injective : Function.Injective content) :
    SelfDelimiting (fun item => known (content item)) next (fun item => write (content item)) := by
  intro one other rest otherRest here there ended otherEnded same
  obtain ⟨contents, rests⟩ := delimited here there ended otherEnded same
  exact ⟨injective contents, rests⟩

theorem behind (delimited : SelfDelimiting known next write) (lead : List Char) :
    SelfDelimiting known next (fun item => lead ++ write item) := by
  intro one other rest otherRest here there fits otherFits same
  rw [List.append_assoc, List.append_assoc] at same
  exact delimited here there fits otherFits (List.append_cancel_left same)

theorem append {knownTail : β → Prop} {nextTail : Option Char → Prop}
    {writeTail : β → List Char} (delimited : SelfDelimiting known next write)
    (tailDelimited : SelfDelimiting knownTail nextTail writeTail)
    (fits : ∀ tail rest, next (writeTail tail ++ rest).head?) :
    SelfDelimiting (fun pair : α × β => known pair.1 ∧ knownTail pair.2) nextTail
      (fun pair => write pair.1 ++ writeTail pair.2) := by
  rintro ⟨one, tail⟩ ⟨other, otherTail⟩ rest otherRest ⟨here, hereTail⟩ ⟨there, thereTail⟩
    ended otherEnded same
  rw [List.append_assoc, List.append_assoc] at same
  obtain ⟨rfl, tails⟩ := delimited here there (fits tail rest) (fits otherTail otherRest) same
  obtain ⟨rfl, rests⟩ := tailDelimited hereTail thereTail ended otherEnded tails
  exact ⟨rfl, rests⟩

theorem enclosed (delimited : SelfDelimiting known next write) (fits : next (some mark))
    (lead tail : List Char) :
    SelfDelimiting known (fun _ => True) (fun item => lead ++ write item ++ mark :: tail) := by
  have ended (rest : List Char) : next (mark :: tail ++ rest).head? := fits
  intro one other rest otherRest here there _ _ same
  rw [List.append_assoc _ (mark :: tail), List.append_assoc _ (mark :: tail)] at same
  obtain ⟨rfl, rests⟩ := delimited.behind lead here there (ended rest) (ended otherRest) same
  exact ⟨rfl, List.append_cancel_left rests⟩

theorem flatMap (delimited : SelfDelimiting known next write) (atEnd : next closing)
    (starts : ∀ item rest, known item → next (write item ++ rest).head? ∧
      (write item ++ rest).head? ≠ closing) :
    SelfDelimiting (∀ item ∈ ·, known item) (· = closing) (List.flatMap write) := by
  have follows {items : List α} {rest : List Char} (here : ∀ item ∈ items, known item)
      (ended : rest.head? = closing) : next (items.flatMap write ++ rest).head? := by
    cases items with
    | nil => simpa [ended] using atEnd
    | cons item items =>
      rw [List.flatMap_cons, List.append_assoc]
      exact (starts item _ (here item List.mem_cons_self)).1
  have finished {items : List α} {rest otherRest : List Char}
      (here : ∀ item ∈ items, known item) (ended : otherRest.head? = closing)
      (same : items.flatMap write ++ rest = otherRest) : items = [] := by
    cases items with
    | nil => rfl
    | cons item items =>
      rw [← same, List.flatMap_cons, List.append_assoc] at ended
      exact absurd ended (starts item _ (here item List.mem_cons_self)).2
  intro items others rest otherRest here there ended otherEnded same
  induction items generalizing others with
  | nil =>
    obtain rfl : others = [] := finished there ended same.symm
    exact ⟨rfl, same⟩
  | cons item items ih =>
    obtain ⟨first, later⟩ := List.forall_mem_cons.mp here
    cases others with
    | nil => exact absurd (finished here otherEnded same) (List.cons_ne_nil item items)
    | cons other others =>
      obtain ⟨otherFirst, otherLater⟩ := List.forall_mem_cons.mp there
      rw [List.flatMap_cons, List.flatMap_cons, List.append_assoc, List.append_assoc] at same
      obtain ⟨rfl, tails⟩ := delimited first otherFirst (follows later ended)
        (follows otherLater otherEnded) same
      obtain ⟨rfl, rests⟩ := ih later otherLater tails
      exact ⟨rfl, rests⟩

end SelfDelimiting

theorem intercalate_cons (separator first : List Char) (others : List (List Char)) :
    separator.intercalate (first :: others) = first ++ others.flatMap (separator ++ ·) := by
  induction others generalizing first with
  | nil => simp
  | cons second others ih =>
    rw [List.intercalate_cons_cons, ih, List.flatMap_cons]
    simp only [List.append_assoc]

theorem SelfDelimiting.intercalate (delimited : SelfDelimiting known next write)
    (separator : List Char) (afterItem : next (some mark)) (atEnd : next closing)
    (apart : some mark ≠ closing)
    (starts : ∀ item rest, known item → (write item ++ rest).head? ≠ closing) :
    SelfDelimiting (∀ item ∈ ·, known item) (· = closing)
      (fun items : List α => (mark :: separator).intercalate (items.map write)) := by
  have separated : SelfDelimiting (∀ item ∈ ·, known item) (· = closing)
      (List.flatMap fun item => mark :: separator ++ write item) :=
    (delimited.behind (mark :: separator)).flatMap atEnd fun _ _ _ => ⟨afterItem, apart⟩
  have first (item : α) (items : List α) :
      (mark :: separator).intercalate ((item :: items).map write) =
        write item ++ items.flatMap fun item => mark :: separator ++ write item := by
    rw [List.map_cons, intercalate_cons, List.flatMap_map]
  intro items others rest otherRest here there ended otherEnded same
  cases items with
  | nil =>
    cases others with
    | nil => exact ⟨rfl, same⟩
    | cons other others =>
      simp only [first, List.append_assoc] at same
      have begun := (congrArg List.head? same).symm.trans ended
      exact absurd begun (starts other _ (there other List.mem_cons_self))
  | cons item items =>
    cases others with
    | nil =>
      simp only [first, List.append_assoc] at same
      have begun := (congrArg List.head? same).trans otherEnded
      exact absurd begun (starts item _ (here item List.mem_cons_self))
    | cons other others =>
      simp only [first, List.append_assoc] at same
      -- Behind a separator the first item is one like the others.
      refine separated here there ended otherEnded ?_
      simp only [List.flatMap_cons, List.append_assoc, same]

theorem digitChar_injective : ∀ digit < 16, ∀ other < 16,
    Nat.digitChar digit = Nat.digitChar other → digit = other := by
  decide

theorem toDigits_injective {base : Nat} (least : 1 < base) (most : base ≤ 16) :
    Function.Injective (Nat.toDigits base) := by
  have below (number : Nat) : number % base < 16 :=
    Nat.lt_of_lt_of_le (Nat.mod_lt number (by omega)) most
  intro number other same
  induction number using Nat.strongRecOn generalizing other with
  | ind number ih =>
    rw [Nat.toDigits_eq_if least, Nat.toDigits_eq_if least (n := other)] at same
    split at same <;> split at same
    · exact digitChar_injective _ (by omega) _ (by omega) (List.singleton_inj.mp same)
    · simp [List.singleton_eq_append_iff, Nat.toDigits_ne_nil] at same
    · simp [List.append_eq_singleton_iff, Nat.toDigits_ne_nil] at same
    · obtain ⟨fronts, lasts⟩ := List.append_inj' same rfl
      have quotients := ih (number / base) (Nat.div_lt_self (by omega) least) fronts
      have remainders :=
        digitChar_injective _ (below number) _ (below other) (List.singleton_inj.mp lasts)
      rw [← Nat.div_add_mod number base, ← Nat.div_add_mod other base, quotients, remainders]

theorem exists_of_mem_toDigits {base number : Nat} {c : Char} (least : 1 < base)
    (written : c ∈ Nat.toDigits base number) : ∃ digit, Nat.digitChar digit = c := by
  induction number using Nat.strongRecOn with
  | ind number ih =>
    rw [Nat.toDigits_eq_if least] at written
    split at written
    · exact ⟨number, (List.mem_singleton.mp written).symm⟩
    · rcases List.mem_append.mp written with front | last
      · exact ih (number / base) (Nat.div_lt_self (by omega) least) front
      · exact ⟨number % base, (List.mem_singleton.mp last).symm⟩

theorem repr_selfDelimiting :
    SelfDelimiting (fun _ => True) (EndsWord Char.isDigit)
      (fun number : Nat => number.repr.toList) := by
  simp only [Nat.toList_repr]
  refine selfDelimiting_of_letters (toDigits_injective (by decide) (by decide)) ?_
  intro number _ c written
  exact Nat.isDigit_of_mem_toDigits (by decide) (by decide) written

end Tracepoint.Text
