import Tracepoint.Proofs.Quoting
/-!
JSON records can be read back: the text of an array shows each record with its fields, their names
and their values.
-/

namespace Tracepoint.Json

open Text (SelfDelimiting EndsWord endsWord_some)

theorem repr_append_ne (number : Nat) (rest : List Char) (string : String) (otherRest : List Char) :
    number.repr.toList ++ rest ≠ (stringText string).toList ++ otherRest := by
  rcases List.exists_cons_of_ne_nil (Nat.toDigits_ne_nil (b := 10) (n := number)) with
    ⟨first, others, written⟩
  have digit : first.isDigit :=
    Nat.isDigit_of_mem_toDigits (by decide) (by decide) (written ▸ List.mem_cons_self)
  rw [Nat.toList_repr, written, stringText, String.toList_ofList]
  intro same
  rw [(List.cons.inj same).1] at digit
  exact absurd digit (by decide)

theorem scalarText_selfDelimiting :
    SelfDelimiting (fun _ => True) (EndsWord Char.isDigit)
      (fun scalar : Scalar => scalar.text.toList) := by
  intro one other rest otherRest _ _ ended otherEnded same
  cases one with
  | number n =>
    cases other with
    | number m =>
      obtain ⟨rfl, rests⟩ := Text.repr_selfDelimiting trivial trivial ended otherEnded same
      exact ⟨rfl, rests⟩
    | string => exact absurd same (repr_append_ne _ _ _ _)
  | string s =>
    cases other with
    | number => exact absurd same.symm (repr_append_ne _ _ _ _)
    | string t =>
      obtain ⟨rfl, rests⟩ := stringText_selfDelimiting trivial trivial trivial trivial same
      exact ⟨rfl, rests⟩

theorem fieldText_selfDelimiting :
    SelfDelimiting (fun _ => True) (EndsWord Char.isDigit)
      (fun field => (fieldText field).toList) := by
  have values := scalarText_selfDelimiting.behind ": ".toList
  have fields := (stringText_selfDelimiting.append values (by simp)).behind "    ".toList
  simpa [fieldText] using fields

/-- Items on lines of their own, between an opening and a closing line. -/
theorem block_selfDelimiting {α : Type} {next : Option Char → Prop} {write : α → String}
    (delimited : SelfDelimiting (fun _ => True) next (fun item => (write item).toList))
    (atComma : next (some ',')) (atBreak : next (some '\n'))
    (starts : ∀ item rest, ((write item).toList ++ rest).head? ≠ some '\n')
    (opening closing : String) :
    SelfDelimiting (fun _ => True) (fun _ => True) (fun items : List α =>
      (opening ++ ",\n".intercalate (items.map write) ++ "\n" ++ closing).toList) := by
  have lines : SelfDelimiting (fun _ => True) (· = some '\n') (fun items : List α =>
      [',', '\n'].intercalate (items.map fun item => (write item).toList)) :=
    (delimited.intercalate ['\n'] atComma atBreak (by decide) fun item rest _ =>
      starts item rest).imp (fun _ _ _ _ => trivial) (fun _ => id)
  have written (items : List α) :
      (opening ++ ",\n".intercalate (items.map write) ++ "\n" ++ closing).toList =
        opening.toList ++ [',', '\n'].intercalate (items.map fun item => (write item).toList) ++
          '\n' :: closing.toList := by
    simp [String.toList_intercalate, Function.comp_def]
  simpa only [written] using lines.enclosed rfl opening.toList closing.toList

theorem recordText_selfDelimiting :
    SelfDelimiting (fun _ => True) (fun _ => True) (fun record => (recordText record).toList) := by
  simpa [recordText] using block_selfDelimiting fieldText_selfDelimiting (endsWord_some.mpr rfl)
    (endsWord_some.mpr rfl) (by simp [fieldText]) "  \x7b\n" "  \x7d"

theorem recordsText_injective : Function.Injective recordsText := by
  have filled := block_selfDelimiting recordText_selfDelimiting trivial trivial
    (by simp [recordText]) "[\n" "]"
  intro records others same
  have written := congrArg String.toList same
  cases records with
  | nil =>
    cases others with
    | nil => rfl
    | cons => simp [recordsText] at written
  | cons first later =>
    cases others with
    | nil => simp [recordsText] at written
    | cons otherFirst otherLater =>
      apply filled.eq_of_eq trivial trivial trivial
      simpa [recordsText] using written

end Tracepoint.Json
