/-!
Byte lengths and byte offsets of text in its UTF-8 form.  An offset names a place in a text only
when it falls between two characters: `dropBytes?_eq_some_iff`.
-/

namespace Tracepoint.Text

def byteLength : List Char → Nat
  | [] => 0
  | c :: text => c.utf8Size + byteLength text

/-- The text from a byte offset on; none past the end or inside a character. -/
def dropBytes? : List Char → Nat → Option (List Char)
  | text, 0 => some text
  | [], _ + 1 => none
  | c :: text, offset + 1 =>
    if c.utf8Size ≤ offset + 1 then dropBytes? text (offset + 1 - c.utf8Size) else none

@[simp] theorem byteLength_nil : byteLength [] = 0 := rfl

@[simp] theorem byteLength_cons (c : Char) (text : List Char) :
    byteLength (c :: text) = c.utf8Size + byteLength text := rfl

@[simp] theorem byteLength_append (before after : List Char) :
    byteLength (before ++ after) = byteLength before + byteLength after := by
  induction before with
  | nil => simp
  | cons c before ih => simp [ih, Nat.add_assoc]

theorem byteLength_pos {text : List Char} (nonempty : text ≠ []) : 0 < byteLength text := by
  obtain ⟨c, rest, rfl⟩ := List.exists_cons_of_ne_nil nonempty
  exact Nat.add_pos_left c.utf8Size_pos _

theorem byteLength_toList (text : String) : byteLength text.toList = text.utf8ByteSize := by
  have chars (run : List Char) : byteLength run = (String.ofList run).utf8ByteSize := by
    induction run with
    | nil => rfl
    | cons c run ih => simp [String.ofList_cons, ih]
  rw [chars, String.ofList_toList]

theorem dropBytes?_append (before after : List Char) :
    dropBytes? (before ++ after) (byteLength before) = some after := by
  induction before with
  | nil => cases after <;> rfl
  | cons c before ih =>
    obtain ⟨size, hsize⟩ := Nat.exists_eq_add_one_of_ne_zero (Nat.ne_of_gt c.utf8Size_pos)
    have split : byteLength (c :: before) = (size + byteLength before) + 1 := by
      simp only [byteLength_cons, hsize]; omega
    rw [split, List.cons_append, dropBytes?, if_pos (by omega)]
    rw [show size + byteLength before + 1 - c.utf8Size = byteLength before by omega]
    exact ih

theorem dropBytes?_eq_some_iff {text after : List Char} {offset : Nat} :
    dropBytes? text offset = some after ↔
      ∃ before, text = before ++ after ∧ byteLength before = offset := by
  constructor
  · intro found
    fun_induction dropBytes? text offset with
    | case1 text => exact ⟨[], by simp_all, rfl⟩
    | case2 => simp at found
    | case3 c text offset within ih =>
      obtain ⟨before, rfl, size⟩ := ih found
      exact ⟨c :: before, rfl, by simp only [byteLength_cons]; omega⟩
    | case4 => simp at found
  · rintro ⟨before, rfl, rfl⟩
    exact dropBytes?_append before after

end Tracepoint.Text
