import Tracepoint.Text.Bytes
/-!
Slices of a text, searches in it and its single bytes, all by byte offsets.  A slice has both ends
between two characters; at any other offset there is none.
-/

namespace Tracepoint.Text

def takeBytes? (text : List Char) (offset : Nat) : Option (List Char) :=
  (dropBytes? text offset).map fun rest => text.take (text.length - rest.length)

def slice? (text : List Char) (first last : Nat) : Option (List Char) :=
  if first ≤ last then (dropBytes? text first).bind (takeBytes? · (last - first)) else none

/-- The byte offset of the first character that meets a condition. -/
def find? (condition : Char → Bool) : List Char → Option Nat
  | [] => none
  | c :: text => if condition c then some 0 else (find? condition text).map (c.utf8Size + ·)

def byteAt? (text : String) (offset : Nat) : Option UInt8 := text.toByteArray.data[offset]?

theorem takeBytes?_append (before after : List Char) :
    takeBytes? (before ++ after) (byteLength before) = some before := by
  simp [takeBytes?, dropBytes?_append]

theorem slice?_append (before slice after : List Char) :
    slice? (before ++ slice ++ after) (byteLength before)
      (byteLength before + byteLength slice) = some slice := by
  rw [slice?, if_pos (Nat.le_add_right _ _), List.append_assoc, dropBytes?_append,
    Option.bind_some, Nat.add_sub_cancel_left, takeBytes?_append]

theorem find?_append {condition : Char → Bool} {before after : List Char} {c : Char}
    (unmet : ∀ d ∈ before, condition d = false) (met : condition c = true) :
    find? condition (before ++ c :: after) = some (byteLength before) := by
  induction before with
  | nil => simp [find?, met]
  | cons d before ih =>
    rw [List.forall_mem_cons] at unmet
    rw [List.cons_append, find?, unmet.1, ih unmet.2]
    rfl

theorem find?_eq_none {condition : Char → Bool} {text : List Char}
    (unmet : ∀ c ∈ text, condition c = false) : find? condition text = none := by
  induction text with
  | nil => rfl
  | cons c text ih =>
    rw [List.forall_mem_cons] at unmet
    rw [find?, unmet.1, ih unmet.2]
    rfl

theorem length_flatMap_utf8EncodeChar (text : List Char) :
    (text.flatMap String.utf8EncodeChar).length = byteLength text := by
  induction text with
  | nil => rfl
  | cons c text ih => rw [List.flatMap_cons, List.length_append, String.length_utf8EncodeChar, ih,
      byteLength_cons]

theorem byteAt?_append {text : String} {before after : List Char} {c : Char}
    (whole : text.toList = before ++ c :: after) (single : c.utf8Size = 1) :
    byteAt? text (byteLength before) = some c.val.toUInt8 := by
  have bytes (run : List Char) : (String.ofList run).toByteArray.data.toList =
      run.flatMap String.utf8EncodeChar := by
    simp [List.utf8Encode]
  have byte : (text.toList.flatMap String.utf8EncodeChar)[byteLength before]? =
      some c.val.toUInt8 := by
    rw [whole, List.flatMap_append, ← length_flatMap_utf8EncodeChar, List.getElem?_append_right
      (Nat.le_refl _), Nat.sub_self, List.flatMap_cons, String.utf8EncodeChar_eq_singleton single]
    rfl
  rw [byteAt?, ← Array.getElem?_toList, ← byte, ← bytes, String.ofList_toList]

end Tracepoint.Text
