import Tracepoint.Json.Record
import Tracepoint.Proofs.SelfDelimiting
import Tracepoint.Text.Quoted
/-!
Quoted text can be read back.  Listings and JSON escape different characters, but in one manner:
behind a backslash stands a mark, or the letter `u` and a code.  So no character is written in the
form of another, and no quote stands bare inside a text.
-/

namespace Tracepoint.Text

/-- The marks that stand for characters behind a backslash, and the code of the characters that
have none. -/
structure Escaping where
  marks : List (Char × Char)
  coded : Char → Prop
  code : Char → List Char
  distinct : ∀ entry ∈ marks, ∀ other ∈ marks, entry.2 = other.2 → entry.1 = other.1
  reserved : ∀ entry ∈ marks, entry.2 ≠ 'u'
  delimited : SelfDelimiting coded (fun _ => True) code

namespace Escaping

variable {escaping : Escaping} {write : Char → List Char} {c : Char} {form : List Char}

inductive Writes (escaping : Escaping) (c : Char) : List Char → Prop
  | asItself (bare : c ≠ '"') (single : c ≠ '\\') : escaping.Writes c [c]
  | marked {mark : Char} (listed : (c, mark) ∈ escaping.marks) : escaping.Writes c ['\\', mark]
  | inCode (coded : escaping.coded c) : escaping.Writes c ('\\' :: 'u' :: escaping.code c)

theorem Writes.head?_ne (writes : escaping.Writes c form) (rest : List Char) :
    (form ++ rest).head? ≠ some '"' := by
  cases writes with
  | asItself bare => simpa using bare
  | marked | inCode => simp

theorem selfDelimiting (writes : ∀ c, escaping.Writes c (write c)) :
    SelfDelimiting (fun _ => True) (fun _ => True) write := by
  intro one other rest otherRest _ _ _ _ same
  have here := writes one
  have there := writes other
  generalize write one = form at here same
  generalize write other = otherForm at there same
  cases here with
  | asItself bare single =>
    cases there with
    | asItself => exact List.cons.inj same
    | marked | inCode => exact absurd (List.cons.inj same).1 single
  | marked listed =>
    cases there with
    | asItself bare single => exact absurd (List.cons.inj same).1.symm single
    | marked otherListed =>
      obtain ⟨-, tails⟩ := List.cons.inj same
      obtain ⟨marks, rests⟩ := List.cons.inj tails
      exact ⟨escaping.distinct _ listed _ otherListed marks, rests⟩
    | inCode =>
      obtain ⟨-, tails⟩ := List.cons.inj same
      exact absurd (List.cons.inj tails).1 (escaping.reserved _ listed)
  | inCode coded =>
    cases there with
    | asItself bare single => exact absurd (List.cons.inj same).1.symm single
    | marked otherListed =>
      obtain ⟨-, tails⟩ := List.cons.inj same
      exact absurd (List.cons.inj tails).1.symm (escaping.reserved _ otherListed)
    | inCode otherCoded =>
      obtain ⟨-, tails⟩ := List.cons.inj same
      exact escaping.delimited coded otherCoded trivial trivial (List.cons.inj tails).2

theorem selfDelimiting_quotes (writes : ∀ c, escaping.Writes c (write c)) :
    SelfDelimiting (fun _ => True) (fun _ => True)
      (fun text : String => '"' :: text.toList.flatMap write ++ ['"']) := by
  have content : SelfDelimiting (fun _ => True) (· = some '"') (List.flatMap write) :=
    ((selfDelimiting writes).flatMap trivial fun c rest _ =>
      ⟨trivial, (writes c).head?_ne rest⟩).imp (fun _ _ _ _ => trivial) (fun _ => id)
  exact (content.enclosed rfl ['"'] []).comp fun _ _ => String.toList_inj.mp

end Escaping

def listingEscaping : Escaping where
  marks := [('\x00', '0'), ('\t', 't'), ('\n', 'n'), ('\r', 'r'), ('"', '"'), ('\\', '\\')]
  coded _ := True
  code c := ['{'] ++ Nat.toDigits 16 c.toNat ++ ['}']
  distinct := by decide
  reserved := by decide
  delimited := by
    have digits : SelfDelimiting (fun _ : Char => True) (EndsWord (· != '}'))
        (fun c => Nat.toDigits 16 c.toNat) := by
      refine selfDelimiting_of_letters (fun one other same => ?_) fun item _ c written => ?_
      · exact Char.toNat_inj.mp (toDigits_injective (by decide) (by decide) same)
      · rcases exists_of_mem_toDigits (by decide) written with ⟨digit, rfl⟩
        exact bne_iff_ne.mpr (Nat.digitChar_ne '}' (by decide))
    exact digits.enclosed (endsWord_some.mpr rfl) ['{'] []

theorem quotedChar_writes (c : Char) : listingEscaping.Writes c (quotedChar c) := by
  unfold quotedChar
  split
  case h_7 notQuote notBackslash =>
    split
    case isTrue => exact .inCode trivial
    case isFalse => exact .asItself notQuote notBackslash
  all_goals exact .marked (by decide)

theorem quoted_selfDelimiting :
    SelfDelimiting (fun _ => True) (fun _ => True) (fun text => (quoted text).toList) := by
  simpa [quoted] using Escaping.selfDelimiting_quotes quotedChar_writes

end Tracepoint.Text

namespace Tracepoint.Json

open Text (Escaping SelfDelimiting)

def stringEscaping : Escaping where
  marks := [('"', '"'), ('\\', '\\'), ('\x08', 'b'), ('\x0c', 'f'), ('\n', 'n'), ('\r', 'r'),
    ('\t', 't')]
  coded c := c.toNat < 0x20
  code c := ['0', '0', Nat.digitChar (c.toNat / 16), Nat.digitChar (c.toNat % 16)]
  distinct := by decide
  reserved := by decide
  delimited := by
    intro one other rest otherRest here there _ _ same
    simp only [List.cons_append, List.nil_append, List.cons.injEq, true_and] at same
    obtain ⟨highs, lows, rests⟩ := same
    have quotients := Text.digitChar_injective _ (by omega) _ (by omega) highs
    have remainders := Text.digitChar_injective _ (by omega) _ (by omega) lows
    exact ⟨Char.toNat_inj.mp (by omega), rests⟩

theorem stringChar_writes (c : Char) : stringEscaping.Writes c (stringChar c) := by
  unfold stringChar
  split
  case h_8 notQuote notBackslash _ _ _ _ _ =>
    split
    case isTrue control => exact .inCode control
    case isFalse => exact .asItself notQuote notBackslash
  all_goals exact .marked (by decide)

theorem stringText_selfDelimiting :
    SelfDelimiting (fun _ => True) (fun _ => True) (fun text => (stringText text).toList) := by
  simpa [stringText] using Escaping.selfDelimiting_quotes stringChar_writes

end Tracepoint.Json
