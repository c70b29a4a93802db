import Tracepoint.Keyword.Standard
import Tracepoint.Log.Event
import Tracepoint.Template.Token
/-!
Compiling a template in one pass.  Every text compiles: what begins no escape, keyword or expression
stays as text, and the events say where.  A cursor goes from trigger to trigger and collects literal
characters in an open text, which becomes a part only right before a part of another kind and at
the end.  Every advance takes at least one character: `advance_rest_length_lt`.
-/

namespace Tracepoint.Template

open Keyword (Table)
open Log (Event)

/-- A place in a template, with what the text before it has come to. -/
structure Cursor where
  position : Nat
  rest : List Char
  parts : Array Part
  /-- Literal characters that are in no part yet. -/
  openText : String
  /-- Whether the rest is known to hold no closing brace. -/
  noBraceAhead : Bool
  events : Array Event
  deriving Repr

namespace Cursor

def atStart (template : String) : Cursor := ⟨0, template.toList, #[], "", false, #[]⟩

def closeText (s : Cursor) : Cursor :=
  if s.openText.isEmpty then s
  else { s with parts := s.parts.push (.text s.openText), openText := "" }

def addPart (part : Part) (s : Cursor) : Cursor :=
  let s := s.closeText
  { s with parts := s.parts.push part }

def moveTo (bytes : Nat) (rest : List Char) (s : Cursor) : Cursor :=
  { s with position := s.position + bytes, rest := rest }

def report (event : Event) (s : Cursor) : Cursor :=
  { s with events := s.events.push event }

def keepTrigger (trigger : Char) (after : List Char) (s : Cursor) : Cursor :=
  { s with openText := s.openText.push trigger }.moveTo 1 after

def skipPlain (s : Cursor) : Cursor :=
  let plain := s.rest.takeWhile (!isTrigger ·)
  { s with openText := s.openText ++ String.ofList plain }.moveTo (Text.byteLength plain)
    (s.rest.dropWhile (!isTrigger ·))

/-- Reads a backslash and what it begins; `after` is the text after it. -/
def readEscape (after : List Char) (s : Cursor) : Cursor :=
  match after with
  | letter :: beyond =>
    match escaped? letter with
    | some meaning => { s with openText := s.openText.push meaning }.moveTo 2 beyond
    | none => (s.report (.inertEscape s.position)).keepTrigger '\\' after
  | [] => (s.report (.inertEscape s.position)).keepTrigger '\\' after

def readKeyword (table : Table) (after : List Char) (s : Cursor) : Cursor :=
  match table.match? after with
  | some keyword =>
    (s.addPart (.ofKeyword keyword)).moveTo (1 + keyword.nameLength)
      (after.drop keyword.name.toList.length)
  | none => (s.report (.unknownKeyword s.position)).keepTrigger '$' after

/-- The text before and after the first closing brace, unless the search is known to fail. -/
def splitAtBrace? (s : Cursor) (after : List Char) : Option (List Char × List Char) :=
  if s.noBraceAhead then none
  else
    match after.dropWhile (· != '}') with
    | _ :: beyond => some (after.takeWhile (· != '}'), beyond)
    | [] => none

def readExpression (after : List Char) (s : Cursor) : Cursor :=
  match s.splitAtBrace? after with
  | some (source, beyond) =>
    (s.addPart (.expression (String.ofList source))).moveTo (Text.byteLength source + 2) beyond
  | none =>
    let s := if s.noBraceAhead then s else s.report (.unterminatedExpression s.position)
    { s with noBraceAhead := true }.keepTrigger '{' after

def advance (table : Table) (s : Cursor) : Cursor :=
  let s := s.skipPlain
  match s.rest with
  | [] => s
  | '\\' :: after => s.readEscape after
  | '$' :: after => s.readKeyword table after
  | _ :: after => s.readExpression after

@[simp] theorem closeText_rest (s : Cursor) : s.closeText.rest = s.rest := by
  unfold closeText; split <;> rfl

@[simp] theorem addPart_rest (part : Part) (s : Cursor) : (s.addPart part).rest = s.rest :=
  closeText_rest s

@[simp] theorem moveTo_rest (bytes : Nat) (rest : List Char) (s : Cursor) :
    (s.moveTo bytes rest).rest = rest := rfl

@[simp] theorem report_rest (event : Event) (s : Cursor) : (s.report event).rest = s.rest := rfl

@[simp] theorem keepTrigger_rest (trigger : Char) (after : List Char) (s : Cursor) :
    (s.keepTrigger trigger after).rest = after := rfl

@[simp] theorem skipPlain_rest (s : Cursor) :
    s.skipPlain.rest = s.rest.dropWhile (!isTrigger ·) := rfl

theorem readEscape_rest_length_le (after : List Char) (s : Cursor) :
    (s.readEscape after).rest.length ≤ after.length := by
  unfold readEscape
  split
  · split <;> simp
  · simp

theorem readKeyword_rest_length_le (table : Table) (after : List Char) (s : Cursor) :
    (s.readKeyword table after).rest.length ≤ after.length := by
  unfold readKeyword
  split <;> simp

theorem splitAtBrace?_length_lt {s : Cursor} {after source beyond : List Char}
    (found : s.splitAtBrace? after = some (source, beyond)) : beyond.length < after.length := by
  have shorter := (List.dropWhile_sublist (l := after) (· != '}')).length_le
  unfold splitAtBrace? at found
  split at found
  case isTrue => simp at found
  case isFalse =>
    split at found
    case h_1 brace rest here =>
      simp only [Option.some.injEq, Prod.mk.injEq] at found
      rw [here, found.2, List.length_cons] at shorter
      omega
    case h_2 => simp at found

theorem readExpression_rest_length_le (after : List Char) (s : Cursor) :
    (s.readExpression after).rest.length ≤ after.length := by
  unfold readExpression
  split
  case h_1 source beyond found =>
    have := splitAtBrace?_length_lt found
    simp; omega
  case h_2 => simp

theorem advance_rest_length_lt (table : Table) {s : Cursor} (unread : s.rest ≠ []) :
    (s.advance table).rest.length < s.rest.length := by
  have shorter : s.skipPlain.rest.length ≤ s.rest.length := by
    rw [skipPlain_rest]; exact (List.dropWhile_sublist _).length_le
  have nonempty : 0 < s.rest.length := List.length_pos_iff.mpr unread
  simp only [advance]
  split
  case h_1 done => rw [done]; exact nonempty
  case h_2 after here =>
    have := readEscape_rest_length_le after s.skipPlain
    rw [here, List.length_cons] at shorter; omega
  case h_3 after here =>
    have := readKeyword_rest_length_le table after s.skipPlain
    rw [here, List.length_cons] at shorter; omega
  case h_4 c after _ _ here =>
    have := readExpression_rest_length_le after s.skipPlain
    rw [here, List.length_cons] at shorter; omega

def toEnd (table : Table) (s : Cursor) : Cursor :=
  if _ : s.rest = [] then s.closeText else (s.advance table).toEnd table
termination_by s.rest.length
decreasing_by exact advance_rest_length_lt table ‹_›

end Cursor

structure Compilation where
  parts : List Part
  events : List Log.Event
  deriving DecidableEq, Repr

def compile (table : Table) (template : String) : Compilation :=
  let final := (Cursor.atStart template).toEnd table
  let parts := final.parts.toList
  ⟨parts, (final.events.push (.templateCompiled template.utf8ByteSize parts.length)).toList⟩

end Tracepoint.Template
