/-!
JSON output of flat records: an array of objects whose fields hold numbers and strings, one field a
line.
-/

namespace Tracepoint.Json

inductive Scalar
  | number (n : Nat)
  | string (s : String)
  deriving DecidableEq, Repr

/-- An object with its fields in the order in which they are written. -/
abbrev Record := List (String × Scalar)

def controlEscape (c : Char) : List Char :=
  ['\\', 'u', '0', '0', Nat.digitChar (c.toNat / 16), Nat.digitChar (c.toNat % 16)]

/-- The form of one character of a string: only what JSON demands is escaped. -/
def stringChar (c : Char) : List Char :=
  match c with
  | '"' => ['\\', '"']
  | '\\' => ['\\', '\\']
  | '\x08' => ['\\', 'b']
  | '\x0c' => ['\\', 'f']
  | '\n' => ['\\', 'n']
  | '\r' => ['\\', 'r']
  | '\t' => ['\\', 't']
  | c => if c.toNat < 0x20 then controlEscape c else [c]

def stringText (s : String) : String :=
  String.ofList ('"' :: s.toList.flatMap stringChar ++ ['"'])

def Scalar.text : Scalar → String
  | .number n => n.repr
  | .string s => stringText s

def fieldText (field : String × Scalar) : String :=
  "    " ++ stringText field.1 ++ ": " ++ field.2.text

def recordText (record : Record) : String :=
  "  \x7b\n" ++ ",\n".intercalate (record.map fieldText) ++ "\n  \x7d"

def recordsText : List Record → String
  | [] => "[]"
  | records => "[\n" ++ ",\n".intercalate (records.map recordText) ++ "\n]"

end Tracepoint.Json
