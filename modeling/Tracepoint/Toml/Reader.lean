/-!
Readers take what they read off the front of a text, or fail and take nothing.  Numbers and code
points are written with digits of several bases.
-/

namespace Tracepoint.Toml

abbrev Reader := StateT (List Char) Option

namespace Reader

def rest : Reader (List Char) := get

def next? : Reader (Option Char) := return (← rest).head?

def charIf (accepts : Char → Bool) : Reader Char
  | c :: rest => if accepts c then some (c, rest) else none
  | [] => none

def char (c : Char) : Reader Unit := discard (charIf (· == c))

def charsWhile (accepts : Char → Bool) : Reader (List Char) := fun text =>
  some (text.takeWhile accepts, text.dropWhile accepts)

def someCharsWhile (accepts : Char → Bool) : Reader (List Char) := do
  let run ← charsWhile accepts
  guard !run.isEmpty
  return run

def exactly (expected : String) : Reader Unit := fun text =>
  if expected.toList.isPrefixOf text then some ((), text.drop expected.length) else none

def skip (count : Nat) : Reader Unit := modify (·.drop count)

def optional {α : Type} (reader : Reader α) : Reader (Option α) :=
  (some <$> reader) <|> pure none

def ofOption {α : Type} (value? : Option α) : Reader α := StateT.lift value?

end Reader

def isHexDigit (c : Char) : Bool :=
  c.isDigit || ('a' ≤ c && c ≤ 'f') || ('A' ≤ c && c ≤ 'F')

def isOctalDigit (c : Char) : Bool := '0' ≤ c && c ≤ '7'

def isBinaryDigit (c : Char) : Bool := c == '0' || c == '1'

def digitValue (c : Char) : Nat :=
  if c ≤ '9' then c.toNat - '0'.toNat
  else if 'a' ≤ c then c.toNat - 'a'.toNat + 10
  else c.toNat - 'A'.toNat + 10

/-- The number that digits write, the first one the most significant. -/
def ofDigits (base : Nat) (digits : List Char) : Nat :=
  digits.foldl (fun n digit => n * base + digitValue digit) 0

end Tracepoint.Toml
