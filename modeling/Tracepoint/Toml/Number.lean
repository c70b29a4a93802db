import Tracepoint.Toml.Reader
/-!
Integers of 64 bits and floats.  Digits may be set apart by single underscores.
-/

namespace Tracepoint.Toml

/-- The digits that begin a text, single underscores between them left out, and how many characters
they take. -/
def digitRun (accepts : Char → Bool) : List Char → List Char × Nat
  | '_' :: c :: rest =>
    if accepts c then
      let (digits, width) := digitRun accepts rest
      (c :: digits, width + 2)
    else ([], 0)
  | c :: rest =>
    if accepts c then
      let (digits, width) := digitRun accepts rest
      (c :: digits, width + 1)
    else ([], 0)
  | [] => ([], 0)

structure Decimal where
  negative : Bool
  whole : List Char
  fraction : List Char := []
  exponent : Int := 0
  deriving Repr

namespace Decimal

def significand (d : Decimal) : List Char := (d.whole ++ d.fraction).dropWhile (· == '0')

def scale (d : Decimal) : Int := d.exponent - d.fraction.length

/-- The least magnitude that rounds to no finite double: halfway from the greatest one to the next
power of two. -/
def overflowBound : Nat := Nat.pow 2 1024 - Nat.pow 2 970

/-- Whether the magnitude is too great for a double.  The number of digits decides alone unless it
puts the number near the bound, which has 309 digits. -/
def overflows (d : Decimal) : Bool :=
  let size := d.significand.length + d.scale
  if d.significand.isEmpty || size < 309 then false
  else if 309 < size then true
  else
    let n := ofDigits 10 d.significand
    if 0 ≤ d.scale then overflowBound ≤ n * Nat.pow 10 d.scale.toNat
    else overflowBound * Nat.pow 10 (-d.scale).toNat ≤ n

end Decimal

namespace Reader

def digits (accepts : Char → Bool) : Reader (List Char) := do
  let first ← charIf accepts
  let (more, width) := digitRun accepts (← rest)
  skip width
  return first :: more

def sign : Reader Bool := do
  let sign ← optional (charIf fun c => c == '+' || c == '-')
  return sign == some '-'

def decimalInteger : Reader Decimal := do
  let negative ← sign
  if (← next?) == some '0' then
    skip 1
    return { negative, whole := ['0'] }
  return { negative, whole := ← digits Char.isDigit }

def exponent : Reader Int := do
  discard (charIf fun c => c == 'e' || c == 'E')
  let negative ← sign
  let magnitude := ofDigits 10 (← digits Char.isDigit)
  return if negative then -(magnitude : Int) else magnitude

def fractional : Reader Decimal := do
  let number ← decimalInteger
  if (← next?) == some '.' then
    skip 1
    let fraction ← digits Char.isDigit
    return { number with fraction, exponent := (← optional exponent).getD 0 }
  return { number with exponent := ← exponent }

def specialFloat : Reader Unit := do
  discard sign
  exactly "inf" <|> exactly "nan"

/-- A float by its spelling.  A positive number that is too great to be finite is refused. -/
def float : Reader String := do
  let before ← rest
  (do
    let number ← fractional
    guard (number.negative || !number.overflows)) <|> specialFloat
  let after ← rest
  return String.ofList (before.take (before.length - after.length))

def basedInteger (mark : String) (base : Nat) (accepts : Char → Bool) : Reader Int := do
  exactly mark
  return ofDigits base (← digits accepts)

def signedInteger : Reader Int := do
  let number ← decimalInteger
  let magnitude := ofDigits 10 number.whole
  return if number.negative then -(magnitude : Int) else magnitude

def integer : Reader Int := do
  let n ← basedInteger "0x" 16 isHexDigit <|> basedInteger "0o" 8 isOctalDigit <|>
    basedInteger "0b" 2 isBinaryDigit <|> signedInteger
  guard (Int64.minValue.toInt ≤ n && n ≤ Int64.maxValue.toInt)
  return n

end Reader

end Tracepoint.Toml
