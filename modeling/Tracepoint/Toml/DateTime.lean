import Tracepoint.Toml.Reader
/-!
Dates and times of day, with or without an offset from universal time.
-/

namespace Tracepoint.Toml

structure Date where
  year : Nat
  month : Nat
  day : Nat
  deriving DecidableEq, Repr

namespace Date

def isLeapYear (year : Nat) : Bool := year % 4 == 0 && (year % 100 != 0 || year % 400 == 0)

def daysInMonth (year month : Nat) : Nat :=
  match month with
  | 2 => if isLeapYear year then 29 else 28
  | 4 | 6 | 9 | 11 => 30
  | _ => 31

def isValid (date : Date) : Bool :=
  1 ≤ date.month && date.month ≤ 12 && 1 ≤ date.day &&
    date.day ≤ daysInMonth date.year date.month

end Date

structure TimeOfDay where
  hour : Nat
  minute : Nat
  second : Nat
  /-- Decimals of the second, at most nine, without zeros at the end. -/
  fraction : List Char
  deriving DecidableEq, Repr

inductive Offset
  | universal
  | minutes (east : Int)
  deriving DecidableEq, Repr

inductive DateTime
  | date (day : Date)
  | time (moment : TimeOfDay)
  | both (day : Date) (moment : TimeOfDay) (offset : Option Offset)
  deriving DecidableEq, Repr

def zeroPadded (width n : Nat) : String :=
  let digits := n.repr
  String.ofList (List.replicate (width - digits.length) '0') ++ digits

def Date.text (date : Date) : String :=
  zeroPadded 4 date.year ++ "-" ++ zeroPadded 2 date.month ++ "-" ++ zeroPadded 2 date.day

def TimeOfDay.text (time : TimeOfDay) : String :=
  let decimals := if time.fraction.isEmpty then "" else "." ++ String.ofList time.fraction
  zeroPadded 2 time.hour ++ ":" ++ zeroPadded 2 time.minute ++ ":" ++
    zeroPadded 2 time.second ++ decimals

def Offset.text : Offset → String
  | .universal => "Z"
  | .minutes east =>
    let sign := if east < 0 then "-" else "+"
    sign ++ zeroPadded 2 (east.natAbs / 60) ++ ":" ++ zeroPadded 2 (east.natAbs % 60)

def DateTime.text : DateTime → String
  | .date day => day.text
  | .time moment => moment.text
  | .both day moment offset => day.text ++ "T" ++ moment.text ++ (offset.map Offset.text).getD ""

namespace Reader

def number (width : Nat) : Reader Nat := do
  let digits := (← rest).take width
  guard (digits.length == width && digits.all Char.isDigit)
  skip width
  return ofDigits 10 digits

def numberUpTo (greatest : Nat) : Reader Nat := do
  let n ← number 2
  guard (n ≤ greatest)
  return n

def date : Reader Date := do
  let year ← number 4
  char '-'
  let month ← number 2
  char '-'
  let day ← number 2
  let date : Date := { year, month, day }
  guard date.isValid
  return date

def secondFraction : Reader (List Char) := do
  char '.'
  let decimals ← someCharsWhile Char.isDigit
  return ((decimals.take 9).reverse.dropWhile (· == '0')).reverse

def timeOfDay : Reader TimeOfDay := do
  let hour ← numberUpTo 23
  char ':'
  let minute ← numberUpTo 59
  char ':'
  let second ← numberUpTo 60
  return { hour, minute, second, fraction := (← optional secondFraction).getD [] }

def offset : Reader Offset :=
  (do
    discard (charIf fun c => c == 'Z' || c == 'z')
    return .universal) <|>
  (do
    let sign ← charIf fun c => c == '+' || c == '-'
    let hours ← numberUpTo 23
    char ':'
    let minutes ← numberUpTo 59
    let east : Int := hours * 60 + minutes
    return .minutes (if sign == '-' then -east else east))

def timeAfterDate : Reader (TimeOfDay × Option Offset) := do
  discard (charIf fun c => c == 'T' || c == 't' || c == ' ')
  return (← timeOfDay, ← optional offset)

def dateTime : Reader DateTime :=
  (do
    let date ← date
    match ← optional timeAfterDate with
    | some (time, offset) => return .both date time offset
    | none => return .date date) <|>
  DateTime.time <$> timeOfDay

end Reader

end Tracepoint.Toml
