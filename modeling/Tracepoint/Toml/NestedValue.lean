import Tracepoint.Toml.DateTime
import Tracepoint.Toml.Number
import Tracepoint.Toml.TableTree
/-!
Values as they are written after a key: strings, numbers, date-times, and the arrays and inline
tables that nest them.
-/

namespace Tracepoint.Toml.Reader

def boolean : Reader Bool :=
  (exactly "true" *> pure true) <|> (exactly "false" *> pure false)

def scalar : Reader Value :=
  .string <$> string <|>
  (fun moment => .dateTime moment.text) <$> dateTime <|>
  .float <$> float <|>
  .integer <$> integer <|>
  .boolean <$> boolean

/-- The elements of an array up to its closing bracket, after the reversed `before`.  A comma may
follow the last one. -/
def elements (element : Reader Value) :
    (fuel : Nat) → (before : List Value) → Reader (List Value)
  | 0, _ => failure
  | fuel + 1, before => do
    filler
    if (← next?) == some ']' then
      skip 1
      return before.reverse
    let value ← element
    filler
    match ← charIf fun c => c == ',' || c == ']' with
    | ',' => elements element fuel (value :: before)
    | _ => return (value :: before).reverse

def inlineEntry (element : Reader Value) : Reader (KeyPath × Value) := do
  let key ← keyPath
  char '='
  blanks
  let value ← element
  blanks
  return (key, value)

def inlineEntries (element : Reader Value) :
    (fuel : Nat) → Origin × Entries → Reader (Origin × Entries)
  | 0, _ => failure
  | fuel + 1, (origin, entries) => do
    let (key, value) ← inlineEntry element
    let extended ← ofOption (entries.assign? key value origin)
    match ← charIf fun c => c == ',' || c == '\x7d' with
    | ',' => inlineEntries element fuel extended
    | _ => return extended

def array (element : Reader Value) : Reader Value := do
  char '['
  .array <$> elements element ((← rest).length + 1) []

def inlineTable (element : Reader Value) : Reader Value := do
  char '{'
  blanks
  if (← next?) == some '}' then
    skip 1
    return .table []
  let (_, entries) ← inlineEntries element ((← rest).length + 1) (.header, [])
  return .table (Entries.toValues entries)

/-- A value that holds others to a depth of `room` at most. -/
def nestedValue : (room : Nat) → Reader Value
  | 0 => scalar
  | room + 1 => array (nestedValue room) <|> inlineTable (nestedValue room) <|> scalar

def value : Reader Value := nestedValue nestingLimit

end Tracepoint.Toml.Reader
