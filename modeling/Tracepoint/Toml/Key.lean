import Tracepoint.Toml.StringLiteral
/-!
Keys: one or more names joined by dots.
-/

namespace Tracepoint.Toml

/-- The depth to which keys and values may be nested. -/
def nestingLimit : Nat := 79

def isBareKeyChar (c : Char) : Bool := c.isAlphanum || c == '_' || c == '-'

structure KeyPath where
  parents : List String
  last : String
  deriving Repr

namespace Reader

def keyName : Reader String :=
  basicString <|> literalString <|> String.ofList <$> someCharsWhile isBareKeyChar

/-- The names of a key, `room` of them at most. -/
def keyNames : (room : Nat) → Reader KeyPath
  | 0 => failure
  | room + 1 => do
    blanks
    let name ← keyName
    blanks
    if (← next?) == some '.' then
      skip 1
      let path ← keyNames room
      return { path with parents := name :: path.parents }
    return ⟨[], name⟩

def keyPath : Reader KeyPath := keyNames nestingLimit

end Reader

end Tracepoint.Toml
