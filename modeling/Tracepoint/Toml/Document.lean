import Tracepoint.Toml.NestedValue
/-!
Documents: a sequence of headers and of keys with their values, a line each.  A key belongs to the
table that the last header before it has opened.
-/

namespace Tracepoint.Toml

structure Draft where
  root : Entries := []
  /-- The table that keys are added to. -/
  header : List String := []

namespace Draft

def assign? (draft : Draft) (key : KeyPath) (value : Value) : Option Draft := do
  let root ← draft.root.changeUnder? draft.header fun origin entries =>
    entries.assign? key value origin
  return { draft with root }

def openTable? (draft : Draft) (path : KeyPath) : Option Draft := do
  return ⟨← draft.root.openTable? path, path.parents ++ [path.last]⟩

def openArrayTable? (draft : Draft) (path : KeyPath) : Option Draft := do
  return ⟨← draft.root.openArrayTable? path, path.parents ++ [path.last]⟩

end Draft

namespace Reader

def arrayHeader (draft : Draft) : Reader Draft := do
  exactly "[["
  let path ← keyPath
  exactly "]]"
  endOfLine
  ofOption (draft.openArrayTable? path)

def tableHeader (draft : Draft) : Reader Draft := do
  char '['
  let path ← keyPath
  char ']'
  endOfLine
  ofOption (draft.openTable? path)

def assignment (draft : Draft) : Reader Draft := do
  let key ← keyPath
  char '='
  blanks
  let value ← value
  endOfLine
  ofOption (draft.assign? key value)

def lines : (fuel : Nat) → Draft → Reader Draft
  | 0, _ => failure
  | fuel + 1, draft => do
    blanks
    match ← next? with
    | none => return draft
    | some '[' => lines fuel (← arrayHeader draft <|> tableHeader draft)
    | some c =>
      if c == '#' || c == '\n' || c == '\r' then
        endOfLine
        lines fuel draft
      else lines fuel (← assignment draft)

def document : Reader Draft := do
  discard (optional (char '\uFEFF'))
  lines ((← rest).length + 1) {}

end Reader

def parse? (text : String) : Option (List (String × Value)) :=
  (Reader.document.run text.toList).map fun (draft, _) => Entries.toValues draft.root

end Tracepoint.Toml
