import Tracepoint.Toml.Key
import Tracepoint.Toml.Value
/-!
The tables of a document while it is read.  Each table remembers how it came to be, which decides
what may still be added to it: no key is defined twice, and no table is opened twice.
-/

namespace Tracepoint.Toml

inductive Origin
  | header
  | outerTable
  | dottedKey
  deriving DecidableEq, Repr

inductive Node
  | value (value : Value)
  | table (origin : Origin) (entries : List (String × Node))
  /-- The tables of an array, the last one first and on its own. -/
  | tables (last : List (String × Node)) (earlier : List (List (String × Node)))
  deriving Inhabited

abbrev Entries := List (String × Node)

namespace Entries

def change? (key : String) (change : Option Node → Option Node) : Entries → Option Entries
  | [] => (change none).map fun node => [(key, node)]
  | (known, node) :: entries =>
    if known = key then (change (some node)).map fun node => (known, node) :: entries
    else (change? key change entries).map ((known, node) :: ·)

/-- Changes the table that a path leads to.  Tables that are missing on the way are made with the
origin `made`; tables of an origin that `passes` refuses stop the way, and so do values.  In an
array of tables the way goes through the last one. -/
def changeAt? (made : Origin) (passes : Origin → Bool) (path : List String)
    (change : Origin → Entries → Option (Origin × Entries)) (origin : Origin)
    (entries : Entries) : Option (Origin × Entries) :=
  match path with
  | [] => change origin entries
  | key :: path => do
    let entries ← entries.change? key fun
      | none => do
        let (origin, entries) ← changeAt? made passes path change made []
        return .table origin entries
      | some (.value _) => none
      | some (.table origin entries) => do
        guard (passes origin)
        let (origin, entries) ← changeAt? made passes path change origin entries
        return .table origin entries
      | some (.tables last earlier) => do
        let (_, last) ← changeAt? made passes path change .header last
        return .tables last earlier
    return (origin, entries)

/-- Gives a key a value.  A dotted key leads through tables that no header has opened, and its
last name is added only to a table that dotted keys have made; a plain key is added to any other
table. -/
def assign? (key : KeyPath) (value : Value) (origin : Origin) (entries : Entries) :
    Option (Origin × Entries) :=
  entries.changeAt? .dottedKey (· != .header) key.parents
    (fun origin entries => do
      guard ((origin == .dottedKey) != key.parents.isEmpty)
      let entries ← entries.change? key.last fun
        | none => some (.value value)
        | some _ => none
      return (origin, entries))
    origin

def changeUnder? (path : List String)
    (change : Origin → Entries → Option (Origin × Entries)) (entries : Entries) :
    Option Entries :=
  (entries.changeAt? .outerTable (fun _ => true) path change .header).map (·.2)

/-- Opens the table of a header.  It may exist as the outer table of an earlier header. -/
def openTable? (path : KeyPath) (entries : Entries) : Option Entries :=
  entries.changeUnder? path.parents fun origin entries => do
    let entries ← entries.change? path.last fun
      | none => some (.table .header [])
      | some (.table .outerTable entries) => some (.table .header entries)
      | some _ => none
    return (origin, entries)

def openArrayTable? (path : KeyPath) (entries : Entries) : Option Entries :=
  entries.changeUnder? path.parents fun origin entries => do
    let entries ← entries.change? path.last fun
      | none => some (.tables [] [])
      | some (.tables last earlier) => some (.tables [] (last :: earlier))
      | some _ => none
    return (origin, entries)

end Entries

mutual

def Node.toValue : Node → Value
  | .value value => value
  | .table _ entries => .table (Entries.toValues entries)
  | .tables last earlier => .array (tablesToValues earlier [.table (Entries.toValues last)])

def Entries.toValues : List (String × Node) → List (String × Value)
  | [] => []
  | (key, node) :: entries => (key, node.toValue) :: Entries.toValues entries

def tablesToValues : List (List (String × Node)) → List Value → List Value
  | [], later => later
  | entries :: earlier, later =>
    tablesToValues earlier (.table (Entries.toValues entries) :: later)

end

end Tracepoint.Toml
