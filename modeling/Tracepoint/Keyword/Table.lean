import Tracepoint.Keyword.Basic
import Tracepoint.Text.Bytes
/-!
Keyword tables.  A table keeps its keywords in authored order and ranks them by length of name, so
that a look-up meets a name before any of its prefixes and the longest match wins.
-/

namespace Tracepoint.Keyword

def nameLength (keyword : Keyword) : Nat := Text.byteLength keyword.name.toList

/-- Keywords with their places in authored order, longest name first; names of one length stay in
authored order. -/
def rank (keywords : List Keyword) : List (Keyword × Nat) :=
  keywords.zipIdx.mergeSort fun left right => right.1.nameLength ≤ left.1.nameLength

structure Table where
  keywords : List Keyword
  ranking : List (Keyword × Nat)
  ranking_eq : ranking = rank keywords

namespace Table

def ofKeywords (keywords : List Keyword) : Table := ⟨keywords, rank keywords, rfl⟩

/-- The first keyword that is unfit on its own or repeats a name, earlier names in `seen`. -/
def firstRejection? (seen : List String) : List Keyword → Option Rejection
  | [] => none
  | keyword :: rest =>
    match keyword.rejection? with
    | some rejection => some rejection
    | none =>
      if keyword.name ∈ seen then some (.duplicate keyword.name)
      else firstRejection? (keyword.name :: seen) rest

def ofKeywords? (keywords : List Keyword) : Except Rejection Table :=
  match firstRejection? [] keywords with
  | some rejection => .error rejection
  | none => .ok (ofKeywords keywords)

def size (table : Table) : Nat := table.keywords.length

def isEmpty (table : Table) : Bool := table.keywords.isEmpty

def matchOrder (table : Table) : List Keyword := table.ranking.map (·.1)

def matchIndices (table : Table) : List Nat := table.ranking.map (·.2)

def match? (table : Table) (text : List Char) : Option Keyword :=
  table.matchOrder.find? (·.name.toList.isPrefixOf text)

def lookup? (table : Table) (text : String) (offset : Nat) : Option Keyword :=
  (Text.dropBytes? text.toList offset).bind table.match?

def get? (table : Table) (name : String) : Option Keyword :=
  table.keywords.find? (·.name == name)

end Table

end Tracepoint.Keyword
