import Tracepoint.Keyword.Table
import Tracepoint.Json.Record
/-!
The legend of a keyword table: one entry per keyword, in authored order.
-/

namespace Tracepoint.Keyword

structure LegendEntry where
  keyword : String
  kind : Kind
  argument : Option UInt32
  description : String
  deriving DecidableEq, Repr

def legendEntry (keyword : Keyword) : LegendEntry :=
  ⟨"$" ++ keyword.name, keyword.kind, keyword.argument, keyword.description⟩

def Table.legend (table : Table) : List LegendEntry := table.keywords.map legendEntry

/-- The fields of an entry; an absent argument has no field. -/
def LegendEntry.record (entry : LegendEntry) : Json.Record :=
  [("keyword", .string entry.keyword), ("kind", .string entry.kind.name)] ++
    entry.argument.toList.map (fun n => ("argument", .number n.toNat)) ++
    [("description", .string entry.description)]

end Tracepoint.Keyword
