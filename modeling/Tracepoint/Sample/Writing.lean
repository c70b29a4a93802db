import Tracepoint.Sample.Reading
/-!
Sample contexts as the values of a document, with every field in a table and under its name.
-/

namespace Tracepoint.Sample

open Toml (Value)

def numberValue (n : UInt32) : Value := .integer n.toNat

def Process.toValue (process : Process) : Value :=
  .table [("id", numberValue process.id), ("name", .string process.name)]

def Thread.toValue (thread : Thread) : Value :=
  .table [("id", numberValue thread.id), ("name", .string thread.name),
    ("managed_id", numberValue thread.managedId)]

def Frame.toValue (frame : Frame) : Value :=
  .table [("function", .string frame.function), ("module", .string frame.module),
    ("address", .string frame.address), ("offset", .string frame.offset),
    ("token", .string frame.token)]

def Expressions.toValue (expressions : Expressions) : Value :=
  .table (expressions.map fun (source, value) => (source, .string value))

def Context.toEntries (context : Context) : List (String × Value) :=
  [("app_domain_id", numberValue context.appDomainId),
    ("breakpoint_address", .string context.breakpointAddress),
    ("process", context.process.toValue), ("thread", context.thread.toValue),
    ("frames", .array (context.frames.map Frame.toValue)),
    ("expressions", context.expressions.toValue)]

end Tracepoint.Sample
