import Tracepoint.Sample.Context
import Tracepoint.Toml.Value
/-!
Sample contexts from the values of a document.  Absent fields have their defaults, all but the
function of a frame; present fields must have their type, with nothing converted; other keys are
passed over.  A record may also be written as an array of its fields in order.
-/

namespace Tracepoint.Sample

open Toml (Value)

inductive Fields
  | named (entries : List (String × Value))
  | placed (values : List Value)

namespace Fields

/-- The fields of a value.  A date-time is a record of its own with one private field. -/
def ofValue? : Value → Option Fields
  | .table entries => some (.named entries)
  | .array values => some (.placed values)
  | .dateTime text => some (.named [("$__toml_private_datetime", .string text)])
  | _ => none

def get? (fields : Fields) (place : Nat) (name : String) : Option Value :=
  match fields with
  | .named entries => entries.lookup name
  | .placed values => values[place]?

def getD? {α : Type} (fields : Fields) (place : Nat) (name : String)
    (read : Value → Option α) (absent : α) : Option α :=
  match fields.get? place name with
  | some value => read value
  | none => some absent

end Fields

def readText? : Value → Option String
  | .string s => some s
  | _ => none

def readNumber? : Value → Option UInt32
  | .integer n => if 0 ≤ n && n.toNat < UInt32.size then some (UInt32.ofNat n.toNat) else none
  | _ => none

def readProcess? (value : Value) : Option Process := do
  let fields ← Fields.ofValue? value
  return {
    id := ← fields.getD? 0 "id" readNumber? 0
    name := ← fields.getD? 1 "name" readText? "" }

def readThread? (value : Value) : Option Thread := do
  let fields ← Fields.ofValue? value
  return {
    id := ← fields.getD? 0 "id" readNumber? 0
    name := ← fields.getD? 1 "name" readText? ""
    managedId := ← fields.getD? 2 "managed_id" readNumber? 0 }

def readFrame? (value : Value) : Option Frame := do
  let fields ← Fields.ofValue? value
  return {
    function := ← (← fields.get? 0 "function") |> readText?
    module := ← fields.getD? 1 "module" readText? ""
    address := ← fields.getD? 2 "address" readText? ""
    offset := ← fields.getD? 3 "offset" readText? ""
    token := ← fields.getD? 4 "token" readText? "" }

def readFrames? : Value → Option (List Frame)
  | .array values => values.mapM readFrame?
  | _ => none

def readExpressions? (value : Value) : Option Expressions := do
  let .named entries ← Fields.ofValue? value | none
  entries.foldlM (fun known (source, value) => return known.set source (← readText? value)) []

def Context.ofEntries? (entries : List (String × Value)) : Option Context := do
  let fields := Fields.named entries
  return {
    appDomainId := ← fields.getD? 0 "app_domain_id" readNumber? 0
    breakpointAddress := ← fields.getD? 1 "breakpoint_address" readText? ""
    process := ← fields.getD? 2 "process" readProcess? {}
    thread := ← fields.getD? 3 "thread" readThread? {}
    frames := ← fields.getD? 4 "frames" readFrames? []
    expressions := ← fields.getD? 5 "expressions" readExpressions? [] }

end Tracepoint.Sample
