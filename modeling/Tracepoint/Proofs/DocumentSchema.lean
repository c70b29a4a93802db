import Mathlib.Data.List.Forall2
import Tracepoint.Proofs.Loading
/-!
What a document may say of a sample context, and what it says.  `Fits` lists the keys of the
schema with the types of their values, `Describes` relates a document to the context that it stands
for, and `Alike` changes a document in ways that do not matter: the order of keys, keys outside the
schema, and whether the fields of a record are named or placed.
-/

namespace Tracepoint.Toml

/-- Values without date-times, and with each key once in its table. -/
inductive Value.Plain : Value → Prop
  | string (s : String) : Plain (.string s)
  | integer (n : Int) : Plain (.integer n)
  | float (literal : String) : Plain (.float literal)
  | boolean (b : Bool) : Plain (.boolean b)
  | array {values : List Value} (each : ∀ value ∈ values, Plain value) : Plain (.array values)
  | table {entries : List (String × Value)} (distinct : (entries.map Prod.fst).Nodup)
    (each : ∀ entry ∈ entries, Plain entry.2) : Plain (.table entries)

namespace Value

@[simp]
theorem plain_string (s : String) : (string s).Plain := .string s

@[simp]
theorem plain_integer (n : Int) : (integer n).Plain := .integer n

@[simp]
theorem plain_array_iff {values : List Value} :
    (array values).Plain ↔ ∀ value ∈ values, value.Plain :=
  ⟨fun (.array each) => each, .array⟩

@[simp]
theorem plain_table_iff {entries : List (String × Value)} :
    (table entries).Plain ↔ (entries.map Prod.fst).Nodup ∧ ∀ entry ∈ entries, entry.2.Plain :=
  ⟨fun (.table distinct each) => ⟨distinct, each⟩, fun ⟨distinct, each⟩ => .table distinct each⟩

end Value

end Tracepoint.Toml

namespace Tracepoint.Sample

open Toml (Value)

/-! ## Types -/

abbrev Schema := List (String × (Value → Prop))

inductive IsRecord : Value → Prop
  | table (entries : List (String × Value)) : IsRecord (.table entries)
  | array (values : List Value) : IsRecord (.array values)

/-- A record gives a value for a field: a table under its name, an array at its place. -/
inductive FieldOf : Value → Nat → String → Value → Prop
  | named {entries : List (String × Value)} {place : Nat} {name : String} {value : Value}
    (member : (name, value) ∈ entries) : FieldOf (.table entries) place name value
  | placed {values : List Value} {place : Nat} {name : String} {value : Value}
    (found : values[place]? = some value) : FieldOf (.array values) place name value

@[simp]
theorem fieldOf_table_iff {entries : List (String × Value)} {place : Nat} {name : String}
    {value : Value} : FieldOf (.table entries) place name value ↔ (name, value) ∈ entries :=
  ⟨fun (.named member) => member, .named⟩

@[simp]
theorem fieldOf_array_iff {values : List Value} {place : Nat} {name : String} {value : Value} :
    FieldOf (.array values) place name value ↔ values[place]? = some value :=
  ⟨fun (.placed found) => found, .placed⟩

structure Fits (schema : Schema) (value : Value) : Prop where
  record : IsRecord value
  fields : ∀ place name type, schema[place]? = some (name, type) →
    ∀ given, FieldOf value place name given → type given

def IsNumber (value : Value) : Prop := ∃ n : Int, value = .integer n ∧ 0 ≤ n ∧ n < UInt32.size

def IsText (value : Value) : Prop := ∃ s, value = .string s

def processSchema : Schema := [("id", IsNumber), ("name", IsText)]

def threadSchema : Schema := [("id", IsNumber), ("name", IsText), ("managed_id", IsNumber)]

def frameSchema : Schema :=
  [("function", IsText), ("module", IsText), ("address", IsText), ("offset", IsText),
    ("token", IsText)]

def IsFrame (value : Value) : Prop :=
  Fits frameSchema value ∧ ∃ given, FieldOf value 0 "function" given

def IsFrames (value : Value) : Prop :=
  ∃ values, value = .array values ∧ ∀ frame ∈ values, IsFrame frame

def IsExpressions (value : Value) : Prop :=
  ∃ entries, value = .table entries ∧ ∀ entry ∈ entries, IsText entry.2

def contextSchema : Schema :=
  [("app_domain_id", IsNumber), ("breakpoint_address", IsText), ("process", Fits processSchema),
    ("thread", Fits threadSchema), ("frames", IsFrames), ("expressions", IsExpressions)]

/-! ## Meanings -/

/-- A field has the value that a record gives for it, or its default where it gives none. -/
inductive Holds {α : Type} (means : Value → α → Prop) (absent : α) (record : Value) (place : Nat)
    (name : String) : α → Prop
  | given {value : Value} {found : α} (here : FieldOf record place name value)
    (meant : means value found) : Holds means absent record place name found
  | absent (nowhere : ∀ value, ¬ FieldOf record place name value) :
    Holds means absent record place name absent

def MeansNumber (value : Value) (n : UInt32) : Prop := value = .integer n.toNat

def MeansText (value : Value) (s : String) : Prop := value = .string s

structure MeansProcess (value : Value) (process : Process) : Prop where
  record : IsRecord value
  id : Holds MeansNumber 0 value 0 "id" process.id
  name : Holds MeansText "" value 1 "name" process.name

structure MeansThread (value : Value) (thread : Thread) : Prop where
  record : IsRecord value
  id : Holds MeansNumber 0 value 0 "id" thread.id
  name : Holds MeansText "" value 1 "name" thread.name
  managedId : Holds MeansNumber 0 value 2 "managed_id" thread.managedId

structure MeansFrame (value : Value) (frame : Frame) : Prop where
  record : IsRecord value
  function : FieldOf value 0 "function" (.string frame.function)
  module : Holds MeansText "" value 1 "module" frame.module
  address : Holds MeansText "" value 2 "address" frame.address
  offset : Holds MeansText "" value 3 "offset" frame.offset
  token : Holds MeansText "" value 4 "token" frame.token

def MeansFrames (value : Value) (frames : List Frame) : Prop :=
  ∃ values, value = .array values ∧ List.Forall₂ MeansFrame values frames

structure MeansExpressions (value : Value) (expressions : Expressions) : Prop where
  texts : IsExpressions value
  ascending : expressions.Ascending
  lookup_eq_some_iff : ∀ source text, expressions.lookup source = some text ↔
    ∃ entries, value = .table entries ∧ (source, .string text) ∈ entries

structure Describes (entries : List (String × Value)) (context : Context) : Prop where
  appDomainId : Holds MeansNumber 0 (.table entries) 0 "app_domain_id" context.appDomainId
  breakpointAddress :
    Holds MeansText "" (.table entries) 1 "breakpoint_address" context.breakpointAddress
  process : Holds MeansProcess {} (.table entries) 2 "process" context.process
  thread : Holds MeansThread {} (.table entries) 3 "thread" context.thread
  frames : Holds MeansFrames [] (.table entries) 4 "frames" context.frames
  expressions : Holds MeansExpressions [] (.table entries) 5 "expressions" context.expressions

/-! ## Differences that do not matter -/

/-- The same fields of a record: keys in another order, keys outside the schema, or fields placed
where they were named. -/
inductive SameRecord (schema : Schema) : Value → Value → Prop
  | order {one other : List (String × Value)} (perm : one.Perm other) :
    SameRecord schema (.table one) (.table other)
  | unknown {entries : List (String × Value)} {name : String} (value : Value)
    (outside : name ∉ schema.map Prod.fst) :
    SameRecord schema (.table ((name, value) :: entries)) (.table entries)
  | places {values : List Value} (short : values.length ≤ schema.length) :
    SameRecord schema (.table ((schema.map Prod.fst).zip values)) (.array values)
  | symm {one other : Value} (same : SameRecord schema one other) : SameRecord schema other one
  | trans {one between other : Value} (first : SameRecord schema one between)
    (second : SameRecord schema between other) : SameRecord schema one other

/-- Documents that differ in the order of keys, in keys outside the schema, or in the form of their
records. -/
inductive Alike : List (String × Value) → List (String × Value) → Prop
  | fields {one other : List (String × Value)}
    (same : SameRecord contextSchema (.table one) (.table other)) : Alike one other
  | process {one other : Value} (entries : List (String × Value))
    (same : SameRecord processSchema one other) :
    Alike (("process", one) :: entries) (("process", other) :: entries)
  | thread {one other : Value} (entries : List (String × Value))
    (same : SameRecord threadSchema one other) :
    Alike (("thread", one) :: entries) (("thread", other) :: entries)
  | frame {one other : Value} (before after : List Value) (entries : List (String × Value))
    (same : SameRecord frameSchema one other) :
    Alike (("frames", .array (before ++ one :: after)) :: entries)
      (("frames", .array (before ++ other :: after)) :: entries)
  | expressions {one other : List (String × Value)} (entries : List (String × Value))
    (perm : one.Perm other) :
    Alike (("expressions", .table one) :: entries) (("expressions", .table other) :: entries)
  | symm {one other : List (String × Value)} (alike : Alike one other) : Alike other one
  | trans {one between other : List (String × Value)} (first : Alike one between)
    (second : Alike between other) : Alike one other

end Tracepoint.Sample
