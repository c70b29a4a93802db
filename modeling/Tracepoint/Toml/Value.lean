/-!
The values of a TOML document.  Floats and date-times are kept as texts: a document of sample data
gives them no other use.
-/

namespace Tracepoint.Toml

inductive Value
  | string (s : String)
  | integer (n : Int)
  | float (literal : String)
  | boolean (b : Bool)
  | dateTime (text : String)
  | array (values : List Value)
  /-- Keys, each once, with their values. -/
  | table (entries : List (String × Value))
  deriving Repr, Inhabited

namespace Value

mutual

def same : Value → Value → Bool
  | .string s, .string t => s == t
  | .integer m, .integer n => m == n
  | .float s, .float t => s == t
  | .boolean a, .boolean b => a == b
  | .dateTime s, .dateTime t => s == t
  | .array values, .array others => sameValues values others
  | .table entries, .table others => sameEntries entries others
  | _, _ => false

def sameValues : List Value → List Value → Bool
  | [], [] => true
  | value :: values, other :: others => same value other && sameValues values others
  | _, _ => false

def sameEntries : List (String × Value) → List (String × Value) → Bool
  | [], [] => true
  | (key, value) :: entries, (otherKey, other) :: others =>
    key == otherKey && same value other && sameEntries entries others
  | _, _ => false

end

mutual

theorem same_iff : (one other : Value) → (same one other = true ↔ one = other)
  | .string _, other => by cases other <;> simp [same]
  | .integer _, other => by cases other <;> simp [same]
  | .float _, other => by cases other <;> simp [same]
  | .boolean _, other => by cases other <;> simp [same]
  | .dateTime _, other => by cases other <;> simp [same]
  | .array values, other => by
    cases other with
    | array others => simp [same, sameValues_iff values others]
    | _ => simp [same]
  | .table entries, other => by
    cases other with
    | table others => simp [same, sameEntries_iff entries others]
    | _ => simp [same]

theorem sameValues_iff : (values others : List Value) →
    (sameValues values others = true ↔ values = others)
  | [], others => by cases others <;> simp [sameValues]
  | value :: values, others => by
    cases others with
    | nil => simp [sameValues]
    | cons other others =>
      simp [sameValues, same_iff value other, sameValues_iff values others]

theorem sameEntries_iff : (entries others : List (String × Value)) →
    (sameEntries entries others = true ↔ entries = others)
  | [], others => by cases others <;> simp [sameEntries]
  | (key, value) :: entries, others => by
    cases others with
    | nil => simp [sameEntries]
    | cons other others =>
      simp [sameEntries, same_iff value other.2, sameEntries_iff entries others, Prod.ext_iff]

end

instance : DecidableEq Value := fun one other => decidable_of_iff _ (same_iff one other)

end Value

end Tracepoint.Toml
