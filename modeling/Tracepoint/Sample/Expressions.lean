/-!
Values of expressions, one per source text, in ascending order of the sources.
-/

namespace Tracepoint.Sample

abbrev Expressions := List (String × String)

namespace Expressions

def set (source value : String) : Expressions → Expressions
  | [] => [(source, value)]
  | entry :: entries =>
    if source = entry.1 then (source, value) :: entries
    else if source < entry.1 then (source, value) :: entry :: entries
    else entry :: set source value entries

def remove (source : String) (expressions : Expressions) : Expressions :=
  expressions.filter (·.1 ≠ source)

theorem lookup_set (expressions : Expressions) (source value asked : String) :
    (set source value expressions).lookup asked =
      if asked = source then some value else expressions.lookup asked := by
  induction expressions with
  | nil => simp [set]
  | cons entry entries ih =>
    obtain ⟨known, old⟩ := entry
    simp only [set]
    split
    case isTrue same => subst same; grind
    case isFalse other => split <;> grind

end Expressions

end Tracepoint.Sample
