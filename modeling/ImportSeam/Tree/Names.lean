import ImportSeam.Tree.Basic

/-!
# The names of patterns

## Main definitions

* `Pat.names` — the names that a pattern binds, in the order in which they stand.
-/

namespace ImportSeam

mutual

/-- The names that a pattern binds. -/
def Pat.names : Pat → List String
  | .ident id => [id.name]
  | .array _ elems none => elemNames elems
  | .array _ elems (some rest) => elemNames elems ++ rest.names
  | .object _ props rest => propNames props ++ (rest.map (·.name)).toList

/-- The names that the elements of an array pattern bind. -/
def elemNames : List (Option Binder) → List String
  | [] => []
  | none :: es => elemNames es
  | some ⟨target, _⟩ :: es => target.names ++ elemNames es

/-- The names that the properties of an object pattern bind. -/
def propNames : List PropPat → List String
  | [] => []
  | ⟨_, ⟨target, _⟩, _⟩ :: ps => target.names ++ propNames ps

end

end ImportSeam
