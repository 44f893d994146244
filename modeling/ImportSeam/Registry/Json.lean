import ImportSeam.Json.Value
import ImportSeam.Registry.Basic
import ImportSeam.Registry.Overlay

/-!
# Registries of JSON values

## Main definitions

* `Registry.inspect` — a registry in a listing meant for a person.
-/

namespace ImportSeam

/-- A whole module is the object of its exports. -/
instance : ModuleValue JsonValue where
  ofExports exports := .obj exports.toList

/-- A registry in a listing: its aliases with their present values. -/
def Registry.inspect (r : Registry JsonValue) : String :=
  JsonValue.inspectEntries (r.values.map fun (name, v) => (name, v.inspect))

end ImportSeam
