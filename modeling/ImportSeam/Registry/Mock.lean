import ImportSeam.Registry.Basic
import ImportSeam.Registry.Overlay

/-!
# Mocking

A mock gives the aliases of a module the values of a replacement.  An alias for one export takes the
value of that export, an alias for the whole module takes the whole replacement.  A replacement that
names an export which no alias was imported as is a mistake, and then nothing changes.

## Main definitions

* `UnknownImport` — the mistake.
* `Registry.assignments` — the new values that a replacement gives.
* `Registry.mock` — replaces values.
-/

namespace ImportSeam

/-- A mock names an export that no alias was imported as. -/
structure UnknownImport where
  path : String
  symbol : String
  deriving DecidableEq, Repr, Inhabited

/-- The wording of the mistake. -/
def UnknownImport.message (e : UnknownImport) : String :=
  "module does not import \"" ++ e.symbol ++ "\" from \"" ++ e.path ++ "\""

namespace RegistryEntry

variable {α : Type}

/-- Whether an alias stands for the whole of a module. -/
def isWhole (path : String) (e : RegistryEntry α) : Bool :=
  e.record.path == path && e.record.symbol.isWholeModule

/-- Whether an alias stands for an export of a module. -/
def isExport (path name : String) (e : RegistryEntry α) : Bool :=
  e.record.path == path && e.record.symbol.text == name

end RegistryEntry

namespace Registry

variable {α : Type}

/-- The new values that one export gives. -/
def exportAssignments (r : Registry α) (path name : String) (value : α) :
    Except UnknownImport (List (String × α)) :=
  let hits := r.entries.filter (·.isExport path name)
  if hits.isEmpty && !r.entries.any (·.isWhole path) then throw ⟨path, name⟩
  else return hits.map fun e => (e.name, value)

/-- The new values that the replacement of a module gives, those of the aliases for the whole module
first. -/
def moduleAssignments [ModuleValue α] (r : Registry α) (path : String)
    (replacement : Replacement α) : Except UnknownImport (List (String × α)) := do
  let exports := replacement.toExports
  let whole := (r.entries.filter (·.isWhole path)).map fun e =>
    (e.name, ModuleValue.ofExports exports)
  let named ← exports.toList.mapM fun (name, value) => r.exportAssignments path name value
  return whole ++ named.flatten

/-- The new values that replacements give. -/
def assignments [ModuleValue α] (r : Registry α) (replacements : Replacements α) :
    Except UnknownImport (List (String × α)) := do
  let parts ← replacements.toList.mapM fun (path, replacement) =>
    r.moduleAssignments path replacement
  return parts.flatten

/-- Replaces the values of the aliases that replacements name. -/
def replace [ModuleValue α] (r : Registry α) (replacements : Replacements α) :
    Except UnknownImport (Registry α) := do
  return r.assignAll (← r.assignments replacements)

/-- The replacements that a selector asks for.  It is asked once about every alias, in order. -/
def selected {m : Type → Type} [Monad m] (r : Registry α) (selector : Selector m α) :
    m (Replacements α) :=
  r.entries.foldlM (fun found e => do
    match ← selector e.record.path e.record.symbol e.current with
    | some value => return found.addExport e.record.path e.record.symbol.text value
    | none => return found) ∅

/-- Replaces the values of the aliases that an overlay names. -/
def mock {m : Type → Type} [Monad m] [ModuleValue α] (r : Registry α) :
    Overlay m α → m (Except UnknownImport (Registry α))
  | .modules replacements => return r.replace replacements
  | .select selector => return r.replace (← r.selected selector)

end Registry

end ImportSeam
