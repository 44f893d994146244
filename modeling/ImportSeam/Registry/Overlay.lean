import ImportSeam.Registry.Export
import Std.Data.TreeMap

/-!
# What mocks replace

## Main definitions

* `Exports` — the values of a module's exports by name.
* `ModuleValue` — values that stand for whole modules.
* `Replacement` — what takes the place of a module.
* `Overlay` — what takes the place of several modules, or a function that decides about each alias.
-/

namespace ImportSeam

/-- Values of exports by name, in the order of the names. -/
abbrev Exports (α : Type) := Std.TreeMap String α

/-- Values that can stand for a whole module. -/
class ModuleValue (α : Type) where
  /-- The value of a module with the given exports. -/
  ofExports : Exports α → α

/-- What takes the place of a module. -/
inductive Replacement (α : Type) where
  /-- A function, which is the default export. -/
  | function (f : α)
  | exports (values : Exports α)

/-- The exports of a replacement. -/
def Replacement.toExports {α : Type} : Replacement α → Exports α
  | .function f => (∅ : Exports α).insert Export.default.text f
  | .exports values => values

/-- Replacements by module, in the order of the modules' names. -/
abbrev Replacements (α : Type) := Std.TreeMap String (Replacement α)

/-- Replacements with one more export of a module. -/
def Replacements.addExport {α : Type} (m : Replacements α) (path name : String) (value : α) :
    Replacements α :=
  let exports := (m.get? path).elim ∅ Replacement.toExports
  m.insert path (.exports (exports.insert name value))

/-- A function that decides about an alias, given its module, its export and its present value.
Without an answer the alias is left alone. -/
abbrev Selector (m : Type → Type) (α : Type) := String → Export → α → m (Option α)

/-- What is to be replaced, and by what. -/
inductive Overlay (m : Type → Type) (α : Type) where
  | modules (replacements : Replacements α)
  | select (selector : Selector m α)

/-- An overlay with the replacement of one more module.  A selector has its answers already. -/
def Overlay.add {m : Type → Type} {α : Type} (o : Overlay m α) (path : String)
    (replacement : Replacement α) : Overlay m α :=
  match o with
  | .modules replacements => .modules (replacements.insert path replacement)
  | .select selector => .select selector

end ImportSeam
