import ImportSeam.Registry.Export
import ImportSeam.Tree.Ident

/-!
# Bindings

## Main definitions

* `Binding` — a binding whose value can be replaced.
* `InstrumentError` — why a module cannot be instrumented.
* `Outcome` — what became of a module.
-/

namespace ImportSeam

/-- A binding whose value can be replaced. -/
structure Binding where
  /-- The local name, and the name under which the registry knows the binding. -/
  name : String
  /-- The module that the binding comes from. -/
  path : String
  symbol : Export
  declaration : Symbol
  deriving DecidableEq, Repr, Inhabited

/-- Why a module cannot be instrumented. -/
inductive InstrumentError where
  /-- An import binds something other than a single name. -/
  | unsupportedSpecifier (module : String) (loc : Loc)
  deriving DecidableEq, Repr, Inhabited

/-- The wording of an error. -/
def InstrumentError.message : InstrumentError → String
  | .unsupportedSpecifier module loc =>
    "unsupported import specifier in import from \"" ++ module ++ "\" at [" ++
      toString loc.start ++ ":" ++ toString loc.stop ++ "]"

/-- What became of a module. -/
inductive Outcome where
  /-- The module lies in an excluded directory. -/
  | excluded
  /-- The module declares the name of the registry itself. -/
  | reservedNameConflict
  /-- The module has no bindings to replace. -/
  | unchanged
  | instrumented (bindings : List Binding)
  deriving DecidableEq, Repr, Inhabited

namespace Outcome

/-- The bindings of an instrumented module. -/
def bindings : Outcome → List Binding
  | .instrumented bindings => bindings
  | _ => []

/-- Whether the module was instrumented. -/
def isInstrumented : Outcome → Bool
  | .instrumented _ => true
  | _ => false

end Outcome

end ImportSeam
