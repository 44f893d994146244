import ImportSeam.Instrument.Registration
import ImportSeam.Options.Basic

/-!
# Instrumenting a module

Every binding that a module imports is registered, and every use of it becomes a read of the
registry, whose values can be replaced from outside.

## Main definitions

* `Program.withRegistry` — a module with the found bindings registered.
* `Program.instrument` — a module instrumented as its place and its contents allow.
-/

namespace ImportSeam

/-- The alias under which the declaration of an identifier is registered. -/
def Discovery.aliases (d : Discovery) (resolve : Resolver) : Aliases := fun id => do
  let s ← resolve id
  let b ← d.bindings.find? (·.declaration == s)
  return b.name

namespace Program

/-- A module with the uses of the found bindings replaced and the registry inserted. -/
def withRegistry (p : Program) (resolve : Resolver) (d : Discovery) : Program :=
  { p with body := d.splice p.loc.stop (redirectStmts (d.aliases resolve) p.body) }

/-- Instruments a module that is not excluded by its place.  It changes only if the outcome is that
it was instrumented. -/
def instrumentIncluded (p : Program) (cfg : Setting) :
    Except InstrumentError (Outcome × Program) := do
  if declaresTopLevel p.body registryName then return (.reservedNameConflict, p)
  let d ← Discovery.ofBody cfg p.body
  if d.found.isEmpty then return (.unchanged, p)
  return (.instrumented d.bindings, p.withRegistry cfg.resolve d)

/-- Instruments a module.  Its place is the path of its file, if it has one. -/
def instrument (p : Program) (resolve : Resolver) (place : Option String) (options : Options) :
    Except InstrumentError (Outcome × Program) :=
  if options.excludesFile place then return (.excluded, p)
  else p.instrumentIncluded { resolve, excludesImport := options.excludesImport }

end Program

end ImportSeam
