import ImportSeam.Json.Reader
import ImportSeam.Options.Basic

/-!
# Reading options

Options are written as an object with the keys `excludeDirs` and `excludeImportsFromModules`, or as
an array of the two in this order.  What is not given keeps its default.

## Main definitions

* `JsonReader.moduleFilter`, `JsonReader.options` — readers.
* `Options.ofJson` — the options of a text.
-/

namespace ImportSeam

/-- The filter that a value stands for: a name as a string, or a pattern as an object.  Of the
members of the object only `pattern` counts, which has to be there exactly once. -/
def ModuleFilter.ofValue? : JsonValue → Option ModuleFilter
  | .str s => some (.exact s)
  | .obj members =>
    match members.filter (·.1 = "pattern") with
    | [(_, .str p)] => (Pattern.ofText? p).map .pattern
    | _ => none
  | _ => none

/-- Options of which only some parts were given. -/
structure PartialOptions where
  excludeDirs : Option (List String) := none
  excludeImports : Option (List ModuleFilter) := none

/-- Options with the defaults for what was not given. -/
def PartialOptions.complete (o : PartialOptions) : Options where
  excludeDirs := o.excludeDirs.getD defaultExcludeDirs
  excludeImports := o.excludeImports.getD defaultExcludeImports

namespace JsonReader

/-- A filter inside the list of filters of the options. -/
def moduleFilter : JsonReader ModuleFilter := do
  match ModuleFilter.ofValue? (← value (maxDepth - 2)) with
  | some f => return f
  | none => throw .misfit

/-- A member of the options.  Keys that are not known and keys that come twice do not fit. -/
def optionsMember (o : PartialOptions) (key : String) : JsonReader PartialOptions := do
  if key = "excludeDirs" && o.excludeDirs.isNone then
    colon
    return { o with excludeDirs := some (← list string) }
  if key = "excludeImportsFromModules" && o.excludeImports.isNone then
    colon
    return { o with excludeImports := some (← list moduleFilter) }
  throw .misfit

/-- The parts of the options after the bracket of an array. -/
def optionsItems : JsonReader PartialOptions := do
  if !(← moreItems true) then
    skip
    return {}
  let dirs ← list string
  if !(← moreItems false) then
    skip
    return { excludeDirs := some dirs }
  let imports ← list moduleFilter
  match ← peekToken? with
  | none => throw .ended
  | some ']' =>
    skip
    return { excludeDirs := some dirs, excludeImports := some imports }
  | some _ => throw .malformed

/-- Options. -/
def options : JsonReader Options := do
  match ← peekToken? with
  | some '{' =>
    skip
    return (← membersBody optionsMember {}).complete
  | some '[' =>
    skip
    return (← optionsItems).complete
  | _ => misfit

end JsonReader

/-- Why there are no options. -/
inductive OptionsError where
  | json (fault : JsonFault)
  | invalidPattern (written : String)
  deriving DecidableEq, Repr, Inhabited

namespace Options

/-- The options of a text. -/
def ofJson (text : String) : Except OptionsError Options :=
  (JsonReader.options.run text).mapError .json

/-- Options with one more pattern. -/
def addPattern (o : Options) (written : String) : Except OptionsError Options :=
  match Pattern.ofText? written with
  | some p => return o.addImport (.pattern p)
  | none => throw (.invalidPattern written)

end Options

end ImportSeam
