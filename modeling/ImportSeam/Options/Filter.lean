import ImportSeam.Pattern.Reader
import ImportSeam.Text.Inspect

/-!
# Filters on modules

## Main definitions

* `Pattern` — a pattern with the expression it denotes.
* `ModuleFilter` — a filter on the names of modules.
* `ModuleFilter.accepts` — whether a filter applies to a module.
-/

namespace ImportSeam

/-- A pattern as it was written, with the expression it denotes. -/
structure Pattern where
  written : String
  regex : Regex

/-- The pattern of a text, unless the text is malformed. -/
def Pattern.ofText? (s : String) : Option Pattern := do
  return ⟨s, ← Regex.parse? s⟩

/-- A filter on the names of modules. -/
inductive ModuleFilter where
  | exact (module : String)
  /-- Every module in whose name the pattern is found. -/
  | pattern (p : Pattern)

namespace ModuleFilter

/-- Whether a filter applies to a module. -/
def accepts (module : String) : ModuleFilter → Bool
  | .exact m => m == module
  | .pattern p => p.regex.isMatch module

/-- A filter in a listing. -/
def inspect : ModuleFilter → String
  | .exact m => Text.inspect m
  | .pattern p => "/" ++ p.written ++ "/"

end ModuleFilter

end ImportSeam
