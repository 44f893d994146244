/-!
# What a binding was imported as

## Main definitions

* `Export` — which export of a module a binding refers to.
* `registryName`, `registryClass`, `helperModule` — the words that instrumented code uses.
* `isReservedAlias` — names that would hide an operation of the registry.
-/

namespace ImportSeam

/-! ### Fixed names -/

/-- The name of the registry in an instrumented module. -/
def registryName : String := "$imports"

/-- The class of the registry, which an instrumented module imports. -/
def registryClass : String := "ImportMap"

/-- The module that the class is imported from. -/
def helperModule : String := "mockable-js/helpers"

/-- The operation of the registry that adds an alias. -/
def addMethod : String := "$add"

/-- The names of the operations of the registry. -/
def reservedAliases : List String := [addMethod, "$mock", "$restore", "$meta"]

/-- Whether an alias would hide an operation of the registry. -/
def isReservedAlias (name : String) : Bool := reservedAliases.contains name

/-! ### Exports -/

/-- Which export of a module a binding refers to. -/
inductive Export where
  | default
  /-- All exports together. -/
  | star
  /-- Whatever a `require` call returns, whose shape is not known. -/
  | dynamicModule
  | named (name : String)
  deriving DecidableEq, Repr, Inhabited

namespace Export

/-- The text of an export. -/
def text : Export → String
  | .default => "default"
  | .star => "*"
  | .dynamicModule => "<CJS>"
  | .named name => name

/-- The export that a text stands for. -/
def ofText (s : String) : Export :=
  if s = "default" then .default
  else if s = "*" then .star
  else if s = "<CJS>" then .dynamicModule
  else .named s

/-- Whether a binding takes a replacement for the whole module at once. -/
def isWholeModule : Export → Bool
  | .star | .dynamicModule => true
  | .default | .named _ => false

end Export

end ImportSeam
