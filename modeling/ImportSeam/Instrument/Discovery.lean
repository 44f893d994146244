import ImportSeam.Instrument.Binding
import ImportSeam.Instrument.Require
import ImportSeam.Tree.Names

/-!
# Finding bindings

The bindings of a module that can be replaced are those introduced at the top level by an import or
by a recognised `require`.  Everything else keeps its meaning: calls in other places, nested
patterns, declarations inside functions.

## Main definitions

* `Discovery` — the bindings found, and where the registry goes.
* `Discovery.ofBody` — what is found in a module.
* `declaresTopLevel` — whether a module declares a name at its top level.
-/

namespace ImportSeam

/-- What decides which bindings are found. -/
structure Setting where
  resolve : Resolver
  /-- Whether imports from a module are left alone. -/
  excludesImport : String → Bool

/-- A binding with the index of the statement that introduces it. -/
structure Discovered where
  binding : Binding
  stmt : Nat
  deriving DecidableEq, Repr, Inhabited

/-- What was found in a module so far. -/
structure Discovery where
  /-- The bindings in the order in which they were found. -/
  found : List Discovered := []
  lastImport : Option Nat := none
  lastRequire : Option Nat := none
  /-- Whether the module replaces the object that it exports. -/
  assignsExports : Bool := false
  deriving DecidableEq, Repr, Inhabited

namespace Discovery

/-- The statement after which the registry is made: the last import, or the last recognised
`require` if there are no imports. -/
def anchor (d : Discovery) : Option Nat := d.lastImport.or d.lastRequire

/-- The bindings found. -/
def bindings (d : Discovery) : List Binding := d.found.map (·.binding)

/-- Whether a declaration is already among the bindings. -/
def registers (d : Discovery) (s : Symbol) : Bool := d.bindings.any (·.declaration == s)

/-- Adds a binding, unless it would hide an operation of the registry, has no declaration, or is
already there. -/
def add? (cfg : Setting) (d : Discovery) (stmt : Nat) (id : Ident) (path : String)
    (symbol : Export) : Option Discovery := do
  if isReservedAlias id.name then none
  let declaration ← cfg.resolve id
  if d.registers declaration then none
  return { d with found := d.found ++ [⟨⟨id.name, path, symbol, declaration⟩, stmt⟩] }

/-! ### Imports -/

/-- Adds a binding that an import makes, which has to be a single name. -/
def addImported (cfg : Setting) (d : Discovery) (stmt : Nat) (path : String) (symbol : Export) :
    Pat → Except InstrumentError Discovery
  | .ident id => return (d.add? cfg stmt id path symbol).getD d
  | p => throw (.unsupportedSpecifier path p.loc)

/-- Adds the bindings of an import list. -/
def addSpecs (cfg : Setting) (d : Discovery) (stmt : Nat) (path : String)
    (specs : List ImportSpec) : Except InstrumentError Discovery :=
  specs.foldlM (fun d s => d.addImported cfg stmt path (.ofText s.imported.text) s.target) d

/-- Adds what an import names. -/
def addNames (cfg : Setting) (d : Discovery) (stmt : Nat) (path : String) :
    Option ImportNames → Except InstrumentError Discovery
  | none => return d
  | some (.all p) => d.addImported cfg stmt path .star p
  | some (.specific specs) => d.addSpecs cfg stmt path specs

/-- Adds the bindings of an import. -/
def addImport (cfg : Setting) (d : Discovery) (stmt : Nat) (default : Option Pat)
    (names : Option ImportNames) (path : String) : Except InstrumentError Discovery := do
  let d := { d with lastImport := some stmt }
  if cfg.excludesImport path then return d
  let d ← match default with
    | none => pure d
    | some p => d.addImported cfg stmt path .default p
  d.addNames cfg stmt path names

/-! ### Calls of `require` -/

/-- Adds a binding for the result of `require`.  Names that start with an underscore belong to
helpers that earlier tools have put there. -/
def addRequired (cfg : Setting) (d : Discovery) (stmt : Nat) (id : Ident) (path : String)
    (symbol : Export) : Discovery :=
  if id.name.toList.head? = some '_' then d
  else
    match d.add? cfg stmt id path symbol with
    | some d => { d with lastRequire := some stmt }
    | none => d

/-- Adds a binding for each property taken from the result of `require`, where the property is
bound to a single name without a default. -/
def addProps (cfg : Setting) (d : Discovery) (stmt : Nat) (path : String)
    (props : List PropPat) : Discovery :=
  props.foldl (fun d prop =>
    match prop with
    | ⟨.direct key _, ⟨.ident id, none⟩, _⟩ => d.addRequired cfg stmt id path (.ofText key)
    | _ => d) d

/-- What a binding to the result of `require` refers to. -/
def requiredSymbol : Option String → Export
  | some property => .ofText property
  | none => .dynamicModule

/-- Adds the bindings of a pattern that the result of `require` is bound to. -/
def addRequire (cfg : Setting) (d : Discovery) (stmt : Nat) (target : Pat) (call : RequireCall) :
    Discovery :=
  if cfg.excludesImport call.path then d
  else
    match target, call.property with
    | .ident id, property => d.addRequired cfg stmt id call.path (requiredSymbol property)
    | .object _ props _, none => d.addProps cfg stmt call.path props
    | _, _ => d

/-- Adds the bindings of a variable declaration. -/
def addBinders (cfg : Setting) (d : Discovery) (stmt : Nat) (binders : List Binder) : Discovery :=
  binders.foldl (fun d b =>
    match b.init.bind (·.requireCall? cfg.resolve) with
    | some call => d.addRequire cfg stmt b.target call
    | none => d) d

/-- Adds what an assignment says.  A name is registered under the declaration that it refers to. -/
def addAssignment (cfg : Setting) (d : Discovery) (stmt : Nat) (left right : Expr) : Discovery :=
  if left.isModuleExports cfg.resolve then { d with assignsExports := true }
  else
    match left, right.requireCall? cfg.resolve with
    | .target (.ident id), some call => d.addRequire cfg stmt (.ident id) call
    | _, _ => d

/-! ### Modules -/

/-- Adds what a statement introduces. -/
def addStmt (cfg : Setting) (d : Discovery) (stmt : Nat) : Stmt → Except InstrumentError Discovery
  | .importDecl _ default names path => d.addImport cfg stmt default names path
  | .varDecl _ _ _ binders => return d.addBinders cfg stmt binders
  | .expr _ (.binary _ .assign left right) => return d.addAssignment cfg stmt left right
  | _ => return d

/-- What is found in the statements of a module. -/
def ofBody (cfg : Setting) (body : List Stmt) : Except InstrumentError Discovery :=
  body.zipIdx.foldlM (fun d (s, i) => d.addStmt cfg i s) {}

end Discovery

/-! ### Names at the top level -/

/-- The names of an import list. -/
def ImportNames.names : ImportNames → List String
  | .all p => p.names
  | .specific specs => specs.flatMap (·.target.names)

/-- The names that a statement declares where it stands. -/
def Stmt.declaredNames : Stmt → List String
  | .importDecl _ default names _ =>
    (default.map Pat.names).getD [] ++ (names.map ImportNames.names).getD []
  | .varDecl _ _ _ binders => binders.flatMap (·.target.names)
  | .classDecl _ _ _ name _ _ | .funcDecl _ _ _ name _ => (name.map (·.name)).toList
  | _ => []

/-- Whether a statement of the module declares a name at the top level. -/
def declaresTopLevel (body : List Stmt) (name : String) : Bool :=
  body.any (·.declaredNames.contains name)

end ImportSeam
