import ImportSeam.Instrument.Discovery
import ImportSeam.Instrument.Reference

/-!
# The statements that make the registry

An instrumented module imports the class of the registry, makes one registry after its anchor with the
bindings known there, adds the later bindings after their own statements, and exports the registry
at its end.  Inserted trees have an empty location at the offset where they stand.

## Main definitions

* `importRegistryClass`, `constructRegistry`, `registerBinding`, `exportRegistry`,
  `republishRegistry` — the inserted statements.
* `Discovery.splice` — a module body with the statements inserted.
-/

namespace ImportSeam

/-- A name that is read. -/
def nameRead (loc : Loc) (name : String) : Expr := .ident ⟨name, loc, .unknown⟩

/-- A name that is bound. -/
def nameBound (loc : Loc) (name : String) : Pat := .ident ⟨name, loc, .unknown⟩

/-- The statement that imports the class of the registry. -/
def importRegistryClass (loc : Loc) : Stmt :=
  .importDecl loc none
    (some (.specific [⟨.bare registryClass, nameBound loc registryClass⟩])) helperModule

/-- What the registry is told about a binding: `["path", "symbol", alias]`. -/
def registration (loc : Loc) (b : Binding) : Expr :=
  .array loc [.item (.str loc b.path), .item (.str loc b.symbol.text),
    .item (nameRead loc b.name)]

/-- The object with the first bindings of the registry. -/
def registrations (loc : Loc) (initial : List Binding) : Expr :=
  .object loc (initial.map fun b =>
    .valued loc (.direct b.name .ident) (.field (some (registration loc b))))

/-- The statement `const $imports = new ImportMap({alias: ["path", "symbol", alias]});`, without an
argument if there are no bindings yet. -/
def constructRegistry (loc : Loc) (initial : List Binding) : Stmt :=
  let args : List Arg := if initial.isEmpty then [] else [⟨false, registrations loc initial⟩]
  .varDecl loc false .constant
    [⟨nameBound loc registryName, some (.construct loc (nameRead loc registryClass) (some args))⟩]

/-- The statement `$imports.$add("alias", "path", "symbol", alias);`. -/
def registerBinding (loc : Loc) (b : Binding) : Stmt :=
  .expr loc (.call loc false (registryRead loc addMethod)
    [⟨false, .str loc b.name⟩, ⟨false, .str loc b.path⟩, ⟨false, .str loc b.symbol.text⟩,
      ⟨false, nameRead loc b.name⟩])

/-- The statement `export {$imports};`. -/
def exportRegistry (loc : Loc) : Stmt :=
  .exportList loc (.specific [⟨.bare registryName, .bare registryName⟩]) none

/-- The statement `module.exports.$imports = $imports;`. -/
def republishRegistry (loc : Loc) : Stmt :=
  let exports := Expr.member loc false (nameRead loc "module") "exports"
  .expr loc (.binary loc .assign (.member loc false exports registryName)
    (nameRead loc registryName))

namespace Discovery

/-- The bindings that the registry is made with. -/
def initial (d : Discovery) (anchor : Nat) : List Binding :=
  (d.found.filter (·.stmt ≤ anchor)).map (·.binding)

/-- The statements inserted after the statement with an index, which ends at an offset. -/
def insertedAfter (d : Discovery) (anchor index stop : Nat) : List Stmt :=
  let loc := Loc.point stop
  let made :=
    if index = anchor then [importRegistryClass loc, constructRegistry loc (d.initial anchor)]
    else []
  let later := d.found.filter fun f => f.stmt = index ∧ anchor < f.stmt
  made ++ later.map fun f => registerBinding loc f.binding

/-- The statements inserted at the end of a module. -/
def insertedLast (d : Discovery) (stop : Nat) : List Stmt :=
  let loc := Loc.point stop
  exportRegistry loc :: if d.assignsExports then [republishRegistry loc] else []

/-- The body of a module with the statements inserted. -/
def splice (d : Discovery) (stop : Nat) (body : List Stmt) : List Stmt :=
  match d.anchor with
  | none => body
  | some anchor =>
    body.zipIdx.flatMap (fun (s, i) => s :: d.insertedAfter anchor i s.loc.stop) ++
      d.insertedLast stop

end Discovery

end ImportSeam
