import ImportSeam.Text.Inspect
import ImportSeam.Tree.Ident

/-!
# Scopes

The scopes of a module form a tree.  They are kept in the order in which they were opened, and a
scope knows the scopes around it, so looking a name up is a search through a list.  Symbols are
numbered through the whole tree, in the order of the declarations.

## Main definitions

* `ScopeKind` — what opens a scope.
* `ScopeTree` — the scopes of a module.
* `ScopeTree.child`, `ScopeTree.declare` — opening a scope and declaring a name.
* `ScopeTree.find?`, `ScopeTree.symbolOf?` — what a name means in a scope.
-/

namespace ImportSeam

/-- What opens a scope. -/
inductive ScopeKind where
  | module
  /-- A function that is not an arrow, or a static block. -/
  | function
  | arrow
  | block
  /-- The scope of the name of a class or function expression, which holds nothing else. -/
  | ownName
  deriving DecidableEq, Repr, Inhabited

namespace ScopeKind

/-- Whether a hoisted declaration comes to rest here. -/
def isClosure : ScopeKind → Bool
  | .module | .function | .arrow => true
  | .block | .ownName => false

/-- The name of the kind in a listing. -/
def name : ScopeKind → String
  | .module => "Module"
  | .function => "NonArrowFunction"
  | .arrow => "ArrowFunction"
  | .block => "Block"
  | .ownName => "ClassOrFuncExprName"

/-- The kind with the given name. -/
def ofName? (s : String) : Option ScopeKind :=
  [module, function, arrow, block, ownName].find? (·.name == s)

end ScopeKind

/-- A scope: its kind, the scopes around it from the inside out, and its names in the order of
their first declaration. -/
structure Scope where
  kind : ScopeKind
  around : List ScopeId
  symbols : List (String × Symbol)
  deriving Repr, Inhabited

namespace Scope

/-- The symbol of a name declared in this very scope. -/
def get? (s : Scope) (name : String) : Option Symbol := s.symbols.lookup name

/-- The declared names, first declared first. -/
def names (s : Scope) : List String := s.symbols.map (·.1)

/-- A scope in a listing. -/
def inspect (s : Scope) : String :=
  "Scope \x7b typ: " ++ s.kind.name ++ ", symbols: " ++ Text.inspectList (s.names.map Text.inspect) ++ " \x7d"

end Scope

/-- The scopes of a module in the order in which they were opened, and how many symbols were
given out. -/
structure ScopeTree where
  scopes : Array Scope
  symbolCount : Nat
  deriving Repr, Inhabited

namespace ScopeTree

/-- A single scope without names. -/
def root (kind : ScopeKind) : ScopeTree := ⟨#[⟨kind, [], []⟩], 0⟩

/-- The scope with an index. -/
def scope (t : ScopeTree) (i : ScopeId) : Scope := t.scopes[i]?.getD default

/-- A scope and the scopes around it, from the inside out. -/
def chain (t : ScopeTree) (i : ScopeId) : List ScopeId := i :: (t.scope i).around

/-- Opens a scope inside another. -/
def child (t : ScopeTree) (parent : ScopeId) (kind : ScopeKind) : ScopeId × ScopeTree :=
  (t.scopes.size, { t with scopes := t.scopes.push ⟨kind, t.chain parent, []⟩ })

/-- Declares a name.  A name that the scope already has keeps its symbol. -/
def declare (t : ScopeTree) (i : ScopeId) (name : String) : Symbol × ScopeTree :=
  match (t.scope i).get? name with
  | some s => (s, t)
  | none =>
    let s : Symbol := ⟨t.symbolCount⟩
    (s, ⟨t.scopes.modify i fun sc => { sc with symbols := sc.symbols ++ [(name, s)] },
      t.symbolCount + 1⟩)

/-- The symbol of a name declared in a scope itself. -/
def get? (t : ScopeTree) (i : ScopeId) (name : String) : Option Symbol := (t.scope i).get? name

/-- The innermost scope that declares a name, with its symbol. -/
def find? (t : ScopeTree) (i : ScopeId) (name : String) : Option (ScopeId × Symbol) :=
  (t.chain i).findSome? fun j => (t.get? j name).map fun s => (j, s)

/-- The scope in which a hoisted declaration comes to rest. -/
def closure (t : ScopeTree) (i : ScopeId) : ScopeId :=
  ((t.chain i).find? fun j => (t.scope j).kind.isClosure).getD i

/-- The scope directly around a scope. -/
def parent? (t : ScopeTree) (i : ScopeId) : Option ScopeId := (t.scope i).around.head?

/-- The kinds of a scope and the scopes around it, from the inside out. -/
def kinds (t : ScopeTree) (i : ScopeId) : List ScopeKind := (t.chain i).map fun j => (t.scope j).kind

/-- The symbol that an identifier refers to: the one it declares, or what the scope it is used in
makes of its name. -/
def symbolOf? (t : ScopeTree) (id : Ident) : Option Symbol :=
  match id.mention with
  | .declares s => some s
  | .usedIn i => (t.find? i id.name).map (·.2)
  | .unknown => none

end ScopeTree

end ImportSeam
