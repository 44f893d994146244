import ImportSeam.Number.Text
import ImportSeam.Tree.Basic

/-!
# Calls of `require`

A module can be read by a call of `require` with a single string, as the last part of a comma
sequence or not, and with one property taken from the result or not.  A local function of that name
is something else.

## Main definitions

* `Resolver` — what identifiers refer to.
* `Expr.requireCall?` — the module and property that an expression reads.
* `Expr.isModuleExports` — the object that a module exports.
-/

namespace ImportSeam

/-- Tells which declaration an identifier refers to, and nothing for a name that the module does
not declare. -/
abbrev Resolver := Ident → Option Symbol

/-- A call of `require`: the module, and the property taken from the result. -/
structure RequireCall where
  path : String
  property : Option String
  deriving DecidableEq, Repr, Inhabited

namespace Expr

/-- The last expression of a comma sequence. -/
def lastOfSequence : Expr → Expr
  | .binary _ .comma _ right => right.lastOfSequence
  | e => e

/-- The module that an expression reads by a call of `require`. -/
def requirePath? (resolve : Resolver) (e : Expr) : Option String :=
  match e.lastOfSequence with
  | .call _ false (.ident callee) [⟨false, .str _ path⟩] =>
    if callee.name = "require" ∧ resolve callee = none then some path else none
  | _ => none

/-- The property that a key in brackets names.  A number names the property that its usual text
does. -/
def propertyKey? : Expr → Option String
  | .str _ value => some value
  | .num _ value => some value.text
  | _ => none

/-- The module and property that an expression reads by a call of `require`. -/
def requireCall? (resolve : Resolver) (e : Expr) : Option RequireCall :=
  match e.lastOfSequence with
  | .member _ false owner property => do
    return ⟨← owner.requirePath? resolve, some property⟩
  | .index _ false owner key => do
    let property ← key.propertyKey?
    return ⟨← owner.requirePath? resolve, some property⟩
  | e => do
    return ⟨← e.requirePath? resolve, none⟩

/-- Whether an expression is the object that the module exports.  A local variable of that name is
something else. -/
def isModuleExports (resolve : Resolver) : Expr → Bool
  | .member _ _ (.ident owner) property =>
    owner.name == "module" && property == "exports" && (resolve owner).isNone
  | _ => false

end Expr

end ImportSeam
