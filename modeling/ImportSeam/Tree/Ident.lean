import ImportSeam.Source.Loc

/-!
# Identifiers

An identifier is a name at a place.  Scope analysis records with each identifier what it found:
the declaration that the identifier makes, or the scope in which it is used.

## Main definitions

* `Symbol` — the identity of one declared binding.
* `Mention` — what an identifier does with its name.
* `Ident` — a name at a place.
-/

namespace ImportSeam

/-- The identity of one declared binding.  All references to one declaration have the same symbol,
whatever their text. -/
structure Symbol where
  number : Nat
  deriving DecidableEq, Repr, Inhabited

/-- The index of a scope in the scope tree of its module. -/
abbrev ScopeId := Nat

/-- What an identifier does with its name. -/
inductive Mention where
  /-- Nothing is known: the identifier was not analysed, or its name is no binding of the module,
  like the name under which another module is exported whole. -/
  | unknown
  /-- It declares the symbol. -/
  | declares (symbol : Symbol)
  /-- It refers to whatever the scope makes of its name. -/
  | usedIn (scope : ScopeId)
  deriving DecidableEq, Repr, Inhabited

/-- A name at a place. -/
structure Ident where
  name : String
  loc : Loc
  mention : Mention := .unknown
  deriving DecidableEq, Repr, Inhabited

/-- The symbol that the identifier declares, if it declares one. -/
def Ident.declared? (id : Ident) : Option Symbol :=
  match id.mention with
  | .declares s => some s
  | _ => none

end ImportSeam
