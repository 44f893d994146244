import ImportSeam.Token.SyntaxError
import ImportSeam.Tree.Basic

/-!
# Literals read as patterns

An array or object literal may turn out to be a pattern when an assignment or the keyword of a loop
follows it.  The literal is then converted, together with everything inside it.

## Main definitions

* `Expr.toPat` — the pattern that a literal or a name stands for.
* `Expr.toTarget` — the left side of an assignment.
-/

namespace ImportSeam

/-- The error for something that cannot be assigned to. -/
def notAssignable (loc : Loc) : SyntaxError := loc.error .invalidAssignmentTarget

mutual

/-- The pattern that an expression stands for. -/
def Expr.toPat : Expr → Except SyntaxError Pat
  | .ident id => return .ident id
  | .target pat => return pat
  | .array loc elems => do
    let (elems, rest) ← elemsToPats loc elems
    return .array loc elems rest
  | .object loc members => do
    let (props, rest) ← membersToProps loc members
    return .object loc props rest
  | e => throw (notAssignable e.loc)

/-- The pattern that an expression stands for, which may be assigned a default value. -/
def Expr.toBinder : Expr → Except SyntaxError Binder
  | .binary _ .assign left right => return ⟨← left.toPat, some right⟩
  | .ident id => return ⟨.ident id, none⟩
  | .target pat => return ⟨pat, none⟩
  | .array loc elems => do
    let (elems, rest) ← elemsToPats loc elems
    return ⟨.array loc elems rest, none⟩
  | .object loc members => do
    let (props, rest) ← membersToProps loc members
    return ⟨.object loc props rest, none⟩
  | e => throw (notAssignable e.loc)

/-- The elements of an array literal at a location as elements of a pattern, with what takes the
rest.  Nothing may follow that. -/
def elemsToPats (loc : Loc) :
    List ArrayElem → Except SyntaxError (List (Option Binder) × Option Pat)
  | [] => return ([], none)
  | .hole :: es => do
    let (elems, rest) ← elemsToPats loc es
    return (none :: elems, rest)
  | .item e :: es => do
    let b ← e.toBinder
    let (elems, rest) ← elemsToPats loc es
    return (some b :: elems, rest)
  | .spread e :: es => do
    let p ← e.toPat
    if es.isEmpty then return ([], some p) else throw (notAssignable loc)

/-- The members of an object literal at a location as properties of a pattern, with the name that
takes the rest.  Nothing may follow that. -/
def membersToProps (loc : Loc) :
    List ObjMember → Except SyntaxError (List PropPat × Option Ident)
  | [] => return ([], none)
  | .valued _ key (.field (some e)) :: ms => do
    let b ← e.toBinder
    let (props, rest) ← membersToProps loc ms
    return (⟨key, b, false⟩ :: props, rest)
  | .valued memberLoc _ _ :: _ => throw (notAssignable memberLoc)
  | .shorthand _ id :: ms => do
    let (props, rest) ← membersToProps loc ms
    return (⟨.direct id.name .ident, ⟨.ident id, none⟩, true⟩ :: props, rest)
  | .spread _ (.ident id) :: ms =>
    if ms.isEmpty then return ([], some id) else throw (notAssignable loc)
  | .spread _ e :: _ => throw (notAssignable e.loc)

end

/-- The left side of an assignment.  Only a plain assignment takes a literal apart. -/
def Expr.toTarget (op : Operator) : Expr → Except SyntaxError Expr
  | .ident id => return .target (.ident id)
  | .member loc o e p => return .member loc o e p
  | .index loc o e k => return .index loc o e k
  | e@(.array _ _) | e@(.object _ _) =>
    if op == .assign then return .target (← e.toPat) else throw (notAssignable e.loc)
  | e => throw (notAssignable e.loc)

end ImportSeam
