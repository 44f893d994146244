import ImportSeam.Grammar.Function

/-!
# Members of classes and object literals

## Main definitions

* `Rules.method?` — a method, getter or setter.
* `Rules.objectLiteral`, `Rules.classTail` — object literals and class bodies.
-/

namespace ImportSeam

open TokenParser

namespace Rules

/-- A method, getter or setter with its key.  Nothing is consumed if the member is none of them. -/
def method? (r : Rules) (ctx : Context) (allowPrivate : Bool) :
    TokenParser (Option (Key × Member)) := do
  let (a, b) ← peekTwo
  let start ← mark
  let keyFollows := startsKey allowPrivate b.kind
  if (a.isWord "get" || a.isWord "set") && keyFollows then
    discard consume
    let key ← r.key ctx allowPrivate
    let func ← r.funcAfterName false false
    return some (key, if a.isWord "get" then .getter func else .setter func)
  let isAsync := a.isWord "async" && !b.newlineBefore && (b.kind == .punct .star || keyFollows)
  if isAsync || a.kind == .punct .star then
    if isAsync then discard consume
    let isGenerator ← acceptPunct .star
    let key ← r.key ctx allowPrivate
    let func ← r.funcAfterName isAsync isGenerator
    return some (key, .method func)
  if !startsKey allowPrivate a.kind then return none
  let key ← r.key ctx allowPrivate
  if (← peekKind) == .punct .lParen then
    let func ← r.funcAfterName false false
    return some (key, .method func)
  restore start
  return none

/-! ### Object literals -/

/-- A member of an object literal.  A name with a default value is only right once the literal
turns out to be a pattern; it is kept as an assignment until then. -/
def objMember (r : Rules) (ctx : Context) : TokenParser (Loc → ObjMember) := do
  let ends : List TokenKind := [.punct .comma, .punct .rBrace]
  if ← acceptPunct .ellipsis then
    let value ← r.assignment ctx ends
    return fun loc => .spread loc value
  if let some (key, member) ← r.method? ctx false then
    return fun loc => .valued loc key member
  let t ← peek
  let key ← r.key ctx false
  if ← acceptPunct .colon then
    let value ← r.assignment ctx ends
    return fun loc => .valued loc key (.field value)
  match key with
  | .computed _ => throw (t.error (.requiredToken (.punct .colon)))
  | .direct text kind =>
    if !ctx.isName kind then throw (t.error (.requiredToken (.punct .colon)))
    let id : Ident := ⟨text, t.loc, .unknown⟩
    if ← acceptPunct .assign then
      let value ← r.assignment ctx ends
      let default := Expr.binary (t.loc.join value.loc) .assign (.target (.ident id)) value
      return fun loc => .valued loc (.direct text .ident) (.field default)
    return fun loc => .shorthand loc id

/-- The members of an object literal with the braces. -/
def objMembers (r : Rules) (ctx : Context) : TokenParser (List ObjMember) := do
  expectPunct .lBrace
  separated r.depth .rBrace (spanning (r.objMember ctx))

/-- An object literal. -/
def objectLiteral (r : Rules) (ctx : Context) : TokenParser Expr := spanning do
  let members ← r.objMembers ctx
  return fun loc => .object loc members

/-! ### Classes -/

/-- A member of a class. -/
def classMember (r : Rules) (ctx : Context) : TokenParser ClassMember := do
  let (a, b) ← peekTwo
  if a.isWord "static" && b.kind == .punct .lBrace then
    discard consume
    -- The statements run like the body of a plain function.
    let body ← r.block (.ofFunction false false)
    return ⟨.direct a.text a.kind, true, .staticBlock body⟩
  let isStatic := a.isWord "static" &&
    !(b.kind ∈ [.punct .lParen, .punct .assign, .punct .semicolon, .punct .rBrace])
  if isStatic then discard consume
  if let some (key, member) ← r.method? ctx true then return ⟨key, isStatic, member⟩
  let key ← r.key ctx true
  let value ← r.default? ctx [.punct .semicolon, .punct .rBrace]
  semicolon
  return ⟨key, isStatic, .field value⟩

/-- The members of a class after its brace, up to and including the closing one.  Semicolons
between them do not count. -/
def classMembers (r : Rules) (ctx : Context) : TokenParser (List ClassMember) := do
  let members ← collect r.depth do
    if ← acceptPunct .semicolon then return some none
    if ← acceptPunct .rBrace then return none
    return some (some (← r.classMember ctx))
  return members.filterMap id

/-- Everything after the name of a class: what it extends, and its body. -/
def classTail (r : Rules) (ctx : Context) : TokenParser (Option Expr × List ClassMember) := do
  let parent ← optionally (← acceptKeyword .kExtends)
    (r.expr ctx Operator.new.precedence [.punct .lBrace])
  expectPunct .lBrace
  let members ← r.classMembers ctx
  return (parent, members)

/-- A class with its keyword: its name, what it extends, and its body. -/
def classSignature (r : Rules) (ctx : Context) :
    TokenParser (Option Ident × Option Expr × List ClassMember) := do
  expectKeyword .kClass
  let name ← declaredName? ctx
  let (parent, members) ← r.classTail ctx
  return (name, parent, members)

/-- A class as an expression. -/
def classExpr (r : Rules) (ctx : Context) : TokenParser Expr := spanning do
  let (name, parent, members) ← r.classSignature ctx
  return fun loc => .classExpr loc name parent members

end Rules

end ImportSeam
