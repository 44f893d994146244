import ImportSeam.Grammar.Markup
import ImportSeam.Grammar.Member
import ImportSeam.Grammar.Target

/-!
# Expressions

An expression is an operand followed by operators that bind at least as tightly as asked for.  The
right operand is read with the precedence of the operator, one higher where the operator groups to
the left, so the tree comes out grouped as the table says.

An opening parenthesis may start the parameters of an arrow or a parenthesised expression.  The
parameters are tried first; if they fail, or no arrow follows, the tokens are read again.

## Main definitions

* `Rules.arrow?` — an arrow function, if one starts here.
* `Rules.operandExpr` — an operand with the operators before it.
* `Rules.operatorExpr` — operators after an operand.
-/

namespace ImportSeam

open TokenParser

/-- Turns a failed conversion into a failure of the parser. -/
def TokenParser.ofExcept {α : Type} : Except SyntaxError α → TokenParser α
  | .ok a => return a
  | .error e => throw e

/-- Whether a token can name a member after a point. -/
def isMemberName (kind : TokenKind) : Bool :=
  kind == .ident || kind == .privateName || kind.isKeyword

/-- A name used as an expression. -/
def nameExpr (ctx : Context) : TokenParser Expr := return .ident (← bindingName ctx)

namespace Rules

/-- The arguments of a call after the opening parenthesis, with the closing one. -/
def args (r : Rules) (ctx : Context) : TokenParser (List Arg) :=
  separated r.depth .rParen do
    let isSpread ← acceptPunct .ellipsis
    let value ← r.assignment ctx [.punct .comma, .punct .rParen]
    return ⟨isSpread, value⟩

/-! ### Arrow functions -/

/-- The parameters of an arrow: a list in parentheses, or a single name.  Using up the bound is not a
failed attempt. -/
def arrowParams? (r : Rules) (ctx : Context) : TokenParser (Option (List Param)) := do
  if (← peekKind) == .punct .lParen then
    try return some (← r.params ctx) catch e => if e.isExhausted then throw e else return none
  let t ← consume
  if ctx.isName t.kind then
    return some [⟨false, ⟨.ident ⟨t.text, t.loc, .unknown⟩, none⟩⟩]
  return none

/-- Everything of an arrow up to and including the arrow itself.  The position is unchanged if no
arrow function starts here. -/
def arrowHead? (r : Rules) (ctx : Context) : TokenParser (Option (List Param)) := do
  let start ← mark
  match ← r.arrowParams? ctx with
  | none => do
    restore start
    return none
  | some params => do
    let t ← peek
    if t.kind != .punct .arrow then
      restore start
      return none
    if t.newlineBefore then throw (t.error .newlineAfterArrowParameters)
    discard consume
    return some params

/-- An arrow function, if one starts here.  An `async` before it was already consumed. -/
def arrow? (r : Rules) (ctx : Context) (isAsync : Bool) (ends : List TokenKind) :
    TokenParser (Option Expr) := do
  let start ← mark
  let inner := ctx.ofArrow isAsync
  match ← r.arrowHead? inner with
  | none => return none
  | some params => do
    let body ←
      if (← peekKind) == .punct .lBrace then FuncBody.block <$> r.block inner
      else FuncBody.expr <$> r.assignment inner ends
    let loc ← since start
    return some (.arrow loc ⟨true, isAsync, false, params, body⟩)

/-- An arrow function or an expression in parentheses. -/
def arrowOrParenthesized (r : Rules) (ctx : Context) (ends : List TokenKind) : TokenParser Expr := do
  match ← r.arrow? ctx false ends with
  | some e => return e
  | none => r.parenthesized ctx

/-- A name, or an arrow function whose only parameter it is. -/
def nameOrArrow (r : Rules) (ctx : Context) (ends : List TokenKind) : TokenParser Expr := do
  let (_, next) ← peekTwo
  if next.kind == .punct .arrow then
    if let some e ← r.arrow? ctx false ends then return e
  nameExpr ctx

/-- What starts with the word `async`: an asynchronous function or arrow, or just a name. -/
def asyncOrName (r : Rules) (ctx : Context) (ends : List TokenKind) : TokenParser Expr := do
  let (_, next) ← peekTwo
  if !next.newlineBefore then
    if next.kind == .keyword .kFunction then return ← r.funcExpr ctx
    if next.kind == .punct .lParen || ctx.isName next.kind then
      let start ← mark
      discard consume
      if let some e ← r.arrow? ctx true ends then return e
      restore start
  r.nameOrArrow ctx ends

/-! ### Parts of operands -/

/-- Whether a token after `yield` shows that it has no argument. -/
def endsYield (ends : List TokenKind) (t : Token) : Bool :=
  t.newlineBefore || t.kind ∈ ends ||
    t.kind ∈ [.punct .rBrace, .punct .rBracket, .punct .colon, .punct .comma, .eof,
      .punct .rParen, .punct .semicolon]

/-- A `yield` expression. -/
def yieldExpr (r : Rules) (ctx : Context) (ends : List TokenKind) : TokenParser Expr := spanning do
  expectKeyword .kYield
  let delegate ← acceptPunct .star
  let next ← peek .operand
  let arg ← optionally (delegate || !endsYield ends next) (r.assignment ctx ends)
  return fun loc => .yield loc delegate arg

/-- A dynamic import or `import.meta`. -/
def importExpr (r : Rules) (ctx : Context) : TokenParser Expr := spanning do
  expectKeyword .kImport
  if ← acceptPunct .dot then
    discard (expectWord "meta")
    return .importMeta
  expectPunct .lParen
  let module ← r.assignment ctx [.punct .rParen]
  discard (acceptPunct .comma)
  expectPunct .rParen
  return fun loc => .importCall loc module

/-- A member access after its point. -/
def memberAccess (object : Expr) (optional : Bool) : TokenParser Expr := do
  let t ← consume
  if !isMemberName t.kind then throw (t.error (.expected "member name"))
  return .member (object.loc.join t.loc) optional object t.text

/-- A computed member access after its bracket. -/
def indexAccess (r : Rules) (ctx : Context) (object : Expr) (optional : Bool) : TokenParser Expr := do
  let key ← r.sequence ctx [.punct .rBracket]
  let close ← expect (.punct .rBracket)
  return .index (object.loc.join close.loc) optional object key

/-- A template with a tag, after its first token. -/
def taggedTemplate (r : Rules) (ctx : Context) (tag : Expr) (first : Token) : TokenParser Expr := do
  let (parts, loc) ← r.templateAfter ctx first
  return .tagged (tag.loc.join loc) tag parts

/-- The accesses that belong to the callee of `new`.  A call does not: its arguments are those of
`new`. -/
def calleeTail (r : Rules) (ctx : Context) (callee : Expr) : Nat → TokenParser Expr
  | 0 => TokenParser.exhausted
  | n + 1 => do
    match ← peekKind with
    | .punct .dot => do
      discard consume
      r.calleeTail ctx (← memberAccess callee false) n
    | .punct .lBracket => do
      discard consume
      r.calleeTail ctx (← r.indexAccess ctx callee false) n
    | .templateChunk | .templateEnd => do
      let first ← consume
      r.calleeTail ctx (← r.taggedTemplate ctx callee first) n
    | _ => return callee

/-- A `new` expression or `new.target`. -/
def constructExpr (r : Rules) (ctx : Context) : TokenParser Expr := spanning do
  expectKeyword .kNew
  if ← acceptPunct .dot then
    discard (expectWord "target")
    return .newTarget
  let start ← if (← peekKind) == .keyword .kNew then r.construct ctx else r.operand ctx []
  let callee ← r.calleeTail ctx start r.depth
  let args ← optionally (← acceptPunct .lParen) (r.args ctx)
  return fun loc => .construct loc callee args

/-- The elements of an array literal after its bracket. -/
def arrayElems (r : Rules) (ctx : Context) : Nat → TokenParser (List ArrayElem)
  | 0 => TokenParser.exhausted
  | n + 1 => do
    if ← acceptPunct .rBracket then return []
    if ← acceptPunct .comma then return .hole :: (← r.arrayElems ctx n)
    let isSpread ← acceptPunct .ellipsis
    let value ← r.assignment ctx [.punct .comma, .punct .rBracket]
    let elem : ArrayElem := if isSpread then .spread value else .item value
    if ← acceptPunct .comma then return elem :: (← r.arrayElems ctx n)
    expectPunct .rBracket
    return [elem]

/-- An array literal. -/
def arrayLiteral (r : Rules) (ctx : Context) : TokenParser Expr := spanning do
  expectPunct .lBracket
  let elems ← r.arrayElems ctx r.depth
  return fun loc => .array loc elems

/-- An operator before its operand. -/
def unaryExpr (r : Rules) (ctx : Context) (op : Operator) (ends : List TokenKind) :
    TokenParser Expr := spanning do
  discard (consume .operand)
  let arg ← r.expr ctx op.precedence ends
  return fun loc => .unary loc op arg

/-- An operand without operators before it. -/
def primaryExpr (r : Rules) (ctx : Context) (ends : List TokenKind) (t : Token) :
    TokenParser Expr := do
  match t.kind with
  | .keyword .kNew => r.constructExpr ctx
  | .keyword .kImport => r.importExpr ctx
  | .punct .lt => spanning do
    let elem ← r.element ctx
    return fun loc => .jsx loc elem
  | .punct .lParen => r.arrowOrParenthesized ctx ends
  | .punct .lBracket => r.arrayLiteral ctx
  | .punct .lBrace => r.objectLiteral ctx
  | .keyword .kFunction => r.funcExpr ctx
  | .keyword .kClass => r.classExpr ctx
  | .bigInt => bigIntLiteral
  | .keyword .kFalse => return .bool (← consume).loc false
  | .keyword .kTrue => return .bool (← consume).loc true
  | .keyword .kNull => return .null (← consume).loc
  | .num => numberLiteral
  | .regex => regexLiteral
  | .str => stringLiteral
  | .templateChunk | .templateEnd => do
    let first ← consume
    let (parts, loc) ← r.templateAfter ctx first
    return .template loc parts
  | .keyword .kSuper => return .superRef (← consume).loc
  | .keyword .kThis => return .this (← consume).loc
  | kind =>
    if t.isWord "async" then r.asyncOrName ctx ends
    else if ctx.isName kind then r.nameOrArrow ctx ends
    else if kind == .eof then throw (t.error .unexpectedEnd)
    else throw (t.error (.expected "expression operand"))

/-- The operator that a token denotes before an operand.  Where `await` is a name, it is none. -/
def prefixAt? (ctx : Context) (kind : TokenKind) : Option Operator :=
  if kind == .keyword .kAwait && ctx.awaitIsName then none else kind.prefixOperator?

/-- An operand with the operators before it. -/
def operandExpr (r : Rules) (ctx : Context) (ends : List TokenKind) : TokenParser Expr := do
  let t ← peek .operand
  match prefixAt? ctx t.kind with
  | some op => r.unaryExpr ctx op ends
  | none =>
    if t.kind == .keyword .kYield && !ctx.yieldIsName then r.yieldExpr ctx ends
    else r.primaryExpr ctx ends t

/-! ### Operators after an operand -/

/-- The increment or decrement that a token denotes after an operand. -/
def updateOperator? : TokenKind → Option Operator
  | .punct .plusPlus => some .postfixIncrement
  | .punct .minusMinus => some .postfixDecrement
  | _ => none

/-- An operator and its right operand. -/
def binaryTail (r : Rules) (ctx : Context) (ends : List TokenKind) (op : Operator) (left : Expr) :
    TokenParser Expr := do
  let left ← if op.isAssignment then TokenParser.ofExcept (left.toTarget op) else pure left
  let right ← r.expr ctx op.rightPrecedence ends
  return .binary (left.loc.join right.loc) op left right

/-- What an operator makes of the operand before it.  The operator's token `t`, the first after
`start`, was already consumed. -/
def applyOperator (r : Rules) (ctx : Context) (ends : List TokenKind) (start : Nat) (t : Token)
    (op : Operator) (left : Expr) : TokenParser Expr := do
  match op with
  | .call =>
    if t.kind == .punct .lParen then
      let args ← r.args ctx
      return .call (left.loc.join (← since start)) false left args
    else r.taggedTemplate ctx left t
  | .optionalChainingCall => do
    let args ← r.args ctx
    return .call (left.loc.join (← since start)) true left args
  | .memberAccess => memberAccess left false
  | .optionalChainingMemberAccess => memberAccess left true
  | .computedMemberAccess => r.indexAccess ctx left false
  | .optionalChainingComputedMemberAccess => r.indexAccess ctx left true
  | .conditional => do
    let consequent ← r.assignment ctx [.punct .colon]
    expectPunct .colon
    let alternate ← r.assignment ctx ends
    return .cond (left.loc.join alternate.loc) left consequent alternate
  | op => r.binaryTail ctx ends op left

/-- The operators after an operand that bind at least as tightly as `least`.  An increment or
decrement on a new line does not belong to the operand before it. -/
def operatorTail (r : Rules) (ctx : Context) (least : Nat) (ends : List TokenKind) (left : Expr) :
    Nat → TokenParser Expr
  | 0 => TokenParser.exhausted
  | n + 1 => do
    let start ← mark
    let t ← consume
    let stop : TokenParser Expr := do
      restore start
      return left
    if t.kind ∈ ends then return ← stop
    match updateOperator? t.kind with
    | some op =>
      if t.newlineBefore || op.precedence < least then stop
      else r.operatorTail ctx least ends (.update (left.loc.join t.loc) op left) n
    | none =>
      match t.kind.infixOperator? with
      | some op =>
        if op.precedence < least then stop
        else do
          let left ← r.applyOperator ctx ends start t op left
          r.operatorTail ctx least ends left n
      | none => stop

/-- An expression of at least the given precedence that ends before the terminators. -/
def operatorExpr (r : Rules) (ctx : Context) (least : Nat) (ends : List TokenKind) :
    TokenParser Expr := do
  let left ← r.operandExpr ctx ends
  r.operatorTail ctx least ends left r.depth

end Rules

end ImportSeam
