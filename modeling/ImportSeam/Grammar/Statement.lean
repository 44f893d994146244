import ImportSeam.Grammar.Expression

/-!
# Statements

## Main definitions

* `Rules.varBinders` — the bindings of a variable declaration.
* `Rules.forStmt`, `Rules.tryStmt`, `Rules.switchStmt` — the statements with parts of their own.
* `Rules.plainStmt` — every statement that is not an import or an export.
-/

namespace ImportSeam

open TokenParser

/-- Whether the token after `let` makes it a declaration; before any other token, `let` is a
name. -/
def declaresAfterLet : TokenKind → Bool
  | .ident | .punct .lBracket | .punct .lBrace
  | .keyword .kLet | .keyword .kYield | .keyword .kAwait => true
  | _ => false

/-- Whether a variable declaration starts with these two tokens. -/
def startsVarDecl (t next : Token) : Bool :=
  match t.kind with
  | .keyword .kVar | .keyword .kConst => true
  | .keyword .kLet => declaresAfterLet next.kind
  | _ => false

/-- Whether a function starts with these two tokens, of which the first may be `async`. -/
def startsFunc (t next : Token) : Bool :=
  t.kind == .keyword .kFunction ||
    (t.isWord "async" && next.kind == .keyword .kFunction && !next.newlineBefore)

/-- The keyword of a variable declaration. -/
def varMode : TokenParser VarMode := do
  let t ← consume
  match t.kind with
  | .keyword .kVar => return .hoisted
  | .keyword .kLet => return .lexical
  | .keyword .kConst => return .constant
  | _ => throw (t.error (.expected "variable declaration"))

/-- The label of a jump, which stands on the same line. -/
def jumpLabel? : TokenParser (Option String) := do
  let t ← consumeIf fun t => t.kind == .ident && !t.newlineBefore
  return t.map (·.text)

namespace Rules

/-! ### Declarations -/

/-- The bindings of a variable declaration, whose initial values end before the terminators. -/
def varBinders (r : Rules) (ctx : Context) (ends : List TokenKind) : Nat → TokenParser (List Binder)
  | 0 => TokenParser.exhausted
  | n + 1 => do
    let target ← r.pat ctx
    let init ← r.default? ctx (.punct .comma :: ends)
    if ← acceptPunct .comma then return ⟨target, init⟩ :: (← r.varBinders ctx ends n)
    return [⟨target, init⟩]

/-- The keyword and the bindings of a variable declaration. -/
def varParts (r : Rules) (ctx : Context) (ends : List TokenKind) :
    TokenParser (VarMode × List Binder) := do
  let mode ← varMode
  let binders ← r.varBinders ctx ends r.depth
  return (mode, binders)

/-- A variable declaration without the end of the statement. -/
def varDecl (r : Rules) (ctx : Context) (isExported : Bool) : TokenParser (Loc → Stmt) := do
  let (mode, binders) ← r.varParts ctx []
  return fun loc => .varDecl loc isExported mode binders

/-- A function declaration.  Only a default export can do without a name. -/
def funcDecl (r : Rules) (ctx : Context) (isExported isDefault : Bool) : TokenParser (Loc → Stmt) := do
  let (name, func) ← r.signature ctx
  if name.isNone && !isDefault then throw ((← peek).error (.expected "function name"))
  return fun loc => .funcDecl loc isExported isDefault name func

/-- A class declaration.  Only a default export can do without a name. -/
def classDecl (r : Rules) (ctx : Context) (isExported isDefault : Bool) : TokenParser (Loc → Stmt) := do
  let (name, parent, members) ← r.classSignature ctx
  if name.isNone && !isDefault then throw ((← peek).error (.expected "class name"))
  return fun loc => .classDecl loc isExported isDefault name parent members

/-! ### Loops -/

/-- The first part of the head of a loop, with the place of its declaration if it is one. -/
def forInit (r : Rules) (ctx : Context) : TokenParser (Loc × ForInit) := do
  let ends : List TokenKind := [.keyword .kIn, .punct .semicolon]
  let (first, second) ← peekTwo
  if startsVarDecl first second then
    spanning do
      let (mode, binders) ← r.varParts ctx ends
      return fun loc => (loc, .decl mode binders)
  else if first.kind == .punct .semicolon then return (first.loc, .absent)
  else return (first.loc, .expr (← r.sequence ctx ends))

/-- The first part of the head of a loop as what a loop over an object assigns to. -/
def forTarget (first : Token) (loc : Loc) : ForInit → Except SyntaxError ForTarget
  | .decl mode [⟨target, none⟩] => return .decl mode target
  | .decl _ _ => throw (loc.error (.expected "single binding"))
  | .expr value => return .assign (← value.toPat)
  | .absent => throw (first.error (.expected "for-in/of binding"))

/-- A loop over an object after its keyword, which was `in` or `of`. -/
def forEachTail (r : Rules) (ctx : Context) (isIn isAwait : Bool) (target : ForTarget) :
    TokenParser (Loc → Stmt) := do
  let ends : List TokenKind := [.punct .rParen]
  let object ← if isIn then r.sequence ctx ends else r.assignment ctx ends
  expectPunct .rParen
  let body ← r.stmt ctx
  return fun loc =>
    if isIn then .forIn loc target object body else .forOf loc isAwait target object body

/-- A counting loop after the first part of its head. -/
def forLoopTail (r : Rules) (ctx : Context) (init : ForInit) : TokenParser (Loc → Stmt) := do
  expectPunct .semicolon
  let test ← optionally ((← peekKind) != .punct .semicolon) (r.sequence ctx [.punct .semicolon])
  expectPunct .semicolon
  let post ← optionally ((← peekKind) != .punct .rParen) (r.sequence ctx [.punct .rParen])
  expectPunct .rParen
  let body ← r.stmt ctx
  return fun loc => .forLoop loc init test post body

/-- A `for` loop of any kind. -/
def forStmt (r : Rules) (ctx : Context) : TokenParser Stmt := spanning do
  expectKeyword .kFor
  let isAwait ← acceptKeyword .kAwait
  expectPunct .lParen
  let first ← peek
  let (loc, init) ← r.forInit ctx
  let t ← peek
  let isIn := t.kind == .keyword .kIn
  if isIn || t.isWord "of" then
    discard consume
    let target ← TokenParser.ofExcept (forTarget first loc init)
    r.forEachTail ctx isIn isAwait target
  else r.forLoopTail ctx init

/-! ### Statements with blocks -/

/-- The handler of a try statement. -/
def handler (r : Rules) (ctx : Context) : TokenParser Catch := do
  let param ← optionally (← acceptPunct .lParen) do
    let param ← r.pat ctx
    expectPunct .rParen
    return param
  return ⟨param, ← r.block ctx⟩

/-- A try statement, which has a handler or a final block. -/
def tryStmt (r : Rules) (ctx : Context) : TokenParser Stmt := spanning do
  let t ← expect (.keyword .kTry)
  let body ← r.block ctx
  let handler ← optionally (← acceptKeyword .kCatch) (r.handler ctx)
  let finalizer ← optionally (← acceptKeyword .kFinally) (r.block ctx)
  if handler.isNone && finalizer.isNone then throw (t.error .tryWithoutHandler)
  return fun loc => .tryCatch loc body handler finalizer

/-- The statements of a branch of a switch. -/
def branchBody (r : Rules) (ctx : Context) : TokenParser (List Stmt) :=
  collect r.depth do
    let t ← peek
    match t.kind with
    | .keyword .kCase | .keyword .kDefault | .punct .rBrace => return none
    | .eof => throw (t.error .unexpectedEnd)
    | _ => return some (← r.stmt ctx)

/-- A branch of a switch. -/
def branch (r : Rules) (ctx : Context) : TokenParser SwitchCase := do
  let test ←
    if ← acceptKeyword .kDefault then pure none
    else do
      expectKeyword .kCase
      some <$> r.sequence ctx [.punct .colon]
  expectPunct .colon
  return ⟨test, ← r.branchBody ctx⟩

/-- A switch statement. -/
def switchStmt (r : Rules) (ctx : Context) : TokenParser Stmt := spanning do
  expectKeyword .kSwitch
  let subject ← r.parenthesized ctx
  expectPunct .lBrace
  let cases ← collect r.depth do
    if ← acceptPunct .rBrace then return none
    return some (← r.branch ctx)
  return fun loc => .switch loc subject cases

/-! ### Simple statements -/

/-- A conditional statement. -/
def ifStmt (r : Rules) (ctx : Context) : TokenParser Stmt := spanning do
  expectKeyword .kIf
  let test ← r.parenthesized ctx
  let consequent ← r.stmt ctx
  let alternate ← optionally (← acceptKeyword .kElse) (r.stmt ctx)
  return fun loc => .ifElse loc test consequent alternate

/-- A loop that tests before its body. -/
def whileStmt (r : Rules) (ctx : Context) : TokenParser Stmt := spanning do
  expectKeyword .kWhile
  let test ← r.parenthesized ctx
  let body ← r.stmt ctx
  return fun loc => .while loc test body

/-- A loop that tests after its body.  The semicolon after it can always be left out. -/
def doWhileStmt (r : Rules) (ctx : Context) : TokenParser Stmt := spanning do
  expectKeyword .kDo
  let body ← r.stmt ctx
  expectKeyword .kWhile
  let test ← r.parenthesized ctx
  discard (acceptPunct .semicolon)
  return fun loc => .doWhile loc body test

/-- A statement over the members of an object. -/
def withStmt (r : Rules) (ctx : Context) : TokenParser Stmt := spanning do
  expectKeyword .kWith
  let object ← r.parenthesized ctx
  let body ← r.stmt ctx
  return fun loc => .withObject loc object body

/-- A return statement.  A value starts on the same line. -/
def returnStmt (r : Rules) (ctx : Context) : TokenParser Stmt := spanning do
  expectKeyword .kReturn
  let t ← peek
  let isBare := t.kind ∈ [.punct .semicolon, .punct .rBrace, .eof] || t.newlineBefore
  let value ← optionally (!isBare) (r.sequence ctx [])
  semicolon
  return fun loc => .returnValue loc value

/-- A throw statement.  The value starts on the same line. -/
def throwStmt (r : Rules) (ctx : Context) : TokenParser Stmt := spanning do
  expectKeyword .kThrow
  let t ← peek
  if t.newlineBefore then throw (t.error .newlineAfterThrow)
  let value ← r.sequence ctx []
  semicolon
  return fun loc => .throw loc value

/-- A jump: its keyword, a label if it has one, and the end of the statement. -/
def jumpStmt (k : Keyword) (build : Loc → Option String → Stmt) : TokenParser Stmt := spanning do
  expectKeyword k
  let label ← jumpLabel?
  semicolon
  return fun loc => build loc label

/-- A statement with a label. -/
def labelStmt (r : Rules) (ctx : Context) : TokenParser Stmt := spanning do
  let name ← consume
  expectPunct .colon
  let body ← r.stmt ctx
  return fun loc => .label loc name.text body

/-- An expression used as a statement. -/
def exprStmt (r : Rules) (ctx : Context) : TokenParser Stmt := spanning do
  let value ← r.sequence ctx []
  semicolon
  return fun loc => .expr loc value

/-- A variable declaration as a statement of its own.  Its location leaves out the semicolon. -/
def varStmt (r : Rules) (ctx : Context) : TokenParser Stmt := do
  let decl ← spanning (r.varDecl ctx false)
  semicolon
  return decl

/-- A statement that is neither an import nor an export, whose first two tokens are given. -/
def plainStmt (r : Rules) (ctx : Context) (t next : Token) : TokenParser Stmt := do
  if startsVarDecl t next then return ← r.varStmt ctx
  if startsFunc t next then return ← spanning (r.funcDecl ctx false false)
  match t.kind with
  | .punct .lBrace => spanning do
    let body ← r.block ctx
    return fun loc => .block loc body
  | .keyword .kClass => spanning (r.classDecl ctx false false)
  | .keyword .kFor => r.forStmt ctx
  | .keyword .kIf => r.ifStmt ctx
  | .keyword .kWhile => r.whileStmt ctx
  | .keyword .kDo => r.doWhileStmt ctx
  | .keyword .kReturn => r.returnStmt ctx
  | .keyword .kBreak => jumpStmt .kBreak .breakTo
  | .keyword .kContinue => jumpStmt .kContinue .continueTo
  | .keyword .kThrow => r.throwStmt ctx
  | .keyword .kTry => r.tryStmt ctx
  | .keyword .kSwitch => r.switchStmt ctx
  | .keyword .kWith => r.withStmt ctx
  | .keyword .kDebugger => spanning do
    expectKeyword .kDebugger
    semicolon
    return .debugger
  | .punct .semicolon => return .empty (← consume).loc
  | kind =>
    if ctx.isName kind && next.kind == .punct .colon then r.labelStmt ctx else r.exprStmt ctx

end Rules

end ImportSeam
