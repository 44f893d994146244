import ImportSeam.Grammar.Parser
import ImportSeam.Tree.Basic

/-!
# The recursive rules of the grammar

Expressions, patterns, statements and elements contain one another.  Every production is written
against a record of parsers for these rules, which it uses for the parts it contains; the grammar
is the result of feeding the productions back to themselves often enough, and how often is bounded
by the length of the source.  So a production can be read, and reasoned about, on its own.

## Main definitions

* `Context` — which words are names at the current place.
* `Rules` — parsers for the rules that contain one another.
-/

namespace ImportSeam

/-- Whether `await` and `yield` are plain names in the current function.  They are operators inside
asynchronous functions and generators; `await` is one at the top level of a module too. -/
structure Context where
  awaitIsName : Bool
  yieldIsName : Bool
  deriving DecidableEq, Repr, Inhabited

namespace Context

/-- The top level of a module. -/
def top : Context := ⟨false, true⟩

/-- The inside of a function that is not an arrow. -/
def ofFunction (isAsync isGenerator : Bool) : Context := ⟨!isAsync, !isGenerator⟩

/-- The inside of an arrow, which takes part in the generator around it. -/
def ofArrow (ctx : Context) (isAsync : Bool) : Context :=
  ⟨!isAsync && ctx.awaitIsName, ctx.yieldIsName⟩

/-- Whether a token can be the name of a binding. -/
def isName (ctx : Context) : TokenKind → Bool
  | .ident | .keyword .kLet => true
  | .keyword .kAwait => ctx.awaitIsName
  | .keyword .kYield => ctx.yieldIsName
  | _ => false

end Context

/-- Parsers for the rules that contain one another. -/
structure Rules where
  /-- How many times the productions were fed back, which also bounds every repetition. -/
  depth : Nat
  /-- An expression of at least the given precedence that ends before the terminators. -/
  expr : Context → Nat → List TokenKind → TokenParser Expr
  /-- An operand with the operators before it. -/
  operand : Context → List TokenKind → TokenParser Expr
  /-- A `new` expression. -/
  construct : Context → TokenParser Expr
  pat : Context → TokenParser Pat
  stmt : Context → TokenParser Stmt
  elem : Context → TokenParser JsxElem

namespace Rules

/-- The rules before any production was fed back. -/
def exhausted : Rules where
  depth := 0
  expr _ _ _ := TokenParser.exhausted
  operand _ _ := TokenParser.exhausted
  construct _ := TokenParser.exhausted
  pat _ := TokenParser.exhausted
  stmt _ := TokenParser.exhausted
  elem _ := TokenParser.exhausted

/-- A whole expression, which may be a sequence with commas. -/
def sequence (r : Rules) (ctx : Context) (ends : List TokenKind) : TokenParser Expr :=
  r.expr ctx Operator.comma.precedence ends

/-- An expression that is not a sequence, such as an argument or an initial value. -/
def assignment (r : Rules) (ctx : Context) (ends : List TokenKind) : TokenParser Expr :=
  r.expr ctx Operator.assign.precedence ends

/-- An expression in parentheses. -/
def parenthesized (r : Rules) (ctx : Context) : TokenParser Expr := do
  TokenParser.expectPunct .lParen
  let e ← r.sequence ctx [.punct .rParen]
  TokenParser.expectPunct .rParen
  return e

/-- An equals sign and a value, or nothing. -/
def default? (r : Rules) (ctx : Context) (ends : List TokenKind) : TokenParser (Option Expr) := do
  TokenParser.optionally (← TokenParser.acceptPunct .assign) (r.assignment ctx ends)

/-- Statements up to a token, which is not consumed. -/
def stmtsUntil (r : Rules) (ctx : Context) (stop : TokenKind) : TokenParser (List Stmt) :=
  TokenParser.collect r.depth do
    let t ← TokenParser.peek
    if t.kind == stop then return none
    if t.kind == .eof then throw (t.error .unexpectedEnd)
    return some (← r.stmt ctx)

/-- Statements in braces. -/
def block (r : Rules) (ctx : Context) : TokenParser (List Stmt) := do
  TokenParser.expectPunct .lBrace
  let body ← r.stmtsUntil ctx (.punct .rBrace)
  TokenParser.expectPunct .rBrace
  return body

end Rules

end ImportSeam
