import ImportSeam.Grammar.Pattern

/-!
# Functions

## Main definitions

* `Rules.params` — a parameter list.
* `Rules.funcAfterName` — the parameters and body of a function that is not an arrow.
* `Rules.signature` — a function with its keyword and name.
-/

namespace ImportSeam

open TokenParser

namespace Rules

/-- A parameter. -/
def param (r : Rules) (ctx : Context) : TokenParser Param := do
  let isRest ← acceptPunct .ellipsis
  let target ← r.pat ctx
  let init ← r.default? ctx [.punct .comma, .punct .rParen]
  return ⟨isRest, ⟨target, init⟩⟩

/-- A parameter list with its parentheses. -/
def params (r : Rules) (ctx : Context) : TokenParser (List Param) := do
  expectPunct .lParen
  separated r.depth .rParen (r.param ctx)

/-- The parameters and body of a function that is not an arrow. -/
def funcAfterName (r : Rules) (isAsync isGenerator : Bool) : TokenParser Func := do
  let ctx := Context.ofFunction isAsync isGenerator
  let params ← r.params ctx
  let body ← r.block ctx
  return ⟨false, isAsync, isGenerator, params, .block body⟩

end Rules

/-- The name of a function or class, if one is given.  Whether `await` and `yield` can be names
depends on the place outside it. -/
def declaredName? (ctx : Context) : TokenParser (Option Ident) := do
  let t ← consumeIf fun t => ctx.isName t.kind
  return t.map fun t => ⟨t.text, t.loc, .unknown⟩

namespace Rules

/-- A function with its keyword: `async` and an asterisk if it has them, its name, its parameters
and its body. -/
def signature (r : Rules) (ctx : Context) : TokenParser (Option Ident × Func) := do
  let isAsync ← acceptWord "async"
  expectKeyword .kFunction
  let isGenerator ← acceptPunct .star
  let name ← declaredName? ctx
  let func ← r.funcAfterName isAsync isGenerator
  return (name, func)

/-- A function as an expression. -/
def funcExpr (r : Rules) (ctx : Context) : TokenParser Expr := spanning do
  let (name, func) ← r.signature ctx
  return fun loc => .func loc name func

end Rules

end ImportSeam
