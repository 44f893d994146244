import ImportSeam.Grammar.Literal

/-!
# Keys and patterns

## Main definitions

* `Rules.key` — the key of a member or of a property of a pattern.
* `Rules.pattern` — a pattern.
-/

namespace ImportSeam

open TokenParser

/-- Whether a token can start a key.  Private names are keys only in classes. -/
def startsKey (allowPrivate : Bool) : TokenKind → Bool
  | .ident | .str | .num | .bigInt | .punct .lBracket | .keyword _ => true
  | .privateName => allowPrivate
  | _ => false

/-- A name that is bound or assigned to. -/
def bindingName (ctx : Context) : TokenParser Ident := do
  let t ← consume
  if ctx.isName t.kind then return ⟨t.text, t.loc, .unknown⟩
  throw (t.error (.expected "identifier"))

namespace Rules

/-- The key of a member, computed or direct. -/
def key (r : Rules) (ctx : Context) (allowPrivate : Bool) : TokenParser Key := do
  let t ← peek
  if t.kind == .punct .lBracket then
    discard consume
    let value ← r.assignment ctx [.punct .rBracket]
    expectPunct .rBracket
    return .computed value
  if !startsKey allowPrivate t.kind then throw (t.error (.expected "property key"))
  if t.kind == .str then
    let (_, text) ← stringValue
    return .direct text t.kind
  discard consume
  return .direct t.text t.kind

/-- The elements of an array pattern after its bracket, with what takes the rest. -/
def elemPats (r : Rules) (ctx : Context) :
    Nat → TokenParser (List (Option Binder) × Option Pat)
  | 0 => TokenParser.exhausted
  | n + 1 => do
    if ← acceptPunct .rBracket then return ([], none)
    if ← acceptPunct .comma then
      let (elems, rest) ← r.elemPats ctx n
      return (none :: elems, rest)
    if ← acceptPunct .ellipsis then
      let rest ← r.pat ctx
      expectPunct .rBracket
      return ([], some rest)
    let target ← r.pat ctx
    let init ← r.default? ctx [.punct .comma, .punct .rBracket]
    let b : Option Binder := some ⟨target, init⟩
    if ← acceptPunct .comma then
      let (elems, rest) ← r.elemPats ctx n
      return (b :: elems, rest)
    expectPunct .rBracket
    return ([b], none)

/-- A property of an object pattern: a key with a pattern, or a name that is both. -/
def propPat (r : Rules) (ctx : Context) : TokenParser PropPat := do
  let t ← peek
  let key ← r.key ctx false
  let ends : List TokenKind := [.punct .comma, .punct .rBrace]
  if ← acceptPunct .colon then
    let target ← r.pat ctx
    return ⟨key, ⟨target, ← r.default? ctx ends⟩, false⟩
  match key with
  | .direct text kind =>
    if !ctx.isName kind then throw (t.error (.requiredToken (.punct .colon)))
    return ⟨key, ⟨.ident ⟨text, t.loc, .unknown⟩, ← r.default? ctx ends⟩, true⟩
  | .computed _ => throw (t.error (.requiredToken (.punct .colon)))

/-- The properties of an object pattern after its brace, with the name that takes the rest. -/
def propPats (r : Rules) (ctx : Context) : Nat → TokenParser (List PropPat × Option Ident)
  | 0 => TokenParser.exhausted
  | n + 1 => do
    if ← acceptPunct .rBrace then return ([], none)
    if ← acceptPunct .ellipsis then
      let rest ← bindingName ctx
      expectPunct .rBrace
      return ([], some rest)
    let prop ← r.propPat ctx
    if ← acceptPunct .comma then
      let (props, rest) ← r.propPats ctx n
      return (prop :: props, rest)
    expectPunct .rBrace
    return ([prop], none)

/-- A pattern. -/
def pattern (r : Rules) (ctx : Context) : TokenParser Pat := do
  match ← peekKind with
  | .punct .lBracket => spanning do
    expectPunct .lBracket
    let (elems, rest) ← r.elemPats ctx r.depth
    return fun loc => .array loc elems rest
  | .punct .lBrace => spanning do
    expectPunct .lBrace
    let (props, rest) ← r.propPats ctx r.depth
    return fun loc => .object loc props rest
  | _ => return .ident (← bindingName ctx)

end Rules

end ImportSeam
