import ImportSeam.Grammar.Literal

/-!
# Elements written as markup

Three modes meet at the border of a tag: names and attributes are read in tag mode, the children in
text mode, and expressions in braces as elsewhere.

## Main definitions

* `Rules.element` — an element with its children.
-/

namespace ImportSeam

open TokenParser

/-- One name inside a tag. -/
def tagWord : TokenParser Token := expect .ident .jsxTag

/-- The name of an attribute. -/
def attributeName : TokenParser JsxName := do
  let first ← tagWord
  if ← acceptPunct .colon .jsxTag then
    let second ← tagWord
    return ⟨some first.text, second.text⟩
  return ⟨none, first.text⟩

/-- The names after a first one, each behind a point. -/
def tagPath (bound : Nat) : TokenParser (List String) :=
  collect bound do
    if ← acceptPunct .dot .jsxTag then return some (← tagWord).text else return none

/-- Whether a tag name belongs to the markup instead of naming a variable. -/
def isMarkupName (name : String) : Bool :=
  match name.toList with
  | [] => false
  | c :: cs => (0x61 ≤ c.toNat && c.toNat ≤ 0x7A) || (c :: cs).contains '-'

/-- The name in a tag; a fragment has none. -/
def tagName (bound : Nat) : TokenParser (Option JsxTag) := do
  if (← peekKind .jsxTag) == .punct .gt then return none
  let first ← tagWord
  if ← acceptPunct .colon .jsxTag then
    let second ← tagWord
    return some (.name ⟨some first.text, second.text⟩)
  let path ← tagPath bound
  let base : Ident := ⟨first.text, first.loc, .unknown⟩
  if !path.isEmpty then return some (.member base path)
  if isMarkupName first.text then return some (.name ⟨none, first.text⟩)
  return some (.ident base)

/-- Whether two tags have the same name. -/
def JsxTag.sameName : JsxTag → JsxTag → Bool
  | .member a p, .member b q => a.name == b.name && p == q
  | .name a, .name b => a == b
  | .ident a, .ident b => a.name == b.name
  | _, _ => false

/-- Whether a closing tag fits an opening one.  A fragment is closed by a fragment. -/
def tagsMatch : Option JsxTag → Option JsxTag → Bool
  | none, none => true
  | some a, some b => a.sameName b
  | _, _ => false

namespace Rules

/-- An expression in braces, which may be missing. -/
def container (r : Rules) (ctx : Context) : TokenParser JsxContent := do
  expectPunct .lBrace
  if ← acceptPunct .rBrace then return .container none
  let value ← r.sequence ctx [.punct .rBrace]
  expectPunct .rBrace
  return .container (some value)

/-- The value of an attribute.  A string has no escapes and is kept as its text. -/
def attributeValue (r : Rules) (ctx : Context) : TokenParser JsxContent := do
  let t ← peek .jsxTag
  match t.kind with
  | .str => do
    discard (consume .jsxTag)
    return .text t.text
  | .punct .lBrace => r.container ctx
  | .punct .lt => return .elem (← r.elem ctx)
  | _ => throw (t.error (.expected "JSX attribute value"))

/-- An attribute. -/
def attr (r : Rules) (ctx : Context) : TokenParser JsxAttr := do
  if (← peekKind .jsxTag) == .punct .lBrace then
    expectPunct .lBrace
    expectPunct .ellipsis
    let value ← r.assignment ctx [.punct .rBrace]
    expectPunct .rBrace
    return .spread value
  let name ← attributeName
  let value ← optionally (← acceptPunct .assign .jsxTag) (r.attributeValue ctx)
  return .named name value

/-- The attributes of an element, up to the end of its tag. -/
def attrs (r : Rules) (ctx : Context) : TokenParser (List JsxAttr) :=
  collect r.depth do
    let t ← peek .jsxTag
    match t.kind with
    | .punct .gt | .punct .slash => return none
    | .eof => throw (t.error .unexpectedEnd)
    | _ => return some (← r.attr ctx)

/-- A child of an element, or nothing before the closing tag. -/
def child? (r : Rules) (ctx : Context) : TokenParser (Option JsxContent) := do
  let t ← peek .jsxText
  match t.kind with
  | .jsxText => do
    discard (consume .jsxText)
    return some (.text t.text)
  | .jsxCloseStart => return none
  | .punct .lBrace => return some (← r.container ctx)
  | .punct .lt => return some (.elem (← r.elem ctx))
  | .eof => throw (t.error .unexpectedEnd)
  | _ => throw (t.error (.expected "JSX child"))

/-- An element from its opening to its closing tag. -/
def element (r : Rules) (ctx : Context) : TokenParser JsxElem := do
  expectPunct .lt
  let tag ← tagName r.depth
  let attrs ← if tag.isSome then r.attrs ctx else pure []
  if ← acceptPunct .slash .jsxTag then
    expectPunct .gt .jsxTag
    return ⟨tag, attrs, []⟩
  expectPunct .gt .jsxTag
  let children ← collect r.depth (r.child? ctx)
  let close ← consume .jsxText
  let closing ← tagName r.depth
  if !tagsMatch closing tag then throw (close.error .closingTagMismatch)
  expectPunct .gt .jsxTag
  return ⟨tag, attrs, children⟩

end Rules

end ImportSeam
