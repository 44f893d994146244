import ImportSeam.Grammar.Escape
import ImportSeam.Grammar.Rules
import ImportSeam.Number.Text

/-!
# Literals and templates

## Main definitions

* `stringValue` — the text of a string literal.
* `Rules.templateParts` — a template after its first token.
-/

namespace ImportSeam

open TokenParser

/-- The body of a quoted text without its quotes. -/
def unquoted (t : Token) : List Char := (t.text.toList.drop 1).dropLast

/-- A string literal: its location and the text it denotes. -/
def stringValue : TokenParser (Loc × String) := do
  let t ← expect .str
  match decodeString (unquoted t) with
  | some value => return (t.loc, value)
  | none => throw (t.error .invalidEscape)

/-- A string literal. -/
def stringLiteral : TokenParser Expr := do
  let (loc, value) ← stringValue
  return .str loc value

/-- A numeric literal. -/
def numberLiteral : TokenParser Expr := do
  let t ← expect .num
  match Number.ofLiteral? t.text with
  | some value => return .num t.loc value
  | none => throw (t.error .malformedNumber)

/-- A big integer, kept as its text. -/
def bigIntLiteral : TokenParser Expr := do
  let t ← expect .bigInt
  return .bigInt t.loc t.text

/-- A regular expression, kept as its text. -/
def regexLiteral : TokenParser Expr := do
  let t ← expect .regex .operand
  return .regex t.loc t.text

/-- The text of a template token without its delimiters: a quote before the first part, and a quote
or the opening of a substitution after each. -/
def templateText (t : Token) (isFirst : Bool) : String :=
  let cs := if isFirst then t.text.toList.drop 1 else t.text.toList
  let closing := if t.kind == .templateChunk then 2 else 1
  String.ofList (cs.take (cs.length - closing))

namespace Rules

/-- The parts of a template from a token on that was already consumed, and the end of the
template. -/
def templateParts (r : Rules) (ctx : Context) (bound : Nat) (t : Token) (isFirst : Bool) :
    TokenParser (List TemplatePart × Loc) :=
  match bound with
  | 0 => TokenParser.exhausted
  | n + 1 =>
    let text := TemplatePart.text (templateText t isFirst)
    match t.kind with
    | .templateEnd => return ([text], t.loc)
    | .templateChunk => do
      let value ← r.sequence ctx [.punct .rBrace]
      expectPunct .rBrace
      let next ← consume .templateTail
      let (parts, loc) ← r.templateParts ctx n next false
      return (text :: .subst value :: parts, t.loc.join loc)
    | .eof => throw (t.error .unexpectedEnd)
    | _ => throw (t.error (.expected "template string"))

/-- A template whose first token was already consumed: its parts and its location. -/
def templateAfter (r : Rules) (ctx : Context) (first : Token) :
    TokenParser (List TemplatePart × Loc) :=
  r.templateParts ctx r.depth first true

end Rules

end ImportSeam
