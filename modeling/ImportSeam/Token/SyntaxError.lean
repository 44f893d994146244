import ImportSeam.Token.Basic

/-!
# Syntax errors

Why a source is not a module: a cause, the place, and the token found there if the cause is about
a token.

## Main definitions

* `SyntaxError.Cause` — the causes.
* `SyntaxError.message`, `SyntaxError.detail` — the wording.
-/

namespace ImportSeam

/-- Why a source is rejected. -/
inductive SyntaxError.Cause where
  /-- Something described in words was expected. -/
  | expected (what : String)
  /-- A particular kind of token was expected. -/
  | requiredToken (kind : TokenKind)
  | unexpectedEnd
  | invalidAssignmentTarget
  | invalidEscape
  | closingTagMismatch
  | newlineAfterArrowParameters
  | newlineAfterThrow
  | malformedNumber
  | tryWithoutHandler
  deriving DecidableEq, Repr, Inhabited

/-- A syntax error. -/
structure SyntaxError where
  cause : SyntaxError.Cause
  loc : Loc
  /-- The token found, if the cause is about a token. -/
  token : Option TokenKind
  deriving DecidableEq, Repr, Inhabited

namespace SyntaxError

/-- The wording of a cause. -/
def Cause.message : Cause → String
  | .expected what => "expected " ++ what
  | .requiredToken kind => "expected " ++ kind.name
  | .unexpectedEnd => "unexpected end of source"
  | .invalidAssignmentTarget => "invalid assignment target"
  | .invalidEscape => "invalid character escape"
  | .closingTagMismatch => "JSX closing tag does not match opening tag"
  | .newlineAfterArrowParameters => "line terminator not allowed after arrow function parameters"
  | .newlineAfterThrow => "line terminator not allowed after `throw`"
  | .malformedNumber => "malformed number literal"
  | .tryWithoutHandler => "try statement has no catch or finally"

/-- The message of an error: its cause, and the token found. -/
def message (e : SyntaxError) : String :=
  match e.token with
  | some kind => e.cause.message ++ " [token=" ++ kind.name ++ "]"
  | none => e.cause.message

/-- The message with the place. -/
def detail (e : SyntaxError) : String :=
  e.message ++ " around loc [" ++ toString e.loc.start ++ ":" ++ toString e.loc.stop ++ "]"

end SyntaxError

/-- An error about a token. -/
def Token.error (t : Token) (cause : SyntaxError.Cause) : SyntaxError :=
  ⟨cause, t.loc, some t.kind⟩

/-- An error about a place, without a token. -/
def Loc.error (l : Loc) (cause : SyntaxError.Cause) : SyntaxError :=
  ⟨cause, l, none⟩

/-- Whether the error is that of a parser whose bound was used up.  A source that ends too early has
a token where it ends. -/
def SyntaxError.isExhausted (e : SyntaxError) : Bool :=
  e.cause == .unexpectedEnd && e.token.isNone

end ImportSeam
