import ImportSeam.Source.Loc
import ImportSeam.Token.Keyword
import ImportSeam.Token.Punctuator

/-!
# Tokens and comments

A token is a piece of the source that the grammar treats as a unit.  It carries its own text, so
nothing has to go back to the source to know what was read.

## Main definitions

* `TokenKind` — what a token is.
* `Token` — a kind, a location and the text.
* `Comment` — a comment with its delimiters.
-/

namespace ImportSeam

/-- What a token is. -/
inductive TokenKind where
  /-- The end of the source. -/
  | eof
  /-- Malformed source.  The grammar rejects it wherever it stands, so that looking ahead never
  fails. -/
  | invalid
  | ident
  | keyword (k : Keyword)
  /-- A hash and a name. -/
  | privateName
  | num
  | bigInt
  | str
  | regex
  /-- Template text up to and including the opening of a substitution. -/
  | templateChunk
  /-- Template text up to and including the closing quote. -/
  | templateEnd
  | jsxText
  /-- The `</` that starts a closing tag, read only between the children of an element. -/
  | jsxCloseStart
  | punct (p : Punctuator)
  deriving DecidableEq, Repr, Inhabited

namespace TokenKind

/-- Whether the token is a keyword.  Keywords can still be names of properties and
attributes, and names in import and export lists. -/
def isKeyword : TokenKind → Bool
  | .keyword _ => true
  | _ => false

/-- The name of the kind in a message. -/
def name : TokenKind → String
  | .eof => "Eof"
  | .invalid => "Invalid"
  | .ident => "Ident"
  | .keyword k => "Kw(" ++ k.name ++ ")"
  | .privateName => "PrivateName"
  | .num => "Num"
  | .bigInt => "BigInt"
  | .str => "Str"
  | .regex => "Regex"
  | .templateChunk => "TemplateChunk"
  | .templateEnd => "TemplateEnd"
  | .jsxText => "JsxText"
  | .jsxCloseStart => "JsxCloseStart"
  | .punct p => p.name

end TokenKind

/-- A token. -/
structure Token where
  kind : TokenKind
  loc : Loc
  /-- Whether a line terminator stands between this token and the one before, also inside a block
  comment. -/
  newlineBefore : Bool
  text : String
  deriving DecidableEq, Repr, Inhabited

/-- Whether the token is a plain name with the given spelling. -/
def Token.isWord (t : Token) (word : String) : Bool := t.kind == .ident && t.text == word

/-- The two forms of comments. -/
inductive CommentKind where
  /-- From `//` up to the end of the line, without the line terminator. -/
  | line
  /-- Between `/*` and `*/`. -/
  | block
  deriving DecidableEq, Repr, Inhabited

/-- A comment as it stands in the source, delimiters included. -/
structure Comment where
  kind : CommentKind
  loc : Loc
  text : String
  deriving DecidableEq, Repr, Inhabited

end ImportSeam
