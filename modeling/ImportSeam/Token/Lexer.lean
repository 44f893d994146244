import ImportSeam.Token.Scan
import ImportSeam.Token.Trivia

/-!
# Reading one token

A token is read from a position in a mode.  The answer does not depend on anything else, so the
same stretch of source can be read again in another mode.

## Main definitions

* `Lexeme` — a token, the comments before it, and the position after it.
* `readToken` — the token at a position.
-/

namespace ImportSeam

/-- A token as it was read. -/
structure Lexeme where
  token : Token
  /-- The comments skipped before the token. -/
  comments : List Comment
  /-- The position after the token. -/
  stop : Cursor

/-- Whether trivia is skipped before a token.  Element text and template tails keep every
character. -/
def LexMode.skipsTrivia : LexMode → Bool
  | .jsxText | .templateTail => false
  | _ => true

/-- The trivia that a mode skips. -/
def LexMode.trivia (mode : LexMode) (start : Cursor) : Trivia :=
  if mode.skipsTrivia then skipTrivia start else ⟨false, [], start⟩

/-- The token at a position. -/
def readToken (mode : LexMode) (start : Cursor) : Lexeme :=
  let trivia := mode.trivia start
  let begin := trivia.stop
  let s := scan mode begin.rest
  let stop := begin.advance s.length
  { token :=
      { kind := s.kind.getD .invalid
        loc := ⟨begin.offset, stop.offset⟩
        newlineBefore := trivia.newline
        text := begin.taken s.length }
    comments := trivia.comments
    stop := stop }

end ImportSeam
