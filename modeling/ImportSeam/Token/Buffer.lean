import ImportSeam.Token.Lexer
import ImportSeam.Token.SyntaxError

/-!
# The token buffer

The grammar looks ahead and goes back.  The buffer keeps the tokens consumed so far and those read
ahead, each with the mode it was read in.  A request in another mode than the one a token was read
in drops everything read ahead and reads again from the end of the last consumed token; going back
moves consumed tokens to the ones read ahead.

## Main definitions

* `TokenBuffer` — the tokens consumed and the tokens read ahead.
* `TokenBuffer.position` — the end of the last consumed token, where reading goes on.
* `TokenBuffer.peek`, `TokenBuffer.consume` — the next token in a mode.
* `TokenBuffer.mark`, `TokenBuffer.restore`, `TokenBuffer.since` — going back, and the range read
  since a mark.
-/

namespace ImportSeam

/-- A token with the mode it was read in. -/
structure BufferedToken where
  mode : LexMode
  lexeme : Lexeme

namespace BufferedToken

/-- Reads a token at a position. -/
def read (mode : LexMode) (start : Cursor) : BufferedToken := ⟨mode, readToken mode start⟩

/-- The token itself. -/
def token (b : BufferedToken) : Token := b.lexeme.token

end BufferedToken

/-- The tokens of a source that were consumed, and those read ahead. -/
structure TokenBuffer where
  /-- The beginning of the source. -/
  source : Cursor
  /-- The consumed tokens, first to last. -/
  consumed : Array BufferedToken
  /-- The tokens read ahead, nearest first. -/
  ahead : List BufferedToken

namespace TokenBuffer

/-- The buffer at the beginning of a source. -/
def ofString (source : String) : TokenBuffer := ⟨Cursor.ofString source, #[], []⟩

/-- The end of the last consumed token. -/
def position (b : TokenBuffer) : Cursor :=
  match b.consumed.back? with
  | some t => t.lexeme.stop
  | none => b.source

/-- The end of the last token read, consumed or not. -/
def readEnd (b : TokenBuffer) : Cursor :=
  match b.ahead.getLast? with
  | some t => t.lexeme.stop
  | none => b.position

/-- The next token in a mode together with what is read ahead after it. -/
def next (b : TokenBuffer) (mode : LexMode) : BufferedToken × List BufferedToken :=
  match b.ahead with
  | t :: rest => if t.mode == mode then (t, rest) else (.read mode b.position, [])
  | [] => (.read mode b.position, [])

/-- The next token in a mode, which stays to be consumed. -/
def peek (b : TokenBuffer) (mode : LexMode) : Token × TokenBuffer :=
  let (t, rest) := b.next mode
  (t.token, { b with ahead := t :: rest })

/-- The next token in a mode, consumed. -/
def consume (b : TokenBuffer) (mode : LexMode) : Token × TokenBuffer :=
  let (t, rest) := b.next mode
  (t.token, { b with consumed := b.consumed.push t, ahead := rest })

/-- A mark to go back to: how many tokens are consumed. -/
def mark (b : TokenBuffer) : Nat := b.consumed.size

/-- Goes back over `n` tokens. -/
def back (b : TokenBuffer) : Nat → TokenBuffer
  | 0 => b
  | n + 1 =>
    match b.consumed.back? with
    | some t => back { b with consumed := b.consumed.pop, ahead := t :: b.ahead } n
    | none => b

/-- Consumes again `n` tokens that were read ahead. -/
def forth (b : TokenBuffer) : Nat → TokenBuffer
  | 0 => b
  | n + 1 =>
    match b.ahead with
    | t :: rest => forth { b with consumed := b.consumed.push t, ahead := rest } n
    | [] => b

/-- Returns to a mark. -/
def restore (b : TokenBuffer) (mark : Nat) : TokenBuffer :=
  if mark ≤ b.mark then b.back (b.mark - mark) else b.forth (mark - b.mark)

/-- The token at an index, consumed or read ahead. -/
def token? (b : TokenBuffer) (i : Nat) : Option BufferedToken :=
  if i < b.mark then b.consumed[i]? else b.ahead[i - b.mark]?

/-- The range from the first token after a mark to the last token consumed.  If none was consumed
since, it is empty and stands where the next token starts, or where reading stopped if no token
was read ahead. -/
def since (b : TokenBuffer) (mark : Nat) : Loc :=
  let start :=
    match b.token? mark with
    | some t => t.token.loc.start
    | none => b.readEnd.offset
  if mark < b.mark then ⟨start, b.position.offset⟩ else Loc.point start

/-- The comments before every token read, in source order. -/
def comments (b : TokenBuffer) : List Comment :=
  (b.consumed.toList ++ b.ahead).flatMap (·.lexeme.comments)

end TokenBuffer

end ImportSeam
