import ImportSeam.Token.Buffer

/-!
# Parsers

A parser reads from a token buffer and either gives a result or fails with a syntax error.  The
buffer is kept on failure too, so that an attempt can be given up and the same tokens be read
again.

## Main definitions

* `TokenParser` — the type of parsers.
* `TokenParser.peek`, `TokenParser.consume`, `TokenParser.accept`, `TokenParser.expect` — single tokens.
* `TokenParser.semicolon` — the end of a statement.
* `TokenParser.spanning` — a result that knows the range it was read from.
* `TokenParser.separated` — a list up to a closing token.
-/

namespace ImportSeam

/-- A parser: a computation on a token buffer that may fail with a syntax error. -/
abbrev TokenParser := EStateM SyntaxError TokenBuffer

namespace TokenParser

/-! ### Single tokens -/

/-- The next token, which stays to be consumed. -/
def peek (mode : LexMode := .standard) : TokenParser Token :=
  modifyGet (·.peek mode)

/-- Consumes the next token. -/
def consume (mode : LexMode := .standard) : TokenParser Token :=
  modifyGet (·.consume mode)

/-- A place to go back to. -/
def mark : TokenParser Nat := return (← get).mark

/-- Goes back to a mark. -/
def restore (mark : Nat) : TokenParser Unit := modify (·.restore mark)

/-- The range of the tokens consumed since a mark. -/
def since (mark : Nat) : TokenParser Loc := return (← get).since mark

/-- The next `n` tokens, which stay to be consumed. -/
def peekMany (n : Nat) : TokenParser (List Token) := do
  let start ← mark
  let tokens ← (List.range n).mapM fun _ => consume
  restore start
  return tokens

/-- The next two tokens. -/
def peekTwo : TokenParser (Token × Token) := do
  let start ← mark
  let a ← consume
  let b ← consume
  restore start
  return (a, b)

/-- The next token, consumed if it satisfies the condition. -/
def consumeIf (condition : Token → Bool) (mode : LexMode := .standard) : TokenParser (Option Token) := do
  if condition (← peek mode) then return some (← consume mode) else return none

/-- Consumes the next token if it is of the given kind, and tells whether it was. -/
def accept (kind : TokenKind) (mode : LexMode := .standard) : TokenParser Bool :=
  return (← consumeIf (·.kind == kind) mode).isSome

/-- Consumes the next token if it is the given word. -/
def acceptWord (word : String) : TokenParser Bool :=
  return (← consumeIf (·.isWord word)).isSome

/-- Consumes a token, which has to be of the given kind. -/
def expect (kind : TokenKind) (mode : LexMode := .standard) : TokenParser Token := do
  let t ← consume mode
  if t.kind == kind then return t else throw (t.error (.requiredToken kind))

/-- Consumes a token, which has to be the given word. -/
def expectWord (word : String) : TokenParser Token := do
  let t ← consume
  if t.isWord word then return t else throw (t.error (.expected word))

/-- Consumes a keyword. -/
def expectKeyword (k : Keyword) : TokenParser Unit := discard (expect (.keyword k))

/-- Consumes a punctuator. -/
def expectPunct (p : Punctuator) (mode : LexMode := .standard) : TokenParser Unit :=
  discard (expect (.punct p) mode)

/-- Consumes the next token if it is the given keyword. -/
def acceptKeyword (k : Keyword) : TokenParser Bool := accept (.keyword k)

/-- Consumes the next token if it is the given punctuator. -/
def acceptPunct (p : Punctuator) (mode : LexMode := .standard) : TokenParser Bool :=
  accept (.punct p) mode

/-- The kind of the next token. -/
def peekKind (mode : LexMode := .standard) : TokenParser TokenKind := return (← peek mode).kind

/-- The end of a statement: a semicolon, or none before a closing brace, the end of the source or
a new line. -/
def semicolon : TokenParser Unit := do
  let t ← peek
  if t.kind == .punct .semicolon then discard consume
  else if t.kind == .punct .rBrace || t.kind == .eof || t.newlineBefore then return ()
  else throw (t.error (.requiredToken (.punct .semicolon)))

/-! ### Combinations -/

/-- Failure because the bound on the work was used up.  The bound is chosen so that this does not
happen. -/
def exhausted {α : Type} : TokenParser α := do
  throw ((← get).position.offset |> Loc.point |>.error .unexpectedEnd)

/-- A result that knows the range it was read from. -/
def spanning {α : Type} (p : TokenParser (Loc → α)) : TokenParser α := do
  let start ← mark
  let build ← p
  return build (← since start)

/-- Runs a parser if the flag says so. -/
def optionally {α : Type} (flag : Bool) (p : TokenParser α) : TokenParser (Option α) :=
  if flag then some <$> p else return none

/-- Items until the parser has none left, at most as many as the bound. -/
def collect {α : Type} (bound : Nat) (item? : TokenParser (Option α)) : TokenParser (List α) :=
  match bound with
  | 0 => exhausted
  | n + 1 => do
    match ← item? with
    | some a => return a :: (← collect n item?)
    | none => return []

/-- Items with commas between them up to a closing token, which is consumed.  A comma may stand
before the closing token. -/
def separated {α : Type} (bound : Nat) (close : Punctuator) (item : TokenParser α) : TokenParser (List α) :=
  match bound with
  | 0 => exhausted
  | n + 1 => do
    if ← acceptPunct close then return []
    let a ← item
    if ← acceptPunct .comma then return a :: (← separated n close item)
    expectPunct close
    return [a]

end TokenParser

end ImportSeam
