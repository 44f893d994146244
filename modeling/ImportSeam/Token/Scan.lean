import ImportSeam.Text.Identifier
import ImportSeam.Token.Basic

/-!
# The extent of a token

What a character starts depends on what the grammar expects next: after an operand a slash
divides, while it opens a regular expression where an operand is expected.  The grammar therefore
names a mode with every request for a token.

Each function here looks at the characters from the start of a token and answers what the token is
and how many characters it takes.  No kind means malformed source.

## Main definitions

* `LexMode` — what the grammar expects next.
* `Scan` — a kind and a number of characters.
* `scan` — the token that starts a list of characters.
-/

namespace ImportSeam

/-- What the grammar expects next. -/
inductive LexMode where
  | standard
  /-- Where an operand is expected, so that a slash opens a regular expression. -/
  | operand
  /-- Inside a tag.  Names may contain hyphens, keywords are plain names, and attribute strings
  have no escapes. -/
  | jsxTag
  /-- Between the children of an element, where text runs up to the next brace or tag. -/
  | jsxText
  /-- Right after the brace that closes a template substitution. -/
  | templateTail
  deriving DecidableEq, Repr, Inhabited

/-- What a token is, `none` for malformed source, and how many characters it takes. -/
structure Scan where
  kind : Option TokenKind
  length : Nat
  deriving DecidableEq, Repr

namespace Scan

open Text

/-- The same token with more characters before it. -/
def after (n : Nat) (s : Scan) : Scan := { s with length := n + s.length }

/-- The number of leading characters that satisfy a predicate. -/
def run (p : Char → Bool) (cs : List Char) : Nat := (cs.takeWhile p).length

/-! ### Names -/

/-- The part of an escape in a name after its backslash: whether it is well formed, and how many
characters it takes up to where that is decided. -/
def nameEscape : List Char → Bool × Nat
  | 'u' :: '{' :: r =>
    let n := run isHexDigit r
    if n != 0 && (r.drop n).head? == some '}' then (true, n + 3) else (false, n + 2)
  | 'u' :: r =>
    let n := run isHexDigit (r.take 4)
    if n == 4 then (true, 5) else (false, 1 + min (n + 1) r.length)
  | r => (false, min 1 r.length)

/-- A name, plain characters and escapes in any order: how many characters it takes, whether an
escape stands in it, and whether all escapes are well formed.  A malformed escape ends it. -/
def nameRun (continues : Char → Bool) (cs : List Char) : Nat × Bool × Bool :=
  match cs with
  | [] => (0, false, true)
  | '\\' :: r =>
    match nameEscape r with
    | (false, n) => (n + 1, true, false)
    | (true, n) =>
      let (m, _, ok) := nameRun continues (r.drop n)
      (n + 1 + m, true, ok)
  | c :: r =>
    if continues c then
      let (m, escaped, ok) := nameRun continues r
      (m + 1, escaped, ok)
    else (0, false, true)
termination_by cs.length
decreasing_by all_goals simp only [List.length_drop, List.length_cons]; omega

/-- A name or a keyword.  A word spelled with an escape is always a name, and inside a tag there
are no keywords. -/
def word (inTag : Bool) (cs : List Char) : Scan :=
  match nameRun (if inTag then isTagNameContinue else isIdContinue) cs with
  | (n, _, false) => ⟨none, n⟩
  | (n, escaped, true) =>
    if escaped || inTag then ⟨some .ident, n⟩
    else
      match Keyword.ofWord? (String.ofList (cs.take n)) with
      | some k => ⟨some (.keyword k), n⟩
      | none => ⟨some .ident, n⟩

/-- What follows the hash of a private name. -/
def privateName (cs : List Char) : Scan :=
  match cs with
  | c :: _ => if isIdStart c then ⟨some .privateName, run isIdContinue cs⟩ else ⟨none, 0⟩
  | [] => ⟨none, 0⟩

/-! ### Numbers -/

/-- A digit or a separator. -/
def isNumberPart (radix : Nat) (c : Char) : Bool := c == '_' || (digitValue? radix c).isSome

/-- The radix that a letter after a leading zero announces. -/
def radixMark? (c : Char) : Option Nat :=
  if c == 'x' || c == 'X' then some 16
  else if c == 'o' || c == 'O' then some 8
  else if c == 'b' || c == 'B' then some 2
  else none

/-- Digits of a radix after its mark, and the suffix of a big integer. -/
def radixDigits (radix : Nat) (cs : List Char) : Scan :=
  let n := run (isNumberPart radix) cs
  if (cs.drop n).head? == some 'n' then ⟨some .bigInt, n + 1⟩ else ⟨some .num, n⟩

/-- An exponent, or nothing. -/
def exponent : List Char → Nat
  | c :: s :: r =>
    if c == 'e' || c == 'E' then
      if s == '+' || s == '-' then 2 + run (isNumberPart 10) r
      else 1 + run (isNumberPart 10) (s :: r)
    else 0
  | [c] => if c == 'e' || c == 'E' then 1 else 0
  | [] => 0

/-- A fraction, or nothing. -/
def fraction : List Char → Nat
  | '.' :: r => 1 + run (isNumberPart 10) r
  | _ => 0

/-- Whether digits form an octal of the old form, which has no fraction: a point after it is a
member access. -/
def isOldOctal (digits : List Char) : Bool :=
  2 ≤ digits.length && digits.head? == some '0' && digits.all fun c => (digitValue? 8 c).isSome

/-- A decimal number, an octal of the old form, or a decimal big integer. -/
def decimal (cs : List Char) : Scan :=
  let n := run (isNumberPart 10) cs
  let afterWhole := cs.drop n
  if afterWhole.head? == some 'n' then ⟨some .bigInt, n + 1⟩
  else
    let f := if isOldOctal (cs.take n) then 0 else fraction afterWhole
    ⟨some .num, n + f + exponent (afterWhole.drop f)⟩

/-- A numeric literal. -/
def number (cs : List Char) : Scan :=
  match cs with
  | '0' :: c :: r =>
    match radixMark? c with
    | some radix => (radixDigits radix r).after 2
    | none => decimal cs
  | _ => decimal cs

/-! ### Delimited text -/

/-- The rest of a string after its opening quote: whether it is closed, and how many characters it
takes.  A line feed ends it unclosed; a backslash hides the character after it, and a carriage
return with its line feed counts as one. -/
def stringRest (quote : Char) : List Char → Bool × Nat
  | [] => (false, 0)
  | ['\\'] => (false, 1)
  | '\\' :: '\r' :: '\n' :: r => let (ok, n) := stringRest quote r; (ok, n + 3)
  | '\\' :: _ :: r => let (ok, n) := stringRest quote r; (ok, n + 2)
  | c :: r =>
    if c == quote then (true, 1)
    else if c == '\n' then (false, 1)
    else let (ok, n) := stringRest quote r; (ok, n + 1)

/-- A string literal from its opening quote.  Escapes are checked when the literal is decoded. -/
def string (quote : Char) (r : List Char) : Scan :=
  let (ok, n) := stringRest quote r
  ⟨if ok then some .str else none, n + 1⟩

/-- An attribute string inside a tag from its opening quote. -/
def attributeString (quote : Char) (r : List Char) : Scan :=
  let n := run (· != quote) r
  if n < r.length then ⟨some .str, n + 2⟩ else ⟨none, n + 1⟩

/-- Template text up to and including the opening of a substitution or the closing quote. -/
def template : List Char → Scan
  | [] => ⟨none, 0⟩
  | ['\\'] => ⟨none, 1⟩
  | '\\' :: _ :: r => (template r).after 2
  | '$' :: '{' :: _ => ⟨some .templateChunk, 2⟩
  | c :: r => if c == '\x60' then ⟨some .templateEnd, 1⟩ else (template r).after 1

/-- The rest of a regular expression after its opening slash, up to its closing one: whether it is
closed, and how many characters it takes.  A slash inside brackets does not close it, and no line
terminator may stand in it. -/
def regexRest (inClass : Bool) : List Char → Bool × Nat
  | [] => (false, 0)
  | ['\\'] => (false, 1)
  | '\\' :: c :: r =>
    if isLineTerminator c then (false, 2)
    else let (ok, n) := regexRest inClass r; (ok, n + 2)
  | c :: r =>
    if c == '/' && !inClass then (true, 1)
    else if isLineTerminator c then (false, 1)
    else
      let (ok, n) := regexRest (c == '[' || (inClass && c != ']')) r
      (ok, n + 1)

/-- A regular expression with its flags, from its opening slash. -/
def regex (r : List Char) : Scan :=
  match regexRest false r with
  | (true, n) => ⟨some .regex, n + 1 + run isIdContinue (r.drop n)⟩
  | (false, n) => ⟨none, n + 1⟩

/-- What stands between the children of an element: text up to the next brace or tag, the brace,
or the start of a tag. -/
def jsxText (cs : List Char) : Scan :=
  match cs with
  | [] => ⟨some .eof, 0⟩
  | '{' :: _ => ⟨some (.punct .lBrace), 1⟩
  | '<' :: '/' :: _ => ⟨some .jsxCloseStart, 2⟩
  | '<' :: _ => ⟨some (.punct .lt), 1⟩
  | _ => ⟨some .jsxText, run (fun c => c != '{' && c != '<') cs⟩

/-! ### All tokens -/

/-- A punctuator.  A question mark and a point before a digit are a conditional and a number. -/
def punctuator (cs : List Char) : Scan :=
  match Punctuator.longest? cs with
  | some .questionDot =>
    if ((cs.drop 2).head?.map isDecimalDigit).getD false then ⟨some (.punct .question), 1⟩
    else ⟨some (.punct .questionDot), 2⟩
  | some p => ⟨some (.punct p), p.chars.length⟩
  | none => ⟨none, min 1 cs.length⟩

/-- The token that starts a list of characters, outside template tails and element text. -/
def ordinary (mode : LexMode) (cs : List Char) : Scan :=
  match cs with
  | [] => ⟨some .eof, 0⟩
  | c :: r =>
    if c == '"' || c == '\'' then
      if mode == .jsxTag then attributeString c r else string c r
    else if c == '\x60' then (template r).after 1
    else if isDecimalDigit c then number cs
    else if c == '.' && (r.head?.map isDecimalDigit).getD false then number cs
    else if c == '#' then (privateName r).after 1
    else if c == '/' && mode == .operand then regex r
    else if c == '\\' || isIdStart c then word (mode == .jsxTag) cs
    else punctuator cs

end Scan

/-- The token that starts a list of characters. -/
def scan (mode : LexMode) (cs : List Char) : Scan :=
  match mode with
  | .jsxText => Scan.jsxText cs
  | .templateTail => Scan.template cs
  | _ => Scan.ordinary mode cs

end ImportSeam
