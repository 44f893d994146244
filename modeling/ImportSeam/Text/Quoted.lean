import ImportSeam.Text.Digit

/-!
# Quoted text

A string literal in double quotes.  Characters that would end the literal, break the line or be
read as an escape are escaped; everything else stands as it is.

## Main definitions

* `escapeChar` — how one character is written.
* `quoted` — a string literal.
-/

namespace ImportSeam.Text

/-- How a character is written inside a literal, given whether a digit follows.  A digit after
`\0` would make it another escape, so the longer form is written there. -/
def escapeChar (c : Char) (digitFollows : Bool) : List Char :=
  match c with
  | '\\' => ['\\', '\\']
  | '"' => ['\\', '"']
  | '\n' => ['\\', 'n']
  | '\r' => ['\\', 'r']
  | '\t' => ['\\', 't']
  | '\x00' => if digitFollows then ['\\', 'x', '0', '0'] else ['\\', '0']
  | '\u2028' => ['\\', 'u', '2', '0', '2', '8']
  | '\u2029' => ['\\', 'u', '2', '0', '2', '9']
  | c =>
    if c < ' ' then '\\' :: 'x' :: (padLeft 2 (hexDigits c.toNat)).map Char.toUpper else [c]

/-- Whether the characters start with a digit. -/
def startsWithDigit : List Char → Bool
  | c :: _ => c.isDigit
  | [] => false

/-- The body of a literal. -/
def escapeChars : List Char → List Char
  | [] => []
  | c :: cs => escapeChar c (startsWithDigit cs) ++ escapeChars cs

/-- A text as a string literal in double quotes. -/
def quoted (value : String) : String :=
  String.ofList ('"' :: (escapeChars value.toList ++ ['"']))

end ImportSeam.Text
