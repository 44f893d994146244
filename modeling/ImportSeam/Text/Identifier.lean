import ImportSeam.Text.Alphabetic
import ImportSeam.Text.Digit
import ImportSeam.Text.Numeric

/-!
# Identifier characters and line terminators

Beyond ASCII an identifier may contain any alphabetic character, and after its first character any
numeric one.  That is enough to find where an identifier ends, which is all the lexer asks.

## Main definitions

* `isIdStart`, `isIdContinue`, `isTagNameContinue` — the characters of names.
* `isLineTerminator` — the four characters that end a line.
* `isIdentifierName` — whether a text can stand as a bare name.
-/

namespace ImportSeam.Text

/-- Whether a character is an ASCII letter. -/
def isAsciiLetter (c : Char) : Bool :=
  let n := c.toNat
  (0x41 ≤ n && n ≤ 0x5A) || (0x61 ≤ n && n ≤ 0x7A)

/-- Whether a character lies outside ASCII. -/
def isBeyondAscii (c : Char) : Bool := 0x80 ≤ c.toNat

/-- Whether a name can start with the character. -/
def isIdStart (c : Char) : Bool :=
  c == '$' || c == '_' || isAsciiLetter c || (isBeyondAscii c && isAlphabetic c)

/-- Whether a name can continue with the character.  The two joiners U+200C and U+200D can stand
inside a name. -/
def isIdContinue (c : Char) : Bool :=
  isIdStart c || isDecimalDigit c || c.toNat == 0x200C || c.toNat == 0x200D ||
    (isBeyondAscii c && isNumeric c)

/-- Inside a tag a name may also contain hyphens. -/
def isTagNameContinue (c : Char) : Bool := c == '-' || isIdContinue c

/-- Line feed, carriage return, line separator and paragraph separator. -/
def isLineTerminator (c : Char) : Bool :=
  c == '\n' || c == '\r' || c.toNat == 0x2028 || c.toNat == 0x2029

/-- Whether a text can be written as a bare name, for instance as a property key. -/
def isIdentifierName (name : String) : Bool :=
  match name.toList with
  | [] => false
  | c :: cs => isIdStart c && cs.all isIdContinue

end ImportSeam.Text
