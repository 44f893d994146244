import ImportSeam.Text.Alphabetic
import ImportSeam.Text.Blank
import ImportSeam.Text.CaseFolding
import ImportSeam.Text.WordMark

/-!
# Sets of characters

The sets that a pattern can ask a character to belong to.

## Main definitions

* `CharSet` — a set of characters.
* `CharSet.digit`, `CharSet.space`, `CharSet.wordChar` — the sets with an escape of their own.
* `CharSet.ofAsciiName?` — the sets with a name between colons.
-/

namespace ImportSeam

/-- A set of characters. -/
abbrev CharSet := Char → Bool

namespace CharSet

/-- The set without characters. -/
def empty : CharSet := fun _ => false

/-- A single character. -/
def single (c : Char) : CharSet := (· == c)

/-- The characters between two others, both included. -/
def range (lo hi : Char) : CharSet := fun c => lo ≤ c && c ≤ hi

/-- The characters that are not in a set. -/
def compl (s : CharSet) : CharSet := fun c => !s c

/-- The characters that are in one of two sets. -/
def union (s t : CharSet) : CharSet := fun c => s c || t c

/-- The characters that are in both of two sets. -/
def inter (s t : CharSet) : CharSet := fun c => s c && t c

/-- The characters that are in the first of two sets only. -/
def diff (s t : CharSet) : CharSet := fun c => s c && !t c

/-- The characters that are in exactly one of two sets. -/
def symmDiff (s t : CharSet) : CharSet := fun c => s c != t c

/-- The characters that differ in case only from one in the set. -/
def folded (s : CharSet) : CharSet := fun c => (Text.caseVariants c).any s

/-- The ASCII letters that differ in case only from one in the set, besides the set itself. -/
def foldedAscii (s : CharSet) : CharSet := fun c => s c || s c.toLower || s c.toUpper

/-! ### Sets with an escape -/

/-- Decimal digits. -/
def digit : CharSet := Text.decimalDigit.contains

/-- White space. -/
def space : CharSet := Text.isBlank

/-- The characters of words: letters, marks, digits, connectors and joiners. -/
def wordChar : CharSet := fun c =>
  Text.isAlphabetic c || Text.mark.contains c || Text.decimalDigit.contains c ||
    Text.connector.contains c || c == '\u200C' || c == '\u200D'

/-! ### ASCII sets -/

/-- All ASCII characters. -/
def ascii : CharSet := range '\x00' '\x7f'

/-- ASCII digits. -/
def asciiDigit : CharSet := range '0' '9'

/-- Small ASCII letters. -/
def asciiLower : CharSet := range 'a' 'z'

/-- Capital ASCII letters. -/
def asciiUpper : CharSet := range 'A' 'Z'

/-- ASCII letters. -/
def asciiAlpha : CharSet := union asciiLower asciiUpper

/-- ASCII letters and digits. -/
def asciiAlnum : CharSet := union asciiAlpha asciiDigit

/-- The ASCII characters of words. -/
def asciiWord : CharSet := union asciiAlnum (single '_')

/-- ASCII white space. -/
def asciiSpace : CharSet := union (range '\t' '\r') (single ' ')

/-- Visible ASCII characters. -/
def asciiGraph : CharSet := range '!' '~'

/-- The set with a name between colons. -/
def ofAsciiName? : String → Option CharSet
  | "alnum" => some asciiAlnum
  | "alpha" => some asciiAlpha
  | "ascii" => some ascii
  | "blank" => some (union (single '\t') (single ' '))
  | "cntrl" => some (union (range '\x00' '\x1f') (single '\x7f'))
  | "digit" => some asciiDigit
  | "graph" => some asciiGraph
  | "lower" => some asciiLower
  | "print" => some (range ' ' '~')
  | "punct" => some (diff asciiGraph asciiAlnum)
  | "space" => some asciiSpace
  | "upper" => some asciiUpper
  | "word" => some asciiWord
  | "xdigit" => some (union asciiDigit (union (range 'a' 'f') (range 'A' 'F')))
  | _ => none

end CharSet

end ImportSeam
