import ImportSeam.Pattern.CharSet
import ImportSeam.Text.Category
import ImportSeam.Text.Script

/-!
# Properties of characters by name

A pattern can ask for a property of a character by the name that Unicode gives it: a general
category, a script, or one of a few further properties.

## Main definitions

* `normalName` — a name without regard to case and separators.
* `CharSet.ofProperty?` — the set of the characters with a property.
-/

namespace ImportSeam

/-- A name of a property without regard to case, blanks, hyphens and underscores, and without the
word `is` before it. -/
def normalName (name : String) : String :=
  let cs := (name.toList.filter fun c => c.toNat < 0x80 && !(c ∈ [' ', '-', '_'])).map Char.toLower
  match cs with
  | 'i' :: 's' :: c :: cs => if c == 'c' && cs.isEmpty then "isc" else String.ofList (c :: cs)
  | cs => String.ofList cs

namespace CharSet

open Text

/-- The union of tables. -/
def ofTables (tables : List CodePointSet) : CharSet := fun c => tables.any (·.contains c)

/-- The tables of the categories of letters. -/
def letterTables : List CodePointSet :=
  [uppercaseLetter, lowercaseLetter, titlecaseLetter, modifierLetter, otherLetter]

/-- The tables of the categories of marks. -/
def markTables : List CodePointSet := [nonspacingMark, spacingMark, enclosingMark]

/-- The tables of the categories of numbers. -/
def numberTables : List CodePointSet := [decimalDigit, letterNumber, otherNumber]

/-- The tables of the categories of punctuation. -/
def punctuationTables : List CodePointSet :=
  [connector, dashPunctuation, openPunctuation, closePunctuation, initialPunctuation,
    finalPunctuation, otherPunctuation]

/-- The tables of the categories of symbols. -/
def symbolTables : List CodePointSet :=
  [mathSymbol, currencySymbol, modifierSymbol, otherSymbol]

/-- The tables of the categories of separators. -/
def separatorTables : List CodePointSet := [spaceSeparator, lineSeparator, paragraphSeparator]

/-- The characters that have a meaning. -/
def assigned : CharSet :=
  ofTables (letterTables ++ markTables ++ numberTables ++ punctuationTables ++ symbolTables ++
    separatorTables ++ [control, format, privateUse])

/-- The characters of a general category, by its normal name. -/
def ofCategory? : String → Option CharSet
  | "any" => some fun _ => true
  | "assigned" => some assigned
  | "ascii" => some ascii
  | "l" | "letter" => some (ofTables letterTables)
  | "lc" | "casedletter" => some (ofTables [uppercaseLetter, lowercaseLetter, titlecaseLetter])
  | "lu" | "uppercaseletter" => some uppercaseLetter.contains
  | "ll" | "lowercaseletter" => some lowercaseLetter.contains
  | "lt" | "titlecaseletter" => some titlecaseLetter.contains
  | "lm" | "modifierletter" => some modifierLetter.contains
  | "lo" | "otherletter" => some otherLetter.contains
  | "m" | "mark" | "combiningmark" => some (ofTables markTables)
  | "mn" | "nonspacingmark" => some nonspacingMark.contains
  | "mc" | "spacingmark" => some spacingMark.contains
  | "me" | "enclosingmark" => some enclosingMark.contains
  | "n" | "number" => some (ofTables numberTables)
  | "nd" | "decimalnumber" | "digit" => some decimalDigit.contains
  | "nl" | "letternumber" => some letterNumber.contains
  | "no" | "othernumber" => some otherNumber.contains
  | "p" | "punct" | "punctuation" => some (ofTables punctuationTables)
  | "pc" | "connectorpunctuation" => some connector.contains
  | "pd" | "dashpunctuation" => some dashPunctuation.contains
  | "ps" | "openpunctuation" => some openPunctuation.contains
  | "pe" | "closepunctuation" => some closePunctuation.contains
  | "pi" | "initialpunctuation" => some initialPunctuation.contains
  | "pf" | "finalpunctuation" => some finalPunctuation.contains
  | "po" | "otherpunctuation" => some otherPunctuation.contains
  | "s" | "symbol" => some (ofTables symbolTables)
  | "sm" | "mathsymbol" => some mathSymbol.contains
  | "sc" | "currencysymbol" => some currencySymbol.contains
  | "sk" | "modifiersymbol" => some modifierSymbol.contains
  | "so" | "othersymbol" => some otherSymbol.contains
  | "z" | "separator" => some (ofTables separatorTables)
  | "zs" | "spaceseparator" => some spaceSeparator.contains
  | "zl" | "lineseparator" => some lineSeparator.contains
  | "zp" | "paragraphseparator" => some paragraphSeparator.contains
  | "c" | "other" => some (union (ofTables [control, format, privateUse]) (compl assigned))
  | "cc" | "cntrl" | "control" => some control.contains
  | "cf" | "format" => some format.contains
  | "cn" | "unassigned" => some (compl assigned)
  | "co" | "privateuse" => some privateUse.contains
  | _ => none

/-- The characters of a script, by its normal name. -/
def ofScript? : String → Option CharSet
  | "latin" | "latn" => some latinScript.contains
  | "greek" | "grek" => some greekScript.contains
  | "cyrillic" | "cyrl" => some cyrillicScript.contains
  | "han" | "hani" => some hanScript.contains
  | "hiragana" | "hira" => some hiraganaScript.contains
  | "katakana" | "kana" => some katakanaScript.contains
  | "arabic" | "arab" => some arabicScript.contains
  | "hebrew" | "hebr" => some hebrewScript.contains
  | "hangul" | "hang" => some hangulScript.contains
  | "thai" => some thaiScript.contains
  | "devanagari" | "deva" => some devanagariScript.contains
  | _ => none

/-- The characters with a property that is either there or not, by its normal name. -/
def ofFlag? : String → Option CharSet
  | "alphabetic" | "alpha" => some isAlphabetic
  | "uppercase" | "upper" => some (ofTables [uppercaseLetter, otherUppercase])
  | "lowercase" | "lower" => some (ofTables [lowercaseLetter, otherLowercase])
  | "whitespace" | "wspace" | "space" => some space
  | "asciihexdigit" | "ahex" => ofAsciiName? "xdigit"
  | _ => none

/-- The characters with a property given by a single name. -/
def ofName? (name : String) : Option CharSet :=
  let n := normalName name
  (ofFlag? n).or ((ofCategory? n).or (ofScript? n))

/-- The characters with a property given by a name and a value. -/
def ofNameAndValue? (name value : String) : Option CharSet :=
  match normalName name with
  | "generalcategory" | "gc" => ofCategory? (normalName value)
  | "script" | "sc" | "scriptextensions" | "scx" => ofScript? (normalName value)
  | _ => none

/-- Splits a text at the first place where a separator stands. -/
def splitAt? (separator : List Char) : List Char → Option (List Char × List Char)
  | [] => none
  | c :: cs =>
    if separator.isPrefixOf (c :: cs) then some ([], (c :: cs).drop separator.length)
    else (splitAt? separator cs).map fun (left, right) => (c :: left, right)

/-- The characters with a property as a pattern writes it: a name, or a name and a value with a
sign between them. -/
def ofProperty? (text : List Char) : Option CharSet :=
  let pair (split : List Char × List Char) : Option CharSet :=
    ofNameAndValue? (String.ofList split.1) (String.ofList split.2)
  match splitAt? ['!', '='] text with
  | some split => (pair split).map compl
  | none =>
    match (splitAt? [':'] text).or (splitAt? ['='] text) with
    | some split => pair split
    | none => ofName? (String.ofList text)

end CharSet

end ImportSeam
