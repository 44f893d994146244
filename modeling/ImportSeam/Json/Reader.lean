import ImportSeam.Json.Value
import ImportSeam.Source.Cursor

/-!
# Reading JSON

A reader takes what it needs from the front of a text.  A reader for a type looks at the text
directly, without a value in between, so of two faults the one that comes first in the text wins:
a key that is not known is a misfit even if its value is malformed.

## Main definitions

* `JsonFault` — why a text could not be read.
* `JsonReader` — a reader.
* `JsonReader.value` — any value.
* `JsonReader.list`, `JsonReader.members` — arrays and objects of a known shape.
* `JsonReader.run` — reading a whole text.
-/

namespace ImportSeam

/-- Why a text could not be read. -/
inductive JsonFault where
  /-- The text is not JSON. -/
  | malformed
  /-- The text is JSON of another shape than the one asked for. -/
  | misfit
  /-- The text ends too early. -/
  | ended
  deriving DecidableEq, Repr, Inhabited

/-- A reader: it takes what it needs from the front of a text, or fails. -/
abbrev JsonReader := StateT (List Char) (Except JsonFault)

namespace JsonReader

/-! ### Characters -/

/-- Whether a character may stand between the tokens of a text. -/
def isSpace (c : Char) : Bool := c == ' ' || c == '\n' || c == '\t' || c == '\r'

/-- The next character. -/
def peek? : JsonReader (Option Char) := return (← get).head?

/-- The next character after blanks. -/
def peekToken? : JsonReader (Option Char) := do
  modify (·.dropWhile isSpace)
  peek?

/-- Takes the next character. -/
def skip : JsonReader Unit := modify (·.drop 1)

/-- The next character, taken. -/
def next? : JsonReader (Option Char) := do
  let c ← peek?
  skip
  return c

/-- The digits at the front, taken. -/
def digits : JsonReader (List Char) := do
  let cs ← get
  set (cs.dropWhile Text.isDecimalDigit)
  return cs.takeWhile Text.isDecimalDigit

/-! ### Words and numbers -/

/-- The rest of a word. -/
def word : List Char → JsonReader Unit
  | [] => return ()
  | c :: cs => do
    match ← next? with
    | none => throw .ended
    | some d => if c = d then word cs else throw .malformed

/-- At least one digit. -/
def someDigits : JsonReader (List Char) := do
  let ds ← digits
  if ds.isEmpty then
    match ← peek? with
    | none => throw .ended
    | some _ => throw .malformed
  return ds

/-- The digits before the point.  Only a zero that stands alone comes first. -/
def wholePart : JsonReader (List Char) := do
  let ds ← someDigits
  match ds with
  | '0' :: _ :: _ => throw .malformed
  | _ => return ds

/-- The digits after the point, if there is one. -/
def fractionPart : JsonReader (Option (List Char)) := do
  if (← peek?) = some '.' then
    skip
    return some (← someDigits)
  return none

/-- The exponent, if there is one. -/
def exponentPart : JsonReader (Option Int) := do
  let c ← peek?
  if c = some 'e' || c = some 'E' then
    skip
    let sign ← peek?
    if sign = some '+' || sign = some '-' then skip
    let n := (Text.digitsValue? 10 (← someDigits)).getD 0
    return some (if sign = some '-' then -(n : Int) else n)
  return none

/-- A number without its sign.  A number beyond the range of doubles is malformed. -/
def number (negative : Bool) : JsonReader JsonValue := do
  let whole ← wholePart
  let fraction ← fractionPart
  let exponent ← exponentPart
  let value := (Text.digitsValue? 10 (whole ++ fraction.getD [])).getD 0
  let scale := exponent.getD 0 - ((fraction.getD []).length : Int)
  match Number.ofDecimal negative value scale with
  | .infinite _ => throw .malformed
  | x =>
    if fraction.isNone && exponent.isNone then
      return .int (if negative then -(value : Int) else value)
    return .float x

/-! ### Strings -/

/-- The number of a four-digit escape. -/
def hexEscape : JsonReader Nat := do
  let cs ← get
  if byteLength cs < 4 then throw .ended
  match Text.digitsValue? 16 (cs.take 4) with
  | some n =>
    set (cs.drop 4)
    return n
  | none => throw .malformed

/-- Takes a character that has to be there. -/
def required (c : Char) : JsonReader Unit := do
  match ← next? with
  | none => throw .ended
  | some d => if c ≠ d then throw .malformed

/-- The character of an escape by number.  Characters beyond the first plane are written as a pair
of escapes, and a half of such a pair by itself is malformed. -/
def unicodeEscape : JsonReader Char := do
  let n ← hexEscape
  if 0xDC00 ≤ n && n ≤ 0xDFFF then throw .malformed
  if n < 0xD800 || 0xDBFF < n then return Char.ofNat n
  required '\\'
  required 'u'
  let low ← hexEscape
  if low < 0xDC00 || 0xDFFF < low then throw .malformed
  return Char.ofNat (0x10000 + (n - 0xD800) * 0x400 + (low - 0xDC00))

/-- The character of an escape after its backslash. -/
def escape : JsonReader Char := do
  match ← next? with
  | none => throw .ended
  | some '"' => return '"'
  | some '\\' => return '\\'
  | some '/' => return '/'
  | some 'b' => return '\x08'
  | some 'f' => return '\x0c'
  | some 'n' => return '\n'
  | some 'r' => return '\r'
  | some 't' => return '\t'
  | some 'u' => unicodeEscape
  | some _ => throw .malformed

/-- The characters of a string after its quote. -/
def stringTail : Nat → JsonReader (List Char)
  | 0 => throw .ended
  | n + 1 => do
    match ← next? with
    | none => throw .ended
    | some '"' => return []
    | some '\\' =>
      let c ← escape
      return c :: (← stringTail n)
    | some c =>
      if c < ' ' then throw .malformed
      return c :: (← stringTail n)

/-- A string after its quote. -/
def stringBody : JsonReader String := do
  return String.ofList (← stringTail ((← get).length + 1))

/-! ### Arrays and objects -/

/-- Whether an array goes on with another item. -/
def moreItems (isFirst : Bool) : JsonReader Bool := do
  match ← peekToken? with
  | none => throw .ended
  | some ']' => return false
  | some c =>
    if isFirst then return true
    if c ≠ ',' then throw .malformed
    skip
    match ← peekToken? with
    | none => throw .ended
    | some ']' => throw .malformed
    | some _ => return true

/-- The items of an array up to its bracket, which is taken. -/
def items {α : Type} (item : JsonReader α) : Nat → Bool → JsonReader (List α)
  | 0, _ => throw .ended
  | n + 1, isFirst => do
    if ← moreItems isFirst then
      let a ← item
      return a :: (← items item n false)
    skip
    return []

/-- An array after its bracket. -/
def listBody {α : Type} (item : JsonReader α) : JsonReader (List α) := do
  items item ((← get).length + 1) true

/-- Whether an object goes on with another key. -/
def moreKeys (isFirst : Bool) : JsonReader Bool := do
  match ← peekToken? with
  | none => throw .ended
  | some '}' => return false
  | some c =>
    if isFirst then
      if c = '"' then return true else throw .malformed
    if c ≠ ',' then throw .malformed
    skip
    match ← peekToken? with
    | none => throw .ended
    | some '"' => return true
    | some _ => throw .malformed

/-- The colon between a key and its value. -/
def colon : JsonReader Unit := do
  match ← peekToken? with
  | none => throw .ended
  | some ':' => skip
  | some _ => throw .malformed

/-- The members of an object up to its brace, which is taken.  What is to be done with a member is
decided as soon as its key is known. -/
def membersFrom {σ : Type} (member : σ → String → JsonReader σ) : Nat → Bool → σ → JsonReader σ
  | 0, _, _ => throw .ended
  | n + 1, isFirst, s => do
    if ← moreKeys isFirst then
      skip
      let key ← stringBody
      membersFrom member n false (← member s key)
    else do
      skip
      return s

/-- An object after its brace. -/
def membersBody {σ : Type} (member : σ → String → JsonReader σ) (start : σ) : JsonReader σ := do
  membersFrom member ((← get).length + 1) true start

/-! ### Values -/

/-- A value.  Arrays and objects are nested less than `depth` deep. -/
def value : Nat → JsonReader JsonValue
  | 0 => throw .malformed
  | depth + 1 => do
    match ← peekToken? with
    | none => throw .ended
    | some 'n' =>
      skip
      word ['u', 'l', 'l']
      return .null
    | some 't' =>
      skip
      word ['r', 'u', 'e']
      return .bool true
    | some 'f' =>
      skip
      word ['a', 'l', 's', 'e']
      return .bool false
    | some '-' =>
      skip
      number true
    | some '"' =>
      skip
      return .str (← stringBody)
    | some '[' =>
      skip
      if depth = 0 then throw .malformed
      return .arr (← listBody (value depth))
    | some '{' =>
      skip
      if depth = 0 then throw .malformed
      let members ← membersBody (fun ms key => do
        colon
        return (key, ← value depth) :: ms) []
      return .obj members.reverse
    | some c => if Text.isDecimalDigit c then number false else throw .malformed

/-- How deep arrays and objects can be nested, the outermost included. -/
def maxDepth : Nat := 128

/-- Failure because a value has another shape than the one asked for.  A word, a number or a string
is read first, and may turn out to be malformed. -/
def misfit {α : Type} : JsonReader α := do
  let c ← peekToken?
  if c = some '[' || c = some '{' then throw .misfit
  discard (value 1)
  throw .misfit

/-- A string. -/
def string : JsonReader String := do
  match ← peekToken? with
  | some '"' =>
    skip
    stringBody
  | _ => misfit

/-- An array of items. -/
def list {α : Type} (item : JsonReader α) : JsonReader (List α) := do
  match ← peekToken? with
  | some '[' =>
    skip
    listBody item
  | _ => misfit

/-- Reads a whole text, after which only blanks may follow. -/
def run {α : Type} (reader : JsonReader α) (text : String) : Except JsonFault α := do
  let (a, rest) ← StateT.run reader text.toList
  if (rest.dropWhile isSpace).isEmpty then return a else throw .malformed

end JsonReader

end ImportSeam
