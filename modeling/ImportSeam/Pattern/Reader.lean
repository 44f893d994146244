import ImportSeam.Pattern.Property
import ImportSeam.Pattern.Regex
import ImportSeam.Text.Digit
import ImportSeam.Text.Numeric

/-!
# Reading patterns

The written form of regular expressions: alternatives, groups, repetitions, classes in brackets
with set operations, escapes, and flags that hold up to the end of the group they stand in.  There
are no references back to groups and no look-around.

## Main definitions

* `Flags` — how characters are compared and what blanks mean.
* `PatternReader` — a reader for a part of a pattern.
* `PatternReader.bracket` — a class in brackets.
* `PatternReader.branches` — alternatives.
* `Regex.parse?` — the expression that a pattern denotes.
-/

namespace ImportSeam

/-- How the rest of a pattern is read. -/
structure Flags where
  /-- Case makes no difference. -/
  insensitive : Bool := false
  /-- `^` and `$` hold at the ends of lines. -/
  multiLine : Bool := false
  /-- A point stands for every character, line feeds included. -/
  dotAll : Bool := false
  /-- A carriage return ends lines too. -/
  crlf : Bool := false
  /-- Classes know all of Unicode, and not only ASCII. -/
  unicode : Bool := true
  /-- Blanks and comments in the pattern do not count. -/
  extended : Bool := false
  /-- Repetitions are short where they would be long; this does not matter for a match. -/
  swapGreed : Bool := false
  deriving DecidableEq, Repr, Inhabited

/-- What is left of a pattern, the flags that hold there, and the names of groups so far. -/
structure PatternState where
  rest : List Char
  flags : Flags := {}
  names : List String := []

/-- A reader for a part of a pattern, which fails where the pattern is malformed. -/
abbrev PatternReader := StateT PatternState Option

/-- A single element of a pattern. -/
inductive Primitive where
  /-- A character, and whether it was written as a byte in hexadecimal. -/
  | literal (c : Char) (isByte : Bool)
  | set (s : CharSet)
  | look (l : Look)
  | dot

namespace PatternReader

/-! ### Characters -/

/-- Drops blanks and comments at the front. -/
def dropSpace (inComment : Bool) : List Char → List Char
  | [] => []
  | c :: cs =>
    if inComment then dropSpace (c != '\n') cs
    else if Text.isBlank c then dropSpace false cs
    else if c == '#' then dropSpace true cs
    else c :: cs

/-- The flags that hold here. -/
def flags : PatternReader Flags := return (← get).flags

/-- The next character. -/
def peek? : PatternReader (Option Char) := return (← get).rest.head?

/-- Drops blanks and comments where they do not count. -/
def skipSpace : PatternReader Unit :=
  modify fun s => if s.flags.extended then { s with rest := dropSpace false s.rest } else s

/-- Drops a number of characters. -/
def skip (n : Nat := 1) : PatternReader Unit := modify fun s => { s with rest := s.rest.drop n }

/-- Drops a character and the blanks after it. -/
def skipWithSpace : PatternReader Unit := do
  skip
  skipSpace

/-- The next character, which has to be there. -/
def peek : PatternReader Char := do
  match ← peek? with
  | some c => return c
  | none => failure

/-- Drops a text at the front, and tells whether it was there. -/
def accept (text : List Char) : PatternReader Bool := do
  if text.isPrefixOf (← get).rest then
    skip text.length
    return true
  return false

/-- Drops a character that has to be there. -/
def expect (c : Char) : PatternReader Unit := do
  if (← peek?) = some c then skip else failure

/-- The characters at the front that satisfy a condition, dropped with the blanks between them. -/
def spanSpaced (condition : Char → Bool) : Nat → PatternReader (List Char)
  | 0 => return []
  | n + 1 => do
    match ← peek? with
    | some c =>
      if condition c then
        skipWithSpace
        return c :: (← spanSpaced condition n)
      return []
    | none => return []

/-- All such characters. -/
def spanAll (condition : Char → Bool) : PatternReader (List Char) := do
  spanSpaced condition (← get).rest.length

/-! ### Escapes -/

/-- Whether a character has a meaning of its own in patterns. -/
def isMeta (c : Char) : Bool :=
  c ∈ ['\\', '.', '+', '*', '?', '(', ')', '|', '[', ']', '{', '}', '^', '$', '#', '&', '-', '~']

/-- Whether a backslash before a character stands for the character itself. -/
def isEscapable (c : Char) : Bool :=
  isMeta c || (c.toNat < 0x80 && !CharSet.asciiAlnum c && c != '<' && c != '>')

/-- The character with a number, if there is one. -/
def charOf (n : Nat) : PatternReader Char :=
  if n < 0xD800 || (0xDFFF < n && n < 0x110000) then return Char.ofNat n else failure

/-- A fixed number of hexadecimal digits. -/
def hexDigits : Nat → PatternReader (List Char)
  | 0 => return []
  | n + 1 => do
    let c ← peek
    if !Text.isHexDigit c then failure
    skipWithSpace
    return c :: (← hexDigits n)

/-- An escape by number, after its letter and the blanks behind it.  Two digits without braces are a
byte. -/
def hexEscape (letter : Char) : PatternReader Primitive := do
  if (← peek) = '{' then
    skipWithSpace
    let digits ← spanAll Text.isHexDigit
    if (← peek) ≠ '}' || digits.isEmpty then failure
    skipWithSpace
    return .literal (← charOf ((Text.digitsValue? 16 digits).getD 0)) false
  let digits ← hexDigits (if letter = 'x' then 2 else if letter = 'u' then 4 else 8)
  return .literal (← charOf ((Text.digitsValue? 16 digits).getD 0)) (letter = 'x')

/-- A set with an escape of its own.  Without Unicode the complement would hold single bytes, which
are no characters. -/
def perlSet (unicode ascii : CharSet) (negated : Bool) : PatternReader Primitive := do
  if (← flags).unicode then return .set (if negated then unicode.compl else unicode)
  if negated then failure
  return .set ascii

/-- A set without regard to case, if the flags say so. -/
def fold (f : Flags) (s : CharSet) : CharSet :=
  if !f.insensitive then s else if f.unicode then s.folded else s.foldedAscii

/-- A property by name, after its letter and the blanks behind it. -/
def property (negated : Bool) : PatternReader Primitive := do
  let name ←
    if (← peek) = '{' then
      skipWithSpace
      let name ← spanAll (· != '}')
      expect '}'
      pure name
    else
      let c ← peek
      if c = '\\' then failure
      skipWithSpace
      pure [c]
  let f ← flags
  if !f.unicode then failure
  match CharSet.ofProperty? name with
  | none => failure
  | some s =>
    let s := fold f s
    return .set (if negated then s.compl else s)

/-- A condition on the words around a position. -/
def wordLook (condition : Bool → Bool → Bool) : PatternReader Primitive := do
  return .look (.word (if (← flags).unicode then CharSet.wordChar else CharSet.asciiWord) condition)

/-- The edge of a word of a given kind. -/
def wordEdge : String → PatternReader Primitive
  | "start" => wordLook fun before after => !before && after
  | "end" => wordLook fun before after => before && !after
  | "start-half" => wordLook fun before _ => !before
  | "end-half" => wordLook fun _ after => !after
  | _ => failure

/-- Whether a character can stand in the name of a kind of edge. -/
def isEdgeChar (c : Char) : Bool := CharSet.asciiAlpha c || c == '-'

/-- The edge of a word, after its letter.  A kind can follow in braces; braces with anything else
are a repetition. -/
def boundary : PatternReader Primitive := do
  let plain := wordLook fun before after => before != after
  if (← peek?) ≠ some '{' then return ← plain
  let start ← get
  skipWithSpace
  if !isEdgeChar (← peek) then
    set start
    return ← plain
  let kind ← spanAll isEdgeChar
  expect '}'
  wordEdge (String.ofList kind)

/-- An escape after its backslash. -/
def escape : PatternReader Primitive := do
  let c ← peek
  skip
  if isEscapable c then return .literal c false
  match c with
  | 'x' | 'u' | 'U' =>
    skipSpace
    hexEscape c
  | 'p' | 'P' =>
    skipSpace
    property (c = 'P')
  | 'd' | 'D' => perlSet CharSet.digit CharSet.asciiDigit (c = 'D')
  | 's' | 'S' => perlSet CharSet.space CharSet.asciiSpace (c = 'S')
  | 'w' | 'W' => perlSet CharSet.wordChar CharSet.asciiWord (c = 'W')
  | 'a' => return .literal '\x07' false
  | 'f' => return .literal '\x0c' false
  | 't' => return .literal '\t' false
  | 'n' => return .literal '\n' false
  | 'r' => return .literal '\r' false
  | 'v' => return .literal '\x0b' false
  | 'A' => return .look .textStart
  | 'z' => return .look .textEnd
  | 'b' => boundary
  | 'B' => wordLook fun before after => before == after
  | '<' => wordEdge "start"
  | '>' => wordEdge "end"
  | _ => failure

/-! ### Classes in brackets -/

/-- A character as it stands, or an escape. -/
def classItem : PatternReader Primitive := do
  let c ← peek
  skip
  if c = '\\' then escape else return .literal c false

/-- A character of a class.  Without Unicode it has to be ASCII. -/
def classChar : Primitive → PatternReader Char
  | .literal c _ => do
    if (← flags).unicode || c.toNat < 0x80 then return c else failure
  | _ => failure

/-- Whether the character after the next one, blanks apart, closes the class or is a hyphen. -/
def hyphenIsLiteral : PatternReader Bool := do
  let start ← get
  skipWithSpace
  let c ← peek?
  set start
  return c = some ']' || c = some '-'

/-- A character, a range of characters or a set. -/
def classRange : PatternReader CharSet := do
  let first ← classItem
  skipSpace
  let c ← peek
  if c ≠ '-' || (← hyphenIsLiteral) then
    match first with
    | .set s => return s
    | item => return CharSet.single (← classChar item)
  skipWithSpace
  let second ← classItem
  let lo ← classChar first
  let hi ← classChar second
  if lo ≤ hi then return CharSet.range lo hi else failure

/-- A class by a name between colons, if one stands here. -/
def namedClass? : PatternReader (Option CharSet) := do
  let start ← get
  if !(← accept ['[', ':']) then return none
  let negated ← accept ['^']
  let name := (← get).rest.takeWhile (· != ':')
  skip name.length
  let closed ← accept [':', ']']
  match closed, CharSet.ofAsciiName? (String.ofList name) with
  | true, some s =>
    let f ← flags
    if negated && !f.unicode then failure
    let s := fold f s
    return some (if negated then s.compl else s)
  | _, _ =>
    set start
    return none

/-- A set operation whose right side is still to come. -/
abbrev PendingSet := CharSet → CharSet

/-- The operation that starts here, if one does. -/
def setOperation? : PatternReader (Option (CharSet → CharSet → CharSet)) := do
  if ← accept ['&', '&'] then return some CharSet.inter
  if ← accept ['-', '-'] then return some CharSet.diff
  if ← accept ['~', '~'] then return some CharSet.symmDiff
  return none

/-- Hyphens at the start of a class, which stand for themselves. -/
def leadingHyphens : Nat → PatternReader Nat
  | 0 => return 0
  | n + 1 => do
    if (← peek) = '-' then
      skipWithSpace
      return (← leadingHyphens n) + 1
    return 0

/-- The beginning of a class after its bracket: whether it is a complement, and the characters that
stand for themselves only there. -/
def classOpen : PatternReader (Bool × CharSet) := do
  skipSpace
  let negated := (← peek) = '^'
  if negated then skipWithSpace
  let hyphens ← leadingHyphens (← get).rest.length
  let c ← peek
  if hyphens ≠ 0 then return (negated, CharSet.single '-')
  if c = ']' then
    skipWithSpace
    discard peek
    return (negated, CharSet.single ']')
  return (negated, CharSet.empty)

mutual

/-- A class after its bracket.  The items so far are `items`; `pending` is what the operation
before them does with them. -/
def classTail : Nat → PendingSet → CharSet → PatternReader CharSet
  | 0, _, _ => failure
  | n + 1, pending, items => do
    skipSpace
    let c ← peek
    if c = ']' then
      skip
      return pending items
    if c = '[' then
      let s ← match ← namedClass? with
        | some s => pure s
        | none => do
          skip
          bracket n
      return ← classTail n pending (items.union s)
    match ← setOperation? with
    | some op =>
      let f ← flags
      let left := fold f (pending items)
      classTail n (fun right => op left (fold f right)) CharSet.empty
    | none =>
      let s ← classRange
      classTail n pending (items.union s)

/-- A class after its bracket. -/
def bracket : Nat → PatternReader CharSet
  | 0 => failure
  | n + 1 => do
    let (negated, items) ← classOpen
    let s ← classTail n id items
    let f ← flags
    if negated && !f.unicode then failure
    let s := fold f s
    return if negated then s.compl else s

end

/-! ### Groups and repetitions -/

/-- Sets the flag with a letter. -/
def setFlag (f : Flags) (letter : Char) (on : Bool) : Option Flags :=
  match letter with
  | 'i' => some { f with insensitive := on }
  | 'm' => some { f with multiLine := on }
  | 's' => some { f with dotAll := on }
  | 'R' => some { f with crlf := on }
  | 'u' => some { f with unicode := on }
  | 'x' => some { f with extended := on }
  | 'U' => some { f with swapGreed := on }
  | _ => none

/-- The letters of flags up to a colon or a closing parenthesis.  No letter and no minus sign comes
twice, and no minus sign comes last. -/
def flagLetters : Nat → List Char → PatternReader (List Char)
  | 0, _ => failure
  | n + 1, seen => do
    let c ← peek
    if c = ':' || c = ')' then
      if seen.head? = some '-' then failure
      return seen.reverse
    if seen.contains c then failure
    skip
    flagLetters n (c :: seen)

/-- The flags after a list of letters. -/
def applyFlags (letters : List Char) (f : Flags) : Option Flags :=
  let on := letters.takeWhile (· != '-')
  let off := (letters.dropWhile (· != '-')).drop 1
  do
    let f ← on.foldlM (fun f c => setFlag f c true) f
    off.foldlM (fun f c => setFlag f c false) f

/-- Whether a character can stand in the name of a group. -/
def isNameChar (isFirst : Bool) (c : Char) : Bool :=
  if isFirst then c == '_' || Text.isAlphabetic c
  else c ∈ ['_', '.', '[', ']'] || Text.isAlphabetic c || Text.isNumeric c

/-- The name of a group up to its closing sign.  No two groups have the same name. -/
def groupName : PatternReader Unit := do
  let s ← get
  let name := s.rest.takeWhile (· != '>')
  skip name.length
  expect '>'
  match name with
  | [] => failure
  | c :: cs =>
    if !isNameChar true c || !cs.all (isNameChar false) then failure
    if s.names.contains (String.ofList name) then failure
    modify fun s => { s with names := String.ofList name :: s.names }

/-- The beginning of a group after its parenthesis.  The answer tells whether a group follows, or
whether these were only flags for the rest of the group around them. -/
def groupOpen : PatternReader Bool := do
  skipSpace
  for sign in [['?', '='], ['?', '!'], ['?', '<', '='], ['?', '<', '!']] do
    if ← accept sign then failure
  if (← accept ['?', 'P', '<']) || (← accept ['?', '<']) then
    groupName
    return true
  if !(← accept ['?']) then return true
  let letters ← flagLetters ((← get).rest.length + 1) []
  let closing ← peek
  skip
  match applyFlags letters (← flags) with
  | none => failure
  | some f =>
    modify fun s => { s with flags := f }
    if closing = ')' && letters.isEmpty then failure
    return closing = ':'

/-- A number in a repetition, with blanks around it. -/
def count? : PatternReader (Option Nat) := do
  modify fun s => { s with rest := s.rest.dropWhile Text.isBlank }
  let digits ← spanAll Text.isDecimalDigit
  modify fun s => { s with rest := s.rest.dropWhile Text.isBlank }
  skipSpace
  if digits.isEmpty then return none
  let n := (Text.digitsValue? 10 digits).getD 0
  if n < Nat.pow 2 32 then return some n else failure

/-- A number in a repetition that has to be there. -/
def count : PatternReader Nat := do
  match ← count? with
  | some n => return n
  | none => failure

/-- The bounds of a repetition after its brace. -/
def bounds : PatternReader (Nat × Option Nat) := do
  skipSpace
  let least ← count
  let most ←
    if (← peek) = ',' then
      skipWithSpace
      if (← peek) = '}' then pure none else some <$> count
    else pure (some least)
  expect '}'
  skipSpace
  match most with
  | some most => if least ≤ most then return (least, some most) else failure
  | none => return (least, none)

/-- The sign that tells short repetitions from long ones, which makes no difference. -/
def greed : PatternReader Unit := discard (accept ['?'])

/-- The bounds of a repetition that starts with a given character, if one does. -/
def repetition? (c : Char) : PatternReader (Option (Nat × Option Nat)) := do
  let sign (least : Nat) (most : Option Nat) : PatternReader (Option (Nat × Option Nat)) := do
    skip
    greed
    return some (least, most)
  match c with
  | '?' => sign 0 (some 1)
  | '*' => sign 0 none
  | '+' => sign 1 none
  | '{' =>
    skip
    let b ← bounds
    greed
    return some b
  | _ => return none

/-- A single element as an expression. -/
def element : Primitive → PatternReader Regex
  | .look l => return .look l
  | .set s => return .set s
  | .literal c isByte => do
    let f ← flags
    if isByte && !f.unicode && 0x7f < c.toNat then failure
    return .set (fold f (CharSet.single c))
  | .dot => do
    let f ← flags
    if !f.unicode then failure
    return .set fun c => f.dotAll || !(c == '\n' || (f.crlf && c == '\r'))

/-- A single element that starts with a given character. -/
def primitive (c : Char) : PatternReader Regex := do
  skip
  let f ← flags
  match c with
  | '\\' => element (← escape)
  | '.' => element .dot
  | '^' => return .look (if f.multiLine then .lineStart f.crlf else .textStart)
  | '$' => return .look (if f.multiLine then .lineEnd f.crlf else .textEnd)
  | c => element (.literal c false)

/-- Alternatives up to the end of the pattern or a closing parenthesis, which stays.  What was read
so far is in three parts: the finished alternatives, the current one without its last element, and
that element, which a repetition would apply to. -/
def branches : Nat → Option Regex → Regex → Option Regex → PatternReader Regex
  | 0, _, _, _ => failure
  | n + 1, done, current, last => do
    skipSpace
    let whole := (last.map current.seq).getD current
    let all := (done.map (Regex.alt · whole)).getD whole
    match ← peek? with
    | none | some ')' => return all
    | some '|' =>
      skip
      branches n (some all) .empty none
    | some '(' =>
      skip
      let outer ← flags
      if ← groupOpen then
        let inner ← branches n none .empty none
        expect ')'
        modify fun s => { s with flags := outer }
        branches n done whole (some inner)
      else branches n done whole none
    | some '[' =>
      skip
      let s ← bracket ((← get).rest.length + 1)
      branches n done whole (some (.set s))
    | some c =>
      match ← repetition? c with
      | some (least, most) =>
        match last with
        | some r => branches n done current (some (.loop least most r))
        | none => failure
      | none =>
        let r ← primitive c
        branches n done whole (some r)

end PatternReader

namespace Regex

/-- The largest size of an expression. -/
def maxSize : Nat := 327680

/-- The expression that a pattern denotes, or nothing if the pattern is malformed or too large. -/
def parse? (pattern : String) : Option Regex := do
  let (r, s) ← StateT.run (PatternReader.branches (pattern.length + 1) none .empty none)
    { rest := pattern.toList }
  if s.rest.isEmpty && r.size ≤ maxSize then some r else none

end Regex

end ImportSeam
