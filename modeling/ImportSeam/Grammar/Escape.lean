import ImportSeam.Text.Identifier

/-!
# Escapes in string literals

The body of a string literal is decoded from left to right.  Two escapes that denote the two
halves of a surrogate pair give one character; a half without its partner gives the replacement
character.

## Main definitions

* `decodeEscape` — the escape that starts a list of characters, without its backslash.
* `decodeString` — a whole body.
-/

namespace ImportSeam

open Text

/-- What an escape denotes. -/
inductive Escaped where
  /-- Nothing: the escape continues the literal on the next line. -/
  | nothing
  /-- A character. -/
  | char (c : Char)
  /-- A code unit or code point written with `u`. -/
  | unit (n : Nat)
  deriving DecidableEq, Repr

/-- The replacement character. -/
def replacement : Char := Char.ofNat 0xFFFD

/-- The value of exactly `n` hexadecimal digits, and how many characters they take. -/
def hexValue? (n : Nat) (cs : List Char) : Option Nat :=
  let digits := cs.take n
  if digits.length == n then digitsValue? 16 digits else none

/-- A hexadecimal number in braces, given what follows the opening brace.  The closing brace may be
missing at the end of the literal, and a plus sign may stand before the digits. -/
def bracedValue? (cs : List Char) : Option (Nat × Nat) :=
  let inner := cs.takeWhile (· != '}')
  let digits := if inner.head? == some '+' then inner.drop 1 else inner
  if digits.isEmpty then none
  else (digitsValue? 16 digits).bind fun n =>
    if n < Nat.pow 2 32 then some (n, min (inner.length + 1) cs.length) else none

/-- The digits of an octal escape of the old form after its first one: at most `limit` of them.
Gives the value and how many characters were taken. -/
def octalRest (value limit : Nat) : List Char → Nat × Nat
  | [] => (value, 0)
  | c :: r =>
    match limit, digitValue? 8 c with
    | k + 1, some d => let (v, n) := octalRest (value * 8 + d) k r; (v, n + 1)
    | _, _ => (value, 0)

/-- The escape that starts a list of characters, without its backslash: what it denotes and how
many characters it takes.  `none` if it is malformed. -/
def decodeEscape : List Char → Option (Escaped × Nat)
  | [] => none
  | 'u' :: '{' :: r => (bracedValue? r).map fun (n, k) => (.unit n, k + 2)
  | 'u' :: r => (hexValue? 4 r).map fun n => (.unit n, 5)
  | 'x' :: r => (hexValue? 2 r).map fun n => (.char (Char.ofNat n), 3)
  | 'n' :: _ => some (.char '\n', 1)
  | 't' :: _ => some (.char '\t', 1)
  | 'r' :: _ => some (.char '\r', 1)
  | 'b' :: _ => some (.char '\x08', 1)
  | 'f' :: _ => some (.char '\x0c', 1)
  | 'v' :: _ => some (.char '\x0b', 1)
  | '\r' :: '\n' :: _ => some (.nothing, 2)
  | c :: r =>
    if isLineTerminator c then some (.nothing, 1)
    else
      match digitValue? 8 c with
      | some d =>
        let (v, n) := octalRest d (if d ≤ 3 then 2 else 1) r
        some (.char (Char.ofNat v), n + 1)
      | none => some (.char c, 1)

/-- Whether a number is the first half of a surrogate pair. -/
def isHighSurrogate (n : Nat) : Bool := 0xD800 ≤ n && n ≤ 0xDBFF

/-- Whether a number is the second half of a surrogate pair. -/
def isLowSurrogate (n : Nat) : Bool := 0xDC00 ≤ n && n ≤ 0xDFFF

/-- The character with a code point, or the replacement character. -/
def charOrReplacement (n : Nat) : Char := if n.isValidChar then Char.ofNat n else replacement

/-- What a first half still waiting for its partner comes to if none follows. -/
def unpaired (high : Option Nat) : List Char :=
  match high with
  | some _ => [replacement]
  | none => []

/-- Decodes a body, with the first half of a surrogate pair that is still waiting for its
partner. -/
def decodeFrom (high : Option Nat) (cs : List Char) : Option (List Char) :=
  match cs with
  | [] => some (unpaired high)
  | '\\' :: r =>
    match decodeEscape r with
    | none => none
    | some (.nothing, n) => (decodeFrom none (r.drop n)).map (unpaired high ++ ·)
    | some (.char c, n) => (decodeFrom none (r.drop n)).map (unpaired high ++ c :: ·)
    | some (.unit u, n) =>
      match high, isHighSurrogate u, isLowSurrogate u with
      | some h, _, true =>
        let c := charOrReplacement (0x10000 + (h - 0xD800) * 0x400 + (u - 0xDC00))
        (decodeFrom none (r.drop n)).map (c :: ·)
      | _, true, _ => (decodeFrom (some u) (r.drop n)).map (unpaired high ++ ·)
      | _, _, _ => (decodeFrom none (r.drop n)).map (unpaired high ++ charOrReplacement u :: ·)
  | c :: r => (decodeFrom none r).map (unpaired high ++ c :: ·)
termination_by cs.length
decreasing_by all_goals simp only [List.length_drop, List.length_cons]; omega

/-- The text that the body of a string literal denotes, or `none` if an escape is malformed. -/
def decodeString (body : List Char) : Option String :=
  (decodeFrom none body).map String.ofList

end ImportSeam
