import ImportSeam.Number.Shortest
import ImportSeam.Text.Digit

/-!
# Numbers as text

Reading a numeric literal and writing a number back.  A literal is hexadecimal, octal or binary
with its mark, an octal of the old form that starts with a zero, or a decimal; separators are
dropped first.  A number is written without an exponent: a whole number below `10 ^ 21` by its
exact value, any other number with the fewest digits that read back.

## Main definitions

* `Number.ofLiteral?` — the number that a literal denotes.
* `Number.text` — a number written out.
-/

namespace ImportSeam.Number

open Text

/-! ### Reading -/

/-- The number that digits of a radix denote, gathered from the left and rounded at each step. -/
def ofDigits? (radix : Nat) (digits : List Char) : Option Number :=
  if digits.isEmpty then none
  else digits.foldlM (fun x c => (digitValue? radix c).map ((x.mulNat radix).addNat ·)) (zero false)

/-- The number `digits · 10 ^ exponent`, rounded.  Values far outside the finite range are settled
without computing the power of ten. -/
def ofDecimal (negative : Bool) (digits : Nat) (exponent : Int) : Number :=
  let size := exponent + ((Nat.toDigits 10 digits).length : Int)
  if digits == 0 then zero negative
  else if 310 < size then .infinite negative
  else if size < -330 then zero negative
  else
    let (num, den) := scaleTen digits 1 (-exponent)
    ofRatio negative num den

/-- Reads an exponent: nothing, or `e`, an optional sign and at least one digit. -/
def readExponent? : List Char → Option Int
  | [] => some 0
  | 'e' :: '-' :: ds => if ds.isEmpty then none else (digitsValue? 10 ds).map fun n => -(n : Int)
  | 'e' :: '+' :: ds => if ds.isEmpty then none else (digitsValue? 10 ds).map Int.ofNat
  | 'e' :: ds => if ds.isEmpty then none else (digitsValue? 10 ds).map Int.ofNat
  | _ => none

/-- Reads an unsigned decimal in lower case: digits, an optional fraction and an optional
exponent, with at least one digit before the exponent; or the name of an infinity or of
not-a-number. -/
def readUnsigned? (negative : Bool) (cs : List Char) : Option Number :=
  if cs == "inf".toList || cs == "infinity".toList then some (.infinite negative)
  else if cs == "nan".toList then some .nan
  else
    let whole := cs.takeWhile isDecimalDigit
    let afterWhole := cs.dropWhile isDecimalDigit
    let (fraction, afterFraction) :=
      match afterWhole with
      | '.' :: r => (r.takeWhile isDecimalDigit, r.dropWhile isDecimalDigit)
      | r => ([], r)
    if whole.isEmpty && fraction.isEmpty then none
    else do
      let exponent ← readExponent? afterFraction
      let digits ← digitsValue? 10 (whole ++ fraction)
      some (ofDecimal negative digits (exponent - fraction.length))

/-- Reads a decimal in lower case with an optional sign. -/
def readDecimal? : List Char → Option Number
  | '-' :: cs => readUnsigned? true cs
  | '+' :: cs => readUnsigned? false cs
  | cs => readUnsigned? false cs

/-- The number that the text of a numeric literal denotes, or `none` if it is malformed.  A literal
of digits only that starts with a zero is octal unless a digit rules that out. -/
def ofLiteral? (raw : String) : Option Number :=
  let lower := (raw.toList.filter (· != '_')).map Char.toLower
  match lower with
  | '0' :: 'x' :: ds => ofDigits? 16 ds
  | '0' :: 'o' :: ds => ofDigits? 8 ds
  | '0' :: 'b' :: ds => ofDigits? 2 ds
  | '0' :: d :: ds =>
    if (d :: ds).all fun c => (digitValue? 8 c).isSome then ofDigits? 8 (d :: ds)
    else readDecimal? lower
  | _ => readDecimal? lower

/-! ### Writing -/

/-- A decimal written without an exponent. -/
def positional (d : Decimal) : List Char :=
  let digits := Nat.toDigits 10 d.digits
  let point : Int := digits.length + d.exponent
  if point ≤ 0 then '0' :: '.' :: List.replicate (-point).toNat '0' ++ digits
  else if digits.length ≤ point.toNat then
    digits ++ List.replicate (point.toNat - digits.length) '0'
  else digits.take point.toNat ++ '.' :: digits.drop point.toNat

/-- A number written out.  Both zeros are written `0`. -/
def text : Number → String
  | .nan => "NaN"
  | .infinite negative => if negative then "-Infinity" else "Infinity"
  | .finite negative m e =>
    let (num, den) := ratio m e
    if m == 0 then "0"
    else
      let body :=
        if num % den == 0 && num / den < Nat.pow 10 21 then Nat.toDigits 10 (num / den)
        else positional (shortest m e)
      String.ofList (if negative then '-' :: body else body)

end ImportSeam.Number
