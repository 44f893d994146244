/-!
# Digits

Reading and writing digits in the radices the language uses: two, eight, ten and sixteen.
-/

namespace ImportSeam.Text

/-- The value of a digit in the given radix, letters of either case standing for ten to fifteen. -/
def digitValue? (radix : Nat) (c : Char) : Option Nat :=
  let n := c.toNat
  let value? :=
    if 0x30 ≤ n && n ≤ 0x39 then some (n - 0x30)
    else if 0x61 ≤ n && n ≤ 0x66 then some (n - 0x61 + 10)
    else if 0x41 ≤ n && n ≤ 0x46 then some (n - 0x41 + 10)
    else none
  value?.filter (· < radix)

/-- Whether a character is an ASCII decimal digit. -/
def isDecimalDigit (c : Char) : Bool := (digitValue? 10 c).isSome

/-- Whether a character is an ASCII hexadecimal digit. -/
def isHexDigit (c : Char) : Bool := (digitValue? 16 c).isSome

/-- The number that a string of digits denotes, or `none` if a character is no digit. -/
def digitsValue? (radix : Nat) (cs : List Char) : Option Nat :=
  cs.foldlM (fun value c => (digitValue? radix c).map (value * radix + ·)) 0

/-- The lower-case hexadecimal digits of a number, without leading zeros. -/
def hexDigits (n : Nat) : List Char := Nat.toDigits 16 n

/-- The digits of a number in the given radix, padded with zeros on the left to a width. -/
def padLeft (width : Nat) (digits : List Char) : List Char :=
  List.replicate (width - digits.length) '0' ++ digits

end ImportSeam.Text
