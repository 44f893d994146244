/-!
# UTF-8

## Main definitions

* `Utf8Fault` — where bytes stop being UTF-8.
* `decodeUtf8` — the text of a sequence of bytes.
-/

namespace ImportSeam.Text

/-- Where bytes stop being UTF-8. -/
structure Utf8Fault where
  /-- The number of bytes before the fault. -/
  start : Nat
  /-- The number of bytes that do not belong to any character, or nothing if the bytes end in the
  middle of one. -/
  length? : Option Nat
  deriving DecidableEq, Repr, Inhabited

/-- The wording of a fault. -/
def Utf8Fault.message (e : Utf8Fault) : String :=
  match e.length? with
  | some n =>
    "invalid utf-8 sequence of " ++ toString n ++ " bytes from index " ++ toString e.start
  | none => "incomplete utf-8 byte sequence from index " ++ toString e.start

/-- For the first byte of a character: how many bytes follow it, and what it contributes to the
code point. -/
def leadByte? (b : UInt8) : Option (Nat × Nat) :=
  if b < 0x80 then some (0, b.toNat)
  else if 0xC2 ≤ b && b ≤ 0xDF then some (1, b.toNat - 0xC0)
  else if 0xE0 ≤ b && b ≤ 0xEF then some (2, b.toNat - 0xE0)
  else if 0xF0 ≤ b && b ≤ 0xF4 then some (3, b.toNat - 0xF0)
  else none

/-- The least and the greatest byte that can follow a first byte.  They rule out code points that
have a shorter form, surrogates, and numbers beyond the last code point. -/
def secondByteRange (b : UInt8) : UInt8 × UInt8 :=
  if b = 0xE0 then (0xA0, 0xBF)
  else if b = 0xED then (0x80, 0x9F)
  else if b = 0xF0 then (0x90, 0xBF)
  else if b = 0xF4 then (0x80, 0x8F)
  else (0x80, 0xBF)

/-- The code point of a character, given what is known of it and how many bytes are to follow.  The
next of them has to lie in the range.  A failure tells how many bytes were good. -/
def followBytes : Nat → UInt8 × UInt8 → Nat → Nat → List UInt8 → Except (Option Nat) Nat
  | 0, _, _, n, _ => return n
  | _ + 1, _, _, _, [] => throw none
  | k + 1, (lo, hi), good, n, b :: bs =>
    if lo ≤ b && b ≤ hi then
      followBytes k (0x80, 0xBF) (good + 1) (64 * n + (b.toNat - 0x80)) bs
    else throw (some good)

/-- The character that begins with a byte, and how many bytes it has besides. -/
def firstChar (b : UInt8) (bs : List UInt8) : Except (Option Nat) (Char × Nat) := do
  match leadByte? b with
  | none => throw (some 1)
  | some (more, n) =>
    let n ← followBytes more (secondByteRange b) 1 n bs
    return (Char.ofNat n, more)

/-- The characters of bytes that stand at an offset. -/
def decodeUtf8From (offset : Nat) : List UInt8 → Except Utf8Fault (List Char)
  | [] => return []
  | b :: bs =>
    match firstChar b bs with
    | .error length? => throw ⟨offset, length?⟩
    | .ok (c, more) => do return c :: (← decodeUtf8From (offset + 1 + more) (bs.drop more))
termination_by bytes => bytes.length
decreasing_by simp only [List.length_drop, List.length_cons]; omega

/-- The text of a sequence of bytes. -/
def decodeUtf8 (bytes : ByteArray) : Except Utf8Fault String := do
  return String.ofList (← decodeUtf8From 0 bytes.data.toList)

end ImportSeam.Text
