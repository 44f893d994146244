import Mathlib.Algebra.Group.Nat.Defs
import Mathlib.Data.List.Basic

/-!
# Texts in the order of their bytes

Texts are compared character by character.  In UTF-8 a greater character has greater bytes, and no
character is the beginning of another, so comparing the bytes gives the same answer.

## Main results

* `bytes_lt_of_lt` — a smaller text has smaller bytes.
-/

namespace ImportSeam.Text

/-- The bytes of a text in UTF-8. -/
def bytes (s : String) : List UInt8 := s.toByteArray.data.toList

theorem bytes_eq (s : String) : bytes s = s.toList.flatMap String.utf8EncodeChar := by
  have hs : s.toByteArray = s.toList.utf8Encode := by
    rw [← String.toByteArray_ofList, String.ofList_toList]
  rw [bytes, hs, List.utf8Encode]
  simp

/-! ### The bytes of a character -/

/-- How many bytes follow the first byte of a code point. -/
def tailCount (n : Nat) : Nat :=
  if n ≤ 0x7F then 0 else if n ≤ 0x7FF then 1 else if n ≤ 0xFFFF then 2 else 3

/-- What the first byte says about the number of bytes after it. -/
def leadMark : Nat → Nat
  | 0 => 0
  | 1 => 0xC0
  | 2 => 0xE0
  | _ => 0xF0

/-- The bytes of the lowest `k` groups of six bits, highest first. -/
def tailBytes : Nat → Nat → List UInt8
  | 0, _ => []
  | k + 1, n => UInt8.ofNat (n / 64 ^ k % 64 + 0x80) :: tailBytes k n

theorem utf8EncodeChar_eq (c : Char) :
    String.utf8EncodeChar c =
      UInt8.ofNat (c.val.toNat / 64 ^ tailCount c.val.toNat + leadMark (tailCount c.val.toNat)) ::
        tailBytes (tailCount c.val.toNat) c.val.toNat := by
  have hmax : c.val.toNat < 0x110000 := by
    rcases c.valid with h | h <;> omega
  simp only [String.utf8EncodeChar]
  generalize c.val.toNat = n at hmax
  unfold tailCount
  split_ifs
  · simp [leadMark, tailBytes]
  · have : n / 64 % 32 = n / 64 := Nat.mod_eq_of_lt (by omega)
    simp [leadMark, tailBytes, this]
  · have : n / 4096 % 16 = n / 4096 := Nat.mod_eq_of_lt (by omega)
    simp [leadMark, tailBytes, this]
  · have : n / 262144 % 8 = n / 262144 := Nat.mod_eq_of_lt (by omega)
    simp [leadMark, tailBytes, this]

theorem byte_cons_lt {m n : Nat} {xs ys : List UInt8} (hn : n < 256)
    (h : m < n ∨ m = n ∧ xs < ys) : UInt8.ofNat m :: xs < UInt8.ofNat n :: ys := by
  rw [List.cons_lt_cons_iff]
  rcases h with h | ⟨rfl, h⟩
  · left
    rw [UInt8.lt_iff_toNat_lt, UInt8.toNat_ofNat', UInt8.toNat_ofNat']
    omega
  · exact .inr ⟨rfl, h⟩

/-- Of two numbers that agree above the lowest groups, the smaller has the smaller groups. -/
theorem tailBytes_lt {m n : Nat} (h : m < n) (xs ys : List UInt8) :
    ∀ k, m / 64 ^ k = n / 64 ^ k → tailBytes k m ++ xs < tailBytes k n ++ ys
  | 0, heq => by
    simp only [Nat.pow_zero, Nat.div_one] at heq
    omega
  | k + 1, heq => by
    rw [Nat.pow_succ, ← Nat.div_div_eq_div_mul, ← Nat.div_div_eq_div_mul] at heq
    have hle : m / 64 ^ k ≤ n / 64 ^ k := Nat.div_le_div_right (Nat.le_of_lt h)
    refine byte_cons_lt (by omega) ?_
    by_cases hk : m / 64 ^ k = n / 64 ^ k
    · exact .inr ⟨by rw [hk], tailBytes_lt h xs ys k hk⟩
    · exact .inl (by omega)

/-- The bytes of a smaller character come first, whatever follows them. -/
theorem utf8EncodeChar_append_lt {c d : Char} (h : c < d) (xs ys : List UInt8) :
    String.utf8EncodeChar c ++ xs < String.utf8EncodeChar d ++ ys := by
  have hlt : c.val.toNat < d.val.toNat := h
  have hmax : d.val.toNat < 0x110000 := by
    rcases d.valid with h | h <;> omega
  rw [utf8EncodeChar_eq, utf8EncodeChar_eq]
  generalize c.val.toNat = m at hlt
  generalize d.val.toNat = n at hlt hmax
  refine byte_cons_lt ?_ ?_
  · unfold tailCount
    split_ifs <;> simp [leadMark] <;> omega
  · by_cases hk : tailCount m = tailCount n
    · rw [hk]
      have hle : m / 64 ^ tailCount n ≤ n / 64 ^ tailCount n :=
        Nat.div_le_div_right (Nat.le_of_lt hlt)
      by_cases heq : m / 64 ^ tailCount n = n / 64 ^ tailCount n
      · exact .inr ⟨by rw [heq], tailBytes_lt hlt xs ys _ heq⟩
      · exact .inl (by omega)
    · -- the first byte of a longer form is greater than that of a shorter one
      left
      unfold tailCount at hk ⊢
      split_ifs at hk ⊢ <;> simp [leadMark] <;> omega

/-! ### The bytes of a text -/

theorem flatMap_utf8EncodeChar_lt {cs ds : List Char} (h : cs < ds) :
    cs.flatMap String.utf8EncodeChar < ds.flatMap String.utf8EncodeChar := by
  induction cs generalizing ds with
  | nil =>
    cases ds with
    | nil => exact absurd h (List.lt_irrefl _)
    | cons d ds =>
      rw [List.flatMap_cons, utf8EncodeChar_eq]
      exact List.nil_lt_cons _ _
  | cons c cs ih =>
    cases ds with
    | nil => exact absurd h (List.not_lt_nil _)
    | cons d ds =>
      simp only [List.flatMap_cons]
      rcases List.cons_lt_cons_iff.1 h with hhead | ⟨rfl, htail⟩
      · exact utf8EncodeChar_append_lt hhead _ _
      · exact List.append_left_lt (ih htail)

/-- A smaller text has smaller bytes. -/
theorem bytes_lt_of_lt {s t : String} (h : s < t) : bytes s < bytes t := by
  rw [bytes_eq, bytes_eq]
  exact flatMap_utf8EncodeChar_lt (String.lt_iff.1 h)

end ImportSeam.Text
