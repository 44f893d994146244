import ImportSeam.Grammar.Escape
import Mathlib.Algebra.Group.Nat.Defs

/-!
# Well-formed escapes

Which bodies of string literals are decoded at all depends on their escapes alone, and an escape is
well formed whatever stands before it.  Most are, with any character after the backslash; only `x`
and `u` ask for digits.

A code point in braces is looser than the other forms.  What stands up to the closing brace is read
as any number of 32 bits is, so it may have a sign, it may be no code point, and at the end of a body
the brace may be missing altogether.

## Main definitions

* `IsCodePoint` — a code point in braces as the language has it.
* `IsNumeral`, `IsBraced` — what is read as one.
* `IsEscape`, `IsBody` — an escape and a body, for either of the two.

## Main results

* `decodeString_isSome_iff` — **which bodies are decoded**.
* `looseBraces_decode` — bodies that are decoded and that the language does not have.
* `decodeString_unescaped` — a body without escapes denotes itself.
-/

namespace ImportSeam

open Text

/-! ### What is well formed -/

/-- A code point in braces, after the opening one, and what follows it: hexadecimal digits that
denote at most the last code point, and the closing brace. -/
inductive IsCodePoint : List Char → List Char → Prop
  | intro {digits rest : List Char} {n : Nat} (hne : digits ≠ [])
      (hdigits : digitsValue? 16 digits = some n) (hn : n ≤ 0x10FFFF) :
      IsCodePoint (digits ++ ['}']) rest

/-- A hexadecimal number of 32 bits, which may have a sign. -/
inductive IsNumeral : List Char → Prop
  | unsigned {digits : List Char} {n : Nat} (hne : digits ≠ [])
      (hdigits : digitsValue? 16 digits = some n) (hn : n < 2 ^ 32) : IsNumeral digits
  | signed {digits : List Char} {n : Nat} (hne : digits ≠ [])
      (hdigits : digitsValue? 16 digits = some n) (hn : n < 2 ^ 32) : IsNumeral ('+' :: digits)

/-- What is read as a code point in braces.  The end of the body closes it like a brace. -/
inductive IsBraced : List Char → List Char → Prop
  | closed {numeral rest : List Char} (h : IsNumeral numeral) : IsBraced (numeral ++ ['}']) rest
  | unclosed {numeral : List Char} (h : IsNumeral numeral) : IsBraced numeral []

/-- An escape without its backslash, and what follows it.  Those that take more than one character
without asking for it are their first character here: the others stand for themselves. -/
inductive IsEscape (Braced : List Char → List Char → Prop) : List Char → List Char → Prop
  | braced {w rest : List Char} (h : Braced w rest) : IsEscape Braced ('u' :: '{' :: w) rest
  | unit {digits rest : List Char} (hlen : digits.length = 4)
      (hdigits : ∀ c ∈ digits, isHexDigit c = true) : IsEscape Braced ('u' :: digits) rest
  | byte {digits rest : List Char} (hlen : digits.length = 2)
      (hdigits : ∀ c ∈ digits, isHexDigit c = true) : IsEscape Braced ('x' :: digits) rest
  | char {c : Char} {rest : List Char} (hu : c ≠ 'u') (hx : c ≠ 'x') : IsEscape Braced [c] rest

/-- A body all of whose escapes are well formed. -/
inductive IsBody (Braced : List Char → List Char → Prop) : List Char → Prop
  | nil : IsBody Braced []
  | plain {c : Char} {rest : List Char} (hc : c ≠ '\\') (h : IsBody Braced rest) :
      IsBody Braced (c :: rest)
  | escape {e rest : List Char} (he : IsEscape Braced e rest) (h : IsBody Braced rest) :
      IsBody Braced ('\\' :: (e ++ rest))

variable {cs p r rest : List Char} {Braced Braced' : List Char → List Char → Prop}

/-- The language has no code point in braces that is not read. -/
theorem IsCodePoint.isBraced {w : List Char} (h : IsCodePoint w rest) : IsBraced w rest := by
  cases h with
  | intro hne hdigits hn => exact .closed (.unsigned hne hdigits (by omega))

theorem IsBody.mono (hmono : ∀ w rest, Braced w rest → Braced' w rest)
    (h : IsBody Braced cs) : IsBody Braced' cs := by
  induction h with
  | nil => exact .nil
  | plain hc _ ih => exact .plain hc ih
  | escape he _ ih =>
    refine .escape ?_ ih
    cases he with
    | braced hw => exact .braced (hmono _ _ hw)
    | unit hlen hdigits => exact .unit hlen hdigits
    | byte hlen hdigits => exact .byte hlen hdigits
    | char hu hx => exact .char hu hx

/-- Characters that are no backslash can stand before any body. -/
theorem isBody_append_iff (hp : ∀ c ∈ p, c ≠ '\\') :
    IsBody Braced (p ++ rest) ↔ IsBody Braced rest := by
  induction p with
  | nil => exact Iff.rfl
  | cons c p ih =>
    have hc : c ≠ '\\' := hp c List.mem_cons_self
    rw [List.cons_append, ← ih fun d hd => hp d (List.mem_cons_of_mem c hd)]
    refine ⟨fun h => ?_, .plain hc⟩
    generalize hcs : c :: (p ++ rest) = cs at h
    cases h with
    | nil => cases hcs
    | plain _ h =>
      cases hcs
      exact h
    | escape => exact absurd (List.cons.inj hcs).1 hc

/-! ### Digits -/

theorem isSome_digitsValue?_from (radix value : Nat) (cs : List Char) :
    (cs.foldlM (fun value c => (digitValue? radix c).map (value * radix + ·)) value).isSome ↔
      ∀ c ∈ cs, (digitValue? radix c).isSome := by
  induction cs generalizing value with
  | nil => simp
  | cons c cs ih => cases hc : digitValue? radix c <;> simp [hc, ih]

/-- A string denotes a number if all its characters are digits. -/
theorem isSome_digitsValue?_iff :
    (digitsValue? 16 cs).isSome ↔ ∀ c ∈ cs, isHexDigit c = true :=
  isSome_digitsValue?_from 16 0 cs

theorem isHexDigit_of_digitsValue? {n : Nat} (h : digitsValue? 16 cs = some n) :
    ∀ c ∈ cs, isHexDigit c = true := by
  apply isSome_digitsValue?_iff.mp
  rw [h]
  rfl

/-- So many digits in front of any text have a value. -/
theorem hexValue?_append {digits : List Char} (hdigits : ∀ c ∈ digits, isHexDigit c = true)
    (rest : List Char) : ∃ n, hexValue? digits.length (digits ++ rest) = some n := by
  obtain ⟨n, hn⟩ := Option.isSome_iff_exists.mp (isSome_digitsValue?_iff.mpr hdigits)
  exact ⟨n, by simp [hexValue?, hn]⟩

/-- Nothing else has one. -/
theorem exists_of_hexValue? {n k : Nat} (h : hexValue? k cs = some n) :
    ∃ digits rest, cs = digits ++ rest ∧ digits.length = k ∧
      ∀ c ∈ digits, isHexDigit c = true := by
  rw [hexValue?] at h
  split at h
  · next hlen =>
    exact ⟨cs.take k, cs.drop k, (List.take_append_drop k cs).symm, eq_of_beq hlen,
      isHexDigit_of_digitsValue? h⟩
  · cases h

/-- The further digits of an octal escape are characters like any others. -/
theorem octalRest_takes (value limit : Nat) (cs : List Char) :
    ∃ p rest, cs = p ++ rest ∧ (octalRest value limit cs).2 = p.length ∧ ∀ c ∈ p, c ≠ '\\' := by
  induction cs generalizing value limit with
  | nil => exact ⟨[], [], rfl, by simp [octalRest], by simp⟩
  | cons c cs ih =>
    cases limit with
    | zero => exact ⟨[], c :: cs, rfl, by simp [octalRest], by simp⟩
    | succ k =>
      cases hd : digitValue? 8 c with
      | none => exact ⟨[], c :: cs, rfl, by simp [octalRest, hd], by simp⟩
      | some d =>
        obtain ⟨p, rest, rfl, hlen, hp⟩ := ih (value * 8 + d) k
        have hc : c ≠ '\\' := by
          rintro rfl
          cases hd
        refine ⟨c :: p, rest, rfl, by simp [octalRest, hd, hlen], ?_⟩
        rw [List.forall_mem_cons]
        exact ⟨hc, hp⟩

/-! ### Code points in braces -/

theorem IsNumeral.ne_close {w : List Char} (h : IsNumeral w) : ∀ c ∈ w, c ≠ '}' := by
  have hhex : ∀ {digits : List Char} {n : Nat}, digitsValue? 16 digits = some n →
      ∀ c ∈ digits, c ≠ '}' := by
    rintro digits n hdigits c hc rfl
    exact absurd (isHexDigit_of_digitsValue? hdigits _ hc) (by decide)
  cases h with
  | unsigned _ hdigits _ => exact hhex hdigits
  | signed _ hdigits _ =>
    rw [List.forall_mem_cons]
    exact ⟨by decide, hhex hdigits⟩

theorem takeWhile_close {w : List Char} (hw : ∀ c ∈ w, c ≠ '}') (rest : List Char) :
    (w ++ ['}'] ++ rest).takeWhile (· != '}') = w := by
  rw [List.append_assoc, List.takeWhile_append_of_pos (by simpa using hw)]
  simp

/-- What is read up to the brace or the end. -/
theorem bracedValue?_eq {inner : List Char} (h : cs.takeWhile (· != '}') = inner)
    (hinner : IsNumeral inner) :
    ∃ n, bracedValue? cs = some (n, min (inner.length + 1) cs.length) := by
  cases hinner with
  | @unsigned _ n hne hdigits hn =>
    have hsign : ¬(inner.head? == some '+') = true := by
      intro hhead
      have hplus : '+' ∈ inner := List.mem_of_mem_head? (beq_iff_eq.mp hhead)
      exact absurd (isHexDigit_of_digitsValue? hdigits _ hplus) (by decide)
    have hfull : ¬inner.isEmpty = true := mt List.isEmpty_iff.mp hne
    have hlt : n < Nat.pow 2 32 := hn
    refine ⟨n, ?_⟩
    simp only [bracedValue?, h, if_neg hsign, if_neg hfull, hdigits, Option.bind_some, if_pos hlt]
  | @signed digits n hne hdigits hn =>
    have hsign : (('+' :: digits).head? == some '+') = true := rfl
    have hfull : ¬digits.isEmpty = true := mt List.isEmpty_iff.mp hne
    have hlt : n < Nat.pow 2 32 := hn
    refine ⟨n, ?_⟩
    simp only [bracedValue?, h, if_pos hsign, List.drop_one, List.tail_cons, if_neg hfull, hdigits,
      Option.bind_some, if_pos hlt]

theorem IsBraced.value {w : List Char} (h : IsBraced w rest) :
    ∃ n, bracedValue? (w ++ rest) = some (n, w.length) := by
  cases h with
  | @closed numeral _ hw =>
    obtain ⟨n, hn⟩ := bracedValue?_eq (takeWhile_close hw.ne_close rest) hw
    refine ⟨n, hn.trans ?_⟩
    simp
  | unclosed hw =>
    have hinner : (w ++ []).takeWhile (· != '}') = w := by
      rw [List.takeWhile_append_of_pos (by simpa using hw.ne_close)]
      exact List.append_nil w
    obtain ⟨n, hn⟩ := bracedValue?_eq hinner hw
    refine ⟨n, hn.trans ?_⟩
    simp

theorem isNumeral_of_bracedValue? {v : Nat × Nat} (h : bracedValue? cs = some v) :
    IsNumeral (cs.takeWhile (· != '}')) := by
  rw [bracedValue?] at h
  generalize cs.takeWhile (· != '}') = inner at h ⊢
  generalize hdigits : (if inner.head? == some '+' then inner.drop 1 else inner) = digits at h
  have hvalue : digits ≠ [] ∧ ∃ n, digitsValue? 16 digits = some n ∧ n < 2 ^ 32 := by
    cases hn : digitsValue? 16 digits with
    | none => simp [hn] at h
    | some n =>
      rw [hn, Option.bind_some, Option.ite_none_left_eq_some, Option.ite_none_right_eq_some] at h
      exact ⟨by simpa using h.1, n, rfl, h.2.1⟩
  obtain ⟨hne, n, hn, hlt⟩ := hvalue
  by_cases hsign : inner.head? = some '+'
  · obtain ⟨inner', rfl⟩ := List.head?_eq_some_iff.mp hsign
    obtain rfl : inner' = digits := by simpa using hdigits
    exact .signed hne hn hlt
  · obtain rfl : inner = digits := by simpa [hsign] using hdigits
    exact .unsigned hne hn hlt

theorem exists_of_bracedValue? {v : Nat × Nat} (h : bracedValue? cs = some v) :
    ∃ w rest, cs = w ++ rest ∧ IsBraced w rest := by
  have hinner := isNumeral_of_bracedValue? h
  have hsplit := List.takeWhile_append_dropWhile (p := (· != '}')) (l := cs)
  have hclose := List.head?_dropWhile_not (· != '}') cs
  cases hrest : cs.dropWhile (· != '}') with
  | nil =>
    rw [hrest, List.append_nil] at hsplit
    exact ⟨cs, [], (List.append_nil cs).symm, .unclosed (hsplit ▸ hinner)⟩
  | cons c rest =>
    rw [hrest] at hsplit hclose
    obtain rfl : c = '}' := by simpa using hclose
    exact ⟨_, rest, by rw [List.append_assoc, List.singleton_append, hsplit], .closed hinner⟩

/-! ### Escapes -/

theorem decodeEscape_braced (r : List Char) :
    decodeEscape ('u' :: '{' :: r) = (bracedValue? r).map fun (n, k) => (.unit n, k + 2) := rfl

theorem decodeEscape_unit (h : r.head? ≠ some '{') :
    decodeEscape ('u' :: r) = (hexValue? 4 r).map fun n => (.unit n, 5) := by
  rw [decodeEscape]
  rintro r' rfl
  exact h rfl

theorem decodeEscape_byte (r : List Char) :
    decodeEscape ('x' :: r) = (hexValue? 2 r).map fun n => (.char (Char.ofNat n), 3) := rfl

/-- Any other character is taken, and perhaps more: the line feed of a line break, or the digits of
an octal escape. -/
theorem decodeEscape_char (hne : r ≠ []) (hu : r.head? ≠ some 'u') (hx : r.head? ≠ some 'x') :
    ∃ p rest, r.tail = p ++ rest ∧ (∀ c ∈ p, c ≠ '\\') ∧
      ∃ x, decodeEscape r = some (x, p.length + 1) := by
  fun_cases decodeEscape r with
  | case1 => exact absurd rfl hne
  | case2 | case3 => exact absurd rfl hu
  | case4 => exact absurd rfl hx
  | case11 r => exact ⟨['\n'], r, rfl, by simp, _, rfl⟩
  | case13 c r _ _ _ _ _ _ _ _ _ _ _ d _ v n hrest =>
    obtain ⟨p, rest, hr, hn, hp⟩ := octalRest_takes d (if d ≤ 3 then 2 else 1) r
    rw [hrest] at hn
    exact ⟨p, rest, hr, hp, _, congrArg (fun n => some (Escaped.char (Char.ofNat v), n + 1)) hn⟩
  | _ => exact ⟨[], _, rfl, by simp, _, rfl⟩

/-- A well-formed escape is read.  It may take characters after it that are no backslash. -/
theorem IsEscape.decodes {e : List Char} (h : IsEscape IsBraced e rest) :
    ∃ p rest', rest = p ++ rest' ∧ (∀ c ∈ p, c ≠ '\\') ∧
      ∃ x, decodeEscape (e ++ rest) = some (x, e.length + p.length) := by
  cases h with
  | @braced w _ hw =>
    obtain ⟨n, hn⟩ := hw.value
    refine ⟨[], rest, rfl, by simp, .unit n, ?_⟩
    rw [List.cons_append, List.cons_append, decodeEscape_braced, hn]
    rfl
  | @unit digits _ hlen hdigits =>
    obtain ⟨n, hn⟩ := hexValue?_append hdigits rest
    have hhead : (digits ++ rest).head? ≠ some '{' := by
      obtain ⟨d, digits, rfl⟩ := List.exists_cons_of_length_eq_add_one hlen
      rintro ⟨⟩
      exact absurd (hdigits _ List.mem_cons_self) (by decide)
    refine ⟨[], rest, rfl, by simp, .unit n, ?_⟩
    rw [List.cons_append, decodeEscape_unit hhead, ← hlen, hn]
    simp [hlen]
  | @byte digits _ hlen hdigits =>
    obtain ⟨n, hn⟩ := hexValue?_append hdigits rest
    refine ⟨[], rest, rfl, by simp, .char (Char.ofNat n), ?_⟩
    rw [List.cons_append, decodeEscape_byte, ← hlen, hn]
    simp [hlen]
  | @char c _ hu hx =>
    obtain ⟨p, rest', hrest, hp, x, hread⟩ := decodeEscape_char (r := c :: rest) (by simp)
      (by simpa using hu) (by simpa using hx)
    exact ⟨p, rest', hrest, hp, x, hread.trans (by rw [Nat.add_comm]; rfl)⟩

/-- Nothing else is. -/
theorem isEscape_of_decodeEscape {v : Escaped × Nat} (h : decodeEscape r = some v) :
    ∃ e rest, r = e ++ rest ∧ IsEscape IsBraced e rest := by
  cases r with
  | nil => cases h
  | cons c r =>
    by_cases hu : c = 'u'
    · subst hu
      by_cases hhead : r.head? = some '{'
      · obtain ⟨r, rfl⟩ := List.head?_eq_some_iff.mp hhead
        rw [decodeEscape_braced, Option.map_eq_some_iff] at h
        obtain ⟨_, hvalue, -⟩ := h
        obtain ⟨w, rest, rfl, hw⟩ := exists_of_bracedValue? hvalue
        exact ⟨_, rest, rfl, .braced hw⟩
      · rw [decodeEscape_unit hhead, Option.map_eq_some_iff] at h
        obtain ⟨_, hvalue, -⟩ := h
        obtain ⟨digits, rest, rfl, hlen, hdigits⟩ := exists_of_hexValue? hvalue
        exact ⟨_, rest, rfl, .unit hlen hdigits⟩
    · by_cases hx : c = 'x'
      · subst hx
        rw [decodeEscape_byte, Option.map_eq_some_iff] at h
        obtain ⟨_, hvalue, -⟩ := h
        obtain ⟨digits, rest, rfl, hlen, hdigits⟩ := exists_of_hexValue? hvalue
        exact ⟨_, rest, rfl, .byte hlen hdigits⟩
      · exact ⟨[c], r, rfl, .char hu hx⟩

/-- What is left to decode after an escape. -/
theorem isBody_escape_iff {x : Escaped} {n : Nat} (h : decodeEscape r = some (x, n)) :
    IsBody IsBraced ('\\' :: r) ↔ IsBody IsBraced (r.drop n) := by
  have hread : ∀ {e rest : List Char}, r = e ++ rest → IsEscape IsBraced e rest →
      (IsBody IsBraced rest ↔ IsBody IsBraced (r.drop n)) := by
    rintro e rest rfl he
    obtain ⟨p, rest', rfl, hp, x', hx⟩ := he.decodes
    obtain ⟨-, rfl⟩ : x' = x ∧ e.length + p.length = n := by simpa [h, eq_comm] using hx
    rw [isBody_append_iff hp, ← List.append_assoc, ← List.length_append, List.drop_left]
  constructor
  · intro hbody
    cases hbody with
    | plain hc => exact absurd rfl hc
    | escape he hrest => exact (hread rfl he).mp hrest
  · intro hrest
    obtain ⟨e, rest, hr, he⟩ := isEscape_of_decodeEscape h
    have hbody : IsBody IsBraced ('\\' :: (e ++ rest)) := .escape he ((hread hr he).mpr hrest)
    rwa [← hr] at hbody

theorem not_isBody_of_malformed (h : decodeEscape r = none) : ¬ IsBody IsBraced ('\\' :: r) := by
  intro hbody
  cases hbody with
  | plain hc => exact absurd rfl hc
  | escape he _ =>
    obtain ⟨p, rest', -, -, x, hx⟩ := he.decodes
    rw [h] at hx
    cases hx

/-! ### Bodies -/

/-- A half of a surrogate pair that still waits for its partner makes no difference. -/
theorem decodeFrom_isSome_iff (high : Option Nat) (cs : List Char) :
    (decodeFrom high cs).isSome ↔ IsBody IsBraced cs := by
  fun_induction decodeFrom high cs with
  | case1 => exact iff_of_true rfl .nil
  | case2 high r hescape => exact iff_of_false Bool.false_ne_true (not_isBody_of_malformed hescape)
  | case8 high c rest hc ih =>
    rw [Option.isSome_map, ih]
    exact (isBody_append_iff (p := [c]) (by simpa using hc)).symm
  | case3 high r n hescape ih => rw [Option.isSome_map, ih, isBody_escape_iff hescape]
  | case4 high r c n hescape ih => rw [Option.isSome_map, ih, isBody_escape_iff hescape]
  | case5 r u n hescape h hlow c ih => rw [Option.isSome_map, ih, isBody_escape_iff hescape]
  | case6 high r u n hescape hhigh hlow ih => rw [Option.isSome_map, ih, isBody_escape_iff hescape]
  | case7 high r u n hescape hhigh hlow ih => rw [Option.isSome_map, ih, isBody_escape_iff hescape]

/-- **A body is decoded if and only if its escapes are well formed**, for what is read as a code point
in braces.  So `u` needs four digits or braces, `x` needs two digits, and no body ends in a lone
backslash. -/
theorem decodeString_isSome_iff (body : List Char) :
    (decodeString body).isSome ↔ IsBody IsBraced body := by
  rw [decodeString, Option.isSome_map, decodeFrom_isSome_iff]

/-- What the language has is decoded. -/
theorem decodeString_isSome_of_isBody (h : IsBody IsCodePoint cs) : (decodeString cs).isSome :=
  (decodeString_isSome_iff cs).mpr (h.mono fun _ _ => IsCodePoint.isBraced)

/-- What the language asks of a code point in braces. -/
theorem IsBody.codePoint (h : IsBody IsCodePoint ('\\' :: 'u' :: '{' :: r)) :
    '}' ∈ r ∧ ∃ n ≤ 0x10FFFF, digitsValue? 16 (r.takeWhile (· != '}')) = some n := by
  generalize hcs : '\\' :: 'u' :: '{' :: r = cs at h
  cases h with
  | nil => cases hcs
  | plain hc => exact absurd (List.cons.inj hcs).1.symm hc
  | @escape e rest he _ =>
    have hr : 'u' :: '{' :: r = e ++ rest := (List.cons.inj hcs).2
    cases he with
    | braced hw =>
      cases hw with
      | @intro digits _ n hne hdigits hn =>
        obtain rfl : r = digits ++ ['}'] ++ rest := by simpa using hr
        refine ⟨by simp, n, hn, ?_⟩
        rw [takeWhile_close (IsNumeral.unsigned hne hdigits (by omega)).ne_close rest, hdigits]
    | @unit digits _ hlen hdigits =>
      obtain ⟨d, digits, rfl⟩ := List.exists_cons_of_length_eq_add_one hlen
      obtain rfl : '{' = d := by simpa using (List.cons.inj (List.cons.inj hr).2).1
      exact absurd (hdigits _ List.mem_cons_self) (by decide)
    | byte => exact absurd (List.cons.inj hr).1 (by decide)
    | char hu => exact absurd (List.cons.inj hr).1.symm hu

/-- Three bodies that the language does not have: the brace is missing, the number has a sign, and
it is no code point. -/
theorem looseBraces_decode :
    (decodeString "\\u\x7b41".toList = some "A" ∧ ¬ IsBody IsCodePoint "\\u\x7b41".toList) ∧
      (decodeString "\\u\x7b+41\x7d".toList = some "A" ∧
        ¬ IsBody IsCodePoint "\\u\x7b+41\x7d".toList) ∧
      (decodeString "\\u\x7b110000\x7d".toList = some "\uFFFD" ∧
        ¬ IsBody IsCodePoint "\\u\x7b110000\x7d".toList) := by
  have hdecodes : decodeString "\\u\x7b41".toList = some "A" ∧
      decodeString "\\u\x7b+41\x7d".toList = some "A" ∧
      decodeString "\\u\x7b110000\x7d".toList = some "\uFFFD" := by decide +kernel
  refine ⟨⟨hdecodes.1, fun h => ?_⟩, ⟨hdecodes.2.1, fun h => ?_⟩, ⟨hdecodes.2.2, fun h => ?_⟩⟩
  · exact absurd h.codePoint.1 (by decide)
  · obtain ⟨-, n, -, hn⟩ := h.codePoint
    exact absurd (isHexDigit_of_digitsValue? hn '+' (by decide)) (by decide)
  · obtain ⟨-, n, hle, hn⟩ := h.codePoint
    have hvalue : n = 0x110000 := Option.some.inj (hn.symm.trans rfl)
    omega

/-- A body without escapes denotes itself. -/
theorem decodeFrom_unescaped (h : ∀ c ∈ cs, c ≠ '\\') : decodeFrom none cs = some cs := by
  induction cs with
  | nil => rw [decodeFrom, unpaired]
  | cons c cs ih =>
    rw [List.forall_mem_cons] at h
    rw [decodeFrom, ih h.2]
    · rfl
    · exact h.1

theorem decodeString_unescaped (h : cs.all (· != '\\') = true) :
    decodeString cs = some (String.ofList cs) := by
  have hplain : ∀ c ∈ cs, c ≠ '\\' := fun c hc => bne_iff_ne.mp (List.all_eq_true.mp h c hc)
  rw [decodeString, decodeFrom_unescaped hplain, Option.map_some]

end ImportSeam
