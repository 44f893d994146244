import ImportSeam.Proofs.Grammar.Formed
import ImportSeam.Proofs.Layout.Comments
import Mathlib.Data.List.Chain

/-!
# Tokens in front of a text

A token that is written in front of other text is read again as it was written only if the text
does not go on with it: a name ends where a character follows that no name continues with, and a
sign ends where no longer sign starts.  What is read is stated with the characters that follow in
place, so that tokens written one after another need no further argument.

## Main definitions

* `EndsWord` — a text that no word goes on with.
* `LexesTo` — a text that starts with a token, after blanks.

## Main results

* `lexesTo_word` — a name, a keyword or a private name in front of a text that ends it.
* `lexesTo_punct` — a sign in front of a text that it does not go on with.
-/

namespace ImportSeam

open Text

/-! ### Characters of names -/

/-- The text does not go on with a word in front of it. -/
def EndsWord (rest : List Char) : Prop := ∀ c ∈ rest.head?, isIdContinue c = false ∧ c ≠ '\\'

theorem endsWord_cons {c : Char} (h : isIdContinue c = false ∧ c ≠ '\\') (rest : List Char) :
    EndsWord (c :: rest) := by
  intro d hd
  obtain rfl := Option.some.inj hd
  exact h

/-- The character can be the first of a name, of an escape in a name or of a private name. -/
def StartsWord (c : Char) : Prop := c = '#' ∨ c = '\\' ∨ isIdStart c = true

theorem toNat_of_isDecimalDigit {c : Char} (h : isDecimalDigit c = true) :
    0x30 ≤ c.toNat ∧ c.toNat ≤ 0x39 := by
  obtain ⟨n, hn⟩ := Option.isSome_iff_exists.mp h
  obtain ⟨hvalue, hlt⟩ := Option.filter_eq_some_iff.mp hn
  have hten : n < 10 := of_decide_eq_true hlt
  split at hvalue
  · next hc =>
    simp only [Bool.and_eq_true, decide_eq_true_eq] at hc
    exact hc
  · -- a letter stands for ten or more
    split at hvalue
    · have := Option.some.inj hvalue
      omega
    · split at hvalue
      · have := Option.some.inj hvalue
        omega
      · exact nomatch hvalue

/-- The code points beyond ASCII that are skipped between tokens. -/
def skippedCodes : List Nat :=
  [0x85, 0xA0, 0x1680, 0x2000, 0x2001, 0x2002, 0x2003, 0x2004, 0x2005, 0x2006, 0x2007, 0x2008,
    0x2009, 0x200A, 0x2028, 0x2029, 0x202F, 0x205F, 0x3000, 0xFEFF]

/-- Of increasing numbers, those up to a limit are the first ones. -/
theorem countP_le_of_pairwise {ns : List Nat} (h : ns.Pairwise (· ≤ ·)) (n : Nat) :
    ns.countP (· ≤ n) = (ns.takeWhile (· ≤ n)).length := by
  induction ns with
  | nil => rfl
  | cons m ns ih =>
    obtain ⟨hfirst, hrest⟩ := List.pairwise_cons.mp h
    by_cases hm : m ≤ n
    · simp [hm, ih hrest]
    · have hbeyond : ∀ k ∈ ns, n < k := fun k hk => by have := hfirst k hk; omega
      simpa [hm, List.countP_eq_zero] using hbeyond

theorem alphabetic_increasing : alphabetic.bounds.Pairwise (· ≤ ·) :=
  List.isChain_iff_pairwise.mp (by decide +kernel)

theorem not_letter_of_skipped :
    ∀ n ∈ skippedCodes, alphabetic.bounds.countP (· ≤ n) % 2 = 0 := by
  -- few of the boundaries lie below a limit, and no other has to be looked at
  simp only [countP_le_of_pairwise alphabetic_increasing]
  decide +kernel

theorem not_isAlphabetic {c : Char} (h : alphabetic.bounds.countP (· ≤ c.toNat) % 2 = 0) :
    isAlphabetic c = false := by
  rw [isAlphabetic, CodePointSet.contains, h]
  rfl

/-- A character beyond the letters of ASCII starts a name only if it is alphabetic. -/
theorem isIdStart_eq {c : Char} (h : c.toNat ≤ 0x20 ∨ 0x80 ≤ c.toNat) :
    isIdStart c = (isBeyondAscii c && isAlphabetic c) := by
  have hdollar : c ≠ '$' := by
    rintro rfl
    revert h
    decide
  have hunderscore : c ≠ '_' := by
    rintro rfl
    revert h
    decide
  have hletter : isAsciiLetter c = false := by
    simp only [isAsciiLetter, Bool.or_eq_false_iff, Bool.and_eq_false_iff, decide_eq_false_iff_not]
    omega
  simp [isIdStart, hdollar, hunderscore, hletter]

/-- What is skipped between tokens starts no name. -/
theorem not_isIdStart_of_skipped {c : Char}
    (h : isLineTerminator c = true ∨ isSkipped c = true) : isIdStart c = false := by
  have hcases : c.toNat ≤ 0x20 ∨ c.toNat ∈ skippedCodes := by
    simp only [isLineTerminator, isSkipped, isBlank, Bool.or_eq_true, Bool.and_eq_true,
      beq_iff_eq, decide_eq_true_eq] at h
    simp only [skippedCodes, List.mem_cons, List.not_mem_nil, or_false]
    rcases h with (((rfl | rfl) | h) | h) | h
    · exact .inl (by decide)
    · exact .inl (by decide)
    all_goals omega
  rcases hcases with hlow | hmem
  · have hascii : isBeyondAscii c = false := by
      simp only [isBeyondAscii, decide_eq_false_iff_not]
      omega
    rw [isIdStart_eq (.inl hlow), hascii]
    rfl
  · have hbeyond : ∀ n ∈ skippedCodes, 0x80 ≤ n := by decide
    rw [isIdStart_eq (.inr (hbeyond _ hmem)), not_isAlphabetic (not_letter_of_skipped _ hmem),
      Bool.and_false]

namespace StartsWord

variable {c : Char}

theorem ne (h : StartsWord c) {d : Char} (hd : d ≠ '#' ∧ d ≠ '\\' ∧ isIdStart d = false) :
    c ≠ d := by
  rintro rfl
  rcases h with rfl | rfl | h
  · exact hd.1 rfl
  · exact hd.2.1 rfl
  · exact absurd h (by simp [hd.2.2])

/-- Nothing that is skipped starts a word. -/
theorem not_skipped (h : StartsWord c) : isLineTerminator c = false ∧ isSkipped c = false := by
  rcases h with rfl | rfl | h
  · decide
  · decide
  · by_contra hskip
    have hs : isLineTerminator c = true ∨ isSkipped c = true := by
      rw [not_and_or, Bool.not_eq_false, Bool.not_eq_false] at hskip
      exact hskip
    rw [not_isIdStart_of_skipped hs] at h
    exact nomatch h

/-- No digit starts a word. -/
theorem not_digit (h : StartsWord c) : isDecimalDigit c = false := by
  rcases h with rfl | rfl | h
  · decide
  · decide
  · by_contra hdigit
    have hrange := toNat_of_isDecimalDigit (Bool.not_eq_false _ ▸ hdigit)
    simp only [isIdStart, isAsciiLetter, isBeyondAscii, Bool.or_eq_true, Bool.and_eq_true,
      beq_iff_eq, decide_eq_true_eq] at h
    rcases h with ((rfl | rfl) | h) | h
    · revert hrange
      decide
    · revert hrange
      decide
    all_goals omega

end StartsWord

/-! ### Names in front of a text -/

namespace Scan

/-- A run of characters ends where the first other character follows. -/
theorem run_append {p : Char → Bool} {w rest : List Char} (hw : ∀ c ∈ w, p c = true)
    (hr : ∀ c ∈ rest.head?, p c = false) : run p (w ++ rest) = w.length := by
  have hrest : rest.takeWhile p = [] := by
    cases rest with
    | nil => rfl
    | cons c r => rw [List.takeWhile_cons, if_neg (by simp [hr c rfl])]
  rw [run, List.takeWhile_append_of_pos hw, hrest, List.append_nil]

/-- A run of characters and the character behind it. -/
theorem exists_of_head?_drop_run {p : Char → Bool} {r : List Char} {c : Char}
    (h : (r.drop (run p r)).head? = some c) :
    ∃ w t, r = w ++ c :: t ∧ (∀ d ∈ w, p d = true) ∧ run p r = w.length := by
  rw [drop_run] at h
  obtain ⟨t, ht⟩ := List.head?_eq_some_iff.mp h
  refine ⟨r.takeWhile p, t, ?_, fun d hd => List.mem_takeWhile_imp hd, rfl⟩
  rw [← ht, List.takeWhile_append_dropWhile]

/-- A well-formed escape in a name: digits in braces, or four digits. -/
inductive Escape : List Char → Prop
  | braced {digits : List Char} (hne : digits ≠ []) (hd : ∀ c ∈ digits, isHexDigit c = true) :
      Escape ('u' :: '{' :: (digits ++ ['}']))
  | four {digits : List Char} (hlen : digits.length = 4) (hd : ∀ c ∈ digits, isHexDigit c = true) :
      Escape ('u' :: digits)

theorem escape_of_nameEscape {r : List Char} {n : Nat} (h : nameEscape r = (true, n)) :
    Escape (r.take n) ∧ n ≤ r.length := by
  unfold nameEscape at h
  split at h
  · dsimp only at h
    split at h
    · next hdigits =>
      obtain ⟨-, rfl⟩ := Prod.mk.inj h
      simp only [Bool.and_eq_true, bne_iff_ne, beq_iff_eq] at hdigits
      obtain ⟨w, t, rfl, hw, hrun⟩ := exists_of_head?_drop_run hdigits.2
      have htake : (w ++ '}' :: t).take (w.length + 1) = w ++ ['}'] := by
        rw [List.take_length_add_append]
        rfl
      rw [hrun] at hdigits ⊢
      rw [List.take_succ_cons, List.take_succ_cons, htake]
      exact ⟨.braced (List.length_pos_iff.mp (Nat.pos_of_ne_zero hdigits.1)) hw, by simp⟩
    · exact nomatch h
  · next r _ =>
    dsimp only at h
    split at h
    · next hfour =>
      obtain ⟨-, rfl⟩ := Prod.mk.inj h
      rw [beq_iff_eq] at hfour
      have hle : run isHexDigit (r.take 4) ≤ (r.take 4).length :=
        (List.takeWhile_prefix _).length_le
      have hlen : (r.take 4).length = 4 := by
        have := List.length_take_le 4 r
        omega
      have hall : (r.take 4).takeWhile isHexDigit = r.take 4 := by
        refine (List.takeWhile_prefix _).eq_of_length ?_
        rw [hlen]
        exact hfour
      rw [List.take_succ_cons]
      refine ⟨.four hlen fun c hc => ?_, ?_⟩
      · rw [← hall] at hc
        exact List.mem_takeWhile_imp hc
      · rw [List.length_take] at hlen
        rw [List.length_cons]
        omega
    · exact nomatch h
  · exact nomatch h

/-- An escape is read from itself in front of any text. -/
theorem Escape.nameEscape_append {e : List Char} (h : Escape e) (rest : List Char) :
    nameEscape (e ++ rest) = (true, e.length) := by
  cases h with
  | @braced digits hne hd =>
    have hrun : run isHexDigit (digits ++ '}' :: rest) = digits.length :=
      run_append hd (by simp; decide)
    have hdrop : (digits ++ '}' :: rest).drop digits.length = '}' :: rest := List.drop_left
    have hlen : digits.length ≠ 0 := by simpa using hne
    simp only [List.cons_append, List.append_assoc, List.nil_append, nameEscape, hrun, hdrop]
    simp [hlen]
  | @four digits hlen hd =>
    have htake : (digits ++ rest).take 4 = digits := by rw [← hlen, List.take_left]
    have hrun : run isHexDigit digits = 4 := by
      have hall : run isHexDigit (digits ++ []) = digits.length := run_append hd (by simp)
      rwa [List.append_nil, hlen] at hall
    have hbrace : ∀ t, digits ++ rest ≠ '{' :: t := by
      intro t heq
      cases digits with
      | nil => exact absurd hlen (by decide)
      | cons d ds =>
        obtain ⟨rfl, -⟩ := List.cons.inj heq
        exact absurd (hd '{' List.mem_cons_self) (by decide)
    rw [List.cons_append, List.length_cons, hlen]
    unfold nameEscape
    split
    · next heq => exact absurd (List.cons.inj heq).2 (hbrace _)
    · next heq =>
      obtain ⟨-, rfl⟩ := List.cons.inj heq
      rw [htake, hrun]
      rfl
    · next hother => exact absurd rfl (hother _)

theorem nameRun_of_ends {p : Char → Bool} {rest : List Char}
    (h : ∀ c ∈ rest.head?, p c = false ∧ c ≠ '\\') : nameRun p rest = (0, false, true) := by
  cases rest with
  | nil => rw [nameRun]
  | cons c r =>
    obtain ⟨hc, hb⟩ := h c rfl
    rw [nameRun.eq_def]
    split
    · next heq => exact absurd heq (List.cons_ne_nil _ _)
    · next heq => exact absurd (List.cons.inj heq).1 hb
    · next heq =>
      obtain ⟨rfl, rfl⟩ := List.cons.inj heq
      rw [if_neg (by simp [hc])]

theorem nameRun_escape {p : Char → Bool} {r : List Char} {n : Nat}
    (h : nameEscape r = (true, n)) : nameRun p ('\\' :: r) =
      (n + 1 + (nameRun p (r.drop n)).1, true, (nameRun p (r.drop n)).2.2) := by
  rw [nameRun, h]

theorem nameRun_cons {p : Char → Bool} {c : Char} (r : List Char) (hb : c ≠ '\\')
    (hc : p c = true) : nameRun p (c :: r) =
      ((nameRun p r).1 + 1, (nameRun p r).2.1, (nameRun p r).2.2) := by
  rw [nameRun.eq_def]
  split
  · next heq => exact absurd heq (List.cons_ne_nil _ _)
  · next heq => exact absurd (List.cons.inj heq).1 hb
  · next heq =>
    obtain ⟨rfl, rfl⟩ := List.cons.inj heq
    rw [if_pos hc]

/-- A name is read from itself in front of any text that ends it. -/
theorem nameRun_take {p : Char → Bool} {cs : List Char} {n : Nat} {escaped : Bool}
    (h : nameRun p cs = (n, escaped, true)) {rest : List Char}
    (hr : ∀ c ∈ rest.head?, p c = false ∧ c ≠ '\\') :
    nameRun p (cs.take n ++ rest) = (n, escaped, true) ∧ n ≤ cs.length := by
  fun_induction nameRun p cs generalizing n escaped with
  | case1 =>
    obtain ⟨rfl, rfl⟩ : 0 = n ∧ false = escaped := by simpa using h
    exact ⟨nameRun_of_ends hr, Nat.le_refl 0⟩
  | case2 r k hk => exact absurd (congrArg (·.2.2) h) Bool.false_ne_true
  | case3 r k hk m e ok hm ih =>
    obtain ⟨rfl, rfl, rfl⟩ : k + 1 + m = n ∧ true = escaped ∧ ok = true := by simpa using h
    obtain ⟨ihrun, ihlen⟩ := ih hm
    obtain ⟨hescape, hklen⟩ := escape_of_nameEscape hk
    have hlen : (r.take k).length = k := by rw [List.length_take, Nat.min_eq_left hklen]
    have hagain := hescape.nameEscape_append ((r.drop k).take m ++ rest)
    rw [hlen] at hagain
    have htake : ('\\' :: r).take (k + 1 + m) = '\\' :: (r.take k ++ (r.drop k).take m) := by
      rw [Nat.add_right_comm, List.take_succ_cons, List.take_add]
    have hdrop : (r.take k ++ ((r.drop k).take m ++ rest)).drop k = (r.drop k).take m ++ rest := by
      nth_rewrite 1 [← hlen]
      exact List.drop_left
    refine ⟨?_, ?_⟩
    · rw [htake, List.cons_append, List.append_assoc, nameRun_escape hagain, hdrop, ihrun]
    · rw [List.length_drop] at ihlen
      rw [List.length_cons]
      omega
  | case4 c r hb hc m e ok hm ih =>
    obtain ⟨rfl, rfl, rfl⟩ : m + 1 = n ∧ e = escaped ∧ ok = true := by simpa using h
    obtain ⟨ihrun, ihlen⟩ := ih hm
    refine ⟨?_, by rw [List.length_cons]; omega⟩
    rw [List.take_succ_cons, List.cons_append, nameRun_cons _ hb hc, ihrun]
  | case5 c r hb hc =>
    obtain ⟨rfl, rfl⟩ : 0 = n ∧ false = escaped := by simpa using h
    exact ⟨nameRun_of_ends hr, Nat.zero_le _⟩

/-- The kind of a well-formed word: only what is spelled without an escape can be a keyword. -/
def wordKind (escaped : Bool) (cs : List Char) : TokenKind :=
  if escaped then .ident
  else
    match Keyword.ofWord? (String.ofList cs) with
    | some k => .keyword k
    | none => .ident

theorem word_eq {cs : List Char} {n : Nat} {escaped : Bool}
    (h : nameRun isIdContinue cs = (n, escaped, true)) :
    word false cs = ⟨some (wordKind escaped (cs.take n)), n⟩ := by
  unfold word wordKind
  simp only [Bool.false_eq_true, if_false, h, Bool.or_false]
  cases escaped with
  | true => rfl
  | false => cases Keyword.ofWord? (String.ofList (cs.take n)) <;> rfl

theorem exists_nameRun_of_word {cs : List Char} {kind : TokenKind}
    (h : (word false cs).kind = some kind) :
    ∃ n escaped, nameRun isIdContinue cs = (n, escaped, true) := by
  cases hrun : nameRun isIdContinue cs with
  | mk n p =>
    obtain ⟨escaped, ok⟩ := p
    cases ok with
    | true => exact ⟨n, escaped, rfl⟩
    | false =>
      unfold word at h
      simp only [Bool.false_eq_true, if_false, hrun] at h
      exact nomatch h

theorem ordinary_word {c : Char} (h : c = '\\' ∨ isIdStart c = true) (r : List Char) :
    ordinary .standard (c :: r) = word false (c :: r) := by
  have hc : StartsWord c := .inr h
  have hhash : c ≠ '#' := by
    rintro rfl
    revert h
    decide
  have hquote : c ≠ '"' := hc.ne (by decide)
  have hsingle : c ≠ '\'' := hc.ne (by decide)
  have hback : c ≠ '\x60' := hc.ne (by decide)
  have hdot : c ≠ '.' := hc.ne (by decide)
  have hslash : c ≠ '/' := hc.ne (by decide)
  have htag : (LexMode.standard == LexMode.jsxTag) = false := rfl
  simp [ordinary, hquote, hsingle, hback, hdot, hslash, hhash, hc.not_digit, h, htag]

/-- What a token comes from that is a word or a sign. -/
inductive Origin (c : Char) (r : List Char) : Prop
  | literal (h : ∀ kind ∈ (ordinary .standard (c :: r)).kind,
      isMemberName kind = false ∧ ∀ p, kind ≠ .punct p)
  | privateName (hc : c = '#')
  | word (hc : c = '\\' ∨ isIdStart c = true)
  | sign (h : ordinary .standard (c :: r) = punctuator (c :: r))

theorem origin (c : Char) (r : List Char) : Origin c r := by
  have literal : ∀ {s : Scan}, ordinary .standard (c :: r) = s →
      (∀ kind ∈ s.kind, isMemberName kind = false ∧ ∀ p, kind ≠ .punct p) → Origin c r := by
    rintro s rfl h
    exact .literal h
  have hordinary : ordinary .standard (c :: r) = ordinary .standard (c :: r) := rfl
  conv at hordinary => rhs; unfold ordinary
  dsimp only at hordinary
  split at hordinary
  · refine literal hordinary ?_
    split
    · rcases attributeString_kind c r with h | h <;> simp [h, isMemberName, TokenKind.isKeyword]
    · rcases string_kind c r with h | h <;> simp [h, isMemberName, TokenKind.isKeyword]
  split at hordinary
  · refine literal hordinary ?_
    rcases template_kind r with h | h | h <;> simp [h, isMemberName, TokenKind.isKeyword]
  split at hordinary
  · refine literal hordinary ?_
    rcases number_kind (c :: r) with h | h <;> simp [h, isMemberName, TokenKind.isKeyword]
  split at hordinary
  · refine literal hordinary ?_
    rcases number_kind (c :: r) with h | h <;> simp [h, isMemberName, TokenKind.isKeyword]
  split at hordinary
  · next hc => exact .privateName (by simpa using hc)
  split at hordinary
  · refine literal hordinary ?_
    rcases regex_kind r with h | h <;> simp [h, isMemberName, TokenKind.isKeyword]
  split at hordinary
  · next hc => exact .word (by simpa using hc)
  · exact .sign hordinary

/-- A word starts as a name does, or with the mark of a private name. -/
theorem cons_of_isMemberName {cs : List Char} {kind : TokenKind}
    (h : (ordinary .standard cs).kind = some kind) (hk : isMemberName kind = true) :
    ∃ c r, cs = c :: r ∧ (c = '#' ∨ c = '\\' ∨ isIdStart c = true) := by
  cases cs with
  | nil =>
    obtain rfl := Option.some.inj h
    exact nomatch hk
  | cons c r =>
    refine ⟨c, r, rfl, ?_⟩
    rcases origin c r with hliteral | hc | hc | hsign
    · rw [(hliteral kind h).1] at hk
      exact nomatch hk
    · exact .inl hc
    · exact .inr hc
    · rw [hsign] at h
      rcases punctuator_kind (c :: r) with hp | ⟨p, hp⟩
      · exact nomatch hp.symm.trans h
      · obtain rfl := Option.some.inj (hp.symm.trans h)
        exact nomatch hk

/-- A sign that is read stands in the text. -/
theorem prefix_of_punct {cs : List Char} {p : Punctuator}
    (h : (ordinary .standard cs).kind = some (.punct p)) : p.chars <+: cs := by
  have hlongest : ∀ {q : Punctuator} {ds : List Char}, Punctuator.longest? ds = some q →
      q.chars <+: ds := by
    intro q ds hq
    unfold Punctuator.longest? at hq
    have hprefix := List.find?_some hq
    exact List.isPrefixOf_iff_prefix.mp hprefix
  cases cs with
  | nil => exact nomatch h
  | cons c r =>
    rcases origin c r with hliteral | rfl | hc | hsign
    · exact absurd rfl ((hliteral _ h).2 p)
    · have hprivate : ordinary .standard ('#' :: r) = (privateName r).after 1 := rfl
      rw [hprivate, after_kind] at h
      rcases privateName_kind r with hp | hp <;> exact nomatch hp.symm.trans h
    · rw [ordinary_word hc] at h
      rcases word_kind false (c :: r) with hw | hw | ⟨k, hw⟩ <;> exact nomatch hw.symm.trans h
    · rw [hsign, punctuator] at h
      split at h
      · next hq =>
        -- the sign with a digit behind it is read as its first half
        have hprefix := hlongest hq
        split at h
        · obtain rfl := TokenKind.punct.inj (Option.some.inj h)
          exact List.IsPrefix.trans ⟨['.'], rfl⟩ hprefix
        · obtain rfl := TokenKind.punct.inj (Option.some.inj h)
          exact hprefix
      · next hq =>
        obtain rfl := TokenKind.punct.inj (Option.some.inj h)
        exact hlongest hq
      · exact nomatch h

/-- **A word is read from itself** in front of any text that ends it. -/
theorem scan_word {kind : TokenKind} {text : String} (h : IsToken .standard kind text)
    (hk : isMemberName kind = true) {rest : List Char} (hr : EndsWord rest) :
    scan .standard (text.toList ++ rest) = ⟨some kind, text.toList.length⟩ ∧
      ∃ c r, text.toList = c :: r ∧ StartsWord c := by
  obtain ⟨cs, hkind, rfl⟩ := h
  obtain ⟨c, r, rfl, hc⟩ := cons_of_isMemberName hkind hk
  rw [String.toList_ofList]
  rcases hc with rfl | hc
  · -- a hash with the characters of a name behind it
    have hprivate : ∀ r, scan .standard ('#' :: r) = (privateName r).after 1 := fun r => rfl
    rw [hprivate, after_kind] at hkind
    rw [hprivate]
    cases r with
    | nil => cases hkind
    | cons d ds =>
      by_cases hd : isIdStart d = true
      · have hname : ∀ r, privateName (d :: r) = ⟨some .privateName, run isIdContinue (d :: r)⟩ :=
          fun r => if_pos hd
        rw [hname] at hkind
        obtain rfl := Option.some.inj hkind
        have hw : (d :: ds).takeWhile isIdContinue = d :: ds.takeWhile isIdContinue := by
          rw [List.takeWhile_cons, if_pos (by simp [isIdContinue, hd])]
        have hlen : run isIdContinue (d :: ds) = (d :: ds.takeWhile isIdContinue).length :=
          congrArg List.length hw
        have htake : ('#' :: d :: ds).take (1 + (d :: ds.takeWhile isIdContinue).length) =
            '#' :: d :: ds.takeWhile isIdContinue := by
          rw [Nat.add_comm, List.take_succ_cons, ← hw]
          exact congrArg _ (List.prefix_iff_eq_take.1 (List.takeWhile_prefix _)).symm
        have hagain : run isIdContinue (d :: ds.takeWhile isIdContinue ++ rest) =
            (d :: ds.takeWhile isIdContinue).length := by
          refine run_append (fun x hx => ?_) fun x hx => (hr x hx).1
          rw [← hw] at hx
          exact List.mem_takeWhile_imp hx
        rw [after_length, hname, hlen, htake]
        refine ⟨?_, '#', _, rfl, .inl rfl⟩
        rw [List.cons_append, hprivate, List.cons_append, hname, ← List.cons_append, hagain]
        simp [after, Nat.add_comm]
      · rw [privateName, if_neg hd] at hkind
        cases hkind
  · have hword : ∀ r, scan .standard (c :: r) = word false (c :: r) := ordinary_word hc
    rw [hword] at hkind
    obtain ⟨n, escaped, hrun⟩ := exists_nameRun_of_word hkind
    obtain ⟨hagain, hn⟩ := nameRun_take hrun hr
    have hpos : 0 < n := by
      have hfirst : 0 < (nameRun isIdContinue (c :: r)).1 :=
        nameRun_pos r (hc.imp_right fun hs => by simp [isIdContinue, hs])
      rwa [hrun] at hfirst
    obtain ⟨m, rfl⟩ := Nat.exists_eq_succ_of_ne_zero (Nat.ne_of_gt hpos)
    have htake : ((c :: r).take (m + 1) ++ rest).take (m + 1) = (c :: r).take (m + 1) := by
      rw [List.take_append_of_le_length (by rw [List.length_take]; omega), List.take_take,
        Nat.min_self]
    rw [word_eq hrun] at hkind
    have hlen : (c :: r.take m).length = m + 1 := by
      rw [List.length_cons, List.length_take]
      simp only [List.length_cons] at hn
      omega
    rw [hword, word_eq hrun]
    refine ⟨?_, c, r.take m, rfl, .inr hc⟩
    rw [List.take_succ_cons, List.cons_append, hword, ← List.cons_append, ← List.take_succ_cons,
      word_eq hagain, htake, List.take_succ_cons, hlen]
    exact congrArg (Scan.mk · (m + 1)) hkind

end Scan

/-! ### Tokens in front of a text -/

/-- Nothing is skipped before the text. -/
def NoTrivia (cs : List Char) : Prop :=
  ∀ offset, skipTrivia ⟨offset, cs⟩ = ⟨false, [], ⟨offset, cs⟩⟩

theorem noTrivia_cons {c : Char} {r : List Char}
    (h : isLineTerminator c = false ∧ isSkipped c = false) (hc : commentAt? (c :: r) = none) :
    NoTrivia (c :: r) := by
  intro offset
  rw [skipTrivia.eq_def]
  split
  · next heq => cases heq
  · next heq =>
    obtain ⟨rfl, rfl⟩ := List.cons.inj heq
    rw [if_neg (by simp [h.1]), if_neg (by simp [h.2])]
    split
    · next heq => cases hc.symm.trans heq
    · rfl

theorem noTrivia_of_ne_slash {c : Char} {r : List Char}
    (h : isLineTerminator c = false ∧ isSkipped c = false) (hc : c ≠ '/') : NoTrivia (c :: r) := by
  refine noTrivia_cons h ?_
  unfold commentAt?
  split
  · next heq => exact absurd (List.cons.inj heq).1 hc
  · next heq => exact absurd (List.cons.inj heq).1 hc
  · rfl

/-- Blanks and line ends are skipped. -/
theorem skipTrivia_gap {gap : List Char} (h : ∀ c ∈ gap, c = ' ' ∨ c = '\n') (n : Nat)
    (rest : List Char) : skipTrivia ⟨n, gap ++ rest⟩ =
      (skipTrivia ⟨n + gap.length, rest⟩).withNewline (gap.any (· == '\n')) := by
  induction gap generalizing n with
  | nil => rfl
  | cons c gap ih =>
    obtain ⟨hc, hgap⟩ := List.forall_mem_cons.mp h
    have hoffset : n + (c :: gap).length = n + 1 + gap.length := by
      rw [List.length_cons, Nat.add_assoc, Nat.add_comm 1]
    rw [hoffset]
    obtain rfl | rfl := hc
    · have hblank : skipTrivia ⟨n, ' ' :: gap ++ rest⟩ = skipTrivia ⟨n + 1, gap ++ rest⟩ :=
        skipTrivia_blanks n 1 (gap ++ rest)
      rw [hblank, ih hgap]
      rfl
    · rw [List.cons_append, skipTrivia_newline, ih hgap]
      rfl

/-- The text starts with a token, possibly after blanks, and goes on with the rest behind it. -/
inductive LexesTo (mode : LexMode) : List Char → TokenKind → String → List Char → Prop
  | token {kind : TokenKind} {text : String} {rest : List Char}
      (hgap : NoTrivia (text.toList ++ rest))
      (hscan : scan mode (text.toList ++ rest) = ⟨some kind, text.toList.length⟩) :
      LexesTo mode (text.toList ++ rest) kind text rest
  | blank {cs : List Char} {kind : TokenKind} {text : String} {rest : List Char}
      (h : LexesTo mode cs kind text rest) : LexesTo mode (' ' :: cs) kind text rest

namespace LexesTo

variable {mode : LexMode} {cs rest : List Char} {kind : TokenKind} {text : String}

/-- Only the blanks are skipped. -/
theorem skipTrivia_eq (h : LexesTo mode cs kind text rest) (offset : Nat) :
    ∃ start, skipTrivia ⟨offset, cs⟩ = ⟨false, [], ⟨start, text.toList ++ rest⟩⟩ ∧
      scan mode (text.toList ++ rest) = ⟨some kind, text.toList.length⟩ := by
  induction h generalizing offset with
  | token hgap hscan => exact ⟨offset, hgap offset, hscan⟩
  | @blank cs kind text rest h ih =>
    have hblank : skipTrivia ⟨offset, ' ' :: cs⟩ = skipTrivia ⟨offset + 1, cs⟩ :=
      skipTrivia_blanks offset 1 cs
    rw [hblank]
    exact ih (offset + 1)

/-- **The token that is read** at a position where the text stands. -/
theorem readToken_eq (h : LexesTo mode cs kind text rest) (hm : mode.skipsTrivia = true)
    {c : Cursor} (hc : c.rest = cs) :
    (readToken mode c).token.kind = kind ∧ (readToken mode c).token.text = text ∧
      (readToken mode c).token.newlineBefore = false ∧ (readToken mode c).stop.rest = rest := by
  obtain ⟨start, htrivia, hscan⟩ := h.skipTrivia_eq c.offset
  have hgap : mode.trivia c = ⟨false, [], ⟨start, text.toList ++ rest⟩⟩ := by
    rw [LexMode.trivia, if_pos hm, ← htrivia, ← hc]
  simp only [readToken, hgap, hscan, Cursor.taken, Cursor.advance, Option.getD_some,
    List.take_left, List.drop_left, String.ofList_toList, and_self]

/-- The token that is read where line ends stand before the text as well. -/
theorem readToken_eq_of_gap (h : LexesTo mode cs kind text rest) (hm : mode.skipsTrivia = true)
    {gap : List Char} (hgap : ∀ c ∈ gap, c = ' ' ∨ c = '\n') {c : Cursor}
    (hc : c.rest = gap ++ cs) :
    (readToken mode c).token.kind = kind ∧ (readToken mode c).token.text = text ∧
      (readToken mode c).stop.rest = rest := by
  obtain ⟨start, htrivia, hscan⟩ := h.skipTrivia_eq (c.offset + gap.length)
  have hgap : mode.trivia c =
      (Trivia.mk false [] ⟨start, text.toList ++ rest⟩).withNewline (gap.any (· == '\n')) := by
    rw [LexMode.trivia, if_pos hm, ← htrivia, ← skipTrivia_gap hgap, ← hc]
  simp only [readToken, hgap, Trivia.withNewline, hscan, Cursor.taken, Cursor.advance,
    Option.getD_some, List.take_left, List.drop_left, String.ofList_toList, and_self]

/-- Only a slash is read differently where an operand is expected. -/
theorem operand (h : LexesTo .standard cs kind text rest)
    (hc : ∃ c r, text.toList = c :: r ∧ c ≠ '/') : LexesTo .operand cs kind text rest := by
  obtain ⟨c, r, hc, hslash⟩ := hc
  induction h with
  | token hgap hscan =>
    refine .token hgap ?_
    rw [← hscan, hc, List.cons_append]
    have htag : (LexMode.operand == LexMode.jsxTag) = (LexMode.standard == LexMode.jsxTag) := rfl
    simp [scan, Scan.ordinary, hslash, htag]
  | blank _ ih => exact .blank (ih hc)

end LexesTo

/-- A word in front of a text that ends it. -/
theorem lexesTo_word {kind : TokenKind} {text : String} (h : IsToken .standard kind text)
    (hk : isMemberName kind = true) {rest : List Char} (hr : EndsWord rest) :
    LexesTo .standard (text.toList ++ rest) kind text rest := by
  obtain ⟨hscan, c, r, hc, hstart⟩ := Scan.scan_word h hk hr
  refine .token ?_ hscan
  rw [hc]
  exact noTrivia_of_ne_slash hstart.not_skipped (hstart.ne (by decide))

/-! ### Signs in front of a text -/

namespace Punctuator

/-- Whether a character right behind the sign makes it a longer sign, a number or a comment. -/
def joins (p : Punctuator) (c : Char) : Bool :=
  all.any (fun q => (p.chars ++ [c]).isPrefixOf q.chars) ||
    ((p == .dot || p == .questionDot) && isDecimalDigit c) ||
    (p == .slash && (c == '/' || c == '*'))

theorem not_digit_of_joins {p : Punctuator} {c : Char} (h : p.joins c = false)
    (hp : p = .dot ∨ p = .questionDot) : isDecimalDigit c = false := by
  simp only [joins, Bool.or_eq_false_iff] at h
  rcases hp with rfl | rfl
  · exact h.1.2
  · exact h.1.2

theorem not_comment_of_joins {c : Char} (h : slash.joins c = false) : c ≠ '/' ∧ c ≠ '*' := by
  constructor
  · rintro rfl
    exact absurd h (by decide)
  · rintro rfl
    exact absurd h (by decide)

/-- Nothing comes about when a character stands behind the sign that no longer sign goes on with. -/
theorem joins_eq_false {p : Punctuator} {c : Char}
    (hnext : ∀ q ∈ all, p.chars.isPrefixOf q.chars = true → c ∉ q.chars[p.chars.length]?)
    (hdigit : p = .dot ∨ p = .questionDot → isDecimalDigit c = false)
    (hslash : p = .slash → c ≠ '/' ∧ c ≠ '*') : p.joins c = false := by
  rw [← Bool.not_eq_true]
  intro hjoins
  simp only [joins, Bool.or_eq_true, List.any_eq_true, Bool.and_eq_true, beq_iff_eq] at hjoins
  rcases hjoins with (⟨q, hq, hprefix⟩ | ⟨hp, hc⟩) | ⟨hp, hc⟩
  · obtain ⟨r, hr⟩ := List.isPrefixOf_iff_prefix.mp hprefix
    rw [List.append_assoc] at hr
    refine hnext q hq (List.isPrefixOf_iff_prefix.mpr ⟨[c] ++ r, hr⟩) ?_
    rw [← hr, List.getElem?_append_right (Nat.le_refl _), Nat.sub_self]
    rfl
  · exact Bool.false_ne_true ((hdigit hp).symm.trans hc)
  · exact hc.elim (hslash hp).1 (hslash hp).2

/-- The sign is read as it stands in front of the text. -/
def Stands (p : Punctuator) (rest : List Char) : Prop := ∀ c ∈ rest.head?, p.joins c = false

theorem stands_cons {p : Punctuator} {c : Char} (h : p.joins c = false) (rest : List Char) :
    p.Stands (c :: rest) := by
  intro d hd
  obtain rfl := Option.some.inj hd
  exact h

/-- A blank ends every sign. -/
theorem stands_blank (p : Punctuator) (rest : List Char) : p.Stands (' ' :: rest) := by
  refine stands_cons ?_ rest
  cases p <;> decide

theorem mem_all (p : Punctuator) : p ∈ all := by cases p <;> decide

/-- No sign comes before a longer one, and none comes twice. -/
theorem all_ordered :
    all.Pairwise fun q p => p.chars.length ≤ q.chars.length ∧ q.chars ≠ p.chars := by
  decide +kernel

/-- **The longest sign** is the one that was written if no longer one starts with it and what
follows. -/
theorem longest?_append {p : Punctuator} {rest : List Char} (h : p.Stands rest) :
    longest? (p.chars ++ rest) = some p := by
  obtain ⟨before, after, hall⟩ := List.append_of_mem p.mem_all
  have hordered := all_ordered
  rw [hall, List.pairwise_append] at hordered
  rw [longest?, List.find?_eq_some_iff_append]
  refine ⟨by simp, before, after, hall, fun q hq => ?_⟩
  obtain ⟨hlen, hne⟩ := hordered.2.2 q hq p List.mem_cons_self
  rw [Bool.not_eq_true', ← Bool.not_eq_true, List.isPrefixOf_iff_prefix]
  intro hprefix
  have hp : p.chars <+: q.chars :=
    List.prefix_of_prefix_length_le (List.prefix_append _ _) hprefix hlen
  rcases Nat.lt_or_eq_of_le hlen with hlt | heq
  · -- a longer sign takes the first character of what follows
    cases rest with
    | nil =>
      have := hprefix.length_le
      rw [List.append_nil] at this
      omega
    | cons c r =>
      have hgrown : p.chars ++ [c] <+: q.chars := by
        refine List.prefix_of_prefix_length_le ?_ hprefix (by rw [List.length_append]; exact hlt)
        exact ⟨r, by simp⟩
      have hjoins : p.joins c = true := by
        simp only [joins, Bool.or_eq_true, List.any_eq_true]
        exact .inl (.inl ⟨q, q.mem_all, List.isPrefixOf_iff_prefix.mpr hgrown⟩)
      exact Bool.false_ne_true ((h c rfl).symm.trans hjoins)
  · exact hne (hp.eq_of_length heq).symm

theorem toList_spelling (p : Punctuator) : p.spelling.toList = p.chars := String.toList_ofList

end Punctuator

/-- A sign in front of a text that it does not go on with. -/
theorem lexesTo_punct {p : Punctuator} {rest : List Char} (h : p.Stands rest) :
    LexesTo .standard (p.chars ++ rest) (.punct p) p.spelling rest := by
  have hdigit : p = .dot ∨ p = .questionDot →
      (rest.head?.map isDecimalDigit).getD false = false := by
    intro hp
    cases rest with
    | nil => rfl
    | cons c r => exact Punctuator.not_digit_of_joins (h c rfl) hp
  have hcomment : commentAt? (p.chars ++ rest) = none := by
    cases p
    case slash =>
      cases rest with
      | nil => rfl
      | cons c r =>
        obtain ⟨hslash, hstar⟩ := Punctuator.not_comment_of_joins (h c rfl)
        show commentAt? ('/' :: c :: r) = none
        unfold commentAt?
        split
        · next heq => exact absurd (List.cons.inj (List.cons.inj heq).2).1 hslash
        · next heq => exact absurd (List.cons.inj (List.cons.inj heq).2).1 hstar
        · rfl
    all_goals rfl
  -- no sign starts like a word, a string or a number
  have hordinary : scan .standard (p.chars ++ rest) = Scan.punctuator (p.chars ++ rest) := by
    cases p
    case dot =>
      have hnot := hdigit (.inl rfl)
      show Scan.ordinary .standard ('.' :: rest) = Scan.punctuator ('.' :: rest)
      simp [Scan.ordinary, hnot, isIdStart, isAsciiLetter, isBeyondAscii, isDecimalDigit,
        digitValue?]
    all_goals rfl
  have hscan : scan .standard (p.chars ++ rest) = ⟨some (.punct p), p.chars.length⟩ := by
    rw [hordinary, Scan.punctuator, Punctuator.longest?_append h]
    split
    · next heq =>
      obtain rfl := Option.some.inj heq
      have hdrop : (Punctuator.questionDot.chars ++ rest).drop 2 = rest := rfl
      rw [hdrop, hdigit (.inr rfl)]
      rfl
    · next heq =>
      obtain rfl := Option.some.inj heq
      rfl
    · next heq => cases heq
  have hgap : NoTrivia (p.chars ++ rest) := by
    obtain ⟨c, r, hc, hblank⟩ : ∃ c r, p.chars = c :: r ∧
        isLineTerminator c = false ∧ isSkipped c = false := by
      cases p <;> exact ⟨_, _, rfl, by decide⟩
    rw [hc] at hcomment ⊢
    exact noTrivia_cons hblank hcomment
  rw [← p.toList_spelling] at hscan hgap ⊢
  exact .token hgap hscan

end ImportSeam
