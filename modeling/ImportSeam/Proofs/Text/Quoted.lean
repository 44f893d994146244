import ImportSeam.Grammar.Literal
import ImportSeam.Proofs.Reread.Success
import ImportSeam.Text.Quoted

/-!
# Reading a quoted text

A string literal is written by one function, its end is found by another, and its escapes are
decoded by a third.  All three go over the characters of the text one by one.  What they agree on is
said once for a character: either it stands as it is and means nothing special to a reader, or it is
an escape that hides no quote and denotes the character, whatever is written after it.

## Main definitions

* `Unescaped` — a character that stands for itself between double quotes.
* `WrittenAs` — how a character may stand in a literal.

## Main results

* `written_escapeChar` — every character is written so.
* `Scan.stringRest_escapeChars` — the literal ends at its own closing quote.
* `decodeString_escapeChars` — the body denotes the text.
* `reads_quoted` — a literal in front of any text is read as one token and gives back the text.
-/

namespace ImportSeam

open Text

/-- The character stands for itself between double quotes. -/
def Unescaped (c : Char) : Prop := c ≠ '\\' ∧ c ≠ '"' ∧ c ≠ '\n'

instance (c : Char) : Decidable (Unescaped c) := inferInstanceAs (Decidable (_ ∧ _))

/-- How a character may stand in a literal, given whether a digit follows. -/
inductive WrittenAs (c : Char) (digitFollows : Bool) : List Char → Prop
  | plain (h : Unescaped c) : WrittenAs c digitFollows [c]
  | escape {first : Char} {others : List Char} (hfirst : first ≠ '\r')
      (hothers : ∀ d ∈ others, Unescaped d)
      (hdecode : ∀ rest, (startsWithDigit rest = true → digitFollows = true) →
        decodeFrom none ('\\' :: first :: (others ++ rest)) =
          (decodeFrom none rest).map (c :: ·)) :
      WrittenAs c digitFollows ('\\' :: first :: others)

/-! ### Decoding one escape -/

/-- An escape for a character is decoded to it. -/
theorem decodeFrom_char {c : Char} {e rest : List Char}
    (h : decodeEscape (e ++ rest) = some (.char c, e.length)) :
    decodeFrom none ('\\' :: (e ++ rest)) = (decodeFrom none rest).map (c :: ·) := by
  rw [decodeFrom, h]
  simp only [List.drop_left]
  rfl

/-- An escape for a code point outside the surrogates is decoded to its character. -/
theorem decodeFrom_unit {u : Nat} {e rest : List Char}
    (h : decodeEscape (e ++ rest) = some (.unit u, e.length)) (hhigh : isHighSurrogate u = false) :
    decodeFrom none ('\\' :: (e ++ rest)) =
      (decodeFrom none rest).map (charOrReplacement u :: ·) := by
  rw [decodeFrom, h]
  simp only [List.drop_left, hhigh]
  rfl

/-- A character that is no backslash is decoded to itself. -/
theorem decodeFrom_plain {c : Char} (hc : c ≠ '\\') (rest : List Char) :
    decodeFrom none (c :: rest) = (decodeFrom none rest).map (c :: ·) := by
  rw [decodeFrom]
  · rfl
  · rintro rfl
    exact hc rfl

/-- No digit, no octal digit. -/
theorem octalRest_of_not_digit {rest : List Char} (h : startsWithDigit rest = false)
    (value limit : Nat) : octalRest value limit rest = (value, 0) := by
  cases rest with
  | nil => rw [octalRest]
  | cons c r =>
    have hc : digitValue? 8 c = none := by
      rw [startsWithDigit, Char.isDigit, Bool.and_eq_false_iff, decide_eq_false_iff_not,
        decide_eq_false_iff_not, ge_iff_le, UInt32.le_iff_toNat_le, UInt32.le_iff_toNat_le] at h
      have hrange : ¬ (0x30 ≤ c.toNat ∧ c.toNat ≤ 0x39) := by
        intro hc
        rcases h with h | h
        · exact h hc.1
        · exact h hc.2
      rw [digitValue?, Option.filter_eq_none_iff]
      intro d hd
      simp only [Bool.and_eq_true, decide_eq_true_eq, if_neg hrange] at hd
      simp only [decide_eq_true_eq, Nat.not_lt]
      -- the letters stand for ten and more
      split at hd
      · obtain rfl := Option.some.inj hd
        omega
      · split at hd
        · obtain rfl := Option.some.inj hd
          omega
        · cases hd
    cases limit <;> simp [octalRest, hc]

/-! ### Writing one character -/

/-- The two digits of a control character. -/
def controlDigits (n : Nat) : List Char := (padLeft 2 (hexDigits n)).map Char.toUpper

theorem unescaped_of_all {cs : List Char} (h : cs.all (fun c => decide (Unescaped c)) = true) :
    ∀ c ∈ cs, Unescaped c := by
  intro c hc
  exact of_decide_eq_true (List.all_eq_true.mp h c hc)

theorem controlDigits_spec : ∀ n < 0x20, (controlDigits n).length = 2 ∧
    digitsValue? 16 (controlDigits n) = some n ∧
      (controlDigits n).all (fun d => decide (Unescaped d)) = true := by
  decide +kernel

theorem decodeEscape_control {n : Nat} (hn : n < 0x20) (rest : List Char) :
    decodeEscape ('x' :: (controlDigits n ++ rest)) = some (.char (Char.ofNat n), 3) := by
  obtain ⟨hlen, hvalue, -⟩ := controlDigits_spec n hn
  have htake : (controlDigits n ++ rest).take 2 = controlDigits n := List.take_left' hlen
  simp only [decodeEscape, hexValue?, htake, hlen, hvalue]
  rfl

theorem written_control {c : Char} (hc : c < ' ') (digitFollows : Bool) :
    WrittenAs c digitFollows ('\\' :: 'x' :: controlDigits c.toNat) := by
  have hn : c.toNat < 0x20 := hc
  obtain ⟨hlen, -, hplain⟩ := controlDigits_spec c.toNat hn
  refine .escape (by decide) (unescaped_of_all hplain) fun rest _ => ?_
  have h := decodeEscape_control hn rest
  rw [Char.ofNat_toNat] at h
  refine decodeFrom_char (e := 'x' :: controlDigits c.toNat) ?_
  rw [List.length_cons, hlen]
  exact h

/-- Every character is written as it may stand in a literal. -/
theorem written_escapeChar (c : Char) (digitFollows : Bool) :
    WrittenAs c digitFollows (escapeChar c digitFollows) := by
  have simple : ∀ {first}, first ≠ '\r' →
      (∀ rest, decodeEscape (first :: rest) = some (.char c, 1)) →
      WrittenAs c digitFollows ['\\', first] := by
    intro first hfirst h
    exact .escape hfirst (by simp) fun rest _ => decodeFrom_char (e := [first]) (h rest)
  have separator : ∀ {digits : List Char} {u : Nat}, (∀ d ∈ digits, Unescaped d) →
      (∀ rest, decodeEscape ('u' :: digits ++ rest) = some (.unit u, digits.length + 1)) →
      isHighSurrogate u = false → charOrReplacement u = c →
      WrittenAs c digitFollows ('\\' :: 'u' :: digits) := by
    intro digits u hplain h hhigh hu
    refine .escape (by decide) hplain fun rest _ => ?_
    rw [← hu]
    exact decodeFrom_unit (e := 'u' :: digits) (h rest) hhigh
  unfold escapeChar
  split
  · exact simple (by decide) fun _ => rfl
  · exact simple (by decide) fun _ => rfl
  · exact simple (by decide) fun _ => rfl
  · exact simple (by decide) fun _ => rfl
  · exact simple (by decide) fun _ => rfl
  · split
    · exact written_control (by decide) digitFollows
    · next hdigit =>
      refine .escape (by decide) (by simp) fun rest hrest => ?_
      refine decodeFrom_char (e := ['0']) ?_
      have hnone : startsWithDigit rest = false := Bool.eq_false_iff.mpr (mt hrest hdigit)
      have hzero : decodeEscape ('0' :: rest) =
          some (.char (Char.ofNat (octalRest 0 2 rest).1), (octalRest 0 2 rest).2 + 1) := rfl
      rw [List.singleton_append, hzero, octalRest_of_not_digit hnone]
      rfl
  · exact @separator ['2', '0', '2', '8'] 0x2028 (unescaped_of_all rfl) (fun _ => rfl) rfl rfl
  · exact @separator ['2', '0', '2', '9'] 0x2029 (unescaped_of_all rfl) (fun _ => rfl) rfl rfl
  · next hback hquote hline _ _ _ _ _ =>
    split
    · next hc => exact written_control hc digitFollows
    · exact .plain ⟨hback, hquote, hline⟩

/-! ### The whole body -/

/-- A body starts with a digit only if its text does: an escape starts with a backslash. -/
theorem startsWithDigit_of_escapeChars {cs : List Char}
    (h : startsWithDigit (escapeChars cs) = true) : startsWithDigit cs = true := by
  cases cs with
  | nil => exact h
  | cons c cs =>
    rw [escapeChars] at h
    generalize hw : escapeChar c (startsWithDigit cs) = w at h
    have hwritten := written_escapeChar c (startsWithDigit cs)
    rw [hw] at hwritten
    cases hwritten with
    | plain _ => exact h
    | escape _ _ _ => exact nomatch h

/-- The body of a literal denotes the text that was written. -/
theorem decodeFrom_escapeChars (cs : List Char) : decodeFrom none (escapeChars cs) = some cs := by
  induction cs with
  | nil => rw [escapeChars, decodeFrom, unpaired]
  | cons c cs ih =>
    rw [escapeChars]
    generalize hw : escapeChar c (startsWithDigit cs) = w
    have hwritten := written_escapeChar c (startsWithDigit cs)
    rw [hw] at hwritten
    cases hwritten with
    | plain h => rw [List.singleton_append, decodeFrom_plain h.1, ih, Option.map_some]
    | escape _ _ hdecode =>
      rw [List.cons_append, List.cons_append, hdecode _ startsWithDigit_of_escapeChars, ih,
        Option.map_some]

theorem decodeString_escapeChars (value : String) :
    decodeString (escapeChars value.toList) = some value := by
  rw [decodeString, decodeFrom_escapeChars, Option.map_some, String.ofList_toList]

/-! ### The end of the literal -/

namespace Scan

theorem stringRest_plain {c : Char} (h : Unescaped c) (rest : List Char) :
    stringRest '"' (c :: rest) =
      ((stringRest '"' rest).1, (stringRest '"' rest).2 + 1) := by
  obtain ⟨hback, hquote, hline⟩ := h
  rw [stringRest, if_neg (by simpa using hquote), if_neg (by simpa using hline)]
  all_goals
    intros
    exact hback ‹_›

/-- Characters that stand for themselves are passed one by one. -/
theorem stringRest_plains {cs : List Char} (h : ∀ c ∈ cs, Unescaped c) (rest : List Char) :
    stringRest '"' (cs ++ rest) =
      ((stringRest '"' rest).1, (stringRest '"' rest).2 + cs.length) := by
  induction cs with
  | nil => rfl
  | cons c cs ih =>
    have hcs := ih fun d hd => h d (List.mem_cons_of_mem c hd)
    rw [List.cons_append, stringRest_plain (h c List.mem_cons_self), hcs, List.length_cons]
    rfl

/-- No quote is seen in what stands for a character. -/
theorem stringRest_written {c : Char} {digitFollows : Bool} {w : List Char}
    (h : WrittenAs c digitFollows w) (rest : List Char) :
    stringRest '"' (w ++ rest) =
      ((stringRest '"' rest).1, (stringRest '"' rest).2 + w.length) := by
  cases h with
  | plain h => exact stringRest_plain h rest
  | @escape first others hfirst hothers _ =>
    rw [List.cons_append, List.cons_append, stringRest, stringRest_plains hothers]
    · simp only [List.length_cons]
      rfl
    · intro r hr
      exact absurd hr hfirst

/-- The closing quote is found behind the whole body. -/
theorem stringRest_escapeChars (cs rest : List Char) :
    stringRest '"' (escapeChars cs ++ '"' :: rest) = (true, (escapeChars cs).length + 1) := by
  induction cs with
  | nil =>
    rw [escapeChars, List.nil_append, stringRest]
    · rfl
    all_goals
      intros
      simp at *
  | cons c cs ih =>
    have hwritten := written_escapeChar c (startsWithDigit cs)
    rw [escapeChars, List.append_assoc, stringRest_written hwritten, ih, List.length_append]
    simp only [Prod.mk.injEq, true_and]
    omega

/-- The literal is one token, whatever stands behind it. -/
theorem scan_literal (value : String) (rest : List Char) :
    scan .standard ((quoted value).toList ++ rest) =
      ⟨some .str, (quoted value).toList.length⟩ := by
  have hchars : (quoted value).toList ++ rest =
      '"' :: (escapeChars value.toList ++ '"' :: rest) := by
    rw [quoted, String.toList_ofList, List.cons_append, List.append_assoc]
    rfl
  have hlength : (quoted value).toList.length = (escapeChars value.toList).length + 2 := by
    rw [quoted, String.toList_ofList, List.length_cons, List.length_append]
    rfl
  have hordinary : scan .standard ((quoted value).toList ++ rest) =
      string '"' (escapeChars value.toList ++ '"' :: rest) := by
    rw [hchars]
    rfl
  rw [hordinary, string, stringRest_escapeChars, hlength]
  rfl

end Scan

/-! ### Reading the literal -/

/-- Nothing is skipped before a quote. -/
theorem trivia_literal (value : String) (rest : List Char) (offset : Nat) :
    LexMode.standard.trivia ⟨offset, (quoted value).toList ++ rest⟩ =
      ⟨false, [], ⟨offset, (quoted value).toList ++ rest⟩⟩ := by
  have hquote : ∃ r, (quoted value).toList ++ rest = '"' :: r := by
    refine ⟨escapeChars value.toList ++ ['"'] ++ rest, ?_⟩
    rw [quoted, String.toList_ofList]
    rfl
  obtain ⟨r, hr⟩ := hquote
  rw [hr, LexMode.trivia, if_pos (by decide)]
  exact noTrivia_of_ne_slash (by decide) (by decide) offset

/-- **The token that a literal is**, wherever it stands and whatever follows. -/
theorem readToken_literal (value : String) (rest : List Char) (offset : Nat) :
    readToken .standard ⟨offset, (quoted value).toList ++ rest⟩ =
      { token :=
          { kind := .str
            loc := ⟨offset, offset + byteLength (quoted value).toList⟩
            newlineBefore := false
            text := quoted value }
        comments := []
        stop := ⟨offset + byteLength (quoted value).toList, rest⟩ } := by
  simp only [readToken, trivia_literal, Scan.scan_literal, Cursor.advance, Cursor.taken,
    List.take_left, List.drop_left, String.ofList_toList, Option.getD_some]

/-- The body of the literal is what stands between its quotes. -/
theorem unquoted_literal {t : Token} {value : String} (h : t.text = quoted value) :
    unquoted t = escapeChars value.toList := by
  rw [unquoted, h, quoted, String.toList_ofList, List.drop_one, List.tail_cons,
    List.dropLast_concat]

/-- The value of a literal that stands at the position of a buffer. -/
theorem succeeds_stringValue {b : TokenBuffer} {value : String} {rest : List Char}
    (h : b.position.rest = (quoted value).toList ++ rest) :
    Succeeds b stringValue fun result b' => result.1 = (b.upcoming .standard).loc ∧
      result.2 = value ∧ b'.position = (readToken .standard b.position).stop := by
  have hread := readToken_literal value rest b.position.offset
  rw [← h] at hread
  have htoken : b.upcoming .standard = _ := congrArg Lexeme.token hread
  refine SucceedsFrom.bind (R := fun t b' => t = b.upcoming .standard ∧
    b'.position = (readToken .standard b.position).stop) ?_ fun t b' _ ht => ?_
  · refine (succeeds_consume_any .standard).bind fun t b' _ ht => ?_
    refine .ite (fun _ => .pure ⟨ht.1, ht.2.position⟩) fun hkind => absurd ?_ hkind
    rw [ht.1, htoken]
    rfl
  · obtain ⟨rfl, hposition⟩ := ht
    have htext : (b.upcoming .standard).text = quoted value := by rw [htoken]
    have hvalue : decodeString (unquoted (b.upcoming .standard)) = some value := by
      rw [unquoted_literal htext, decodeString_escapeChars]
    rw [hvalue]
    exact .pure ⟨rfl, rfl, hposition⟩

/-- **String literals are read back.**  A text is written as a literal in front of any characters.
At its start one token is read, a string that covers exactly the literal, with nothing skipped
before it and the characters left behind it, and what the literal denotes is the text. -/
theorem reads_quoted (value rest : String) :
    let source := quoted value ++ rest
    let lexeme := readToken .standard (Cursor.ofString source)
    lexeme.token.kind = .str ∧ lexeme.token.text = quoted value ∧
      lexeme.token.loc = ⟨0, byteLength (quoted value).toList⟩ ∧ lexeme.comments = [] ∧
      lexeme.stop = ⟨byteLength (quoted value).toList, rest.toList⟩ ∧
      ∃ b, stringValue (.ofString source) = .ok (lexeme.token.loc, value) b ∧
        b.position = lexeme.stop := by
  intro source lexeme
  have hrest : (TokenBuffer.ofString source).position.rest =
      (quoted value).toList ++ rest.toList := String.toList_append
  have hread := readToken_literal value rest.toList 0
  rw [Nat.zero_add, ← String.toList_append] at hread
  have hlexeme : lexeme = _ := hread
  have hkeeps := TokenBuffer.Keeps.refl (TokenBuffer.coherent_ofString source)
  obtain ⟨⟨loc, found⟩, b, hrun, -, hloc, hfound, hposition⟩ := succeeds_stringValue hrest hkeeps
  refine ⟨?_, ?_, ?_, ?_, ?_, b, ?_, hposition⟩
  · rw [hlexeme]
  · rw [hlexeme]
  · rw [hlexeme]
  · rw [hlexeme]
  · rw [hlexeme]
  · rw [hrun]
    obtain rfl : loc = _ := hloc
    obtain rfl : found = value := hfound
    rfl

end ImportSeam
