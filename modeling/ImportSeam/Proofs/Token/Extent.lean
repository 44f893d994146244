import ImportSeam.Proofs.Token.Buffer

/-!
# Where tokens stand

Reading only ever moves forward: a token starts at or after the position it is read from, and the
position after a token lies behind its start unless nothing is left to read.

## Main definitions

* `Cursor.Reaches` — one position lies at or behind another.

## Main results

* `scan_length_pos` — a token takes at least one character where one is left.
* `reaches_stop` — reading a token reaches the position behind it.
* `offset_le_start`, `start_lt_stop` — the order of the offsets of a token.
* `TokenBuffer.Consumes.offset_le` — consuming tokens moves the position forward.
-/

namespace ImportSeam

open Text BufferedToken

/-! ### Characters taken -/

namespace Scan

theorem run_pos {p : Char → Bool} {c : Char} {cs : List Char} (h : p c = true) :
    0 < run p (c :: cs) := by
  simp [run, h]

theorem nameRun_pos {continues : Char → Bool} {c : Char} (cs : List Char)
    (h : c = '\\' ∨ continues c = true) : 0 < (nameRun continues (c :: cs)).1 := by
  unfold nameRun
  split
  · simp_all
  · split <;> (simp only; omega)
  · next hc heq =>
    simp only [List.cons.injEq] at heq
    obtain ⟨rfl, rfl⟩ := heq
    have hcont : continues c = true := h.resolve_left hc
    rw [if_pos hcont]
    simp

theorem word_pos {inTag : Bool} {c : Char} (cs : List Char)
    (h : c = '\\' ∨ isIdStart c = true) : 0 < (word inTag (c :: cs)).length := by
  have hpos : 0 < (nameRun (if inTag then isTagNameContinue else isIdContinue) (c :: cs)).1 := by
    refine nameRun_pos cs (h.imp_right fun hs => ?_)
    cases inTag <;> simp [isTagNameContinue, isIdContinue, hs]
  unfold word
  split
  · next heq => simpa [heq] using hpos
  · next heq =>
    rw [heq] at hpos
    split
    · exact hpos
    · split <;> exact hpos

theorem decimal_pos {c : Char} (cs : List Char)
    (h : isDecimalDigit c = true ∨ c = '.') : 0 < (decimal (c :: cs)).length := by
  unfold decimal
  by_cases hd : isDecimalDigit c = true
  · have hrun : 0 < run (isNumberPart 10) (c :: cs) := run_pos (by
      simp only [isNumberPart, Bool.or_eq_true]
      right
      simpa [isDecimalDigit] using hd)
    dsimp only
    split
    · simp
    · exact Nat.lt_of_lt_of_le hrun (by simp only; omega)
  · obtain rfl := h.resolve_left hd
    have hrun : run (isNumberPart 10) ('.' :: cs) = 0 := by
      have : isNumberPart 10 '.' = false := by decide
      simp [run, this]
    have hoctal : isOldOctal [] = false := rfl
    have hpoint : 0 < fraction ('.' :: cs) := by
      rw [fraction]
      exact Nat.lt_of_lt_of_le Nat.one_pos (Nat.le_add_right _ _)
    have hn : ¬(some '.' == some 'n') = true := by decide
    simp only [hrun, List.drop_zero, List.head?_cons, List.take_zero, hoctal, if_neg hn,
      Bool.false_eq_true, if_false]
    omega

theorem number_pos {c : Char} (cs : List Char)
    (h : isDecimalDigit c = true ∨ c = '.') : 0 < (number (c :: cs)).length := by
  unfold number
  split
  · split
    · simp only [after]; omega
    · exact decimal_pos cs h
  · exact decimal_pos cs h

theorem chars_length_pos (p : Punctuator) : 0 < p.chars.length := by
  cases p <;> decide

theorem punctuator_pos (c : Char) (cs : List Char) : 0 < (punctuator (c :: cs)).length := by
  unfold punctuator
  split
  · split <;> simp
  · next p _ _ => exact chars_length_pos p
  · simp

theorem ordinary_pos (mode : LexMode) (c : Char) (cs : List Char) :
    0 < (ordinary mode (c :: cs)).length := by
  unfold ordinary
  dsimp only
  split
  · split
    · simp only [attributeString]; split <;> simp
    · simp [string]
  split
  · simp only [after]; omega
  split
  · next h => exact number_pos cs (.inl h)
  split
  · next h => exact number_pos cs (.inr (by simp at h; exact h.1))
  split
  · simp only [after]; omega
  split
  · simp only [regex]; split <;> (simp only; omega)
  split
  · next h => exact word_pos cs (by simpa using h)
  · exact punctuator_pos c cs

theorem template_pos (c : Char) (cs : List Char) : 0 < (template (c :: cs)).length := by
  unfold template
  split
  · next h => exact absurd h (List.cons_ne_nil _ _)
  · simp
  · simp only [after]; omega
  · simp
  · split
    · simp
    · simp only [after]; omega

theorem jsxText_pos (c : Char) (cs : List Char) : 0 < (jsxText (c :: cs)).length := by
  unfold jsxText
  split
  · next h => exact absurd h (List.cons_ne_nil _ _)
  · simp
  · simp
  · simp
  · next hbrace _ hlt =>
    refine run_pos ?_
    simp only [Bool.and_eq_true, bne_iff_ne, ne_eq]
    exact ⟨fun h => hbrace cs (by rw [h]), fun h => hlt cs (by rw [h])⟩

end Scan

/-- A token takes at least one character where one is left. -/
theorem scan_length_pos (mode : LexMode) {cs : List Char} (h : cs ≠ []) :
    0 < (scan mode cs).length := by
  obtain ⟨c, cs, rfl⟩ := List.exists_cons_of_ne_nil h
  cases mode with
  | jsxText => exact Scan.jsxText_pos c cs
  | templateTail => exact Scan.template_pos c cs
  | _ => exact Scan.ordinary_pos _ c cs

/-- Where nothing is left there is no punctuator. -/
theorem ne_nil_of_scan_punct {mode : LexMode} {cs : List Char} {p : Punctuator}
    (h : (scan mode cs).kind = some (.punct p)) : cs ≠ [] := by
  rintro rfl
  cases mode <;> exact absurd h (by simp [scan, Scan.jsxText, Scan.template, Scan.ordinary])

/-! ### Positions -/

theorem byteLength_append (as bs : List Char) :
    byteLength (as ++ bs) = byteLength as + byteLength bs := by
  induction as with
  | nil => simp [byteLength]
  | cons a as ih =>
    simp only [byteLength, List.cons_append, List.foldr_cons] at ih ⊢
    omega

theorem byteLength_pos {cs : List Char} (h : cs ≠ []) : 0 < byteLength cs := by
  obtain ⟨c, cs, rfl⟩ := List.exists_cons_of_ne_nil h
  have := c.utf8Size_pos
  simp only [byteLength, List.foldr_cons]
  omega

namespace Cursor

variable {c c₁ c₂ : Cursor}

/-- The second position lies at or behind the first, some characters further on. -/
def Reaches (c c' : Cursor) : Prop :=
  ∃ taken, c.rest = taken ++ c'.rest ∧ c'.offset = c.offset + byteLength taken

theorem Reaches.refl (c : Cursor) : c.Reaches c := ⟨[], rfl, rfl⟩

theorem Reaches.trans (h : c.Reaches c₁) (h' : c₁.Reaches c₂) : c.Reaches c₂ := by
  obtain ⟨as, has, hoff⟩ := h
  obtain ⟨bs, hbs, hoff'⟩ := h'
  refine ⟨as ++ bs, by rw [has, hbs, List.append_assoc], ?_⟩
  rw [hoff', hoff, byteLength_append]
  omega

theorem reaches_advance (c : Cursor) (n : Nat) : c.Reaches (c.advance n) :=
  ⟨c.rest.take n, (List.take_append_drop n c.rest).symm, rfl⟩

theorem Reaches.length_le (h : c.Reaches c₁) : c₁.rest.length ≤ c.rest.length := by
  obtain ⟨as, has, -⟩ := h
  rw [has, List.length_append]
  omega

theorem Reaches.offset_le (h : c.Reaches c₁) : c.offset ≤ c₁.offset := by
  obtain ⟨as, -, hoff⟩ := h
  omega

theorem offset_lt_advance {c : Cursor} {n : Nat} (hn : 0 < n) (h : c.rest ≠ []) :
    c.offset < (c.advance n).offset := by
  have htake : c.rest.take n ≠ [] := by
    intro h'
    rcases List.take_eq_nil_iff.1 h' with h' | h' <;> first | exact h h' | omega
  exact Nat.lt_add_of_pos_right (byteLength_pos htake)

end Cursor

theorem reaches_skipTrivia (c : Cursor) : c.Reaches (skipTrivia c).stop := by
  fun_induction skipTrivia c with
  | case1 => exact .refl _
  | case2 c _ _ _ _ ih => exact (c.reaches_advance 1).trans ih
  | case3 c _ _ _ _ _ ih => exact (c.reaches_advance 1).trans ih
  | case4 c _ _ _ _ _ kind n _ _ _ _ ih => exact (c.reaches_advance n).trans ih
  | case5 => exact .refl _

theorem reaches_trivia (mode : LexMode) (c : Cursor) : c.Reaches (mode.trivia c).stop := by
  unfold LexMode.trivia
  split
  · exact reaches_skipTrivia c
  · exact .refl c

/-! ### Reading a token -/

theorem reaches_stop (mode : LexMode) (c : Cursor) : c.Reaches (readToken mode c).stop :=
  (reaches_trivia mode c).trans (Cursor.reaches_advance _ _)

/-- A token starts at or behind the position it is read from. -/
theorem offset_le_start (mode : LexMode) (c : Cursor) :
    c.offset ≤ (readToken mode c).token.loc.start := (reaches_trivia mode c).offset_le

/-- A token ends at or behind its start. -/
theorem start_le_stop (mode : LexMode) (c : Cursor) :
    (readToken mode c).token.loc.start ≤ (readToken mode c).stop.offset :=
  (Cursor.reaches_advance _ _).offset_le

/-- The characters of a token stand behind the trivia before it. -/
theorem text_append_rest (mode : LexMode) (c : Cursor) :
    (readToken mode c).token.text.toList ++ (readToken mode c).stop.rest =
      (mode.trivia c).stop.rest := by
  simp [readToken, Cursor.taken, Cursor.advance]

theorem stop_offset_eq (mode : LexMode) (c : Cursor) :
    (readToken mode c).stop.offset =
      (mode.trivia c).stop.offset + byteLength (readToken mode c).token.text.toList := by
  simp [readToken, Cursor.taken, Cursor.advance]

/-- The kind of a token that is not malformed is the one that was recognised. -/
theorem scan_kind_of_readToken {mode : LexMode} {c : Cursor} {kind : TokenKind}
    (h : (readToken mode c).token.kind = kind) (hk : kind ≠ .invalid) :
    (scan mode (mode.trivia c).stop.rest).kind = some kind := by
  have hkind : (scan mode (mode.trivia c).stop.rest).kind.getD .invalid = kind := h
  cases hs : (scan mode (mode.trivia c).stop.rest).kind with
  | none =>
    rw [hs] at hkind
    exact absurd hkind.symm hk
  | some k =>
    rw [hs] at hkind
    exact congrArg some hkind

/-- A punctuator ends behind its start. -/
theorem start_lt_stop {mode : LexMode} {c : Cursor} {p : Punctuator}
    (h : (readToken mode c).token.kind = .punct p) :
    (readToken mode c).token.loc.start < (readToken mode c).stop.offset := by
  have hne := ne_nil_of_scan_punct (scan_kind_of_readToken h nofun)
  exact Cursor.offset_lt_advance (scan_length_pos mode hne) hne

theorem reaches_endOf {c : Cursor} {ts : List BufferedToken} (h : Follow c ts) :
    c.Reaches (endOf c ts) := by
  induction ts generalizing c with
  | nil => exact .refl c
  | cons t ts ih =>
    have hstop : c.Reaches t.lexeme.stop := by
      rw [h.1]
      exact reaches_stop _ _
    exact hstop.trans (ih h.2)

namespace TokenBuffer

variable {b b' : TokenBuffer} {mode : LexMode} {ts : List BufferedToken}

/-- Consuming tokens moves the position forward. -/
theorem Consumes.offset_le (h : b.Consumes ts b') : b.position.offset ≤ b'.position.offset := by
  rw [h.position]
  exact (reaches_endOf h.follow).offset_le

/-- Consuming a punctuator moves the position behind its start. -/
theorem Consumes.start_lt {p : Punctuator} (h : b.Consumes [.read mode b.position] b')
    (hk : (b.upcoming mode).kind = .punct p) :
    (b.upcoming mode).loc.start < b'.position.offset := by
  rw [h.position]
  exact start_lt_stop hk

theorem offset_le_upcoming (b : TokenBuffer) (mode : LexMode) :
    b.position.offset ≤ (b.upcoming mode).loc.start := offset_le_start mode b.position

end TokenBuffer

end ImportSeam
