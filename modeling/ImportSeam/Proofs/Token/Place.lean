import ImportSeam.Proofs.Token.Extent

/-!
# Places in a source

Every position that reading comes to lies between two characters of the source, so a location made
of such positions is a slice of the source.  Reading a token that is neither the end of the source
nor malformed takes at least one character away from what is left.

## Main definitions

* `Loc.Within` — a location between two positions of a source.
* `TokenKind.Solid` — the kinds of tokens that take up characters.
* `TokenBuffer.left` — how many characters are left.

## Main results

* `readToken_within`, `TokenBuffer.Coherent.since_within` — tokens and ranges of tokens.
* `TokenBuffer.Consumes.left_lt` — a solid token takes up characters.
-/

namespace ImportSeam

open BufferedToken

/-! ### Locations -/

/-- A position of the source has the offset. -/
def Cursor.Marks (c : Cursor) (n : Nat) : Prop := ∃ c', c.Reaches c' ∧ c'.offset = n

theorem Cursor.Reaches.marks {c c' : Cursor} (h : c.Reaches c') : c.Marks c'.offset :=
  ⟨c', h, rfl⟩

/-- The location lies between two positions of the source that begins at the cursor. -/
structure Loc.Within (c : Cursor) (l : Loc) : Prop where
  ordered : l.start ≤ l.stop
  start : c.Marks l.start
  stop : c.Marks l.stop

namespace Loc

variable {c c' : Cursor} {a b : Loc} {n : Nat}

theorem within_point (h : c.Marks n) : (Loc.point n).Within c := ⟨Nat.le_refl _, h, h⟩

theorem Within.join (ha : a.Within c) (hb : b.Within c) : (a.join b).Within c where
  ordered := Nat.le_trans (Nat.min_le_left _ _) (Nat.le_trans ha.ordered (Nat.le_max_left _ _))
  start := by
    rcases Nat.le_total a.start b.start with h | h
    · simpa [Loc.join, Nat.min_eq_left h] using ha.start
    · simpa [Loc.join, Nat.min_eq_right h] using hb.start
  stop := by
    rcases Nat.le_total a.stop b.stop with h | h
    · simpa [Loc.join, Nat.max_eq_right h] using hb.stop
    · simpa [Loc.join, Nat.max_eq_left h] using ha.stop

end Loc

/-! ### Reading -/

/-- A token that is read at a position of the source lies in the source. -/
theorem readToken_within {src c : Cursor} (h : src.Reaches c) (mode : LexMode) :
    (readToken mode c).token.loc.Within src where
  ordered := start_le_stop mode c
  start := (h.trans (reaches_trivia mode c)).marks
  stop := (h.trans (reaches_stop mode c)).marks

theorem within_of_follow {src c : Cursor} {ts : List BufferedToken} (hc : src.Reaches c)
    (h : Follow c ts) {t : BufferedToken} (ht : t ∈ ts) : t.token.loc.Within src := by
  induction ts generalizing c with
  | nil => exact nomatch ht
  | cons u us ih =>
    have hu := h.1
    rcases List.mem_cons.mp ht with rfl | ht
    · rw [hu]
      exact readToken_within hc _
    · refine ih ?_ h.2 ht
      rw [hu]
      exact hc.trans (reaches_stop _ _)

/-! ### Tokens that take up characters -/

/-- The token is neither the end of the source nor malformed. -/
def TokenKind.Solid (kind : TokenKind) : Prop := kind ≠ .eof ∧ kind ≠ .invalid

theorem scan_nil (mode : LexMode) :
    (scan mode []).kind = none ∨ (scan mode []).kind = some .eof := by
  cases mode <;> simp [scan, Scan.jsxText, Scan.template, Scan.ordinary]

/-- Where a solid token is read, there are characters behind the trivia. -/
theorem rest_ne_nil_of_solid {mode : LexMode} {c : Cursor}
    (h : (readToken mode c).token.kind.Solid) : (mode.trivia c).stop.rest ≠ [] := by
  intro hnil
  have hkind : (readToken mode c).token.kind = (scan mode []).kind.getD .invalid := by
    simp only [readToken, hnil]
  rcases scan_nil mode with hs | hs
  · exact h.2 (by rw [hkind, hs]; rfl)
  · exact h.1 (by rw [hkind, hs]; rfl)

theorem readToken_solid {mode : LexMode} {c : Cursor}
    (h : (readToken mode c).token.kind.Solid) :
    (readToken mode c).stop.rest.length < c.rest.length := by
  have hne := rest_ne_nil_of_solid h
  have hpos := scan_length_pos mode hne
  have hle := (reaches_trivia mode c).length_le
  have hlen : 0 < (mode.trivia c).stop.rest.length := List.length_pos_iff.mpr hne
  simp only [readToken, Cursor.advance, List.length_drop]
  omega

/-- A solid token ends behind its start. -/
theorem start_lt_stop_of_solid {mode : LexMode} {c : Cursor}
    (h : (readToken mode c).token.kind.Solid) :
    (readToken mode c).token.loc.start < (readToken mode c).token.loc.stop :=
  Cursor.offset_lt_advance (scan_length_pos mode (rest_ne_nil_of_solid h)) (rest_ne_nil_of_solid h)

namespace TokenBuffer

variable {b b' : TokenBuffer} {mode : LexMode} {ts : List BufferedToken}

/-- The number of characters behind the position. -/
def left (b : TokenBuffer) : Nat := b.position.rest.length

theorem Coherent.reaches (h : b.Coherent) : b.source.Reaches b.position := by
  rw [position_eq]
  exact reaches_endOf ((coherent_iff b).1 h).1

theorem Coherent.upcoming_within (h : b.Coherent) (mode : LexMode) :
    (b.upcoming mode).loc.Within b.source :=
  readToken_within h.reaches mode

theorem Consumes.left_le (h : b.Consumes ts b') : b'.left ≤ b.left := by
  rw [left, left, h.position]
  exact (reaches_endOf h.follow).length_le

/-- Consuming a solid token takes a character away. -/
theorem Consumes.left_lt (h : b.Consumes [.read mode b.position] b')
    (hk : (b.upcoming mode).kind.Solid) : b'.left + 1 ≤ b.left := by
  rw [left, left, h.position]
  exact readToken_solid hk

/-- The range since a mark lies in the source. -/
theorem Coherent.since_within (h : b.Coherent) {place : Nat} (hp : place ≤ b.mark) :
    (b.since place).Within b.source := by
  obtain ⟨hc, ha⟩ := (coherent_iff b).1 h
  have hpos := h.reaches
  unfold since
  rcases Nat.lt_or_eq_of_le hp with hlt | rfl
  · have hlt' : place < b.consumed.toList.length := by simpa [mark] using hlt
    have htok : b.token? place = some (b.consumed.toList.get ⟨place, hlt'⟩) := by
      rw [token?, if_pos hlt, ← Array.getElem?_toList, List.getElem?_eq_getElem hlt']
      rfl
    have hmem := List.get_mem b.consumed.toList ⟨place, hlt'⟩
    rw [htok, if_pos hlt]
    have hw := within_of_follow (.refl b.source) hc hmem
    refine ⟨?_, hw.start, hpos.marks⟩
    -- the token ends at or before the position, since the tokens behind it are read later
    obtain ⟨pre, post, hsplit⟩ := List.append_of_mem hmem
    rw [hsplit, follow_append] at hc
    have hpost := hc.2.2
    have hposition : b.position = endOf (endOf b.source pre)
        (b.consumed.toList.get ⟨place, hlt'⟩ :: post) := by
      rw [position_eq]
      exact (congrArg (endOf b.source) hsplit).trans (endOf_append _ _ _)
    have hstop : (b.consumed.toList.get ⟨place, hlt'⟩).token.loc.stop =
        (b.consumed.toList.get ⟨place, hlt'⟩).lexeme.stop.offset := by
      rw [hc.2.1]
      rfl
    rw [hposition, endOf]
    exact Nat.le_trans hw.ordered (hstop ▸ (reaches_endOf hpost).offset_le)
  · rw [if_neg (Nat.lt_irrefl _)]
    refine Loc.within_point ?_
    have htok : b.token? b.mark = b.ahead.head? := by
      rw [token?, if_neg (Nat.lt_irrefl _), Nat.sub_self, List.head?_eq_getElem?]
    rw [htok]
    cases hahead : b.ahead with
    | nil =>
      simp only [List.head?_nil]
      rw [readEnd, hahead]
      exact hpos.marks
    | cons t ts =>
      simp only [List.head?_cons]
      rw [hahead] at ha
      exact (within_of_follow hpos ha List.mem_cons_self).start

end TokenBuffer

end ImportSeam
