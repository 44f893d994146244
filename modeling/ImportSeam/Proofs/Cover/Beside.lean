import ImportSeam.Proofs.Cover.Tail
import ImportSeam.Proofs.Reread.Success
import Mathlib.Data.List.Infix

/-!
# Two buffers in front of the same text

A closed text stands at the end of a source, and again in front of the rest of an assignment.  As long
as reading stays inside the text, it is the same on both sides: what stands between the tokens is
skipped alike, the tokens are equal but for their places, and so are the next two of them.  Where the
text ends one side sees the end of the source and the other an equals sign.

## Main definitions

* `Tails` — the two ways to go on behind the text, in either order.
* `Token.face`, `Token.saying` — what is known of a token before and after it is consumed.
* `TokenBuffer.Beside`, `TokenBuffer.Abreast` — buffers in front of the same closed text, and in front
  of the same text, which may be used up.
* `Token.Ahead` — the next two tokens on both sides.

## Main results

* `readToken_alike` — a token is read alike in front of both tails.
* `TokenBuffer.Beside.taken`, `TokenBuffer.Beside.passed` — consuming a token leads to the same place.
* `TokenBuffer.Abreast.seen` — signs in front of which the text is not used up.
-/

namespace ImportSeam

open Text

variable {u w : List Char}

/-! ### Between tokens -/

theorem blockCommentRest_tail (hw : IsTail w) : blockCommentRest w = w.length := by
  rcases hw with rfl | rfl <;> rfl

/-- A block comment is closed inside a closed text or takes everything. -/
theorem blockCommentRest_shut (hw : IsTail w) {r : List Char} (hr : r = [] ∨ Shut r) :
    (blockCommentRest (r ++ w) = blockCommentRest r ∧ blockCommentRest r < r.length) ∨
      (blockCommentRest r = r.length ∧ blockCommentRest (r ++ w) = r.length + w.length) := by
  fun_induction blockCommentRest r with
  | case1 =>
    rw [List.nil_append, blockCommentRest_tail hw]
    exact .inr ⟨rfl, (Nat.zero_add _).symm⟩
  | case2 t =>
    have ht : Shut t := ((hr.resolve_left (by simp)).tail (by simp [Closes])).tail (by simp [Closes])
    have hpos := ht.length_pos
    refine .inl ⟨rfl, ?_⟩
    simp only [List.length_cons]
    omega
  | case3 c r hc ih =>
    have hclosed := hr.resolve_left (by simp)
    have hnot : ∀ t, c :: (r ++ w) ≠ '*' :: '/' :: t := by
      intro t ht
      obtain ⟨rfl, hslash⟩ := List.cons.inj ht
      obtain ⟨d, r, rfl⟩ := List.exists_cons_of_ne_nil (hclosed.tail (by simp [Closes])).ne_nil
      exact hc r rfl (congrArg (· :: r) (List.cons.inj hslash).1)
    rw [List.cons_append, blockCommentRest_cons hnot]
    rcases ih (hclosed.suffix (List.suffix_cons c r)) with ⟨heq, hlt⟩ | ⟨hlen, hlen'⟩
    · rw [heq]
      exact .inl ⟨rfl, Nat.succ_lt_succ hlt⟩
    · rw [hlen, hlen']
      exact .inr ⟨rfl, by rw [List.length_cons]; omega⟩

/-- A comment ends inside a closed text, or takes the tail too. -/
theorem commentAt?_shut (hu : Shut u) (hw : IsTail w) :
    (commentAt? u = none ∧ commentAt? (u ++ w) = none) ∨
      ∃ kind n, commentAt? u = some (kind, n) ∧
        ((n < u.length ∧ commentAt? (u ++ w) = some (kind, n)) ∨
          (n = u.length ∧ commentAt? (u ++ w) = some (kind, n + w.length))) := by
  obtain ⟨c, r, rfl⟩ := List.exists_cons_of_ne_nil hu.ne_nil
  by_cases hc : c = '/'
  · subst hc
    have hr : Shut r := hu.tail (by simp [Closes])
    obtain ⟨d, t, rfl⟩ := List.exists_cons_of_ne_nil hr.ne_nil
    by_cases hline : d = '/'
    · subst hline
      refine .inr ⟨.line, Scan.run (!isLineTerminator ·) t + 2, rfl, ?_⟩
      have hunfold : commentAt? ('/' :: '/' :: t ++ w) =
          some (.line, Scan.run (!isLineTerminator ·) (t ++ w) + 2) := rfl
      rw [hunfold]
      by_cases hmem : ∃ c ∈ t, (!isLineTerminator c) = false
      · obtain ⟨hrun, hlt⟩ := Scan.run_append_of_mem hmem w
        rw [hrun]
        exact .inl ⟨by simp only [List.length_cons]; omega, rfl⟩
      · have hall : ∀ c ∈ t, (!isLineTerminator c) = true := by
          intro c hc
          rw [← Bool.not_eq_false]
          exact fun hfalse => hmem ⟨c, hc, hfalse⟩
        have hw' : ∀ c ∈ w, (!isLineTerminator c) = true := hw.forall rfl
        have hboth : ∀ c ∈ t ++ w, (!isLineTerminator c) = true := fun c hc =>
          (List.mem_append.mp hc).elim (hall c) (hw' c)
        rw [Scan.run_of_forall hall, Scan.run_of_forall hboth, List.length_append]
        exact .inr ⟨rfl, by rw [Nat.add_right_comm]⟩
    by_cases hblock : d = '*'
    · subst hblock
      refine .inr ⟨.block, blockCommentRest t + 2, rfl, ?_⟩
      have hunfold : commentAt? ('/' :: '*' :: t ++ w) =
          some (.block, blockCommentRest (t ++ w) + 2) := rfl
      rw [hunfold]
      rcases blockCommentRest_shut hw (.inr (hr.tail (by simp [Closes]))) with
        ⟨heq, hlt⟩ | ⟨hlen, hlen'⟩
      · rw [heq]
        exact .inl ⟨by simp only [List.length_cons]; omega, rfl⟩
      · rw [hlen, hlen']
        exact .inr ⟨rfl, by rw [Nat.add_right_comm]⟩
    · have hnone : ∀ t, commentAt? ('/' :: d :: t) = none := by
        intro t
        unfold commentAt?
        split
        · next heq => exact absurd (List.cons.inj (List.cons.inj heq).2).1 hline
        · next heq => exact absurd (List.cons.inj (List.cons.inj heq).2).1 hblock
        · rfl
      exact .inl ⟨hnone _, hnone _⟩
  · have hnone : ∀ t, commentAt? (c :: t) = none := by
      intro t
      unfold commentAt?
      split
      · next heq => exact absurd (List.cons.inj heq).1 hc
      · next heq => exact absurd (List.cons.inj heq).1 hc
      · rfl
    exact .inl ⟨hnone _, hnone _⟩

theorem skipTrivia_cons {c : Cursor} {d : Char} {r : List Char} (h : c.rest = d :: r) :
    skipTrivia c =
      if isLineTerminator d then (skipTrivia (c.advance 1)).withNewline true
      else if isSkipped d then skipTrivia (c.advance 1)
      else
        match commentAt? (d :: r) with
        | some (kind, n) =>
          ((skipTrivia (c.advance n)).withNewline
            (kind == .block && (c.taken n).toList.any isLineTerminator)).withComment
            ⟨kind, ⟨c.offset, (c.advance n).offset⟩, c.taken n⟩
        | none => ⟨false, [], c⟩ := by
  rw [skipTrivia.eq_def]
  split
  · next heq => cases heq.symm.trans h
  · next heq =>
    obtain ⟨rfl, rfl⟩ := List.cons.inj (heq.symm.trans h)
    refine ite_congr rfl (fun _ => rfl) fun _ => ite_congr rfl (fun _ => rfl) fun _ => ?_
    split
    · next hc => rw [hc]
    · next hc => rw [hc]

/-- Two stretches of trivia, the second in front of a tail: both end in front of the same closed
text, or both take everything. -/
structure Trivia.Grows (w : List Char) (t t' : Trivia) : Prop where
  newline : t'.newline = t.newline
  stop : (Shut t.stop.rest ∧ t'.stop.rest = t.stop.rest ++ w) ∨
    (t.stop.rest = [] ∧ t'.stop.rest = [])

theorem Trivia.Grows.withNewline {t t' : Trivia} (h : t.Grows w t') (flag : Bool) :
    (t.withNewline flag).Grows w (t'.withNewline flag) :=
  ⟨congrArg (flag || ·) h.newline, h.stop⟩

theorem Trivia.Grows.withComment {t t' : Trivia} (h : t.Grows w t') (x x' : Comment) :
    (t.withComment x).Grows w (t'.withComment x') :=
  ⟨h.newline, h.stop⟩

theorem skipTrivia_nil {c : Cursor} (h : c.rest = []) : skipTrivia c = ⟨false, [], c⟩ := by
  rw [skipTrivia.eq_def]
  split
  · rfl
  · next heq => cases h.symm.trans heq

/-- What stands before a token is skipped alike in front of a tail. -/
theorem skipTrivia_tail (hw : IsTail w) (c : Cursor) (hu : Shut c.rest) {c' : Cursor}
    (hc : c'.rest = c.rest ++ w) : (skipTrivia c).Grows w (skipTrivia c') := by
  induction hn : c.rest.length using Nat.strong_induction_on generalizing c c' with
  | _ n ih =>
    -- whatever is skipped inside the text leaves a closed text
    have step : ∀ m, 0 < m → m < c.rest.length →
        (skipTrivia (c.advance m)).Grows w (skipTrivia (c'.advance m)) := by
      intro m hpos hm
      obtain ⟨hdrop, hshut⟩ := Scan.drop_append_shut hu hm w
      refine ih (c.rest.length - m) (by omega) (c.advance m) hshut ?_ List.length_drop
      rw [Cursor.advance, Cursor.advance, hc]
      exact hdrop
    obtain ⟨d, r, hr⟩ := List.exists_cons_of_ne_nil hu.ne_nil
    have hr' : c'.rest = d :: (r ++ w) := by rw [hc, hr, List.cons_append]
    have hone : ¬Closes d → 1 < c.rest.length := by
      intro hd
      rw [hr] at hu ⊢
      exact Nat.succ_lt_succ (hu.tail hd).length_pos
    rw [skipTrivia_cons hr, skipTrivia_cons hr']
    split
    · next hd =>
      have hopen := not_closes_of (closes_of (p := isLineTerminator) (by decide) (by decide)) hd
      exact (step 1 Nat.one_pos (hone hopen)).withNewline true
    split
    · next hd =>
      have hopen := not_closes_of (closes_of (p := isSkipped) (by decide) (by decide)) hd
      exact step 1 Nat.one_pos (hone hopen)
    rw [hr] at hu
    rcases commentAt?_shut hu hw with ⟨hnone, hnone'⟩ | ⟨kind, m, hsome, hcases⟩
    · rw [List.cons_append] at hnone'
      rw [hnone, hnone']
      refine ⟨rfl, .inl ⟨?_, hc⟩⟩
      show Shut c.rest
      rwa [hr]
    · rw [← hr, ← hc] at hcases
      have hlen : c'.rest.length = c.rest.length + w.length := by rw [hc, List.length_append]
      rw [hsome]
      rcases hcases with ⟨hlt, hsome'⟩ | ⟨hall, hsome'⟩
      · rw [← hr', hsome']
        have htaken : c'.taken m = c.taken m := by
          rw [Cursor.taken, Cursor.taken, hc, List.take_append_of_le_length (Nat.le_of_lt hlt)]
        simp only [htaken]
        have hpos := (commentAt?_length hsome).1
        exact ((step m hpos hlt).withNewline _).withComment _ _
      · -- both comments take everything, and no line ends in the tail
        rw [← hr', hsome']
        have hnil : (c.advance m).rest = [] := List.drop_eq_nil_iff.mpr (Nat.le_of_eq hall.symm)
        have hnil' : (c'.advance (m + w.length)).rest = [] :=
          List.drop_eq_nil_iff.mpr (by omega)
        have htail : w.any isLineTerminator = false := by
          rcases hw with rfl | rfl <;> rfl
        have hlines : (c'.taken (m + w.length)).toList.any isLineTerminator =
            (c.taken m).toList.any isLineTerminator := by
          rw [Cursor.taken, Cursor.taken, String.toList_ofList, String.toList_ofList,
            List.take_of_length_le (by omega), List.take_of_length_le (by omega), hc,
            List.any_append, htail, Bool.or_false]
        simp only [skipTrivia_nil hnil, skipTrivia_nil hnil', hlines]
        exact ⟨rfl, .inr ⟨hnil, hnil'⟩⟩

/-! ### Tokens -/

/-- A token whose text is not its own: it goes on to the end of the source. -/
def TokenKind.isFinal (kind : TokenKind) : Bool := kind matches .eof | .invalid | .jsxText

/-- What a token is known by before it is known where it ends. -/
def Token.face (t : Token) : TokenKind × Bool × String :=
  (t.kind, t.newlineBefore, if t.kind.isFinal then "" else t.text)

/-- What a token is, wherever it stands. -/
def Token.saying (t : Token) : TokenKind × Bool × String := (t.kind, t.newlineBefore, t.text)

/-- One token in front of two tails: it ends inside the same closed text, or it is the same token and
takes all of that, or it takes the tails as well. -/
inductive Lexeme.Alike (w w' : List Char) (x x' : Lexeme) : Prop
  | inside {v : List Char} (hv : Shut v) (hstop : x.stop.rest = v ++ w)
      (hstop' : x'.stop.rest = v ++ w') (h : x.token.saying = x'.token.saying)
  | whole (hstop : x.stop.rest = w) (hstop' : x'.stop.rest = w')
      (h : x.token.saying = x'.token.saying) (hclosed : Shut x.token.text.toList)
      (hkind : x.token.kind ∈ [.invalid, .ident, .punct .rBracket, .punct .rBrace])
  | beyond (hstop : x.stop.rest = []) (hstop' : x'.stop.rest = [])
      (h : x.token.kind = x'.token.kind ∧ x.token.newlineBefore = x'.token.newlineBefore)
      (hkind : x.token.kind.isFinal = true)

theorem trivia_tail (mode : LexMode) (hw : IsTail w) (c : Cursor) (hu : Shut c.rest) {c' : Cursor}
    (hc : c'.rest = c.rest ++ w) : (mode.trivia c).Grows w (mode.trivia c') := by
  unfold LexMode.trivia
  split
  · exact skipTrivia_tail hw c hu hc
  · exact ⟨rfl, .inl ⟨hu, hc⟩⟩

theorem scan_nil_isFinal (mode : LexMode) :
    ((scan mode []).kind.getD .invalid).isFinal = true := by
  cases mode <;> rfl

/-- The token behind a stretch of trivia, once its extent is known. -/
def Trivia.lexeme (t : Trivia) (s : Scan) : Lexeme where
  token := ⟨s.kind.getD .invalid, ⟨t.stop.offset, (t.stop.advance s.length).offset⟩, t.newline,
    t.stop.taken s.length⟩
  comments := t.comments
  stop := t.stop.advance s.length

theorem readToken_eq (mode : LexMode) (c : Cursor) :
    readToken mode c = (mode.trivia c).lexeme (scan mode (mode.trivia c).stop.rest) := rfl

theorem Trivia.lexeme_alike {t t' : Trivia} {s s' : Scan} (hnewline : t'.newline = t.newline)
    (hshut : Shut t.stop.rest) (hrest : t'.stop.rest = t.stop.rest ++ w)
    (h : s.Grows t.stop.rest w s') : (t.lexeme s).Alike [] w (t'.lexeme s') := by
  cases h with
  | inside h hlt =>
    subst h
    obtain ⟨hdrop, hclosed⟩ := Scan.drop_append_shut hshut hlt w
    refine .inside hclosed (List.append_nil _).symm ?_ ?_
    · rw [← hdrop, ← hrest]
      rfl
    · simp only [Token.saying, lexeme, hnewline, Cursor.taken, hrest,
        List.take_append_of_le_length (Nat.le_of_lt hlt)]
  | whole h hlen hkind =>
    subst h
    refine .whole ?_ ?_ ?_ ?_ ?_
    · simp only [lexeme, Cursor.advance, hlen, List.drop_length]
    · simp only [lexeme, Cursor.advance, hrest, hlen, List.drop_left]
    · simp only [Token.saying, lexeme, hnewline, Cursor.taken, hrest, hlen, List.take_left,
        List.take_length]
    · simp only [lexeme, Cursor.taken, hlen, List.take_length, String.toList_ofList]
      exact hshut
    · revert hkind
      simp only [lexeme, List.mem_cons, List.not_mem_nil, or_false]
      rintro (h | h | h | h) <;> simp [h]
  | beyond h hkind hlen hlen' =>
    refine .beyond ?_ ?_ ?_ ?_
    · simp only [lexeme, Cursor.advance, hlen, List.drop_length]
    · simp only [lexeme, Cursor.advance, hlen', hrest]
      exact List.drop_eq_nil_iff.mpr (Nat.le_of_eq List.length_append)
    · simp only [lexeme, h, hnewline, and_self]
    · simp only [lexeme]
      rcases hkind with hkind | hkind <;> rw [hkind] <;> rfl

theorem readToken_tail (mode : LexMode) (hw : IsTail w) (c : Cursor) (hu : Shut c.rest) {c' : Cursor}
    (hc : c'.rest = c.rest ++ w) : (readToken mode c).Alike [] w (readToken mode c') := by
  obtain ⟨hnewline, ⟨hshut, hrest⟩ | ⟨hnil, hnil'⟩⟩ := trivia_tail mode hw c hu hc
  · have hgrows := Scan.grows_scan mode hshut hw
    rw [← hrest] at hgrows
    exact Trivia.lexeme_alike hnewline hshut hrest hgrows
  · -- no token is left on either side
    refine .beyond ?_ ?_ ?_ ?_
    · simp only [readToken, Cursor.advance, hnil, List.drop_nil]
    · simp only [readToken, Cursor.advance, hnil', List.drop_nil]
    · simp only [readToken, hnil, hnil', hnewline, and_self]
    · simp only [readToken, hnil]
      exact scan_nil_isFinal mode

/-! ### Pairs of tails -/

/-- Two ways to go on: the end of the source, and what follows a pattern that is assigned to. -/
def Tails (w w' : List Char) : Prop := (w = [] ∧ w' = assigning) ∨ (w = assigning ∧ w' = [])

variable {w' : List Char}

theorem Tails.symm (h : Tails w w') : Tails w' w := by
  rcases h with ⟨rfl, rfl⟩ | ⟨rfl, rfl⟩
  · exact .inr ⟨rfl, rfl⟩
  · exact .inl ⟨rfl, rfl⟩

theorem Tails.left (h : Tails w w') : IsTail w := by
  rcases h with ⟨rfl, -⟩ | ⟨rfl, -⟩
  · exact .inl rfl
  · exact .inr rfl

theorem Lexeme.Alike.symm {x x' : Lexeme} (h : x.Alike w w' x') : x'.Alike w' w x := by
  cases h with
  | inside hv hstop hstop' h => exact .inside hv hstop' hstop h.symm
  | whole hstop hstop' h hclosed hkind =>
    have hkinds : x.token.kind = x'.token.kind := (Prod.mk.inj h).1
    have htexts : x.token.text = x'.token.text := (Prod.mk.inj (Prod.mk.inj h).2).2
    exact .whole hstop' hstop h.symm (htexts ▸ hclosed) (hkinds ▸ hkind)
  | beyond hstop hstop' h hkind => exact .beyond hstop' hstop ⟨h.1.symm, h.2.symm⟩ (h.1 ▸ hkind)

/-- **A token is read alike** in front of both tails. -/
theorem readToken_alike (mode : LexMode) (hw : Tails w w') (hu : Shut u) {c c' : Cursor}
    (hc : c.rest = u ++ w) (hc' : c'.rest = u ++ w') :
    (readToken mode c).Alike w w' (readToken mode c') := by
  rcases hw with ⟨rfl, rfl⟩ | ⟨rfl, rfl⟩
  · rw [List.append_nil] at hc
    rw [← hc] at hu hc'
    exact readToken_tail mode (.inr rfl) c hu hc'
  · rw [List.append_nil] at hc'
    rw [← hc'] at hu hc
    exact (readToken_tail mode (.inr rfl) c' hu hc).symm

theorem Lexeme.Alike.face {x x' : Lexeme} (h : x.Alike w w' x') : x.token.face = x'.token.face := by
  cases h with
  | inside _ _ _ h | whole _ _ h _ _ =>
    obtain ⟨hkind, hrest⟩ := Prod.mk.inj h
    obtain ⟨hline, htext⟩ := Prod.mk.inj hrest
    simp only [Token.face, hkind, hline, htext]
  | beyond _ _ h hkind => simp only [Token.face, ← h.1, h.2, hkind, if_true]

/-! ### What a token is known by -/

namespace Token

variable {t t' : Token}

theorem face_of_saying (h : t.saying = t'.saying) : t.face = t'.face := by
  obtain ⟨hkind, hrest⟩ := Prod.mk.inj h
  obtain ⟨hline, htext⟩ := Prod.mk.inj hrest
  simp only [face, hkind, hline, htext]

theorem kind_of_face (h : t.face = t'.face) : t.kind = t'.kind := (Prod.mk.inj h).1

theorem newline_of_face (h : t.face = t'.face) : t.newlineBefore = t'.newlineBefore :=
  (Prod.mk.inj (Prod.mk.inj h).2).1

theorem text_of_face (h : t.face = t'.face) (hk : t.kind.isFinal = false) : t.text = t'.text := by
  have htext := (Prod.mk.inj (Prod.mk.inj h).2).2
  rwa [← kind_of_face h, if_neg (by simp [hk]), if_neg (by simp [hk])] at htext

theorem isWord_of_face (h : t.face = t'.face) (word : String) : t.isWord word = t'.isWord word := by
  by_cases hk : t.kind = .ident
  · rw [isWord, isWord, ← kind_of_face h, text_of_face h (hk ▸ rfl)]
  · rw [isWord, isWord, ← kind_of_face h, beq_eq_false_iff_ne.mpr hk, Bool.false_and, Bool.false_and]

theorem text_of_saying (h : t.saying = t'.saying) : t.text = t'.text :=
  (Prod.mk.inj (Prod.mk.inj h).2).2

end Token

/-! ### Buffers -/

namespace TokenBuffer

variable {b b' c c' : TokenBuffer} {mode : LexMode}

/-- Both buffers stand in front of the same closed text, which the tails follow. -/
structure Beside (w w' : List Char) (b b' : TokenBuffer) : Prop where
  coherent : b.Coherent
  coherent' : b'.Coherent
  stands : ∃ u, Shut u ∧ b.position.rest = u ++ w ∧ b'.position.rest = u ++ w'

/-- Both buffers stand in front of the same text, closed or used up, which the tails follow. -/
def Abreast (w w' : List Char) (b b' : TokenBuffer) : Prop :=
  b.Beside w w' b' ∨
    (b.Coherent ∧ b'.Coherent ∧ b.position.rest = w ∧ b'.position.rest = w')

theorem Beside.symm (h : b.Beside w w' b') : b'.Beside w' w b := by
  obtain ⟨u, hu, hb, hb'⟩ := h.stands
  exact ⟨h.coherent', h.coherent, u, hu, hb', hb⟩

theorem Beside.lt (h : b.Beside w w' b') : w.length < b.left := by
  obtain ⟨u, hu, hb, -⟩ := h.stands
  have hpos := hu.length_pos
  rw [left, hb, List.length_append]
  omega

theorem Beside.suffix (h : b.Beside w w' b') : w <:+ b.position.rest := by
  obtain ⟨u, -, hb, -⟩ := h.stands
  exact ⟨u, hb.symm⟩

/-- Looking ahead leaves the buffers beside one another. -/
theorem Beside.unread (h : b.Beside w w' b') (hc : b.Consumes [] c) (hc' : b'.Consumes [] c') :
    c.Beside w w' c' := by
  have hpos : c.position = b.position := hc.position
  have hpos' : c'.position = b'.position := hc'.position
  exact ⟨hc.coherent, hc'.coherent, by rw [hpos, hpos']; exact h.stands⟩

theorem Abreast.beside (h : b.Abreast w w' b') (hl : w.length < b.left) : b.Beside w w' b' := by
  rcases h with h | ⟨-, -, hb, -⟩
  · exact h
  · rw [left, hb] at hl
    exact absurd hl (Nat.lt_irrefl _)

section

variable (hw : Tails w w') (h : b.Beside w w' b')
include hw h

theorem Beside.face (mode : LexMode) : (b.upcoming mode).face = (b'.upcoming mode).face := by
  obtain ⟨u, hu, hb, hb'⟩ := h.stands
  exact (readToken_alike mode hw hu hb hb').face

variable (hc : b.Consumes [.read mode b.position] c) (hc' : b'.Consumes [.read mode b'.position] c')
include hc hc'

/-- A token that is consumed on both sides leads to the same place, as long as it has an end. -/
theorem Beside.taken (hk : (b.upcoming mode).kind.isFinal = false) :
    (b.upcoming mode).saying = (b'.upcoming mode).saying ∧ c.Abreast w w' c' := by
  obtain ⟨u, hu, hb, hb'⟩ := h.stands
  have hpos : c.position = (readToken mode b.position).stop := hc.position
  have hpos' : c'.position = (readToken mode b'.position).stop := hc'.position
  cases readToken_alike mode hw hu hb hb' with
  | inside hv hstop hstop' hsaying =>
    rw [← hpos] at hstop
    rw [← hpos'] at hstop'
    exact ⟨hsaying, .inl ⟨hc.coherent, hc'.coherent, _, hv, hstop, hstop'⟩⟩
  | whole hstop hstop' hsaying _ _ =>
    rw [← hpos] at hstop
    rw [← hpos'] at hstop'
    exact ⟨hsaying, .inr ⟨hc.coherent, hc'.coherent, hstop, hstop'⟩⟩
  | beyond _ _ _ hfinal => exact absurd (hfinal.symm.trans hk) (by decide)

/-- A token in front of which more than the tail was left leads to the same place. -/
theorem Beside.passed (hl : w.length < c.left) :
    (b.upcoming mode).saying = (b'.upcoming mode).saying ∧ c.Beside w w' c' := by
  obtain ⟨u, hu, hb, hb'⟩ := h.stands
  have hpos : c.position = (readToken mode b.position).stop := hc.position
  have hpos' : c'.position = (readToken mode b'.position).stop := hc'.position
  cases readToken_alike mode hw hu hb hb' with
  | inside hv hstop hstop' hsaying =>
    rw [← hpos] at hstop
    rw [← hpos'] at hstop'
    exact ⟨hsaying, hc.coherent, hc'.coherent, _, hv, hstop, hstop'⟩
  | whole hstop _ _ _ _ =>
    rw [left, hpos, hstop] at hl
    exact absurd hl (Nat.lt_irrefl _)
  | beyond hstop _ _ _ =>
    rw [left, hpos, hstop] at hl
    exact absurd hl (Nat.not_lt_zero _)

end

end TokenBuffer

/-! ### Two tokens ahead -/

/-- The token is what the tails start with: the end of the source or an equals sign. -/
def Token.Quiet (t : Token) : Prop :=
  (t.kind = .eof ∨ t.kind = .punct .assign) ∧ t.newlineBefore = false

theorem quiet_of_nil {c : Cursor} (hc : c.rest = []) : (readToken .standard c).token.Quiet := by
  have htrivia : LexMode.trivia .standard c = ⟨false, [], c⟩ := skipTrivia_nil hc
  refine ⟨.inl ?_, ?_⟩
  · simp only [readToken, htrivia, hc]
    rfl
  · simp only [readToken, htrivia]

theorem quiet_of_tail (hw : IsTail w) {c : Cursor} (hc : c.rest = w) :
    (readToken .standard c).token.Quiet := by
  rcases hw with rfl | rfl
  · exact quiet_of_nil hc
  · have hreads := LexesTo.blank (lexesTo_punct (Punctuator.stands_blank .assign ['x', ')']))
    obtain ⟨hkind, -, hline, -⟩ := hreads.readToken_eq rfl hc
    exact ⟨.inr hkind, hline⟩

/-- The next two tokens on both sides.  The second may be what the tails start with already; the
first is not a word then, unless the word closes. -/
structure Token.Ahead (ts ts' : Token × Token) : Prop where
  first : ts.1.face = ts'.1.face
  second : ts.2.face = ts'.2.face ∨
    (ts.2.Quiet ∧ ts'.2.Quiet ∧ ∀ word, ts.1.isWord word = true → Shut word.toList)

namespace Token.Ahead

variable {ts ts' : Token × Token}

theorem refl (ts : Token × Token) : Token.Ahead ts ts := ⟨rfl, .inl rfl⟩

/-- What does not tell the end of the source from an equals sign holds on both sides. -/
theorem test {α : Type} (h : Token.Ahead ts ts') (f : TokenKind → α)
    (hf : f .eof = f (.punct .assign)) : f ts.2.kind = f ts'.2.kind := by
  rcases h.second with h | ⟨⟨hk, -⟩, ⟨hk', -⟩, -⟩
  · rw [kind_of_face h]
  · rcases hk with hk | hk <;> rcases hk' with hk' | hk' <;> simp only [hk, hk', hf]

theorem newline (h : Token.Ahead ts ts') : ts.2.newlineBefore = ts'.2.newlineBefore := by
  rcases h.second with h | ⟨⟨-, hline⟩, ⟨-, hline'⟩, -⟩
  · exact newline_of_face h
  · rw [hline, hline']

/-- After an open word the second token is the same too. -/
theorem after_word (h : Token.Ahead ts ts') {word : String} (hopen : ¬Shut word.toList)
    (f : TokenKind → Bool) :
    (ts.1.isWord word && f ts.2.kind) = (ts'.1.isWord word && f ts'.2.kind) := by
  rw [← isWord_of_face h.first]
  cases hword : ts.1.isWord word with
  | false => rfl
  | true =>
    rcases h.second with h | ⟨-, -, hclosed⟩
    · rw [kind_of_face h]
    · exact absurd (hclosed word hword) hopen

end Token.Ahead

theorem Token.isWord_eq_false {t : Token} {word : String} (h : t.kind ≠ .ident) :
    t.isWord word = false := by
  rw [isWord, beq_eq_false_iff_ne.mpr h, Bool.false_and]

theorem TokenBuffer.Beside.ahead {b b' : TokenBuffer} (hw : Tails w w') (h : b.Beside w w' b') :
    Token.Ahead (b.upcoming .standard, b.second) (b'.upcoming .standard, b'.second) := by
  obtain ⟨u, hu, hb, hb'⟩ := h.stands
  refine ⟨h.face hw .standard, ?_⟩
  cases readToken_alike .standard hw hu hb hb' with
  | inside hv hstop hstop' _ => exact .inl (readToken_alike .standard hw hv hstop hstop').face
  | whole hstop hstop' _ hclosed _ =>
    refine .inr ⟨quiet_of_tail hw.left hstop, quiet_of_tail hw.symm.left hstop', fun word hword => ?_⟩
    have htext : (b.upcoming .standard).text = word := by
      rw [Token.isWord, Bool.and_eq_true, beq_iff_eq, beq_iff_eq] at hword
      exact hword.2
    exact htext ▸ hclosed
  | beyond hstop hstop' _ hfinal =>
    refine .inr ⟨quiet_of_nil hstop, quiet_of_nil hstop', fun word hword => ?_⟩
    have hident : (b.upcoming .standard).kind ≠ .ident := by
      intro hident
      rw [TokenBuffer.upcoming] at hident
      rw [hident] at hfinal
      exact absurd hfinal (by decide)
    rw [Token.isWord_eq_false hident] at hword
    exact absurd hword Bool.false_ne_true

/-- A word that does not close is not the last of the text. -/
theorem TokenBuffer.Beside.lt_of_word {b b' c : TokenBuffer} {word : String} (hw : Tails w w')
    (h : b.Beside w w' b') (hword : (b.upcoming .standard).isWord word = true)
    (hopen : ¬Shut word.toList) (hc : b.Consumes [.read .standard b.position] c) :
    w.length < c.left := by
  obtain ⟨u, hu, hb, hb'⟩ := h.stands
  have hpos : c.position = (readToken .standard b.position).stop := hc.position
  simp only [Token.isWord, Bool.and_eq_true, beq_iff_eq] at hword
  cases readToken_alike .standard hw hu hb hb' with
  | inside hv hstop _ _ =>
    have := hv.length_pos
    rw [TokenBuffer.left, hpos, hstop, List.length_append]
    omega
  | whole _ _ _ hclosed _ =>
    refine absurd ?_ hopen
    rw [← hword.2]
    exact hclosed
  | beyond _ _ _ hfinal =>
    have hkind : (readToken .standard b.position).token.kind = .ident := hword.1
    rw [hkind] at hfinal
    exact absurd hfinal (by decide)

/-! ### Signs that the tails do not contain -/

/-- Signs that do not stand in a tail. -/
def Punctuator.apart : List Punctuator :=
  [.arrow, .colon, .comma, .ellipsis, .lBrace, .lBracket, .rBrace, .rBracket]

theorem Punctuator.not_prefix_of_apart :
    (apart.all fun p => assigning.tails.all fun v => !p.chars.isPrefixOf v) = true := by
  decide

theorem IsTail.suffix (hw : IsTail w) : w <:+ assigning := by
  rcases hw with rfl | rfl
  · exact List.nil_suffix
  · exact List.suffix_rfl

/-- Where such a sign is seen, more than the tail is left. -/
theorem lt_of_apart {b c : TokenBuffer} {p : Punctuator} (hw : IsTail w) (hp : p ∈ Punctuator.apart)
    (hu : w <:+ b.position.rest) (hb : b.Keeps c)
    (hk : (c.upcoming .standard).kind = .punct p) : w.length < c.left := by
  by_contra hle
  have hsuffix : c.position.rest <:+ w :=
    List.suffix_of_suffix_length_le hb.suffix hu (Nat.le_of_not_lt hle)
  have hprefix := Scan.prefix_of_punct (scan_kind_of_readToken hk TokenKind.noConfusion)
  obtain ⟨taken, htaken, -⟩ := reaches_trivia .standard c.position
  have hmem : (LexMode.trivia .standard c.position).stop.rest ∈ assigning.tails :=
    (List.mem_tails _ _).mpr ((List.IsSuffix.trans ⟨taken, htaken.symm⟩ hsuffix).trans hw.suffix)
  have hnone := List.all_eq_true.mp (List.all_eq_true.mp Punctuator.not_prefix_of_apart p hp) _ hmem
  rw [List.isPrefixOf_iff_prefix.mpr hprefix] at hnone
  exact Bool.false_ne_true hnone

namespace TokenBuffer.Abreast

variable {b b' c c' : TokenBuffer} (h : b.Abreast w w' b')
include h

theorem coherent : b.Coherent := by
  rcases h with h | ⟨h, -⟩
  · exact h.coherent
  · exact h

theorem coherent' : b'.Coherent := by
  rcases h with h | ⟨-, h, -⟩
  · exact h.coherent'
  · exact h

theorem suffix : w <:+ b.position.rest := by
  rcases h with h | ⟨-, -, h, -⟩
  · exact h.suffix
  · exact h ▸ List.suffix_rfl

theorem unread (hc : b.Consumes [] c) (hc' : b'.Consumes [] c') : c.Abreast w w' c' := by
  rcases h with h | ⟨-, -, hb, hb'⟩
  · exact .inl (h.unread hc hc')
  · have hpos : c.position = b.position := hc.position
    have hpos' : c'.position = b'.position := hc'.position
    exact .inr ⟨hc.coherent, hc'.coherent, hpos ▸ hb, hpos' ▸ hb'⟩

/-- In front of a sign that does not stand in a tail the text is not used up. -/
theorem seen (hw : Tails w w') {p : Punctuator} (hp : p ∈ Punctuator.apart) (hc : b.Keeps c)
    (hk : (c.upcoming .standard).kind = .punct p) : b.Beside w w' b' ∧ w.length < c.left := by
  have hlt := lt_of_apart hw.left hp h.suffix hc hk
  exact ⟨h.beside (Nat.lt_of_lt_of_le hlt hc.left_le), hlt⟩

/-- The kind of what stands where the text ends. -/
theorem kind_ne (hw : Tails w w') {kind : TokenKind} (hk : (b.upcoming .standard).kind ≠ kind)
    (heof : kind ≠ .eof) (hassign : kind ≠ .punct .assign) : (b'.upcoming .standard).kind ≠ kind := by
  rcases h with h | ⟨-, -, -, hb'⟩
  · rwa [← Token.kind_of_face (h.face hw .standard)]
  · rcases (quiet_of_tail hw.symm.left hb').1 with heq | heq
    · exact fun h => heof (h.symm.trans heq)
    · exact fun h => hassign (h.symm.trans heq)

end TokenBuffer.Abreast

end ImportSeam
