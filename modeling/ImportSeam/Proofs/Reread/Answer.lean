import ImportSeam.Proofs.Cover.Parallel

/-!
# Answers at a known text

Parsers that answer, that is, come to a result unless their bound is used up, in front of a text
that is known: each token that the text is known to start with takes the buffer on to what is behind
the token.  Nothing is asked of what stands further on.

## Main definitions

* `TokenBuffer.Before` — the text stands at the position.
* `Reads` — the text starts with a token, read in some mode.

## Main results

* `TokenBuffer.Before.read` — the next token and what is behind it.
* `TokenBuffer.Before.answers_consume`, `TokenBuffer.Before.answers_acceptPunct`, … — tokens of a
  known text.
* `answers_tailEnd`, `answers_stop` — where an expression ends.
-/

namespace ImportSeam

open TokenParser BufferedToken

variable {α : Type} {b c : TokenBuffer} {mode : LexMode} {cs rest : List Char} {kind : TokenKind}
  {text : String}

/-! ### In front of a text -/

/-- The buffer is in order and stands in front of the text. -/
def TokenBuffer.Before (rest : List Char) (b : TokenBuffer) : Prop :=
  b.Coherent ∧ b.position.rest = rest

namespace TokenBuffer.Before

theorem unread (h : b.Before rest) (hc : b.Consumes [] c) : c.Before rest := by
  have hpos : c.position = b.position := hc.position
  exact ⟨hc.coherent, hpos ▸ h.2⟩

/-- A text that starts with a token is read up to what is behind the token. -/
theorem read (h : b.Before cs) (hl : LexesTo .standard cs kind text rest) :
    (b.upcoming .standard).kind = kind ∧ (b.upcoming .standard).text = text ∧
      ∀ {c}, b.Consumes [.read .standard b.position] c → c.Before rest := by
  obtain ⟨hkind, htext, -, hrest⟩ := hl.readToken_eq rfl h.2
  refine ⟨hkind, htext, fun hc => ⟨hc.coherent, ?_⟩⟩
  have hpos := hc.position
  rw [hpos]
  exact hrest

end TokenBuffer.Before

namespace Answers

variable {E : TokenBuffer → Prop} {P : α → Prop}

theorem pure {a : α} (ha : P a) (hb : E b) : Answers E P ((Pure.pure a : TokenParser α) b) :=
  ⟨ha, hb⟩

theorem ite {p : Prop} [Decidable p] {x y : TokenParser α} (hx : p → Answers E P (x b))
    (hy : ¬p → Answers E P (y b)) : Answers E P ((if p then x else y) b) := by
  by_cases hp : p
  · rw [if_pos hp]
    exact hx hp
  · rw [if_neg hp]
    exact hy hp

variable {F : TokenBuffer → Prop} {item? : TokenParser (Option α)}

/-- Where there is no item, none is collected. -/
theorem collect_none (h : Answers F (· = none) (item? b)) :
    ∀ bound, Answers F (· = []) (collect bound item? b)
  | 0 => rfl
  | _ + 1 => h.bind fun _ _ ho hc => by
    subst ho
    exact .pure rfl hc

/-- A single item is collected where there is none behind it. -/
theorem collect_one (h : Answers E (∃ a, · = some a ∧ P a) (item? b))
    (hnone : ∀ c, E c → Answers F (· = none) (item? c)) :
    ∀ bound, Answers F (∃ a, · = [a] ∧ P a) (collect bound item? b)
  | 0 => rfl
  | n + 1 => h.bind fun _ c ho hc => by
    obtain ⟨a, rfl, ha⟩ := ho
    exact (collect_none (hnone c hc) n).bind fun _ _ hl hd => .pure ⟨a, by rw [hl], ha⟩ hd

end Answers

/-! ### Tokens in some mode -/

/-- Reading in the mode where the text stands gives the token, on the same line, and goes on with the
rest. -/
def Reads (mode : LexMode) (cs : List Char) (kind : TokenKind) (text : String)
    (rest : List Char) : Prop :=
  ∀ c : Cursor, c.rest = cs → (readToken mode c).token.kind = kind ∧
    (readToken mode c).token.text = text ∧ (readToken mode c).token.newlineBefore = false ∧
      (readToken mode c).stop.rest = rest

/-- Blanks before the token do not matter where they are skipped. -/
theorem LexesTo.reads (h : LexesTo mode cs kind text rest) (hm : mode.skipsTrivia = true) :
    Reads mode cs kind text rest :=
  fun _ hc => h.readToken_eq hm hc

/-- Where nothing is skipped, the token is what the text starts with. -/
theorem reads_verbatim (hm : mode.skipsTrivia = false)
    (hscan : scan mode (text.toList ++ rest) = ⟨some kind, text.toList.length⟩) :
    Reads mode (text.toList ++ rest) kind text rest := by
  intro c hc
  have hgap : mode.trivia c = ⟨false, [], c⟩ := by simp [LexMode.trivia, hm]
  simp only [readToken, hgap, hc, hscan, Cursor.taken, Cursor.advance, Option.getD_some,
    List.take_left, List.drop_left, String.ofList_toList, and_self]

namespace Reads

variable (hr : Reads mode cs kind text rest) (h : b.Before cs)
include hr h

theorem upcoming_matches : (b.upcoming mode).Matches kind text := by
  obtain ⟨hkind, htext, hline, -⟩ := hr b.position h.2
  exact ⟨hkind, htext, hline⟩

/-- Consuming the token that the text starts with. -/
theorem answers_consume :
    Answers (TokenBuffer.Before rest) (·.Matches kind text) (TokenParser.consume mode b) := by
  obtain ⟨t, c, ht, -, rfl, hc⟩ := succeeds_consume_any mode (.refl h.1)
  obtain ⟨-, -, -, hrest⟩ := hr b.position h.2
  have hpos : c.position = (readToken mode b.position).stop := hc.position
  rw [ht]
  exact ⟨hr.upcoming_matches h, hc.coherent, by rw [hpos, hrest]⟩

theorem answers_skip : Answers (TokenBuffer.Before rest) (fun _ => True)
    (Functor.discard (TokenParser.consume mode) b) :=
  (hr.answers_consume h).bind fun _ _ _ hc => .pure trivial hc

/-- Looking at the token that the text starts with. -/
theorem answers_peek :
    Answers (TokenBuffer.Before cs) (·.Matches kind text) (TokenParser.peek mode b) := by
  obtain ⟨t, c, ht, -, rfl, hc⟩ := succeeds_peek_any mode (.refl h.1)
  rw [ht]
  exact ⟨hr.upcoming_matches h, h.unread hc⟩

theorem answers_peekKind : Answers (TokenBuffer.Before cs) (· = kind) (peekKind mode b) :=
  (hr.answers_peek h).bind fun _ _ ht hc => .pure ht.kind_eq hc

/-- The text starts with the sign. -/
theorem answers_acceptPunct {q : Punctuator} (hq : kind = .punct q) :
    Answers (TokenBuffer.Before rest) (· = true) (acceptPunct q mode b) := by
  have hif : Answers (TokenBuffer.Before rest) (·.isSome = true)
      (consumeIf (·.kind == .punct q) mode b) := by
    refine (hr.answers_peek h).bind fun t c ht hc => ?_
    refine .ite (fun _ => ?_) fun hne => absurd (by simp [ht.kind_eq, hq]) hne
    exact (hr.answers_consume hc).bind fun _ _ _ hd => .pure rfl hd
  exact hif.bind fun _ _ ho hc => .pure ho hc

/-- The text starts with another token. -/
theorem answers_acceptPunct_of_ne {q : Punctuator} (hq : kind ≠ .punct q) :
    Answers (TokenBuffer.Before cs) (· = false) (acceptPunct q mode b) := by
  have hif : Answers (TokenBuffer.Before cs) (·.isSome = false)
      (consumeIf (·.kind == .punct q) mode b) := by
    refine (hr.answers_peek h).bind fun t c ht hc => ?_
    refine .ite (fun hk => absurd ?_ hq) fun _ => .pure rfl hc
    rw [← ht.kind_eq]
    simpa using hk
  exact hif.bind fun _ _ ho hc => .pure ho hc

theorem answers_expect :
    Answers (TokenBuffer.Before rest) (·.Matches kind text) (expect kind mode b) := by
  refine (hr.answers_consume h).bind fun t c ht hc => ?_
  exact .ite (fun _ => .pure ht hc) fun hne => absurd (by simp [ht.kind_eq]) hne

theorem answers_expectPunct {q : Punctuator} (hq : kind = .punct q) :
    Answers (TokenBuffer.Before rest) (fun _ => True) (expectPunct q mode b) := by
  subst hq
  exact (hr.answers_expect h).bind fun _ _ _ hc => .pure trivial hc

end Reads

/-! ### Tokens of a known text -/

namespace TokenBuffer.Before

section

variable (h : b.Before cs) (hl : LexesTo mode cs kind text rest) (hm : mode.skipsTrivia = true)
include h hl hm

theorem upcoming_matches : (b.upcoming mode).Matches kind text :=
  (hl.reads hm).upcoming_matches h

theorem answers_consume :
    Answers (Before rest) (·.Matches kind text) (TokenParser.consume mode b) :=
  (hl.reads hm).answers_consume h

theorem answers_skip : Answers (Before rest) (fun _ => True)
    (Functor.discard (TokenParser.consume mode) b) :=
  (hl.reads hm).answers_skip h

theorem answers_peek :
    Answers (Before cs) (·.Matches kind text) (TokenParser.peek mode b) :=
  (hl.reads hm).answers_peek h

end

section

variable (h : b.Before cs) (hl : LexesTo .standard cs kind text rest)
include h hl

theorem answers_peekKind : Answers (Before cs) (· = kind) (peekKind .standard b) :=
  (hl.reads rfl).answers_peekKind h

theorem answers_acceptPunct {q : Punctuator} (hq : kind = .punct q) :
    Answers (Before rest) (· = true) (acceptPunct q .standard b) :=
  (hl.reads rfl).answers_acceptPunct h hq

theorem answers_acceptPunct_of_ne {q : Punctuator} (hq : kind ≠ .punct q) :
    Answers (Before cs) (· = false) (acceptPunct q .standard b) :=
  (hl.reads rfl).answers_acceptPunct_of_ne h hq

theorem answers_expect :
    Answers (Before rest) (·.Matches kind text) (expect kind .standard b) :=
  (hl.reads rfl).answers_expect h

theorem answers_expectPunct {q : Punctuator} (hq : kind = .punct q) :
    Answers (Before rest) (fun _ => True) (expectPunct q .standard b) :=
  (hl.reads rfl).answers_expectPunct h hq

/-- Looking at two tokens, of which the text starts with the first. -/
theorem answers_peekFirst :
    Answers (Before cs) (fun ts => ts.1.Matches kind text) (peekTwo b) := by
  obtain ⟨ts, c, ht, -, rfl, hc⟩ := succeeds_peekTwo (.refl h.1)
  rw [ht]
  exact ⟨h.upcoming_matches hl rfl, h.unread hc⟩

/-- Looking at the two tokens that the text starts with. -/
theorem answers_peekTwo {kind' : TokenKind} {text' : String} {rest' : List Char}
    (hl' : LexesTo .standard rest kind' text' rest') :
    Answers (Before cs)
      (fun ts => ts.1.Matches kind text ∧ ts.2.Matches kind' text') (peekTwo b) := by
  obtain ⟨ts, c, ht, -, rfl, hc⟩ := succeeds_peekTwo (.refl h.1)
  obtain ⟨-, -, -, hrest⟩ := hl.readToken_eq rfl h.2
  obtain ⟨hkind, htext, hline, -⟩ := hl'.readToken_eq rfl hrest
  rw [ht]
  exact ⟨⟨h.upcoming_matches hl rfl, hkind, htext, hline⟩, h.unread hc⟩

end

end TokenBuffer.Before

/-! ### Where an expression ends -/

variable {ends : List TokenKind}

/-- Where a token comes next that does not go on with an expression, nothing is read. -/
theorem answers_tailEnd (r : Rules) (ctx : Context) (least : Nat) (hb : b.Coherent)
    (hk : (b.upcoming .standard).kind ∈ ends ∨
      Rules.updateOperator? (b.upcoming .standard).kind = none ∧
        (b.upcoming .standard).kind.infixOperator? = none) (e : Expr) :
    ∀ n, Answers (b.Consumes []) (· = e) (r.operatorTail ctx least ends e n b)
  | 0 => rfl
  | n + 1 => by
    obtain ⟨t, c, ht, hkeeps, rfl, -⟩ := succeeds_consume_any .standard (.refl hb)
    have htail : r.operatorTail ctx least ends e (n + 1) b = _ :=
      (bind_of_ok (p := mark) rfl).trans (bind_of_ok ht)
    have hback : Answers (b.Consumes []) (· = e) (EStateM.Result.ok e (c.restore b.mark)) :=
      ⟨rfl, hkeeps.restore⟩
    rw [htail]
    refine .ite (fun _ => hback) fun hnot => ?_
    obtain ⟨hupdate, hoperator⟩ := hk.resolve_left hnot
    rw [hupdate, hoperator]
    exact hback

/-- In front of a text that does not go on with an expression, the expression is complete. -/
theorem answers_stop {r : Rules} {ctx : Context} {least : Nat} {P : Expr → Prop} {e : Expr}
    (h : b.Before cs) (hl : LexesTo .standard cs kind text rest)
    (hk : kind ∈ ends ∨ Rules.updateOperator? kind = none ∧ kind.infixOperator? = none) (he : P e)
    (n : Nat) : Answers (TokenBuffer.Before cs) P (r.operatorTail ctx least ends e n b) := by
  rw [← (h.upcoming_matches hl rfl).kind_eq] at hk
  refine (answers_tailEnd r ctx least h.1 hk e n).mono (fun c hc => h.unread hc) ?_
  rintro _ rfl
  exact he

end ImportSeam
