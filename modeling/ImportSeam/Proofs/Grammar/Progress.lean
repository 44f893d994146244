import ImportSeam.Proofs.Grammar.Logic
import ImportSeam.Proofs.Token.Place

/-!
# Parsers that make progress

The bound that the grammar is given is never used up, because every repetition and every use of a
rule has taken characters away before.  `Safe` is the judgement that carries the count: a success
consumed tokens that are not malformed, and a failure names a place in the source and is not that of
a bound used up.  How much is left is compared in the property of the result, so that a production
says for itself how much it takes.

## Main definitions

* `SyntaxError.Sane` — an error about a place in the source.
* `TokenBuffer.Takes` — the tokens consumed in between are not malformed.
* `SafeFrom`, `Safe` — parsers that fail with sane errors only.

## Main results

* `Safe.bind` — the rule for one parser after another.
* `Safe.collect`, `Safe.separated` — repetitions whose bound exceeds what is left.
-/

namespace ImportSeam

open TokenParser BufferedToken

variable {α β : Type} {src : Cursor} {b b' b₀ b₁ : TokenBuffer}

/-! ### Errors -/

/-- The error is about a place in the source, and not about a bound that was used up. -/
structure SyntaxError.Sane (src : Cursor) (e : SyntaxError) : Prop where
  within : e.loc.Within src
  genuine : e.isExhausted = false

theorem Token.error_sane {t : Token} (h : t.loc.Within src) (cause : SyntaxError.Cause) :
    (t.error cause).Sane src :=
  ⟨h, by simp [SyntaxError.isExhausted, Token.error]⟩

theorem Loc.error_sane {l : Loc} {cause : SyntaxError.Cause} (h : l.Within src)
    (hc : cause ≠ .unexpectedEnd) : (l.error cause).Sane src :=
  ⟨h, by simp [SyntaxError.isExhausted, Loc.error, hc]⟩

/-! ### What is consumed -/

/-- The second buffer is the first after consuming tokens that are not malformed. -/
def TokenBuffer.Takes (b b' : TokenBuffer) : Prop :=
  ∃ ts, b.Consumes ts b' ∧ ∀ t ∈ ts, t.token.kind ≠ .invalid

namespace TokenBuffer.Takes

theorem of_nil (h : b.Consumes [] b') : b.Takes b' := ⟨[], h, by simp⟩

theorem refl (h : b.Coherent) : b.Takes b := of_nil (.refl h)

theorem of_read {mode : LexMode} (h : b.Consumes [.read mode b.position] b')
    (hk : (b.upcoming mode).kind ≠ .invalid) : b.Takes b' := by
  refine ⟨_, h, fun t ht => ?_⟩
  obtain rfl := List.mem_singleton.1 ht
  exact hk

theorem trans (h : b₀.Takes b) (h' : b.Takes b') : b₀.Takes b' := by
  obtain ⟨ts, hts, hts'⟩ := h
  obtain ⟨us, hus, hus'⟩ := h'
  refine ⟨ts ++ us, hts.trans hus, fun t ht => ?_⟩
  rcases List.mem_append.1 ht with ht | ht
  · exact hts' t ht
  · exact hus' t ht

theorem keeps (h : b.Takes b') : b.Keeps b' := by
  obtain ⟨ts, hts, -⟩ := h
  exact ⟨ts, hts⟩

/-- Nothing that was taken is left any more, and no mark goes back. -/
theorem bounds (h : b.Takes b') : b'.left ≤ b.left ∧ b.mark ≤ b'.mark := by
  obtain ⟨ts, hts, -⟩ := h
  refine ⟨hts.left_le, ?_⟩
  rw [hts.mark]
  exact Nat.le_add_right _ _

end TokenBuffer.Takes

theorem TokenBuffer.Keeps.source (h : b.Keeps b') : b'.source = b.source := by
  obtain ⟨ts, hts⟩ := h
  exact hts.source

/-! ### The judgement -/

/-- What a result has to be: the buffer keeps the one at the start, a success has the property, and
an error is sane. -/
def EndsSafely (src : Cursor) (b₀ : TokenBuffer) (Q : α → TokenBuffer → Prop) :
    EStateM.Result SyntaxError TokenBuffer α → Prop
  | .ok a b' => b₀.Keeps b' ∧ Q a b'
  | .error e b' => b₀.Keeps b' ∧ e.Sane src

/-- A parser of a source that runs on a buffer reached from `b₀`, and may go back up to there. -/
def SafeFrom (src : Cursor) (b₀ b : TokenBuffer) (p : TokenParser α)
    (Q : α → TokenBuffer → Prop) : Prop :=
  b₀.source = src → b₀.Keeps b → EndsSafely src b₀ Q (p b)

/-- A parser of a source that starts here and consumes well-formed tokens only if it succeeds. -/
def Safe (src : Cursor) (b : TokenBuffer) (p : TokenParser α) (Q : α → TokenBuffer → Prop) : Prop :=
  SafeFrom src b b p fun a b' => b.Takes b' ∧ Q a b'

variable {p : TokenParser α} {f : α → TokenParser β} {Q R : α → TokenBuffer → Prop}
  {S : β → TokenBuffer → Prop}

theorem Safe.intro (h : b.source = src → b.Coherent → Safe src b p Q) : Safe src b p Q :=
  fun hs hb => h hs hb.coherent hs hb

theorem SafeFrom.mono (h : SafeFrom src b₀ b p R) (himp : ∀ a b', R a b' → Q a b') :
    SafeFrom src b₀ b p Q := by
  intro hs hb
  have hout := h hs hb
  cases hp : p b with
  | ok a b' =>
    rw [hp] at hout
    exact ⟨hout.1, himp a b' hout.2⟩
  | error e b' =>
    rw [hp] at hout
    exact hout

theorem Safe.mono (h : Safe src b p R)
    (himp : ∀ a b', b'.left ≤ b.left ∧ b.mark ≤ b'.mark → R a b' → Q a b') : Safe src b p Q :=
  SafeFrom.mono h fun a b' ha => ⟨ha.1, himp a b' ha.1.bounds ha.2⟩

/-- What holds from here on holds from where a parser came from. -/
theorem Safe.widen (h : Safe src b p Q) :
    SafeFrom src b₀ b p fun a b' => b.Takes b' ∧ Q a b' := by
  intro hs hb
  have hout := h (hb.source.trans hs) (.refl hb.coherent)
  cases hp : p b with
  | ok a b' =>
    rw [hp] at hout
    exact ⟨hb.trans hout.1, hout.2⟩
  | error e b' =>
    rw [hp] at hout
    exact ⟨hb.trans hout.1, hout.2⟩

/-- A parser that follows on tokens taken. -/
theorem Safe.after (ht : b₀.Takes b) (h : Safe src b p Q) :
    SafeFrom src b₀ b p fun a b' => b₀.Takes b' ∧ Q a b' :=
  h.widen.mono fun _ _ ha => ⟨ht.trans ha.1, ha.2⟩

/-! ### The rules -/

/-- One parser after another, where both may go back as far. -/
theorem SafeFrom.chain (hp : SafeFrom src b₀ b p R)
    (hf : ∀ a b', R a b' → SafeFrom src b₀ b' (f a) S) : SafeFrom src b₀ b (p >>= f) S := by
  intro hs hb
  have hout := hp hs hb
  change EndsSafely src b₀ S (EStateM.bind p f b)
  unfold EStateM.bind
  cases hpb : p b with
  | ok a b' =>
    rw [hpb] at hout
    exact hf a b' hout.2 hs hout.1
  | error e b' =>
    rw [hpb] at hout
    exact hout

/-- One parser after another. -/
theorem Safe.bind (hp : Safe src b p R)
    (hf : ∀ a b', b'.left ≤ b.left ∧ b.mark ≤ b'.mark → R a b' → Safe src b' (f a) S) :
    Safe src b (p >>= f) S :=
  SafeFrom.chain hp fun a b' ha => (hf a b' ha.1.bounds ha.2).after ha.1

theorem SafeFrom.pure {a : α} (h : Q a b) : SafeFrom src b₀ b (Pure.pure a) Q :=
  fun _ hb => ⟨hb, h⟩

theorem Safe.pure {a : α} (h : Q a b) : Safe src b (Pure.pure a) Q :=
  fun _ hb => ⟨hb, .refl hb.coherent, h⟩

theorem SafeFrom.throw {e : SyntaxError} (h : e.Sane src) :
    SafeFrom src b₀ b (MonadExcept.throw e) Q := fun _ hb => ⟨hb, h⟩

theorem Safe.throw {e : SyntaxError} (h : e.Sane src) : Safe src b (MonadExcept.throw e) Q :=
  SafeFrom.throw h

/-- A token is rejected where it stands. -/
theorem Safe.reject {t : Token} {cause : SyntaxError.Cause} (h : t.loc.Within src) :
    Safe src b (MonadExcept.throw (t.error cause)) Q := .throw (t.error_sane h cause)

theorem SafeFrom.ite {c : Prop} [Decidable c] {q : TokenParser α}
    (ht : c → SafeFrom src b₀ b p Q) (he : ¬c → SafeFrom src b₀ b q Q) :
    SafeFrom src b₀ b (if c then p else q) Q := by
  split
  · next h => exact ht h
  · next h => exact he h

theorem Safe.ite {c : Prop} [Decidable c] {q : TokenParser α} (ht : c → Safe src b p Q)
    (he : ¬c → Safe src b q Q) : Safe src b (if c then p else q) Q := SafeFrom.ite ht he

/-- What follows a choice can be read once for both branches. -/
theorem Safe.join {c : Prop} [Decidable c] {q : TokenParser α}
    (h : Safe src b ((if c then p else q) >>= f) S) :
    Safe src b (if c then p >>= f else q >>= f) S := by
  split <;> simp_all

theorem Safe.map {g : α → β} (h : Safe src b p fun a b' => S (g a) b') :
    Safe src b (g <$> p) S := by
  rw [map_eq_pure_bind]
  exact h.bind fun a b' _ hS => .pure hS

theorem Safe.discard {T : TokenBuffer → Prop} (h : Safe src b p fun _ b' => T b') :
    Safe src b (Functor.discard p) fun _ b' => T b' := Safe.map h

/-- A failure is caught: the second parser starts where the first one failed. -/
theorem SafeFrom.tryCatch {q : SyntaxError → TokenParser α} (hp : SafeFrom src b₀ b p Q)
    (hq : ∀ e b', e.Sane src → SafeFrom src b₀ b' (q e) Q) :
    SafeFrom src b₀ b (MonadExcept.tryCatch p q) Q := by
  intro hs hb
  have hout := hp hs hb
  change EndsSafely src b₀ Q (EStateM.tryCatch p q b)
  unfold EStateM.tryCatch
  cases hpb : p b with
  | ok a b' =>
    rw [hpb] at hout
    exact hout
  | error e b' =>
    rw [hpb] at hout
    exact hq e b' hout.2 hs hout.1

/-- A parser that never fails is as safe as it runs well. -/
theorem Runs.safeFrom (h : Runs b p Q) (hok : ∀ e b', p b ≠ .error e b') :
    SafeFrom src b₀ b p Q := by
  intro _ hb
  have hout := h.widen hb
  cases hp : p b with
  | ok a b' =>
    rw [hp] at hout
    exact ⟨hout.1, hout.2.2⟩
  | error e b' => exact absurd hp (hok e b')

/-! ### Single tokens -/

/-- Looking at the next token. -/
theorem safe_peek (mode : LexMode) : Safe src b (peek mode) fun t b' =>
    t = b'.upcoming mode ∧ t.loc.Within src ∧ b'.position = b.position := by
  refine .intro fun hs hb => ?_
  refine (Runs.safeFrom (runs_peek mode) fun _ _ => nofun).mono fun t b' h => ?_
  refine ⟨.of_nil h.2, h.1.trans (h.2.upcoming mode).symm, ?_, h.2.position⟩
  rw [h.1, ← hs]
  exact hb.upcoming_within mode

theorem safe_peekKind (mode : LexMode) : Safe src b (peekKind mode) fun k b' =>
    k = (b'.upcoming mode).kind ∧ b'.position = b.position :=
  (safe_peek mode).bind fun _ _ _ h => .pure ⟨congrArg Token.kind h.1, h.2.2⟩

theorem safe_peekTwo : Safe src b peekTwo fun ts b' =>
    ts = (b'.upcoming .standard, b'.second) ∧ ts.1.loc.Within src ∧ b'.position = b.position := by
  refine .intro fun hs hb => ?_
  refine (Runs.safeFrom runs_peekTwo fun _ _ => nofun).mono fun ts b' h => ?_
  refine ⟨.of_nil h.2, ?_, ?_, h.2.position⟩
  · rw [h.1, h.2.upcoming, TokenBuffer.second, TokenBuffer.second, h.2.position, endOf]
  · rw [h.1, ← hs]
    exact hb.upcoming_within .standard

/-- Consuming a token whatever it is, which may be taken back. -/
theorem safeFrom_consume (mode : LexMode) : SafeFrom src b₀ b (consume mode) fun t b' =>
    t = b.upcoming mode ∧ b.Consumes [.read mode b.position] b' :=
  Runs.safeFrom (runs_consume mode) fun _ _ => nofun

/-- Consuming a token and going on only if it is solid. -/
theorem Safe.consume {f : Token → TokenParser β} (mode : LexMode)
    (hok : (b.upcoming mode).kind.Solid → (b.upcoming mode).loc.Within src →
      ∀ b', b'.left < b.left ∧ b.mark ≤ b'.mark → Safe src b' (f (b.upcoming mode)) S)
    (hbad : ¬(b.upcoming mode).kind.Solid → (b.upcoming mode).loc.Within src →
      ∀ b', b'.left ≤ b.left → Safe src b' (f (b.upcoming mode)) fun _ _ => False) :
    Safe src b (TokenParser.consume mode >>= f) S := by
  refine .intro fun hs hb => ?_
  have hw : (b.upcoming mode).loc.Within src := hs ▸ hb.upcoming_within mode
  refine SafeFrom.chain (safeFrom_consume mode) fun t b' h => ?_
  obtain ⟨rfl, h⟩ := h
  by_cases hk : (b.upcoming mode).kind.Solid
  · -- the token took up characters, so what follows goes on from there
    have ht : b.Takes b' := .of_read h hk.2
    exact (hok hk hw b' ⟨h.left_lt hk, ht.bounds.2⟩).after ht
  · -- any other token is consumed only on the way to an error
    exact (hbad hk hw b' h.left_le).widen.mono fun _ _ hf => hf.2.elim

/-- Consuming a token that is known to be solid. -/
theorem safe_take {mode : LexMode} (hk : (b.upcoming mode).kind.Solid) :
    Safe src b (consume mode) fun t b' =>
      t = b.upcoming mode ∧ t.loc.Within src ∧ b'.left < b.left := by
  refine .intro fun hs hb => ?_
  refine (safeFrom_consume mode).mono fun t b' h => ?_
  refine ⟨.of_read h.2 hk.2, h.1, ?_, h.2.left_lt hk⟩
  rw [h.1, ← hs]
  exact hb.upcoming_within mode

theorem safe_skip {mode : LexMode} (hk : (b.upcoming mode).kind.Solid) :
    Safe src b (Functor.discard (consume mode)) fun _ b' => b'.left < b.left :=
  .discard ((safe_take hk).mono fun _ _ _ h => h.2.2)

theorem safe_mark : Safe src b mark fun n b' => n = b.mark ∧ b' = b :=
  fun _ hb => ⟨hb, .refl hb.coherent, rfl, rfl⟩

/-- A range of tokens consumed lies in the source. -/
theorem safe_since {place : Nat} (h : place ≤ b.mark) :
    Safe src b (since place) fun loc b' => loc.Within src ∧ b' = b :=
  fun hs hb => ⟨hb, .refl hb.coherent, hs ▸ hb.coherent.since_within h, rfl⟩

/-- Going back to where everything started. -/
theorem SafeFrom.restore :
    SafeFrom src b₀ b (TokenParser.restore b₀.mark) fun _ b' => b₀.Consumes [] b' := by
  rintro - ⟨ts, hts⟩
  exact ⟨⟨_, hts.restore⟩, hts.restore⟩

theorem solid_punct (q : Punctuator) : (TokenKind.punct q).Solid := ⟨nofun, nofun⟩

theorem solid_keyword (k : Keyword) : (TokenKind.keyword k).Solid := ⟨nofun, nofun⟩

theorem solid_ident : TokenKind.ident.Solid := ⟨nofun, nofun⟩

theorem solid_str : TokenKind.str.Solid := ⟨nofun, nofun⟩

theorem solid_num : TokenKind.num.Solid := ⟨nofun, nofun⟩

theorem solid_bigInt : TokenKind.bigInt.Solid := ⟨nofun, nofun⟩

theorem solid_regex : TokenKind.regex.Solid := ⟨nofun, nofun⟩

theorem solid_templateChunk : TokenKind.templateChunk.Solid := ⟨nofun, nofun⟩

theorem solid_templateEnd : TokenKind.templateEnd.Solid := ⟨nofun, nofun⟩

theorem solid_jsxText : TokenKind.jsxText.Solid := ⟨nofun, nofun⟩

theorem solid_jsxCloseStart : TokenKind.jsxCloseStart.Solid := ⟨nofun, nofun⟩

/-- Consuming the next token under a condition that only solid tokens meet. -/
theorem safe_consumeIf {c : Token → Bool} {mode : LexMode}
    (hc : c (b.upcoming mode) = true → (b.upcoming mode).kind.Solid) :
    Safe src b (consumeIf c mode) fun t b' => t.isSome = true → b'.left < b.left := by
  refine (safe_peek mode).bind fun t b₁ _ h₁ => ?_
  obtain ⟨rfl, -, hpos⟩ := h₁
  -- looking ahead did not move the buffer, so the condition is about the same token
  have hup : b₁.upcoming mode = b.upcoming mode := by
    rw [TokenBuffer.upcoming, TokenBuffer.upcoming, hpos]
  refine .ite (fun h => ?_) fun _ => .pure (by simp)
  rw [hup] at h
  refine (safe_take (hup ▸ hc h)).bind fun t b₂ _ h₂ => .pure fun _ => ?_
  omega

theorem safe_accept {kind : TokenKind} (hk : kind.Solid) (mode : LexMode) :
    Safe src b (accept kind mode) fun ok b' => ok = true → b'.left < b.left := by
  refine (safe_consumeIf fun h => ?_).bind fun t b' _ h => .pure h
  have hkind : (b.upcoming mode).kind = kind := by simpa using h
  exact hkind ▸ hk

theorem safe_acceptPunct (q : Punctuator) (mode : LexMode) :
    Safe src b (acceptPunct q mode) fun ok b' => ok = true → b'.left < b.left :=
  safe_accept (solid_punct q) mode

theorem safe_acceptKeyword (k : Keyword) :
    Safe src b (acceptKeyword k) fun ok b' => ok = true → b'.left < b.left :=
  safe_accept (solid_keyword k) .standard

theorem Token.solid_of_isWord {t : Token} {word : String} (h : t.isWord word = true) :
    t.kind.Solid := by
  simp only [Token.isWord, Bool.and_eq_true, beq_iff_eq] at h
  exact h.1 ▸ solid_ident

theorem safe_acceptWord (word : String) :
    Safe src b (acceptWord word) fun ok b' => ok = true → b'.left < b.left :=
  (safe_consumeIf Token.solid_of_isWord).bind fun _ _ _ h => .pure h

theorem safe_expect {kind : TokenKind} (hk : kind.Solid) (mode : LexMode) :
    Safe src b (expect kind mode) fun t b' =>
      t = b.upcoming mode ∧ t.kind = kind ∧ t.loc.Within src ∧ b'.left < b.left := by
  refine .consume mode (fun _ hw b' hlt => ?_) fun hbad hw b' _ => ?_
  · exact .ite (fun h => .pure ⟨rfl, by simpa using h, hw, hlt.1⟩) fun _ => .reject hw
  · refine .ite (fun h => ?_) fun _ => .reject hw
    have hkind : (b.upcoming mode).kind = kind := by simpa using h
    exact absurd (hkind ▸ hk) hbad

theorem safe_expectPunct (q : Punctuator) (mode : LexMode) :
    Safe src b (expectPunct q mode) fun _ b' => b'.left < b.left :=
  .discard ((safe_expect (solid_punct q) mode).mono fun _ _ _ h => h.2.2.2)

theorem safe_expectKeyword (k : Keyword) :
    Safe src b (expectKeyword k) fun _ b' => b'.left < b.left :=
  .discard ((safe_expect (solid_keyword k) .standard).mono fun _ _ _ h => h.2.2.2)

theorem safe_expectWord (word : String) :
    Safe src b (Functor.discard (expectWord word)) fun _ b' => b'.left < b.left := by
  refine .discard (.consume .standard (fun _ hw b' hlt => ?_) fun hbad hw b' _ => ?_)
  · exact .ite (fun _ => .pure hlt.1) fun _ => .reject hw
  · exact .ite (fun h => absurd (Token.solid_of_isWord h) hbad) fun _ => .reject hw

/-- The end of a statement takes a semicolon or nothing. -/
theorem safe_semicolon : Safe src b semicolon fun _ _ => True := by
  refine (safe_peek .standard).bind fun t b₁ _ h₁ => ?_
  obtain ⟨rfl, hw, -⟩ := h₁
  refine .ite (fun h => ?_) fun _ => .ite (fun _ => .pure trivial) fun _ => .reject hw
  have hkind : (b₁.upcoming .standard).kind = .punct .semicolon := by simpa using h
  exact (safe_skip (hkind ▸ solid_punct _)).mono fun _ _ _ _ => trivial

/-! ### Combinations -/

theorem Safe.spanning {p : TokenParser (Loc → α)}
    (h : Safe src b p fun build b' => ∀ loc, loc.Within src → Q (build loc) b') :
    Safe src b (spanning p) Q := by
  refine safe_mark.bind fun start b₁ _ h₁ => ?_
  obtain ⟨rfl, rfl⟩ := h₁
  refine h.bind fun build b₂ hle h₂ => ?_
  -- what was read in between only moved the position forward from the mark
  refine (safe_since hle.2).bind fun loc b₃ _ h₃ => ?_
  obtain ⟨hw, rfl⟩ := h₃
  exact .pure (h₂ loc hw)

theorem Safe.optionally {T : Option α → TokenBuffer → Prop} {flag : Bool}
    (h : flag = true → Safe src b p fun a b' => T (some a) b') (hn : flag = false → T none b) :
    Safe src b (optionally flag p) T :=
  .ite (fun hf => .map (h hf)) fun hf => .pure (hn (by simpa using hf))

/-- What an item of a repetition has to be: it takes characters away, and where there is none, the
property holds. -/
def Advances (b : TokenBuffer) (N : TokenBuffer → Prop) : Option α → TokenBuffer → Prop
  | some _, b' => b'.left < b.left
  | none, b' => N b'

theorem Safe.found {N : TokenBuffer → Prop} {a : α} (h : b'.left < b.left) :
    Safe src b' (Pure.pure (some a)) (Advances b N) := .pure h

theorem Safe.ended {N : TokenBuffer → Prop} (h : N b') :
    Safe src b' (Pure.pure (none : Option α)) (Advances b N) := .pure h

/-- Items until there is none left, where every item takes characters away: a bound that exceeds
what is left is not used up. -/
theorem Safe.collect {item? : TokenParser (Option α)} {N : TokenBuffer → Prop} :
    ∀ (n : Nat) (b : TokenBuffer), b.left < n →
      (∀ b', b'.left ≤ b.left → Safe src b' item? (Advances b' N)) →
      Safe src b (collect n item?) fun _ b' => N b'
  | 0, _, hn, _ => absurd hn (Nat.not_lt_zero _)
  | n + 1, b, hn, h => by
    refine (h b (Nat.le_refl _)).bind fun o b₁ _ h₁ => ?_
    cases o with
    | none => exact .pure h₁
    | some a =>
      -- the item took a character, so one round less is enough for the rest
      have hlt : b₁.left < b.left := h₁
      have hrest := Safe.collect n b₁ (by omega) fun b' hb' => h b' (by omega)
      exact hrest.bind fun l b₂ _ h₂ => .pure h₂

/-- Items with commas between them take at least the closing token, and every comma takes characters
away. -/
theorem Safe.separated {item : TokenParser α} {P : α → Prop} (close : Punctuator) :
    ∀ (n : Nat) (b : TokenBuffer), b.left < n →
      (∀ b', b'.left ≤ b.left → Safe src b' item fun a _ => P a) →
      Safe src b (separated n close item) fun l b' => b'.left < b.left ∧ ∀ a ∈ l, P a
  | 0, _, hn, _ => absurd hn (Nat.not_lt_zero _)
  | n + 1, b, hn, h => by
    refine (safe_acceptPunct close .standard).bind fun ok b₁ _ h₁ => ?_
    refine .ite (fun hok => .pure ⟨h₁ hok, by simp⟩) fun _ => ?_
    refine (h b₁ (by omega)).bind fun a b₂ _ ha => ?_
    refine (safe_acceptPunct .comma .standard).bind fun ok b₃ _ h₃ =>
      .ite (fun hok => ?_) fun _ => ?_
    · -- nothing is said about the length of an item: it is the comma that pays for the round
      have hlt := h₃ hok
      refine (Safe.separated close n b₃ (by omega) fun b' hb' => h b' (by omega)).bind
        fun l b₄ _ hl => .pure ⟨by omega, ?_⟩
      simp only [List.mem_cons, forall_eq_or_imp]
      exact ⟨ha, hl.2⟩
    · refine (safe_expectPunct close .standard).bind fun _ b₄ _ _ => .pure ⟨by omega, ?_⟩
      simpa using ha

end ImportSeam
