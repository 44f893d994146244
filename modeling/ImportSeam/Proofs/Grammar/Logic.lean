import ImportSeam.Grammar.Parser
import ImportSeam.Proofs.Token.Buffer

/-!
# What a parser guarantees

A parser starts with a coherent buffer and leaves a coherent one, whether it succeeds or fails, and
what it consumed stays consumed unless it goes back to a mark of its own.  `Runs` says this
together with a property of the result, and there is one rule for each way parsers are put
together; a production is then reasoned about line by line.

## Main definitions

* `TokenBuffer.Keeps` — one buffer is another with possibly more tokens consumed.
* `RunsFrom` — a parser that started somewhere back and may go back up to there.
* `Runs` — a parser that starts here.

## Main results

* `RunsFrom.bind` — the rule for one parser after another.
* `runs_spanning`, `runs_collect`, `runs_separated` — the rules for the combinations.
-/

namespace ImportSeam

open TokenParser

variable {α β : Type} {b b' b₀ b₁ : TokenBuffer}

/-- The second buffer is the first with possibly more tokens consumed. -/
def TokenBuffer.Keeps (b b' : TokenBuffer) : Prop := ∃ ts, b.Consumes ts b'

namespace TokenBuffer.Keeps

theorem refl (h : b.Coherent) : b.Keeps b := ⟨[], .refl h⟩

theorem trans (h : b₀.Keeps b) (h' : b.Keeps b') : b₀.Keeps b' := by
  obtain ⟨ts, hts⟩ := h
  obtain ⟨us, hus⟩ := h'
  exact ⟨ts ++ us, hts.trans hus⟩

theorem coherent (h : b.Keeps b') : b'.Coherent := by
  obtain ⟨ts, hts⟩ := h
  exact hts.coherent

end TokenBuffer.Keeps

/-- What a result has to be: the buffer keeps the one at the start, and a success has the
property. -/
def EndsWell (b₀ : TokenBuffer) (Q : α → TokenBuffer → Prop) :
    EStateM.Result SyntaxError TokenBuffer α → Prop
  | .ok a b' => b₀.Keeps b' ∧ Q a b'
  | .error _ b' => b₀.Keeps b'

/-- A parser that runs on a buffer reached from `b₀` keeps `b₀`, and its result has the
property. -/
def RunsFrom (b₀ b : TokenBuffer) (p : TokenParser α) (Q : α → TokenBuffer → Prop) : Prop :=
  b₀.Keeps b → EndsWell b₀ Q (p b)

/-- A parser keeps the buffer it starts with, and its result has the property. -/
def Runs (b : TokenBuffer) (p : TokenParser α) (Q : α → TokenBuffer → Prop) : Prop :=
  RunsFrom b b p Q

variable {p : TokenParser α} {f : α → TokenParser β} {Q R : α → TokenBuffer → Prop}
  {S : β → TokenBuffer → Prop}

/-! ### The rules -/

/-- What was proved from here on holds also for a start further back. -/
theorem Runs.widen (h : Runs b p Q) :
    RunsFrom b₀ b p fun a b' => b.Keeps b' ∧ Q a b' := by
  intro hb
  have hout := h (.refl hb.coherent)
  cases hp : p b with
  | ok a b' =>
    rw [hp] at hout
    exact ⟨hb.trans hout.1, hout⟩
  | error e b' =>
    rw [hp] at hout
    exact hb.trans hout

theorem RunsFrom.mono (h : RunsFrom b₀ b p R) (himp : ∀ a b', b₀.Keeps b' → R a b' → Q a b') :
    RunsFrom b₀ b p Q := by
  intro hb
  have hout := h hb
  cases hp : p b with
  | ok a b' =>
    rw [hp] at hout
    exact ⟨hout.1, himp a b' hout.1 hout.2⟩
  | error e b' =>
    rw [hp] at hout
    exact hout

theorem Runs.mono (h : Runs b p R) (himp : ∀ a b', b.Keeps b' → R a b' → Q a b') : Runs b p Q :=
  RunsFrom.mono h himp

/-- One parser after another, where the first may go back as far as both together. -/
theorem RunsFrom.chain (hp : RunsFrom b₀ b p R)
    (hf : ∀ a b', b₀.Keeps b' → R a b' → RunsFrom b₀ b' (f a) S) :
    RunsFrom b₀ b (p >>= f) S := by
  intro hb
  have hout := hp hb
  change EndsWell b₀ S (EStateM.bind p f b)
  unfold EStateM.bind
  cases hpb : p b with
  | ok a b' =>
    rw [hpb] at hout
    exact hf a b' hout.1 hout.2 hout.1
  | error e b' =>
    rw [hpb] at hout
    exact hout

/-- One parser after another. -/
theorem RunsFrom.bind (hp : Runs b p R)
    (hf : ∀ a b', b.Keeps b' → R a b' → RunsFrom b₀ b' (f a) S) :
    RunsFrom b₀ b (p >>= f) S :=
  RunsFrom.chain hp.widen fun a b' _ h => hf a b' h.1 h.2

theorem Runs.bind (hp : Runs b p R) (hf : ∀ a b', b.Keeps b' → R a b' → Runs b' (f a) S) :
    Runs b (p >>= f) S :=
  RunsFrom.bind hp fun a b' hb h => (hf a b' hb h).widen.mono fun _ _ _ hS => hS.2

theorem RunsFrom.pure {a : α} (h : Q a b) : RunsFrom b₀ b (Pure.pure a) Q := fun hb => ⟨hb, h⟩

theorem Runs.pure {a : α} (h : Q a b) : Runs b (Pure.pure a) Q := RunsFrom.pure h

theorem RunsFrom.throw {e : SyntaxError} : RunsFrom b₀ b (MonadExcept.throw e) Q := fun hb => hb

theorem Runs.throw {e : SyntaxError} : Runs b (MonadExcept.throw e) Q := RunsFrom.throw

theorem Runs.map {g : α → β} (h : Runs b p fun a b' => S (g a) b') : Runs b (g <$> p) S := by
  rw [map_eq_pure_bind]
  exact h.bind fun a b' _ hS => .pure hS

theorem Runs.discard {T : TokenBuffer → Prop} (h : Runs b p fun _ b' => T b') :
    Runs b (discard p) fun _ b' => T b' :=
  Runs.map h

/-- A result that is not looked at. -/
theorem Runs.ignore (h : Runs b p Q) : Runs b (Functor.discard p) fun _ _ => True :=
  .discard (h.mono fun _ _ _ _ => trivial)

theorem RunsFrom.ite {c : Prop} [Decidable c] {q : TokenParser α} (ht : c → RunsFrom b₀ b p Q)
    (he : ¬c → RunsFrom b₀ b q Q) : RunsFrom b₀ b (if c then p else q) Q := by
  split
  · next h => exact ht h
  · next h => exact he h

theorem Runs.ite {c : Prop} [Decidable c] {q : TokenParser α} (ht : c → Runs b p Q)
    (he : ¬c → Runs b q Q) : Runs b (if c then p else q) Q := RunsFrom.ite ht he

/-- What follows a choice can be read once for both branches. -/
theorem Runs.join {c : Prop} [Decidable c] {q : TokenParser α}
    (h : Runs b ((if c then p else q) >>= f) S) : Runs b (if c then p >>= f else q >>= f) S := by
  split <;> simp_all

/-- A failure is caught: the second parser starts where the first one failed. -/
theorem RunsFrom.tryCatch {q : SyntaxError → TokenParser α} (hp : RunsFrom b₀ b p Q)
    (hq : ∀ e b', RunsFrom b₀ b' (q e) Q) : RunsFrom b₀ b (MonadExcept.tryCatch p q) Q := by
  intro hb
  have hout := hp hb
  change EndsWell b₀ Q (EStateM.tryCatch p q b)
  unfold EStateM.tryCatch
  cases hpb : p b with
  | ok a b' =>
    rw [hpb] at hout
    exact hout
  | error e b' =>
    rw [hpb] at hout
    exact hq e b' hout

/-! ### Single tokens -/

theorem runs_peek (mode : LexMode) :
    Runs b (peek mode) fun t b' => t = b.upcoming mode ∧ b.Consumes [] b' := by
  intro hb
  obtain ⟨ht, hc⟩ := TokenBuffer.peek_eq hb.coherent mode
  exact ⟨⟨_, hc⟩, ht, hc⟩

theorem runs_consume (mode : LexMode) :
    Runs b (consume mode) fun t b' =>
      t = b.upcoming mode ∧ b.Consumes [.read mode b.position] b' := by
  intro hb
  obtain ⟨ht, hc⟩ := TokenBuffer.consume_eq hb.coherent mode
  exact ⟨⟨_, hc⟩, ht, hc⟩

theorem runs_skip (mode : LexMode) :
    Runs b (Functor.discard (consume mode)) fun _ b' => b.Consumes [.read mode b.position] b' :=
  .discard ((runs_consume mode).mono fun _ _ _ h => h.2)

theorem runs_mark : Runs b mark fun n b' => n = b.mark ∧ b = b' := fun hb => ⟨hb, rfl, rfl⟩

theorem runs_since (mark : Nat) :
    Runs b (since mark) fun loc b' => loc = b.since mark ∧ b = b' := fun hb => ⟨hb, rfl, rfl⟩

/-- Going back to where everything started. -/
theorem RunsFrom.restore : RunsFrom b₀ b (restore b₀.mark) fun _ b' => b₀.Consumes [] b' := by
  rintro ⟨ts, hts⟩
  exact ⟨⟨_, hts.restore⟩, hts.restore⟩

theorem runs_peekKind (mode : LexMode) :
    Runs b (peekKind mode) fun k b' => k = (b.upcoming mode).kind ∧ b.Consumes [] b' :=
  (runs_peek mode).bind fun _ _ _ h => .pure ⟨congrArg Token.kind h.1, h.2⟩

/-- The second of the next two tokens. -/
def TokenBuffer.second (b : TokenBuffer) : Token :=
  (readToken .standard (readToken .standard b.position).stop).token

theorem runs_peekTwo :
    Runs b peekTwo fun ts b' => ts = (b.upcoming .standard, b.second) ∧ b.Consumes [] b' := by
  refine RunsFrom.bind runs_mark fun start b₁ _ h₁ => ?_
  obtain ⟨rfl, rfl⟩ := h₁
  refine RunsFrom.bind (runs_consume .standard) fun t b₁ _ h₁ => ?_
  refine RunsFrom.bind (runs_consume .standard) fun u b₂ _ h₂ => ?_
  refine RunsFrom.chain .restore fun _ b₃ _ h₃ => ?_
  refine .pure ⟨?_, h₃⟩
  rw [h₁.1, h₂.1, TokenBuffer.second, TokenBuffer.upcoming, TokenBuffer.upcoming, h₁.2.position]
  rfl

theorem runs_consumeIf (c : Token → Bool) (mode : LexMode) :
    Runs b (consumeIf c mode) fun t b' =>
      t = (if c (b.upcoming mode) then some (b.upcoming mode) else none) ∧
        b.Consumes (if c (b.upcoming mode) then [.read mode b.position] else []) b' := by
  refine (runs_peek mode).bind fun t b₁ _ h₁ => ?_
  obtain ⟨rfl, h₁⟩ := h₁
  refine .ite (fun hc => ?_) fun hc => ?_
  · refine (runs_consume mode).bind fun t b₂ _ h₂ => .pure ?_
    rw [if_pos hc, if_pos hc, h₂.1, h₁.upcoming]
    refine ⟨rfl, ?_⟩
    have := h₁.trans h₂.2
    rwa [h₁.position] at this
  · rw [if_neg hc, if_neg hc]
    exact .pure ⟨rfl, h₁⟩

/-- What is consumed by a parser that accepts a token only under a condition. -/
def TokenBuffer.Accepts (b : TokenBuffer) (mode : LexMode) (ok : Bool) (b' : TokenBuffer) : Prop :=
  b.Consumes (if ok then [.read mode b.position] else []) b'

theorem runs_accept (kind : TokenKind) (mode : LexMode) :
    Runs b (accept kind mode) fun ok b' =>
      ok = ((b.upcoming mode).kind == kind) ∧ b.Accepts mode ok b' := by
  refine (runs_consumeIf _ mode).bind fun t b' _ h => .pure ?_
  rw [TokenBuffer.Accepts, h.1]
  cases hk : (b.upcoming mode).kind == kind <;> simpa [hk] using h.2

theorem runs_acceptPunct (q : Punctuator) (mode : LexMode) :
    Runs b (acceptPunct q mode) fun ok b' =>
      ok = ((b.upcoming mode).kind == .punct q) ∧ b.Accepts mode ok b' :=
  runs_accept _ mode

theorem runs_acceptKeyword (k : Keyword) :
    Runs b (acceptKeyword k) fun ok b' =>
      ok = ((b.upcoming .standard).kind == .keyword k) ∧ b.Accepts .standard ok b' :=
  runs_accept _ .standard

theorem runs_acceptWord (word : String) :
    Runs b (acceptWord word) fun ok b' =>
      ok = (b.upcoming .standard).isWord word ∧ b.Accepts .standard ok b' := by
  refine (runs_consumeIf _ .standard).bind fun t b' _ h => .pure ?_
  rw [TokenBuffer.Accepts, h.1]
  cases hk : (b.upcoming .standard).isWord word <;> simpa [hk] using h.2

theorem runs_expect (kind : TokenKind) (mode : LexMode) :
    Runs b (expect kind mode) fun t b' =>
      t = b.upcoming mode ∧ t.kind = kind ∧ b.Consumes [.read mode b.position] b' := by
  refine (runs_consume mode).bind fun t b' _ h => ?_
  exact .ite (fun hk => .pure ⟨h.1, by simpa using hk, h.2⟩) fun _ => .throw

theorem runs_expectPunct (q : Punctuator) (mode : LexMode) :
    Runs b (expectPunct q mode) fun _ b' =>
      (b.upcoming mode).kind = .punct q ∧ b.Consumes [.read mode b.position] b' :=
  .discard ((runs_expect _ mode).mono fun _ _ _ h => ⟨h.1 ▸ h.2.1, h.2.2⟩)

theorem runs_expectKeyword (k : Keyword) :
    Runs b (expectKeyword k) fun _ b' =>
      (b.upcoming .standard).kind = .keyword k ∧ b.Consumes [.read .standard b.position] b' :=
  .discard ((runs_expect _ .standard).mono fun _ _ _ h => ⟨h.1 ▸ h.2.1, h.2.2⟩)

theorem runs_expectWord (word : String) :
    Runs b (expectWord word) fun t b' =>
      t = b.upcoming .standard ∧ t.isWord word ∧ b.Consumes [.read .standard b.position] b' := by
  refine (runs_consume .standard).bind fun t b' _ h => ?_
  exact .ite (fun hk => .pure ⟨h.1, hk, h.2⟩) fun _ => .throw

theorem runs_semicolon : Runs b semicolon fun _ _ => True := by
  refine (runs_peek .standard).bind fun t b' _ _ => ?_
  refine .ite (fun _ => .discard ((runs_consume .standard).mono fun _ _ _ _ => trivial)) fun _ => ?_
  exact .ite (fun _ => .pure trivial) fun _ => .throw

/-! ### Combinations -/

theorem runs_exhausted : Runs b (exhausted : TokenParser α) Q := fun hb => hb

theorem runs_spanning {p : TokenParser (Loc → α)}
    (h : Runs b p fun build b' => Q (build (b'.since b.mark)) b') : Runs b (spanning p) Q := by
  refine runs_mark.bind fun start b₁ _ h₁ => ?_
  obtain ⟨rfl, rfl⟩ := h₁
  refine h.bind fun build b₂ _ h₂ => ?_
  refine (runs_since _).bind fun loc b₃ _ h₃ => ?_
  obtain ⟨rfl, rfl⟩ := h₃
  exact .pure h₂

theorem runs_optionally {T : Option α → TokenBuffer → Prop} (flag : Bool)
    (h : flag = true → Runs b p fun a b' => T (some a) b') (hn : flag = false → T none b) :
    Runs b (optionally flag p) T := by
  refine .ite (fun hf => .map (h hf)) fun hf => .pure (hn (by simpa using hf))

/-- A list read item by item: what holds of the empty list where no item is left, and is passed on
from the items behind an item, holds of all of them. -/
theorem runs_collect {item? : TokenParser (Option α)} {T : TokenBuffer → List α → Prop}
    (h : ∀ b, Runs b item? fun o b' =>
      match o with
      | some a => ∀ l, T b' l → T b (a :: l)
      | none => T b []) :
    ∀ (n : Nat) (b : TokenBuffer), Runs b (collect n item?) fun l _ => T b l
  | 0, _ => runs_exhausted
  | n + 1, b => by
    refine (h b).bind fun o b₁ _ h₁ => ?_
    cases o with
    | none => exact .pure h₁
    | some a =>
      exact (runs_collect h n b₁).bind fun l b₂ _ h₂ => .pure (h₁ l h₂)

/-- Every item of a list read item by item has a property that every item has. -/
theorem runs_collect_all {item? : TokenParser (Option α)} (P : α → Prop)
    (h : ∀ b, Runs b item? fun o _ => ∀ a ∈ o, P a) (n : Nat) :
    Runs b (collect n item?) fun l _ => ∀ a ∈ l, P a := by
  refine @runs_collect _ _ (fun _ l => ∀ a ∈ l, P a)
    (fun b => (h b).mono fun o b' _ ho => ?_) n b
  cases o with
  | none => simp
  | some a =>
    intro l hl
    simp only [List.mem_cons, forall_eq_or_imp]
    exact ⟨ho a rfl, hl⟩

theorem runs_separated {item : TokenParser α} {P : α → Prop} (close : Punctuator)
    (h : ∀ b, Runs b item fun a _ => P a) :
    ∀ (n : Nat) (b : TokenBuffer), Runs b (separated n close item) fun l _ => ∀ a ∈ l, P a
  | 0, _ => runs_exhausted
  | n + 1, b => by
    refine (runs_acceptPunct close .standard).bind fun ok b₁ _ _ => ?_
    refine .ite (fun _ => .pure (by simp)) fun _ => ?_
    refine (h b₁).bind fun a b₂ _ ha => ?_
    refine (runs_acceptPunct .comma .standard).bind fun ok b₃ _ _ => ?_
    refine .ite (fun _ => ?_) fun _ => ?_
    · refine (runs_separated close h n b₃).bind fun l b₄ _ hl => .pure ?_
      simp only [List.mem_cons, forall_eq_or_imp]
      exact ⟨ha, hl⟩
    · refine (runs_expectPunct close .standard).bind fun _ b₄ _ _ => .pure ?_
      simpa using ha

end ImportSeam
