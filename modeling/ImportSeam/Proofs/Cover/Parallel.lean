import ImportSeam.Proofs.Cover.Beside

/-!
# Parsers that run in parallel

Two parsers run on buffers that stand in front of the same closed text, one with nothing behind it and
one with the rest of an assignment.  They are parallel if the second does what the first does: where
the first comes to a result and stops inside the text, the second comes to the same result, locations
aside, and stops at the same place, unless it uses up its bound.  What happens where the text ends is
left open.

There is one rule for each way parsers are put together, as for what a parser guarantees.

## Main definitions

* `Answers` — what the second parser has to do.
* `Parallel` — one parser follows another.
* `Firm` — it does so also where the first stops at the end of the text.
* `AlikeBy`, `BuildAlike` — values that are the same locations aside.

## Main results

* `Parallel.bind` — the rule for one parser after another.
* `Parallel.spanning`, `Parallel.collect`, `Parallel.separated` — the rules for the combinations.
-/

namespace ImportSeam

open TokenParser TokenBuffer

variable {α β γ : Type} {w w' : List Char} {b b' b₁ c : TokenBuffer}

/-! ### Results -/

section

variable {p : TokenParser α} {f : α → TokenParser β}

/-- A parser after another succeeds if both do. -/
theorem bind_ok {x : β} (h : (p >>= f) b = .ok x c) : ∃ a b₁, p b = .ok a b₁ ∧ f a b₁ = .ok x c := by
  change EStateM.bind p f b = _ at h
  unfold EStateM.bind at h
  cases hp : p b with
  | ok a b₁ =>
    rw [hp] at h
    exact ⟨a, b₁, rfl, h⟩
  | error e b₁ =>
    rw [hp] at h
    cases h

theorem bind_of_ok {a : α} (h : p b = .ok a b₁) : (p >>= f) b = f a b₁ := by
  change EStateM.bind p f b = _
  unfold EStateM.bind
  rw [h]

theorem bind_of_error {e : SyntaxError} (h : p b = .error e b₁) : (p >>= f) b = .error e b₁ := by
  change EStateM.bind p f b = _
  unfold EStateM.bind
  rw [h]

end

/-- The answer to a result: another one that has the property at a place that has the other, or the
bound was used up. -/
def Answers (E : TokenBuffer → Prop) (V : α → Prop) : EStateM.Result SyntaxError TokenBuffer α → Prop
  | .ok a c => V a ∧ E c
  | .error e _ => e.isExhausted = true

namespace Answers

variable {E F : TokenBuffer → Prop} {P : α → Prop} {Q : β → Prop} {p : TokenParser α}
  {f : α → TokenParser β}

theorem mono {x : EStateM.Result SyntaxError TokenBuffer α} {P' : α → Prop} (h : Answers E P x)
    (hE : ∀ c, E c → F c) (hP : ∀ a, P a → P' a) : Answers F P' x := by
  cases x with
  | ok a c => exact ⟨hP a h.1, hE c h.2⟩
  | error e c => exact h

/-- Answering goes on after a first parser has answered, and what it gave is known. -/
theorem bind_eq (hp : Answers E P (p b))
    (hf : ∀ a c, p b = .ok a c → P a → E c → Answers F Q (f a c)) : Answers F Q ((p >>= f) b) := by
  cases hpb : p b with
  | ok a c =>
    rw [hpb] at hp
    rw [bind_of_ok hpb]
    exact hf a c hpb hp.1 hp.2
  | error e c =>
    rw [hpb] at hp
    rw [bind_of_error hpb]
    exact hp

theorem of_succeeds {x : α → TokenBuffer → Prop} (h : Succeeds b p x) (hb : b.Coherent)
    (hP : ∀ a c, x a c → P a) (hE : ∀ a c, x a c → E c) : Answers E P (p b) := by
  obtain ⟨a, c, hp, -, hx⟩ := h (.refl hb)
  rw [hp]
  exact ⟨hP a c hx, hE a c hx⟩

/-- Answering goes on after a first parser has answered. -/
theorem bind (hp : Answers E P (p b)) (hf : ∀ a c, P a → E c → Answers F Q (f a c)) :
    Answers F Q ((p >>= f) b) := hp.bind_eq fun a c _ ha hc => hf a c ha hc

end Answers

/-- From two buffers on, the second parser follows the first as long as that stops inside the
text. -/
def FollowsFrom (w w' : List Char) (b b' : TokenBuffer) (V : α → α → Prop) (p p' : TokenParser α) :
    Prop :=
  ∀ ⦃a c⦄, p b = .ok a c → w.length < c.left → Answers (c.Beside w w') (V a) (p' b')

/-- The second parser follows the first as long as that stops inside the text. -/
structure Parallel (V : α → α → Prop) (p p' : TokenParser α) : Prop where
  keeps : ∀ b, Runs b p fun a _ => ∃ a', V a a'
  follows : ∀ {w w' b b'}, Tails w w' → b.Beside w w' b' → FollowsFrom w w' b b' V p p'

/-- The second parser follows the first also if that stops where the text ends. -/
structure Firm (V : α → α → Prop) (p p' : TokenParser α) : Prop where
  keeps : ∀ b, Runs b p fun a _ => ∃ a', V a a'
  follows : ∀ {w w' b b' a c}, Tails w w' → b.Beside w w' b' → p b = .ok a c →
    Answers (c.Abreast w w') (V a) (p' b')

/-- Two values that something forgetful does not tell apart. -/
abbrev AlikeBy (e : α → γ) (a a' : α) : Prop := e a = e a'

/-- Two values in the making that are alike whatever their locations will be. -/
abbrev BuildAlike (e : α → γ) (f f' : Loc → α) : Prop := ∀ l l', e (f l) = e (f' l')

variable {V : α → α → Prop} {W : β → β → Prop} {p p' : TokenParser α} {f f' : α → TokenParser β}

theorem Runs.keeps_ok {Q : α → TokenBuffer → Prop} {a : α} (h : Runs b p Q) (hb : b.Coherent)
    (hp : p b = .ok a c) : b.Keeps c ∧ Q a c := by
  have hout := h (.refl hb)
  rw [hp] at hout
  exact hout

theorem Runs.coherent {Q : α → TokenBuffer → Prop} (h : b.Coherent → Runs b p Q) : Runs b p Q :=
  fun hb => h hb.coherent hb

theorem Firm.parallel (h : Firm V p p') : Parallel V p p' where
  keeps := h.keeps
  follows hw hb _ _ hp hl := (h.follows hw hb hp).mono (fun _ hc => hc.beside hl) fun _ ha => ha

namespace Parallel

/-! ### The rules -/

theorem mono {U : α → α → Prop} (h : Parallel U p p') (himp : ∀ a a', U a a' → V a a') :
    Parallel V p p' where
  keeps b := (h.keeps b).mono fun a _ _ ⟨a', ha⟩ => ⟨a', himp a a' ha⟩
  follows hw hb _ _ hp hl := (h.follows hw hb hp hl).mono (fun _ hc => hc) (himp _)

/-- One parser after another. -/
theorem bind (hp : Parallel V p p') (hf : ∀ a a', V a a' → Parallel W (f a) (f' a')) :
    Parallel W (p >>= f) (p' >>= f') where
  keeps b := (hp.keeps b).bind fun a b₁ _ ⟨a', ha⟩ => (hf a a' ha).keeps b₁
  follows {w w' b b'} hw hb x c hpf hl := by
    obtain ⟨a, b₁, hpb, hfb⟩ := bind_ok hpf
    obtain ⟨hkeeps, a₀, ha₀⟩ := (hp.keeps b).keeps_ok hb.coherent hpb
    have hback := ((hf a a₀ ha₀).keeps b₁).keeps_ok hkeeps.coherent hfb
    refine (hp.follows hw hb hpb (Nat.lt_of_lt_of_le hl hback.1.left_le)).bind fun a' b₁' ha hb₁ => ?_
    exact (hf a a' ha).follows hw hb₁ hfb hl

/-- One parser after another whose result is the same on both sides. -/
theorem next (hp : Parallel Eq p p') (hf : ∀ a, Parallel W (f a) (f' a)) :
    Parallel W (p >>= f) (p' >>= f') := by
  refine hp.bind fun a a' ha => ?_
  subst ha
  exact hf a

theorem pure {a a' : α} (h : V a a') : Parallel V (Pure.pure a) (Pure.pure a') where
  keeps _ := .pure ⟨a', h⟩
  follows _ hb _ _ hp _ := by
    cases hp
    exact ⟨h, hb⟩

/-- Where the first parser fails, the second does not matter. -/
theorem throw {e : SyntaxError} : Parallel V (MonadExcept.throw e) p' where
  keeps _ := .throw
  follows _ _ _ _ hp _ := nomatch hp

theorem exhausted : Parallel V TokenParser.exhausted p' where
  keeps _ := runs_exhausted
  follows _ _ _ _ hp _ := nomatch hp

/-- Anything is followed by a parser that has used up its bound. -/
theorem spent {e : α → γ} {Q : TokenBuffer → α → TokenBuffer → Prop} (h : ∀ b, Runs b p (Q b)) :
    Parallel (AlikeBy e) p TokenParser.exhausted where
  keeps b := (h b).mono fun a _ _ _ => ⟨a, rfl⟩
  follows _ _ _ _ _ _ := rfl

theorem ite {s : Prop} [Decidable s] {q q' : TokenParser α} (ht : s → Parallel V p p')
    (he : ¬s → Parallel V q q') : Parallel V (if s then p else q) (if s then p' else q') := by
  by_cases h : s
  · rw [if_pos h, if_pos h]
    exact ht h
  · rw [if_neg h, if_neg h]
    exact he h

/-- What follows a choice can be read once for both branches. -/
theorem join {s : Prop} [Decidable s] {q q' : TokenParser α}
    (h : Parallel W ((if s then p else q) >>= f) ((if s then p' else q') >>= f')) :
    Parallel W (if s then p >>= f else q >>= f) (if s then p' >>= f' else q' >>= f') := by
  split <;> simp_all

theorem map {g g' : α → β} (h : Parallel V p p') (hg : ∀ a a', V a a' → W (g a) (g' a')) :
    Parallel W (g <$> p) (g' <$> p') := by
  rw [map_eq_pure_bind, map_eq_pure_bind]
  exact h.bind fun a a' ha => .pure (hg a a' ha)

theorem discard (h : Parallel V p p') : Parallel Eq (Functor.discard p) (Functor.discard p') :=
  h.map fun _ _ _ => rfl

theorem optionally {e : α → γ} (flag : Bool) (h : flag = true → Parallel (AlikeBy e) p p') :
    Parallel (AlikeBy (Option.map e)) (TokenParser.optionally flag p)
      (TokenParser.optionally flag p') :=
  .ite (fun hf => (h hf).map fun _ _ ha => congrArg some ha) fun _ => .pure rfl

end Parallel

/-! ### Single tokens -/

theorem parallel_mark : Parallel (fun _ _ => True) mark mark where
  keeps _ := runs_mark.mono fun _ _ _ _ => ⟨0, trivial⟩
  follows _ hb _ _ hp _ := by
    cases hp
    exact ⟨trivial, hb⟩

theorem parallel_since (n n' : Nat) : Parallel (fun _ _ => True) (since n) (since n') where
  keeps _ := (runs_since n).mono fun _ _ _ _ => ⟨⟨0, 0⟩, trivial⟩
  follows _ hb _ _ hp _ := by
    cases hp
    exact ⟨trivial, hb⟩

theorem parallel_peek (mode : LexMode) : Parallel (AlikeBy Token.face) (peek mode) (peek mode) where
  keeps _ := (runs_peek mode).mono fun t _ _ _ => ⟨t, rfl⟩
  follows hw hb _ _ hp _ := by
    obtain ⟨-, rfl, hc⟩ := (runs_peek mode).keeps_ok hb.coherent hp
    obtain ⟨t', c', hp', -, rfl, hc'⟩ := succeeds_peek_any mode (.refl hb.coherent')
    rw [hp']
    exact ⟨hb.face hw mode, hb.unread hc hc'⟩

theorem parallel_consume (mode : LexMode) :
    Parallel (AlikeBy Token.saying) (consume mode) (consume mode) where
  keeps _ := (runs_consume mode).mono fun t _ _ _ => ⟨t, rfl⟩
  follows hw hb _ _ hp hl := by
    obtain ⟨-, rfl, hc⟩ := (runs_consume mode).keeps_ok hb.coherent hp
    obtain ⟨t', c', hp', -, rfl, hc'⟩ := succeeds_consume_any mode (.refl hb.coherent')
    rw [hp']
    exact hb.passed hw hc hc' hl

theorem parallel_peekTwo : Parallel Token.Ahead peekTwo peekTwo where
  keeps _ := runs_peekTwo.mono fun ts _ _ _ => ⟨ts, .refl ts⟩
  follows hw hb _ _ hp _ := by
    obtain ⟨-, rfl, hc⟩ := runs_peekTwo.keeps_ok hb.coherent hp
    obtain ⟨ts', c', hp', -, rfl, hc'⟩ := succeeds_peekTwo (.refl hb.coherent')
    rw [hp']
    exact ⟨hb.ahead hw, hb.unread hc hc'⟩

theorem parallel_peekKind (mode : LexMode) : Parallel Eq (peekKind mode) (peekKind mode) :=
  (parallel_peek mode).bind fun _ _ ht => .pure (Token.kind_of_face ht)

theorem parallel_skip (mode : LexMode) :
    Parallel Eq (Functor.discard (consume mode)) (Functor.discard (consume mode)) :=
  (parallel_consume mode).discard

theorem parallel_consumeIf {s : Token → Bool} (hs : ∀ t t', t.face = t'.face → s t = s t')
    (mode : LexMode) :
    Parallel (AlikeBy (Option.map Token.saying)) (consumeIf s mode) (consumeIf s mode) := by
  refine (parallel_peek mode).bind fun t t' ht => ?_
  rw [hs t t' ht]
  refine .ite (fun _ => ?_) fun _ => .pure rfl
  exact (parallel_consume mode).bind fun u u' hu => .pure (congrArg some hu)

theorem isSome_of_alike {e : α → γ} {o o' : Option α} (h : AlikeBy (Option.map e) o o') :
    o.isSome = o'.isSome := by
  rw [← Option.isSome_map, h, Option.isSome_map]

theorem parallel_accept (kind : TokenKind) (mode : LexMode) :
    Parallel Eq (accept kind mode) (accept kind mode) :=
  (parallel_consumeIf (fun _ _ ht => by rw [Token.kind_of_face ht]) mode).bind fun _ _ ho =>
    .pure (isSome_of_alike ho)

theorem parallel_acceptPunct (q : Punctuator) (mode : LexMode) :
    Parallel Eq (acceptPunct q mode) (acceptPunct q mode) := parallel_accept _ mode

theorem parallel_acceptKeyword (k : Keyword) :
    Parallel Eq (acceptKeyword k) (acceptKeyword k) := parallel_accept _ .standard

theorem parallel_acceptWord (word : String) : Parallel Eq (acceptWord word) (acceptWord word) :=
  (parallel_consumeIf (fun _ _ ht => Token.isWord_of_face ht word) .standard).bind fun _ _ ho =>
    .pure (isSome_of_alike ho)

theorem parallel_expect (kind : TokenKind) (mode : LexMode) :
    Parallel (AlikeBy Token.saying) (expect kind mode) (expect kind mode) := by
  refine (parallel_consume mode).bind fun t t' ht => ?_
  rw [Token.kind_of_face (Token.face_of_saying ht)]
  exact .ite (fun _ => .pure ht) fun _ => .throw

theorem parallel_expectWord (word : String) :
    Parallel (AlikeBy Token.saying) (expectWord word) (expectWord word) := by
  refine (parallel_consume .standard).bind fun t t' ht => ?_
  rw [Token.isWord_of_face (Token.face_of_saying ht)]
  exact .ite (fun _ => .pure ht) fun _ => .throw

theorem parallel_expectPunct (q : Punctuator) (mode : LexMode) :
    Parallel Eq (expectPunct q mode) (expectPunct q mode) := (parallel_expect _ mode).discard

theorem parallel_expectKeyword (k : Keyword) :
    Parallel Eq (expectKeyword k) (expectKeyword k) := (parallel_expect _ .standard).discard

theorem parallel_semicolon : Parallel Eq semicolon semicolon := by
  refine (parallel_peek .standard).bind fun t t' ht => ?_
  rw [Token.kind_of_face ht, Token.newline_of_face ht]
  refine .ite (fun _ => parallel_skip .standard) fun _ => ?_
  exact .ite (fun _ => .pure rfl) fun _ => .throw

/-- A token is skipped on both sides if that stops inside the text, and it is the same token. -/
theorem answers_pass {mode : LexMode} {x : Unit} (hw : Tails w w') (hb : b.Beside w w' b')
    (h : Functor.discard (consume mode) b = .ok x c) (hl : w.length < c.left) :
    Answers (c.Beside w w') (fun _ => (b.upcoming mode).saying = (b'.upcoming mode).saying)
      (Functor.discard (consume mode) b') := by
  obtain ⟨-, hc⟩ := (runs_skip mode).keeps_ok hb.coherent h
  obtain ⟨_, c', hskip, -, hc'⟩ :=
    Succeeds.discard ((succeeds_consume_any mode).mono fun _ _ _ h => h.2) (.refl hb.coherent')
  rw [hskip]
  exact hb.passed hw hc hc' hl

/-- A token that is known to end is skipped on both sides, also as the last one. -/
theorem answers_skip {mode : LexMode} {x : Unit} (hw : Tails w w') (hb : b.Beside w w' b')
    (hk : (b.upcoming mode).kind.isFinal = false)
    (h : Functor.discard (consume mode) b = .ok x c) :
    Answers (c.Abreast w w') (fun _ => True) (Functor.discard (consume mode) b') := by
  obtain ⟨-, hc⟩ := (runs_skip mode).keeps_ok hb.coherent h
  obtain ⟨_, c', hskip, -, hc'⟩ :=
    Succeeds.discard ((succeeds_consume_any mode).mono fun _ _ _ h => h.2) (.refl hb.coherent')
  rw [hskip]
  exact ⟨trivial, (hb.taken hw hc hc' hk).2⟩

/-- A token of a kind that ends is consumed on both sides, also as the last one. -/
theorem firm_expect {kind : TokenKind} (hk : kind.isFinal = false) (mode : LexMode) :
    Firm (AlikeBy Token.saying) (expect kind mode) (expect kind mode) where
  keeps := (parallel_expect kind mode).keeps
  follows {_ _ _ b' _ _} hw hb hp := by
    obtain ⟨-, rfl, hkind, hc⟩ := (runs_expect kind mode).keeps_ok hb.coherent hp
    obtain ⟨t', c', hp', -, rfl, hc'⟩ := succeeds_consume_any mode (.refl hb.coherent')
    obtain ⟨hsaying, habreast⟩ := hb.taken hw hc hc' (hkind ▸ hk)
    have hkind' : (b'.upcoming mode).kind = kind :=
      (Token.kind_of_face (Token.face_of_saying hsaying)).symm.trans hkind
    rw [expect, bind_of_ok hp', if_pos (beq_iff_eq.mpr hkind')]
    exact ⟨hsaying, habreast⟩

theorem firm_expectPunct (q : Punctuator) :
    Firm (fun _ _ => True) (expectPunct q) (expectPunct q) where
  keeps b := (runs_expectPunct q .standard).mono fun _ _ _ _ => ⟨(), trivial⟩
  follows hw hb hp := by
    obtain ⟨t, c, ht, hpure⟩ := bind_ok (f := fun _ => Pure.pure ()) hp
    cases hpure
    exact ((firm_expect rfl .standard).follows hw hb ht).bind (f := fun _ => Pure.pure ())
      fun _ _ _ hc => ⟨trivial, hc⟩

/-! ### Signs where the text may be used up -/

theorem succeeds_acceptPunct_any (q : Punctuator) : Succeeds b (acceptPunct q) fun ok b₁ =>
    ok = ((b.upcoming .standard).kind == .punct q) ∧ b.Accepts .standard ok b₁ := by
  have hif : Succeeds b (consumeIf (·.kind == .punct q)) fun _ _ => True := by
    refine (succeeds_peek_any .standard).bind fun t b₁ _ _ => ?_
    refine .ite (fun _ => ?_) fun _ => .pure trivial
    exact (succeeds_consume_any .standard).bind fun _ _ _ _ => .pure trivial
  have haccept : Succeeds b (acceptPunct q) fun _ _ => True := hif.bind fun _ _ _ _ => .pure trivial
  intro hb
  obtain ⟨ok, b₁, hp, hkeeps, -⟩ := haccept hb
  exact ⟨ok, b₁, hp, hkeeps, ((runs_acceptPunct q .standard).keeps_ok hb.coherent hp).2⟩

section

variable {q : Punctuator} (hw : Tails w w') (h : b.Abreast w w' b')
include hw h

/-- A sign that does not stand on one side does not stand on the other. -/
theorem answers_refuse (hq : q ≠ .assign) (hk : (b.upcoming .standard).kind ≠ .punct q) :
    Answers (b.Abreast w w') (· = false) (acceptPunct q .standard b') := by
  obtain ⟨ok, b₁', hp', -, hok, hc'⟩ := succeeds_acceptPunct_any q (.refl h.coherent')
  have hk' := h.kind_ne hw hk TokenKind.noConfusion fun heq => hq (TokenKind.punct.inj heq)
  obtain rfl : ok = false := hok.trans (beq_eq_false_iff_ne.mpr hk')
  rw [hp']
  exact ⟨rfl, h.unread (.refl h.coherent) hc'⟩

variable (hq : q ∈ Punctuator.apart)
include hq

/-- A sign that does not stand in a tail is accepted on both sides or on neither. -/
theorem answers_accept {ok : Bool} (hp : acceptPunct q .standard b = .ok ok c) :
    Answers (c.Abreast w w') (ok = ·) (acceptPunct q .standard b') := by
  obtain ⟨hkeeps, hok, hc⟩ := (runs_acceptPunct q .standard).keeps_ok h.coherent hp
  cases ok with
  | false =>
    have hk : (b.upcoming .standard).kind ≠ .punct q := beq_eq_false_iff_ne.mp hok.symm
    have hassign : q ≠ .assign := by
      rintro rfl
      exact absurd hq (by decide)
    refine (answers_refuse hw h hassign hk).mono (fun c' hc' => ?_) fun _ hok' => hok'.symm
    exact hc'.unread hc (.refl hc'.coherent')
  | true =>
    have hk : (b.upcoming .standard).kind = .punct q := beq_iff_eq.mp hok.symm
    obtain ⟨hb, -⟩ := h.seen hw hq (.refl h.coherent) hk
    obtain ⟨ok', c', hp', -, hok', hc'⟩ := succeeds_acceptPunct_any q (.refl h.coherent')
    have hk' : (b'.upcoming .standard).kind = .punct q :=
      (Token.kind_of_face (hb.face hw .standard)).symm.trans hk
    obtain rfl : ok' = true := hok'.trans (beq_iff_eq.mpr hk')
    rw [hp']
    exact ⟨rfl, (hb.taken hw hc hc' (hk ▸ rfl)).2⟩

theorem answers_expect {x : Unit} (hp : expectPunct q .standard b = .ok x c) :
    Answers (c.Abreast w w') (fun _ => True) (expectPunct q .standard b') := by
  obtain ⟨-, hk, -⟩ := (runs_expectPunct q .standard).keeps_ok h.coherent hp
  exact (firm_expectPunct q).follows hw (h.seen hw hq (.refl h.coherent) hk).1 hp

/-- What is read up to such a sign is followed. -/
theorem Parallel.seen (hpp' : Parallel V p p') {a : α} (hp : p b = .ok a c)
    (hk : (c.upcoming .standard).kind = .punct q) : Answers (c.Beside w w') (V a) (p' b') := by
  obtain ⟨hkeeps, -⟩ := (hpp'.keeps b).keeps_ok h.coherent hp
  obtain ⟨hb, hlt⟩ := h.seen hw hq hkeeps hk
  exact hpp'.follows hw hb hp hlt

end

/-! ### From two buffers on -/

namespace FollowsFrom

theorem ite {s : Prop} [Decidable s] {p p' q q' : TokenParser α}
    (ht : s → FollowsFrom w w' b b' V p p') (he : ¬s → FollowsFrom w w' b b' V q q') :
    FollowsFrom w w' b b' V (if s then p else q) (if s then p' else q') := by
  by_cases h : s
  · rw [if_pos h, if_pos h]
    exact ht h
  · rw [if_neg h, if_neg h]
    exact he h

theorem mark {f f' : Nat → TokenParser α} (h : FollowsFrom w w' b b' V (f b.mark) (f' b'.mark)) :
    FollowsFrom w w' b b' V (TokenParser.mark >>= f) (TokenParser.mark >>= f') := h

/-- After looking at a token both buffers are where they were. -/
theorem peek {f f' : Token → TokenParser α} {mode : LexMode} (hw : Tails w w')
    (hb : b.Beside w w' b')
    (h : ∀ {c c'}, c.Beside w w' c' → (c.upcoming mode).face = (c'.upcoming mode).face →
      FollowsFrom w w' c c' V (f (c.upcoming mode)) (f' (c'.upcoming mode))) :
    FollowsFrom w w' b b' V (TokenParser.peek mode >>= f) (TokenParser.peek mode >>= f') := by
  intro a c hp hl
  obtain ⟨t, b₁, ht, hf⟩ := bind_ok hp
  obtain ⟨-, rfl, hc⟩ := (runs_peek mode).keeps_ok hb.coherent ht
  obtain ⟨t', b₁', ht', -, rfl, hc'⟩ := succeeds_peek_any mode (.refl hb.coherent')
  rw [bind_of_ok ht', ← hc'.upcoming]
  rw [← hc.upcoming] at hf
  exact h (hb.unread hc hc') ((hb.unread hc hc').face hw mode) hf hl

variable {f f' : Token × Token → TokenParser α}

/-- After looking at two tokens both buffers are where they were. -/
theorem peekTwo (hw : Tails w w') (hb : b.Beside w w' b')
    (h : ∀ {ts ts' c c'}, Token.Ahead ts ts' → b.Consumes [] c → b'.Consumes [] c' →
      ts = (c.upcoming .standard, c.second) → c.Beside w w' c' →
        FollowsFrom w w' c c' V (f ts) (f' ts')) :
    FollowsFrom w w' b b' V (TokenParser.peekTwo >>= f) (TokenParser.peekTwo >>= f') := by
  intro a c hp hl
  obtain ⟨ts, b₁, hts, hf⟩ := bind_ok hp
  obtain ⟨-, rfl, hc⟩ := runs_peekTwo.keeps_ok hb.coherent hts
  obtain ⟨ts', b₁', hts', -, rfl, hc'⟩ := succeeds_peekTwo (.refl hb.coherent')
  rw [bind_of_ok hts']
  refine h (hb.ahead hw) hc hc' ?_ (hb.unread hc hc') hf hl
  have hpos : b₁.position = b.position := hc.position
  rw [hc.upcoming, TokenBuffer.second, TokenBuffer.second, hpos]

end FollowsFrom

/-! ### Combinations -/

theorem spanning_ok {p : TokenParser (Loc → α)} {a : α}
    (h : TokenParser.spanning p b = .ok a c) : ∃ build loc, p b = .ok build c ∧ a = build loc := by
  obtain ⟨build, b₁, hbuild, h⟩ := bind_ok (p := p) h
  cases h
  exact ⟨build, _, hbuild, rfl⟩

theorem Answers.spanning {E : TokenBuffer → Prop} {P : α → Prop} {p : TokenParser (Loc → α)}
    (h : Answers E (fun build => ∀ loc, P (build loc)) (p b)) :
    Answers E P (TokenParser.spanning p b) :=
  h.bind (p := p) fun _ _ hbuild hc => ⟨hbuild _, hc⟩

namespace Parallel

variable {V : α → α → Prop} {p p' : TokenParser α}

theorem spanning {e : α → γ} {p p' : TokenParser (Loc → α)} (h : Parallel (BuildAlike e) p p') :
    Parallel (AlikeBy e) (TokenParser.spanning p) (TokenParser.spanning p') := by
  refine parallel_mark.bind fun start start' _ => ?_
  refine h.bind fun build build' hbuild => ?_
  exact (parallel_since start start').bind fun loc loc' _ => .pure (hbuild loc loc')

theorem collect {e : α → γ} {item? item?' : TokenParser (Option α)}
    (h : Parallel (AlikeBy (Option.map e)) item? item?') :
    ∀ n n', Parallel (AlikeBy (List.map e)) (TokenParser.collect n item?)
      (TokenParser.collect n' item?')
  | 0, _ => .exhausted
  | n + 1, 0 => .spent fun b => runs_collect_all (fun _ => True)
      (fun b => (h.keeps b).mono fun _ _ _ _ _ _ => trivial) (n + 1)
  | n + 1, n' + 1 => by
    refine h.bind fun o o' ho => ?_
    cases o with
    | none =>
      cases o' with
      | none => exact .pure rfl
      | some a' => cases ho
    | some a =>
      cases o' with
      | none => cases ho
      | some a' =>
        refine (collect h n n').bind fun l l' hl => .pure ?_
        exact congrArg₂ List.cons (Option.some.inj ho) hl

theorem separated {e : α → γ} (close : Punctuator) (h : Parallel (AlikeBy e) p p') :
    ∀ n n', Parallel (AlikeBy (List.map e)) (TokenParser.separated n close p)
      (TokenParser.separated n' close p')
  | 0, _ => .exhausted
  | n + 1, 0 => .spent fun b => runs_separated (P := fun _ => True) close
      (fun b => (h.keeps b).mono fun _ _ _ _ => trivial) (n + 1) b
  | n + 1, n' + 1 => by
    refine (parallel_acceptPunct close .standard).next fun ok => .ite (fun _ => .pure rfl) fun _ => ?_
    refine h.bind fun a a' ha => ?_
    refine (parallel_acceptPunct .comma .standard).next fun ok => .ite (fun _ => ?_) fun _ => ?_
    · exact (separated close h n n').bind fun l l' hl => .pure (congrArg₂ List.cons ha hl)
    · exact (parallel_expectPunct close .standard).next fun _ => .pure (congrArg (fun x => [x]) ha)

end Parallel

end ImportSeam
