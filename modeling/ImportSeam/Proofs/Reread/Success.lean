import ImportSeam.Proofs.Grammar.Progress
import ImportSeam.Proofs.Reread.Printed

/-!
# Parsers that succeed on a text

`Succeeds` says of a parser that it comes to a result, and what the result is.  It is the judgement
for texts that are known: the buffer stands in front of a text, and each token that the text is
known to start with takes the buffer on to what is behind the token.

## Main definitions

* `TokenBuffer.At` — a text without arrows stands at the position, after blanks.
* `TokenBuffer.Near` — the same after blanks and line ends.
* `Token.Matches` — a token of a given kind and text on the same line.
* `SucceedsFrom`, `Succeeds` — parsers that come to a result.

## Main results

* `Succeeds.bind` — the rule for one parser after another.
* `succeeds_peek`, `succeeds_consume`, `succeeds_acceptPunct`, `succeeds_expectPunct` — tokens of a
  known text.
* `TokenBuffer.Near.succeeds_peek`, `TokenBuffer.Near.succeeds_consume` — tokens that may be the
  first of their line.
* `TokenBuffer.Near.ne_arrow` — no arrow is read in the text.
-/

namespace ImportSeam

open TokenParser BufferedToken

variable {α β : Type} {b b' b₀ b₁ : TokenBuffer} {mode : LexMode} {cs rest : List Char}
  {kind : TokenKind} {text : String}

/-! ### Buffers in front of a text -/

theorem Arrowless.of_suffix {ds : List Char} (h : Arrowless cs) (hd : ds <:+ cs) : Arrowless ds :=
  List.IsChain.suffix h hd

/-- Where no arrow stands in the text, none is read. -/
theorem Arrowless.ne_arrow {c : Cursor} (h : Arrowless c.rest) :
    (readToken .standard c).token.kind ≠ .punct .arrow := by
  intro hkind
  have hscan := scan_kind_of_readToken hkind nofun
  obtain ⟨r, hr⟩ := Scan.prefix_of_punct hscan
  obtain ⟨taken, htaken, -⟩ := reaches_trivia .standard c
  exact h.not_prefix (htaken.trans (congrArg _ hr.symm))

/-- The text stands at the position of the buffer, possibly after blanks, and no arrow stands from
there on. -/
structure TokenBuffer.At (b : TokenBuffer) (cs : List Char) : Prop where
  stands : ∃ n, b.position.rest = List.replicate n ' ' ++ cs
  arrowless : Arrowless b.position.rest

/-- The token is of the kind and has the text, and no line ends before it. -/
structure Token.Matches (t : Token) (kind : TokenKind) (text : String) : Prop where
  kind_eq : t.kind = kind
  text_eq : t.text = text
  sameLine : t.newlineBefore = false

theorem TokenBuffer.Keeps.suffix (h : b.Keeps b') : b'.position.rest <:+ b.position.rest := by
  obtain ⟨ts, hts⟩ := h
  obtain ⟨taken, htaken, -⟩ := reaches_endOf hts.follow
  rw [← hts.position] at htaken
  exact ⟨taken, htaken.symm⟩

theorem TokenBuffer.Keeps.left_le (h : b.Keeps b') : b'.left ≤ b.left := by
  obtain ⟨ts, hts⟩ := h
  exact hts.left_le

/-- Going back to where everything started. -/
theorem TokenBuffer.Keeps.restore (h : b.Keeps b') : b.Consumes [] (b'.restore b.mark) := by
  obtain ⟨ts, hts⟩ := h
  exact hts.restore

theorem TokenBuffer.Consumes.keeps {ts : List BufferedToken} (h : b.Consumes ts b') : b.Keeps b' :=
  ⟨ts, h⟩

theorem LexesTo.blanks (h : LexesTo mode cs kind text rest) (n : Nat) :
    LexesTo mode (List.replicate n ' ' ++ cs) kind text rest := by
  induction n with
  | zero => exact h
  | succ n ih => exact .blank ih

namespace TokenBuffer.At

/-- A blank in front of the text may be left out. -/
theorem unblank (h : b.At (' ' :: cs)) : b.At cs := by
  obtain ⟨n, hn⟩ := h.stands
  refine ⟨⟨n + 1, ?_⟩, h.arrowless⟩
  rw [hn, List.replicate_succ', List.append_assoc, List.singleton_append]

theorem of_nil (h : b.At cs) (hc : b.Consumes [] b') : b'.At cs := by
  have hpos : b'.position = b.position := hc.position
  exact ⟨hpos ▸ h.stands, hpos ▸ h.arrowless⟩

variable (h : b.At cs) (hl : LexesTo mode cs kind text rest) (hm : mode.skipsTrivia = true)
include h hl hm

/-- The next token is the one that the text starts with. -/
theorem upcoming_matches : (b.upcoming mode).Matches kind text := by
  obtain ⟨n, hn⟩ := h.stands
  obtain ⟨hkind, htext, hline, -⟩ := (hl.blanks n).readToken_eq hm hn
  exact ⟨hkind, htext, hline⟩

/-- What is behind the token is what stands in the text behind it. -/
theorem consumed (hc : b.Consumes [.read mode b.position] b') : b'.At rest := by
  obtain ⟨n, hn⟩ := h.stands
  obtain ⟨-, -, -, hrest⟩ := (hl.blanks n).readToken_eq hm hn
  have hpos : b'.position = (readToken mode b.position).stop := hc.position
  refine ⟨⟨0, ?_⟩, h.arrowless.of_suffix hc.keeps.suffix⟩
  rw [hpos, hrest]
  rfl

end TokenBuffer.At

/-! ### Buffers in front of a line -/

/-- The text stands at the position of the buffer, possibly on a new line, and no arrow stands from
there on. -/
structure TokenBuffer.Near (b : TokenBuffer) (cs : List Char) : Prop where
  stands : ∃ gap : List Char, (∀ c ∈ gap, c = ' ' ∨ c = '\n') ∧ b.position.rest = gap ++ cs
  arrowless : Arrowless b.position.rest

theorem TokenBuffer.At.near (h : b.At cs) : b.Near cs := by
  obtain ⟨n, hn⟩ := h.stands
  exact ⟨⟨_, fun c hc => .inl (List.eq_of_mem_replicate hc), hn⟩, h.arrowless⟩

namespace TokenBuffer.Near

/-- Blanks and line ends in front of the text may be left out. -/
theorem of_gap {gap : List Char} (h : b.Near (gap ++ cs)) (hgap : ∀ c ∈ gap, c = ' ' ∨ c = '\n') :
    b.Near cs := by
  obtain ⟨before, hbefore, hn⟩ := h.stands
  refine ⟨⟨before ++ gap, List.forall_mem_append.mpr ⟨hbefore, hgap⟩, ?_⟩, h.arrowless⟩
  rw [hn, List.append_assoc]

theorem of_nil (h : b.Near cs) (hc : b.Consumes [] b') : b'.Near cs := by
  have hpos : b'.position = b.position := hc.position
  exact ⟨hpos ▸ h.stands, hpos ▸ h.arrowless⟩

variable (h : b.Near cs) (hl : LexesTo mode cs kind text rest) (hm : mode.skipsTrivia = true)
include h hl hm

theorem upcoming_eq : (b.upcoming mode).kind = kind ∧ (b.upcoming mode).text = text := by
  obtain ⟨gap, hgap, hn⟩ := h.stands
  obtain ⟨hkind, htext, -⟩ := hl.readToken_eq_of_gap hm hgap hn
  exact ⟨hkind, htext⟩

/-- Behind its first token the text goes on. -/
theorem consumed (hc : b.Consumes [.read mode b.position] b') : b'.At rest := by
  obtain ⟨gap, hgap, hn⟩ := h.stands
  obtain ⟨-, -, hrest⟩ := hl.readToken_eq_of_gap hm hgap hn
  have hpos : b'.position = (readToken mode b.position).stop := hc.position
  refine ⟨⟨0, ?_⟩, h.arrowless.of_suffix hc.keeps.suffix⟩
  rw [hpos, hrest]
  rfl

end TokenBuffer.Near

/-- No arrow is read in the text. -/
theorem TokenBuffer.Near.ne_arrow (h : b.Near cs) (hb : b.Keeps b') :
    (b'.upcoming .standard).kind ≠ .punct .arrow ∧ b'.second.kind ≠ .punct .arrow := by
  have harrowless := h.arrowless.of_suffix hb.suffix
  refine ⟨harrowless.ne_arrow, Arrowless.ne_arrow (harrowless.of_suffix ?_)⟩
  obtain ⟨taken, htaken, -⟩ := reaches_stop .standard b'.position
  exact ⟨taken, htaken.symm⟩

/-! ### The judgement -/

/-- A parser that runs on a buffer reached from `b₀` comes to a result and keeps `b₀`, and the
result has the property. -/
def SucceedsFrom (b₀ b : TokenBuffer) (p : TokenParser α) (Q : α → TokenBuffer → Prop) : Prop :=
  b₀.Keeps b → ∃ a b', p b = .ok a b' ∧ b₀.Keeps b' ∧ Q a b'

/-- A parser keeps the buffer it starts with and comes to a result that has the property. -/
def Succeeds (b : TokenBuffer) (p : TokenParser α) (Q : α → TokenBuffer → Prop) : Prop :=
  SucceedsFrom b b p Q

variable {p : TokenParser α} {f : α → TokenParser β} {Q R : α → TokenBuffer → Prop}
  {S : β → TokenBuffer → Prop}

/-- A parser that never fails succeeds with what it was shown to give. -/
theorem Runs.succeeds (h : Runs b p Q) (hok : ∀ e b', p b ≠ .error e b') : Succeeds b p Q := by
  intro hb
  have hout := h hb
  cases hp : p b with
  | ok a b' =>
    rw [hp] at hout
    exact ⟨a, b', rfl, hout⟩
  | error e b' => exact absurd hp (hok e b')

theorem Succeeds.coherent (h : b.Coherent → Succeeds b p Q) : Succeeds b p Q :=
  fun hb => h hb.coherent hb

theorem SucceedsFrom.mono (h : SucceedsFrom b₀ b p R)
    (himp : ∀ a b', b₀.Keeps b' → R a b' → Q a b') : SucceedsFrom b₀ b p Q := by
  intro hb
  obtain ⟨a, b', hp, hkeeps, hR⟩ := h hb
  exact ⟨a, b', hp, hkeeps, himp a b' hkeeps hR⟩

theorem Succeeds.mono (h : Succeeds b p R) (himp : ∀ a b', b.Keeps b' → R a b' → Q a b') :
    Succeeds b p Q := SucceedsFrom.mono h himp

/-- What was proved from here on holds also for a start further back. -/
theorem Succeeds.widen (h : Succeeds b p Q) :
    SucceedsFrom b₀ b p fun a b' => b.Keeps b' ∧ Q a b' := by
  intro hb
  obtain ⟨a, b', hp, hkeeps, hQ⟩ := h (.refl hb.coherent)
  exact ⟨a, b', hp, hb.trans hkeeps, hkeeps, hQ⟩

/-- One parser after another, where both may go back as far. -/
theorem SucceedsFrom.chain (hp : SucceedsFrom b₀ b p R)
    (hf : ∀ a b', b₀.Keeps b' → R a b' → SucceedsFrom b₀ b' (f a) S) :
    SucceedsFrom b₀ b (p >>= f) S := by
  intro hb
  obtain ⟨a, b', hpb, hkeeps, hR⟩ := hp hb
  obtain ⟨c, b'', hfb, hkeeps', hS⟩ := hf a b' hkeeps hR hkeeps
  refine ⟨c, b'', ?_, hkeeps', hS⟩
  change EStateM.bind p f b = _
  unfold EStateM.bind
  rw [hpb]
  exact hfb

/-- One parser after another. -/
theorem SucceedsFrom.bind (hp : Succeeds b p R)
    (hf : ∀ a b', b.Keeps b' → R a b' → SucceedsFrom b₀ b' (f a) S) :
    SucceedsFrom b₀ b (p >>= f) S :=
  SucceedsFrom.chain hp.widen fun a b' _ h => hf a b' h.1 h.2

theorem Succeeds.bind (hp : Succeeds b p R)
    (hf : ∀ a b', b.Keeps b' → R a b' → Succeeds b' (f a) S) : Succeeds b (p >>= f) S :=
  SucceedsFrom.bind hp fun a b' hb h => (hf a b' hb h).widen.mono fun _ _ _ hS => hS.2

theorem SucceedsFrom.pure {a : α} (h : Q a b) : SucceedsFrom b₀ b (Pure.pure a) Q :=
  fun hb => ⟨a, b, rfl, hb, h⟩

theorem Succeeds.pure {a : α} (h : Q a b) : Succeeds b (Pure.pure a) Q := SucceedsFrom.pure h

theorem SucceedsFrom.ite {c : Prop} [Decidable c] {q : TokenParser α}
    (ht : c → SucceedsFrom b₀ b p Q) (he : ¬c → SucceedsFrom b₀ b q Q) :
    SucceedsFrom b₀ b (if c then p else q) Q := by
  by_cases hc : c
  · rw [if_pos hc]
    exact ht hc
  · rw [if_neg hc]
    exact he hc

theorem Succeeds.ite {c : Prop} [Decidable c] {q : TokenParser α} (ht : c → Succeeds b p Q)
    (he : ¬c → Succeeds b q Q) : Succeeds b (if c then p else q) Q := SucceedsFrom.ite ht he

theorem Succeeds.map {g : α → β} (h : Succeeds b p fun a b' => S (g a) b') :
    Succeeds b (g <$> p) S := by
  rw [map_eq_pure_bind]
  exact h.bind fun a b' _ hS => .pure hS

theorem Succeeds.discard {T : TokenBuffer → Prop} (h : Succeeds b p fun _ b' => T b') :
    Succeeds b (Functor.discard p) fun _ b' => T b' := Succeeds.map h

/-- A failure is caught: the second parser starts where the first one failed. -/
theorem SafeFrom.tryCatch_succeeds {q : SyntaxError → TokenParser α}
    (hp : SafeFrom b₀.source b₀ b p Q)
    (hq : ∀ e b', e.isExhausted = false → SucceedsFrom b₀ b' (q e) Q) :
    SucceedsFrom b₀ b (MonadExcept.tryCatch p q) Q := by
  intro hb
  have hout := hp rfl hb
  change ∃ a b', EStateM.tryCatch p q b = .ok a b' ∧ _
  unfold EStateM.tryCatch
  cases hpb : p b with
  | ok a b' =>
    rw [hpb] at hout
    exact ⟨a, b', rfl, hout⟩
  | error e b' =>
    rw [hpb] at hout
    exact hq e b' hout.2.genuine hout.1

/-! ### Tokens of a known text -/

theorem succeeds_mark : Succeeds b mark fun n b' => n = b.mark ∧ b = b' :=
  runs_mark.succeeds fun _ _ => nofun

theorem succeeds_since (place : Nat) : Succeeds b (since place) fun _ b' => b = b' :=
  ((runs_since place).mono fun _ _ _ h => h.2).succeeds fun _ _ => nofun

theorem succeeds_peekTwo : Succeeds b peekTwo fun ts b' =>
    ts = (b.upcoming .standard, b.second) ∧ b.Consumes [] b' :=
  runs_peekTwo.succeeds fun _ _ => nofun

/-- Consuming a token whatever it is. -/
theorem succeeds_consume_any (mode : LexMode) : Succeeds b (consume mode) fun t b' =>
    t = b.upcoming mode ∧ b.Consumes [.read mode b.position] b' :=
  (runs_consume mode).succeeds fun _ _ => nofun

/-- Looking at a token whatever it is. -/
theorem succeeds_peek_any (mode : LexMode) : Succeeds b (peek mode) fun t b' =>
    t = b.upcoming mode ∧ b.Consumes [] b' :=
  (runs_peek mode).succeeds fun _ _ => nofun

theorem succeeds_peekKind_any (mode : LexMode) :
    Succeeds b (peekKind mode) fun _ b' => b.Consumes [] b' :=
  (succeeds_peek_any mode).bind fun _ _ _ ht => .pure ht.2

/-- A token of another kind is left where it is. -/
theorem succeeds_accept_of_ne (hne : (b.upcoming .standard).kind ≠ kind) :
    Succeeds b (accept kind) fun ok b' => ok = false ∧ b.Consumes [] b' := by
  have hif : Succeeds b (consumeIf (·.kind == kind)) fun o b' =>
      o.isSome = false ∧ b.Consumes [] b' := by
    refine (succeeds_peek_any .standard).bind fun t b₁ _ h₁ => ?_
    refine .ite (fun hk => absurd ?_ hne) fun _ => .pure ⟨rfl, h₁.2⟩
    rw [← h₁.1]
    simpa using hk
  exact hif.bind fun _ _ _ hok => .pure hok

/-- Going back to where everything started. -/
theorem SucceedsFrom.restore :
    SucceedsFrom b₀ b (TokenParser.restore b₀.mark) fun _ b' => b₀.Consumes [] b' := by
  rintro ⟨ts, hts⟩
  exact ⟨(), _, rfl, ⟨_, hts.restore⟩, hts.restore⟩

section

variable (h : b.At cs)
include h

theorem succeeds_peek (hl : LexesTo mode cs kind text rest) (hm : mode.skipsTrivia = true) :
    Succeeds b (peek mode) fun t b' => t.Matches kind text ∧ b.Consumes [] b' ∧ b'.At cs :=
  (succeeds_peek_any mode).mono fun _ _ _ ht =>
    ⟨ht.1 ▸ h.upcoming_matches hl hm, ht.2, h.of_nil ht.2⟩

theorem succeeds_peekKind (hl : LexesTo mode cs kind text rest) (hm : mode.skipsTrivia = true) :
    Succeeds b (peekKind mode) fun k b' => k = kind ∧ b'.At cs :=
  (succeeds_peek h hl hm).bind fun _ _ _ ht => .pure ⟨ht.1.kind_eq, ht.2.2⟩

/-- Consuming the token that the text starts with leads on to what is behind it. -/
theorem succeeds_consume (hl : LexesTo mode cs kind text rest) (hm : mode.skipsTrivia = true)
    (hk : kind.Solid) : Succeeds b (consume mode) fun t b' =>
      t.Matches kind text ∧ b'.At rest ∧ b'.left < b.left := by
  refine (succeeds_consume_any mode).mono fun t b' _ ht => ?_
  have hmatches := h.upcoming_matches hl hm
  refine ⟨ht.1 ▸ hmatches, h.consumed hl hm ht.2, ht.2.left_lt ?_⟩
  rw [hmatches.kind_eq]
  exact hk

theorem succeeds_skip (hl : LexesTo mode cs kind text rest) (hm : mode.skipsTrivia = true)
    (hk : kind.Solid) : Succeeds b (Functor.discard (consume mode)) fun _ b' =>
      b'.At rest ∧ b'.left < b.left :=
  .discard ((succeeds_consume h hl hm hk).mono fun _ _ _ ht => ht.2)

variable (hl : LexesTo .standard cs kind text rest)
include hl

theorem succeeds_accept (hk : kind.Solid) : Succeeds b (accept kind) fun ok b' =>
    ok = true ∧ b'.At rest ∧ b'.left < b.left := by
  have hif : Succeeds b (consumeIf (·.kind == kind)) fun o b' =>
      o.isSome = true ∧ b'.At rest ∧ b'.left < b.left := by
    refine (succeeds_peek h hl rfl).bind fun t b₁ _ h₁ => ?_
    obtain ⟨ht, hc, h₁⟩ := h₁
    refine .ite (fun _ => ?_) fun hne => absurd (by simp [ht.kind_eq]) hne
    refine (succeeds_consume h₁ hl rfl hk).bind fun t b₂ _ h₂ => .pure ⟨rfl, h₂.2.1, ?_⟩
    exact Nat.lt_of_lt_of_le h₂.2.2 hc.left_le
  exact hif.bind fun _ _ _ hok => .pure hok

/-- The text starts with the sign. -/
theorem succeeds_acceptPunct {q : Punctuator} (hq : kind = .punct q) :
    Succeeds b (acceptPunct q) fun ok b' => ok = true ∧ b'.At rest ∧ b'.left < b.left := by
  subst hq
  exact succeeds_accept h hl (solid_punct q)

/-- The text starts with another token. -/
theorem succeeds_acceptPunct_of_ne {q : Punctuator} (hq : kind ≠ .punct q) :
    Succeeds b (acceptPunct q) fun ok b' => ok = false ∧ b.Consumes [] b' ∧ b'.At cs := by
  have hne : (b.upcoming .standard).kind ≠ .punct q := by
    rw [(h.upcoming_matches hl rfl).kind_eq]
    exact hq
  exact (succeeds_accept_of_ne hne).mono fun _ _ _ ho => ⟨ho.1, ho.2, h.of_nil ho.2⟩

theorem succeeds_expect (hk : kind.Solid) : Succeeds b (expect kind) fun t b' =>
    t.Matches kind text ∧ b'.At rest ∧ b'.left < b.left := by
  refine (succeeds_consume h hl rfl hk).bind fun t b₁ _ h₁ => ?_
  exact .ite (fun _ => .pure h₁) fun hne => absurd (by simp [h₁.1.kind_eq]) hne

theorem succeeds_expectPunct {q : Punctuator} (hq : kind = .punct q) :
    Succeeds b (expectPunct q) fun _ b' => b'.At rest ∧ b'.left < b.left := by
  subst hq
  exact .discard ((succeeds_expect h hl (solid_punct q)).mono fun _ _ _ ht => ht.2)

end

/-! ### The first token of a line -/

section

variable (h : b.Near cs)
include h

theorem TokenBuffer.Near.succeeds_peek (hl : LexesTo mode cs kind text rest)
    (hm : mode.skipsTrivia = true) :
    Succeeds b (TokenParser.peek mode) fun t b' => t.kind = kind ∧ b.Consumes [] b' ∧ b'.Near cs :=
  (succeeds_peek_any mode).mono fun _ _ _ ht =>
    ⟨ht.1 ▸ (h.upcoming_eq hl hm).1, ht.2, h.of_nil ht.2⟩

variable (hl : LexesTo .standard cs kind text rest) (hk : kind.Solid)
include hl hk

theorem TokenBuffer.Near.succeeds_consume : Succeeds b TokenParser.consume fun t b' =>
    (t.kind = kind ∧ t.text = text) ∧ b'.At rest ∧ b'.left < b.left := by
  refine (succeeds_consume_any .standard).mono fun t b' _ ht => ?_
  have hnext := h.upcoming_eq hl rfl
  refine ⟨ht.1 ▸ hnext, h.consumed hl rfl ht.2, ht.2.left_lt ?_⟩
  rw [hnext.1]
  exact hk

theorem TokenBuffer.Near.succeeds_expect :
    Succeeds b (Functor.discard (expect kind)) fun _ b' => b'.At rest ∧ b'.left < b.left := by
  have hexpect : Succeeds b (expect kind) fun _ b' => b'.At rest ∧ b'.left < b.left := by
    refine (h.succeeds_consume hl hk).bind fun t b₁ _ h₁ => ?_
    exact .ite (fun _ => .pure h₁.2) fun hne => absurd (by simp [h₁.1.1]) hne
  exact hexpect.discard

end

theorem succeeds_spanning {p : TokenParser (Loc → α)}
    (h : Succeeds b p fun build b' => ∀ loc, Q (build loc) b') : Succeeds b (spanning p) Q := by
  refine succeeds_mark.bind fun start b₁ _ h₁ => ?_
  obtain ⟨rfl, rfl⟩ := h₁
  refine h.bind fun build b₂ _ h₂ => ?_
  refine (succeeds_since _).bind fun loc b₃ _ h₃ => ?_
  subst h₃
  exact .pure (h₂ loc)

end ImportSeam
