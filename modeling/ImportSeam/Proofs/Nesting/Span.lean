import ImportSeam.Proofs.Nesting.Row
import ImportSeam.Proofs.Totality.Expressions

/-!
# Parts between two buffers

What a parser reads between two buffers stands between the first token it consumed and the end of
the last one.  A location comes about in three ways: it is that of a token, it covers what was
consumed since a mark, or it joins the location of a part that was there before with that of what
was read behind it.  There is one rule for each of them.

## Main definitions

* `TokenBuffer.Begun` — something that takes up some of the source was read.
* `TokenBuffer.Spans` — the parts that were read, in a row.
* `TokenBuffer.Builds` — a part that still has to be told its location.
* `TokenBuffer.EndsAt` — what was read behind a part, up to the end of a location.

## Main results

* `TokenBuffer.Spans.token`, `runs_node`, `TokenBuffer.Spans.join` — the three rules.
* `runs_collect_spans`, `runs_separated_spans` — repetitions.
-/

namespace ImportSeam

open TokenParser BufferedToken

variable {α : Type} {b b₁ b₂ b' : TokenBuffer} {x y : Part} {xs ys : List Part}
  {ts us : List BufferedToken} {mode : LexMode} {p : TokenParser α}

theorem Runs.intro {Q : α → TokenBuffer → Prop} (h : b.Coherent → Runs b p Q) : Runs b p Q :=
  fun hb => h hb.coherent hb

namespace TokenBuffer

/-! ### Where reading began -/

/-- Where the first of the tokens that come next begins, or the position if none comes. -/
def startOf (b : TokenBuffer) : List BufferedToken → Nat
  | [] => b.position.offset
  | t :: _ => t.token.loc.start

theorem Consumes.startOf_nil (h : b.Consumes [] b') : b.startOf [] = b'.position.offset := by
  have hpos : b'.position = b.position := h.position
  rw [startOf, hpos]

theorem Consumes.le_startOf (h : b.Consumes ts b') : b.position.offset ≤ b.startOf ts := by
  cases ts with
  | nil => exact Nat.le_refl _
  | cons t ts =>
    have hread := h.follow.1
    rw [startOf, hread]
    exact offset_le_start _ _

theorem Consumes.startOf_le (h : b.Consumes ts b') : b.startOf ts ≤ b'.position.offset := by
  cases ts with
  | nil => exact h.offset_le
  | cons t ts =>
    obtain ⟨hread, hrest⟩ := h.follow
    have hstop : t.token.loc.start ≤ t.lexeme.stop.offset := by
      rw [hread]
      exact start_le_stop _ _
    rw [h.position]
    exact Nat.le_trans hstop (reaches_endOf hrest).offset_le

/-- What is consumed later begins no earlier. -/
theorem Consumes.startOf_append_le (h : b.Consumes ts b₁) (h' : b₁.Consumes us b₂) :
    b.startOf (ts ++ us) ≤ b₁.startOf us := by
  cases ts with
  | nil =>
    have hpos : b₁.position = b.position := h.position
    cases us with
    | nil => exact h.offset_le
    | cons u us => exact Nat.le_refl _
  | cons t ts => exact Nat.le_trans h.startOf_le h'.le_startOf

theorem Consumes.eq (h : b.Consumes ts b') (h' : b.Consumes us b') : ts = us :=
  List.append_cancel_left (h.consumed.symm.trans h'.consumed)

/-- The token was read behind all the tokens before it, which follow each other in the source. -/
theorem Consumes.upcoming_within (h : b.Consumes [.read mode b.position] b') :
    (b.upcoming mode).loc.Within b.source := by
  have hfollow := ((coherent_iff b').1 h.coherent).1
  rw [h.source, h.consumed] at hfollow
  exact within_of_follow (.refl _) hfollow (List.mem_append_right _ (List.mem_singleton_self _))

/-- Between the two buffers something was read that takes up some of the source. -/
def Begun (b b' : TokenBuffer) : Prop :=
  ∃ ts, b.Consumes ts b' ∧ b.startOf ts < b'.position.offset

namespace Begun

theorem after (k : b.Keeps b₁) (h : b₁.Begun b₂) : b.Begun b₂ := by
  obtain ⟨ts, hts⟩ := k
  obtain ⟨us, hus, hlt⟩ := h
  exact ⟨ts ++ us, hts.trans hus, Nat.lt_of_le_of_lt (hts.startOf_append_le hus) hlt⟩

theorem before (h : b.Begun b₁) (k : b₁.Keeps b₂) : b.Begun b₂ := by
  obtain ⟨ts, hts, hlt⟩ := h
  obtain ⟨us, hus⟩ := k
  refine ⟨ts ++ us, hts.trans hus, Nat.lt_of_lt_of_le ?_ hus.offset_le⟩
  cases ts with
  | nil => exact absurd hts.startOf_nil (Nat.ne_of_lt hlt)
  | cons t ts => exact hlt

end Begun

/-- A token that is neither the end of the source nor malformed takes up some of the source. -/
theorem Consumes.begun (h : b.Consumes [.read mode b.position] b')
    (hk : (b.upcoming mode).kind.Solid) : b.Begun b' := by
  refine ⟨_, h, ?_⟩
  rw [h.position]
  exact start_lt_stop_of_solid hk

/-! ### What was read -/

/-- What was read between the buffers holds the parts, in a row. -/
def Spans (b b' : TokenBuffer) (xs : List Part) : Prop :=
  ∃ ts, b.Consumes ts b' ∧ Row b.source (b.startOf ts) xs b'.position.offset

theorem Keeps.spans (k : b.Keeps b') : b.Spans b' [] := by
  obtain ⟨ts, hts⟩ := k
  exact ⟨ts, hts, .nil hts.startOf_le⟩

namespace Spans

theorem keeps (h : b.Spans b' xs) : b.Keeps b' := by
  obtain ⟨ts, hts, -⟩ := h
  exact ⟨ts, hts⟩

/-- What is read later stands behind what was read before. -/
theorem append (h : b.Spans b₁ xs) (h' : b₁.Spans b₂ ys) : b.Spans b₂ (xs ++ ys) := by
  obtain ⟨ts, hts, hxs⟩ := h
  obtain ⟨us, hus, hys⟩ := h'
  rw [hts.source] at hys
  refine ⟨ts ++ us, hts.trans hus, ?_⟩
  cases ts with
  | nil =>
    -- nothing was consumed, so there is room for no part
    rw [hts.startOf_nil] at hxs
    rw [hxs.eq_nil]
    exact hys.widen (hts.startOf_append_le hus) (Nat.le_refl _)
  | cons t ts => exact hxs.append (hys.widen hus.le_startOf (Nat.le_refl _))

theorem after (k : b.Keeps b₁) (h : b₁.Spans b₂ xs) : b.Spans b₂ xs := k.spans.append h

theorem before (h : b.Spans b₁ xs) (k : b₁.Keeps b₂) : b.Spans b₂ xs := by
  have := h.append k.spans
  rwa [List.append_nil] at this

theorem begun (h : b.Spans b' (x :: xs)) : b.Begun b' := by
  obtain ⟨ts, hts, hrow⟩ := h
  refine ⟨ts, hts, ?_⟩
  cases hrow with
  | cons hstart hx hxs => exact Nat.lt_of_le_of_lt hstart (Nat.lt_of_lt_of_le hx.nonempty hxs.le)

/-- Another part that stands where the first one stood. -/
theorem replace (h : b.Spans b' (x :: xs))
    (hy : x.Nested b.source → y.Nested b.source ∧ y.loc = x.loc) : b.Spans b' (y :: xs) := by
  obtain ⟨ts, hts, hrow⟩ := h
  refine ⟨ts, hts, ?_⟩
  cases hrow with
  | cons hstart hx hxs =>
    obtain ⟨hnested, hloc⟩ := hy hx
    exact .cons (hloc ▸ hstart) hnested (hloc ▸ hxs)

/-- A token that takes up some of the source, as a part without children. -/
theorem token (h : b.Consumes [.read mode b.position] b') (hk : (b.upcoming mode).kind.Solid)
    (hloc : x.loc = (b.upcoming mode).loc) (hchildren : x.children = []) : b.Spans b' [x] := by
  refine ⟨_, h, ?_⟩
  have hx : x.Nested b.source :=
    .leaf (hloc ▸ h.upcoming_within) (hloc ▸ start_lt_stop_of_solid hk) hchildren
  have hstop : b'.position.offset = x.loc.stop := by
    rw [h.position, hloc]
    rfl
  have hrow := Row.single hx
  rw [hstop]
  rw [hloc] at hrow ⊢
  exact hrow

/-- A name, as a pattern. -/
theorem patIdent {id : Ident} {role : NameRole} (h : b.Spans b' [.name role id]) :
    b.Spans b' [.pat (.ident id)] := h.replace fun hid => ⟨hid.patIdent, rfl⟩

/-- A name, as an expression. -/
theorem exprIdent {id : Ident} {role : NameRole} (h : b.Spans b' [.name role id]) :
    b.Spans b' [.expr (.ident id)] := h.replace fun hid => ⟨hid.exprIdent, rfl⟩

/-- A pattern, as the left side of an assignment. -/
theorem target {p : Pat} (h : b.Spans b' [.pat p]) : b.Spans b' [.expr (.target p)] :=
  h.replace fun hp => ⟨hp.target, rfl⟩

/-- A part that covers all that was consumed. -/
theorem node (hbegun : b.Begun b') (h : b.Spans b' x.children) (hloc : x.loc = b'.since b.mark) :
    b.Spans b' [x] := by
  obtain ⟨ts, hts, hlt⟩ := hbegun
  obtain ⟨us, hus, hrow⟩ := h
  obtain rfl := hts.eq hus
  have hwithin : (b'.since b.mark).Within b.source := by
    rw [← hts.source]
    exact hts.coherent.since_within (hts.mark ▸ Nat.le_add_right _ _)
  have hcovers : b'.since b.mark = ⟨b.startOf ts, b'.position.offset⟩ := by
    cases ts with
    | nil => exact absurd hts.startOf_nil (Nat.ne_of_lt hlt)
    | cons t ts => exact hts.since_cons
  rw [← hloc] at hwithin hcovers
  have hx : x.Nested b.source := by
    refine .mk hwithin ?_ ?_
    · rw [hcovers]
      exact hlt
    · rw [hcovers]
      exact hrow
  have hsingle := Row.single hx
  rw [hcovers] at hsingle
  exact ⟨ts, hts, hsingle⟩

end Spans

/-! ### Parts without a location -/

/-- What was read between the buffers makes a part as soon as it is given a location. -/
def Builds (b b' : TokenBuffer) (build : Loc → Part) : Prop :=
  b.Begun b' ∧ ∀ loc, (build loc).loc = loc ∧ b.Spans b' (build loc).children

namespace Builds

variable {build : Loc → Part}

theorem after (k : b.Keeps b₁) (h : b₁.Builds b₂ build) : b.Builds b₂ build :=
  ⟨h.1.after k, fun loc => ⟨(h.2 loc).1, (h.2 loc).2.after k⟩⟩

theorem before (h : b.Builds b₁ build) (k : b₁.Keeps b₂) : b.Builds b₂ build :=
  ⟨h.1.before k, fun loc => ⟨(h.2 loc).1, (h.2 loc).2.before k⟩⟩

theorem spans (h : b.Builds b' build) : b.Spans b' [build (b'.since b.mark)] :=
  .node h.1 (h.2 _).2 (h.2 _).1

end Builds

/-! ### Joined locations -/

/-- What was read between the buffers holds the parts, which stand before the end of the
location. -/
def EndsAt (b b' : TokenBuffer) (xs : List Part) (l : Loc) : Prop :=
  l.Within b.source ∧ b.position.offset ≤ l.start ∧ l.stop ≤ b'.position.offset ∧
    ∃ ts, b.Consumes ts b' ∧ Row b.source (b.startOf ts) xs l.stop

namespace EndsAt

variable {l : Loc}

/-- The location is that of the last part. -/
theorem last (h : b.Spans b' (xs ++ [x])) : b.EndsAt b' (xs ++ [x]) x.loc := by
  obtain ⟨ts, hts, hrow⟩ := h
  obtain ⟨m, hxs, hx⟩ := hrow.split
  cases hx with
  | cons hstart hx hnil =>
    have hle := hts.le_startOf
    have hle' := hxs.le
    refine ⟨hx.within, by omega, hnil.le, ts, hts, hxs.append ?_⟩
    exact .cons hstart hx (.nil (Nat.le_refl _))

theorem single (h : b.Spans b' [x]) : b.EndsAt b' [x] x.loc := @last _ _ _ [] h

/-- The location ends with the last token. -/
theorem of_spans (h : b.Spans b' xs) (hw : l.Within b.source) (hstart : b.position.offset ≤ l.start)
    (hstop : l.stop = b'.position.offset) : b.EndsAt b' xs l := by
  refine ⟨hw, hstart, Nat.le_of_eq hstop, ?_⟩
  rw [hstop]
  exact h

end EndsAt

/-- A part that begins with one that was read before and ends with what was read behind it. -/
theorem Spans.join {l : Loc} (h : b.Spans b₁ [x]) (h' : b₁.EndsAt b₂ xs l)
    (hloc : y.loc = x.loc.join l) (hchildren : y.children = x :: xs) : b.Spans b₂ [y] := by
  obtain ⟨ts, hts, hrow⟩ := h
  obtain ⟨hw, hstart, hstop, us, hus, hxs⟩ := h'
  rw [hts.source] at hw hxs
  cases hrow with
  | cons hxstart hx hnil =>
    have hle : x.loc.stop ≤ l.start := Nat.le_trans hnil.le hstart
    have hxlt := hx.nonempty
    have hlle := hw.ordered
    have hjoin : y.loc = ⟨x.loc.start, l.stop⟩ := by
      rw [hloc, Loc.join, Nat.min_eq_left (by omega), Nat.max_eq_right (by omega)]
    have hy : y.Nested b.source := by
      refine .mk (hloc ▸ hx.within.join hw) ?_ ?_
      · rw [hjoin]
        exact Nat.lt_of_lt_of_le hxlt (Nat.le_trans hle hlle)
      · rw [hchildren, hjoin]
        refine .cons (Nat.le_refl _) hx (hxs.widen ?_ (Nat.le_refl _))
        exact Nat.le_trans hnil.le hus.le_startOf
    refine ⟨ts ++ us, hts.trans hus, .cons ?_ hy (.nil ?_)⟩
    · rw [hjoin]
      cases ts with
      | nil =>
        -- the part before takes up some of the source, so something was consumed
        rw [hts.startOf_nil] at hxstart
        exact absurd (Nat.le_trans hnil.le hxstart) (Nat.not_le_of_lt hxlt)
      | cons t ts => exact hxstart
    · rw [hjoin]
      exact hstop

end TokenBuffer

/-! ### The rules -/

theorem runs_begin_punct (q : Punctuator) (mode : LexMode) :
    Runs b (expectPunct q mode) fun _ b' => b.Begun b' :=
  (runs_expectPunct q mode).mono fun _ _ _ h => h.2.begun (h.1 ▸ solid_punct q)

theorem runs_begin_keyword (k : Keyword) : Runs b (expectKeyword k) fun _ b' => b.Begun b' :=
  (runs_expectKeyword k).mono fun _ _ _ h => h.2.begun (h.1 ▸ solid_keyword k)

theorem runs_node {p : TokenParser (Loc → α)} {g : α → Part}
    (h : Runs b p fun build b' => b.Builds b' fun loc => g (build loc)) :
    Runs b (spanning p) fun a b' => b.Spans b' [g a] :=
  runs_spanning (h.mono fun _ _ _ hbuild => hbuild.spans)

theorem runs_optionally_spans {T : Option α → List Part} (flag : Bool) (hnone : T none = [])
    (h : Runs b p fun a b' => b.Spans b' (T (some a))) :
    Runs b (optionally flag p) fun o b' => b.Spans b' (T o) := by
  refine .intro fun hb => runs_optionally flag (fun _ => h) fun _ => ?_
  rw [hnone]
  exact (TokenBuffer.Keeps.refl hb).spans

/-- A list read item by item. -/
theorem runs_collect_spans {item? : TokenParser (Option α)} {g : α → List Part}
    (h : ∀ b, Runs b item? fun o b' => b.Spans b' (o.elim [] g)) :
    ∀ (n : Nat) (b : TokenBuffer), Runs b (collect n item?) fun l b' => b.Spans b' (l.flatMap g)
  | 0, _ => runs_exhausted
  | n + 1, b => by
    refine (h b).bind fun o b₁ _ h₁ => ?_
    cases o with
    | none => exact .pure h₁
    | some a => exact (runs_collect_spans h n b₁).bind fun l b₂ _ h₂ => .pure (h₁.append h₂)

/-- A list up to a closing token. -/
theorem runs_separated_spans {item : TokenParser α} {g : α → List Part} (close : Punctuator)
    (h : ∀ b, Runs b item fun a b' => b.Spans b' (g a)) :
    ∀ (n : Nat) (b : TokenBuffer),
      Runs b (separated n close item) fun l b' => b.Spans b' (l.flatMap g)
  | 0, _ => runs_exhausted
  | n + 1, b => by
    refine (runs_acceptPunct close .standard).bind fun ok b₁ k₁ _ => ?_
    refine .ite (fun _ => .pure k₁.spans) fun _ => ?_
    refine (h b₁).bind fun a b₂ _ ha => ?_
    have ha := ha.after k₁
    refine (runs_acceptPunct .comma .standard).bind fun ok b₃ k₃ _ => .ite (fun _ => ?_) fun _ => ?_
    · refine (runs_separated_spans close h n b₃).bind fun l b₄ _ hl => .pure ?_
      exact ha.append (hl.after k₃)
    · refine (runs_expectPunct close .standard).bind fun _ b₄ k₄ _ => .pure ?_
      rw [List.flatMap_singleton]
      exact ha.before (k₃.trans k₄)

end ImportSeam
