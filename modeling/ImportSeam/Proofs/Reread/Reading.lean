import ImportSeam.Proofs.Reread.Operand

/-!
# Reading up to an operand and on

The operators of a formula are read from the left.  What is read first is the first operand, and the
rest of the formula is what the operators behind it make of it.  So a formula is read again if,
whatever is done with it afterwards, reading may go on behind its text with the formula in hand.

## Main definitions

* `Expr.Resumes` — reading goes on once the expression was read.
* `Expr.Fits` — an expression may stand bare at a place.
* `Expr.Reads` — reading comes to the end of the expression and goes on there.

## Main results

* `Expr.Resumes.operator`, `Expr.Resumes.update` — an operator behind what was read.
* `Expr.Reads.placed`, `Expr.Reads.operand` — an expression in its place, with or without
  parentheses.
-/

namespace ImportSeam

open TokenParser Rules Layout

variable {b b₀ b' : TokenBuffer} {r : Rules} {n m : Nat} {cs rest rest' : List Char}
  {kind next : TokenKind} {text : String} {ends : List TokenKind} {least : Nat} {op : Operator}
  {e whole : Expr} {Q : Expr → TokenBuffer → Prop}

/-! ### Operators behind an operand -/

theorem GoesOn.solid (h : GoesOn cs kind text rest) : kind.Solid := by
  refine ⟨?_, ?_⟩ <;> rintro rfl <;> exact absurd h.pull_pos (by decide)

/-- The operand is complete where the next token binds too loosely. -/
theorem Rules.succeeds_stop (h : b.At rest) (hf : Follows rest kind) (hstop : kind.pull < least)
    (hm : 0 < m) :
    Succeeds b (r.operatorTail .top least ends e m) fun e' b' => e' = e ∧ b'.At rest := by
  obtain ⟨m, rfl⟩ := Nat.exists_eq_succ_of_ne_zero (Nat.ne_of_gt hm)
  obtain ⟨text, rest', hl⟩ := hf.lexes
  have hkind := (h.upcoming_matches hl rfl).kind_eq
  refine SucceedsFrom.bind succeeds_mark fun start b₁ _ h₁ => ?_
  obtain ⟨rfl, rfl⟩ := h₁
  refine .bind (succeeds_consume_any .standard) fun t b₁ _ h₁ => ?_
  obtain ⟨rfl, -⟩ := h₁
  have stop : ∀ b₂, SucceedsFrom b b₂ (do restore b.mark; return e) fun e' b' =>
      e' = e ∧ b'.At rest := fun b₂ =>
    .chain .restore fun _ b₃ _ h₃ => .pure ⟨rfl, h.of_nil h₃⟩
  refine .ite (fun _ => stop b₁) fun _ => ?_
  rw [hkind]
  -- whatever operator the token is, it asks for more than there is
  cases hu : updateOperator? kind with
  | some op =>
    rw [TokenKind.pull_of_update hu] at hstop
    exact .ite (fun _ => stop b₁) fun hgo => absurd (by simp [hstop]) hgo
  | none =>
    cases hi : kind.infixOperator? with
    | some op =>
      rw [TokenKind.pull_of_infix hu hi] at hstop
      exact .ite (fun _ => stop b₁) fun hgo => absurd hstop hgo
    | none => exact stop b₁

theorem not_mem_of_pull (hends : ∀ x ∈ ends, x.pull < least) (hleast : least ≤ kind.pull) :
    kind ∉ ends := fun hmem => Nat.not_lt.mpr hleast (hends kind hmem)

/-! ### Reading on -/

/-- Once the expression was read up to the text, the operators behind it can be read. -/
def Expr.Resumes (e : Expr) (n : Nat) (b : TokenBuffer) (rest : List Char) (least : Nat)
    (ends : List TokenKind) (Q : Expr → TokenBuffer → Prop) : Prop :=
  ∀ e' b' m, b.Keeps b' → e.Reread rest e' b' → b'.left < m →
    Succeeds b' ((level n).operatorTail .top least ends e' m) Q

theorem Expr.resumes_stop (hf : Follows rest kind) (hstop : kind.pull < least) :
    e.Resumes n b rest least ends (e.Reread rest) := by
  intro e' b' m _ he' hm
  refine (succeeds_stop he'.stands hf hstop (by omega)).mono fun e'' b'' _ h => ?_
  exact ⟨h.1 ▸ he'.same, h.2⟩

/-- **An operator behind an operand** is taken if it binds as tightly as asked, and reading goes on
with what it makes of the operand. -/
theorem Expr.Resumes.operator (hres : whole.Resumes n b₀ rest' least ends Q) (hb : b₀.Keeps b)
    (h : b.At cs) (hgo : GoesOn cs kind text rest) (hu : updateOperator? kind = none)
    (hi : kind.infixOperator? = some op) (hends : ∀ x ∈ ends, x.pull < least)
    (hleast : least ≤ op.precedence) (hm : b.left < m)
    (happly : ∀ t b₁, t.Matches kind text → b.Keeps b₁ → b₁.At rest → b₁.left < b.left →
      Succeeds b₁ ((level n).applyOperator .top ends b.mark t op e) (whole.Reread rest')) :
    Succeeds b ((level n).operatorTail .top least ends e m) Q := by
  obtain ⟨m, rfl⟩ := Nat.exists_eq_succ_of_ne_zero (Nat.ne_of_gt (Nat.zero_lt_of_lt hm))
  have hpull : least ≤ kind.pull := by rwa [TokenKind.pull_of_infix hu hi]
  refine SucceedsFrom.bind succeeds_mark fun start b₁ _ h₁ => ?_
  obtain ⟨rfl, rfl⟩ := h₁
  refine .bind (succeeds_consume h hgo.lexes rfl hgo.solid) fun t b₁ hb₁ h₁ => ?_
  obtain ⟨ht, h₁, hlt⟩ := h₁
  refine .ite (fun hmem => ?_) fun _ => ?_
  · rw [ht.kind_eq] at hmem
    exact absurd hmem (not_mem_of_pull hends hpull)
  rw [ht.kind_eq, hu, hi]
  refine .ite (fun hlow => absurd hlow (Nat.not_lt.mpr hleast)) fun _ => ?_
  refine .bind (happly t b₁ ht hb₁ h₁ hlt) fun e' b₂ hb₂ he' => ?_
  have hle := hb₂.left_le
  refine (hres e' b₂ m ((hb.trans hb₁).trans hb₂) he' (by omega)).widen.mono fun _ _ _ hQ => hQ.2

/-- An increment or decrement behind an operand is taken. -/
theorem Expr.Resumes.update (hres : whole.Resumes n b₀ rest least ends Q) (hb : b₀.Keeps b)
    (h : b.At cs) (hgo : GoesOn cs kind text rest) (hu : updateOperator? kind = some op)
    (hends : ∀ x ∈ ends, x.pull < least) (hleast : least ≤ op.precedence) (hm : b.left < m)
    (hsame : ∀ loc, (Expr.update loc op e).unlocated = whole.unlocated) :
    Succeeds b ((level n).operatorTail .top least ends e m) Q := by
  obtain ⟨m, rfl⟩ := Nat.exists_eq_succ_of_ne_zero (Nat.ne_of_gt (Nat.zero_lt_of_lt hm))
  have hpull : least ≤ kind.pull := by rwa [TokenKind.pull_of_update hu]
  refine SucceedsFrom.bind succeeds_mark fun start b₁ _ h₁ => ?_
  obtain ⟨rfl, rfl⟩ := h₁
  refine .bind (succeeds_consume h hgo.lexes rfl hgo.solid) fun t b₁ hb₁ h₁ => ?_
  obtain ⟨ht, h₁, hlt⟩ := h₁
  refine .ite (fun hmem => ?_) fun _ => ?_
  · rw [ht.kind_eq] at hmem
    exact absurd hmem (not_mem_of_pull hends hpull)
  rw [ht.kind_eq, hu, ht.sameLine]
  refine .ite (fun hlow => ?_) fun _ => ?_
  · simp only [Bool.false_or, decide_eq_true_eq] at hlow
    exact absurd hlow (Nat.not_lt.mpr hleast)
  refine (hres _ b₁ m (hb.trans hb₁) ⟨hsame _, h₁⟩ (by omega)).widen.mono fun _ _ _ hQ => hQ.2

/-! ### Places -/

/-- The expression may stand bare where operators from `least` on are read, the terminators end it,
and a token of the kind stands behind it. -/
structure Expr.Fits (e : Expr) (least : Nat) (ends : List TokenKind) (kind : TokenKind) : Prop where
  ends_lt : ∀ x ∈ ends, x.pull < least
  le_precedence : least ≤ e.precedence
  le_edge : least ≤ e.edge
  pull_lt : kind.pull < e.edge

/-- Where the expression stands bare and fits, reading comes to its end and goes on there. -/
def Expr.Reads (e : Expr) : Prop :=
  ∀ ⦃n : Nat⦄ ⦃b : TokenBuffer⦄ ⦃rest : List Char⦄ ⦃kind : TokenKind⦄ ⦃least : Nat⦄
    ⦃ends : List TokenKind⦄ ⦃Q : Expr → TokenBuffer → Prop⦄, 2 * b.left + 1 ≤ n →
    b.At (e.chars ++ rest) → Follows rest kind → e.Fits least ends kind →
    e.Resumes n b rest least ends Q → Succeeds b ((level n).operatorExpr .top least ends) Q

theorem Rules.succeeds_operatorExpr (hn : b.left < n)
    (h : Succeeds b ((level n).operandExpr .top ends) (e.Reread rest))
    (hres : e.Resumes n b rest least ends Q) :
    Succeeds b ((level n).operatorExpr .top least ends) Q := by
  refine h.bind fun e' b' hb he' => hres e' b' _ hb he' ?_
  have hle := hb.left_le
  rw [level_depth]
  omega

namespace Expr.Reads

variable {wrap : Bool} {place : Nat}

/-- A bare expression is read up to a token that binds too loosely. -/
theorem complete (he : e.Reads) (hn : 2 * b.left + 2 ≤ n) (h : b.At (e.chars ++ rest))
    (hf : Follows rest kind) (hfits : e.Fits least ends kind) (hstop : kind.pull < least) :
    Succeeds b ((level n).expr .top least ends) (e.Reread rest) := by
  obtain ⟨n, rfl⟩ : ∃ k, n = k + 1 := Nat.exists_eq_add_of_le' (by omega)
  rw [level_expr]
  exact he (by omega) h hf hfits (resumes_stop hf hstop)

/-- **An expression in its place**, bare where it fits and otherwise in parentheses. -/
theorem placed (he : e.Reads) (hform : e.IsFormula) (hn : 2 * b.left + 1 ≤ n)
    (h : b.At (e.placed wrap place ++ rest)) (hf : Follows rest kind)
    (hfits : e.isWrapped wrap place = false → e.Fits least ends kind)
    (hres : e.Resumes n b rest least ends Q) :
    Succeeds b ((level n).operatorExpr .top least ends) Q := by
  cases hw : e.isWrapped wrap place with
  | false =>
    rw [placed_of_not hw] at h
    exact he hn h hf (hfits hw) hres
  | true =>
    rw [placed_of hw, List.cons_append, List.append_assoc, List.singleton_append] at h
    have hroom : (level n).Room n b 1 := ⟨hn, by rw [level_depth]; omega⟩
    refine succeeds_operatorExpr (by omega) ?_ hres
    refine succeeds_parens (level_total n) h (fun b₁ _ h₁ hlt => ?_) hroom
    have hclose : Follows (')' :: rest) (.punct .rParen) :=
      follows_punct (p := .rParen) fun _ _ => rfl
    -- nothing asks less than what stands in parentheses is read with
    have hedge : 1 ≤ e.edge := hform.le_edge hform.one_le_precedence (by decide)
    refine he.complete (by omega) h₁ hclose ⟨?_, hform.one_le_precedence, hedge, ?_⟩ (by decide)
    · intro x hx
      obtain rfl := List.mem_singleton.mp hx
      decide
    · exact Nat.lt_of_lt_of_le (by decide) hedge

/-- **A right operand**, a part in brackets or an argument, which the place asks for what it is read
with. -/
theorem operand (he : e.Reads) (hform : e.IsFormula) (hn : 2 * b.left + 2 ≤ n)
    (h : b.At (e.placed wrap place ++ rest)) (hf : Follows rest kind)
    (hplace : least ≤ max place 1) (hcond : least ≠ Operator.conditional.precedence)
    (hends : ∀ x ∈ ends, x.pull < least) (hstop : kind.pull < least) :
    Succeeds b ((level n).expr .top least ends) (e.Reread rest) := by
  obtain ⟨n, rfl⟩ : ∃ k, n = k + 1 := Nat.exists_eq_add_of_le' (by omega)
  rw [level_expr]
  refine he.placed hform (by omega) h hf (fun hw => ?_) (resumes_stop hf hstop)
  have hprec : least ≤ e.precedence := by
    have hle := le_precedence_of_not hw
    have hone := hform.one_le_precedence
    omega
  have hedge := hform.le_edge hprec hcond
  exact ⟨hends, hprec, hedge, Nat.lt_of_lt_of_le hstop hedge⟩

end Expr.Reads

end ImportSeam
