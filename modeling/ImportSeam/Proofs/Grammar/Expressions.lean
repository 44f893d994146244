import ImportSeam.Proofs.Grammar.Terms

/-!
# Expressions as they are read

What the operators make of formed operands is formed.  A literal that turns out to be a pattern
gives a formed pattern, since it holds nothing that the conversion does not check.

## Main results

* `Expr.toPat_ok`, `Expr.toTarget_ok` — what can be read as a pattern or assigned to.
* `Expr.formed_toPat`, `Expr.targetFormed_toTarget` — literals read as patterns.
* `Rules.Sound.operatorExpr` — a whole expression.
-/

namespace ImportSeam

open TokenParser

variable {b b' : TokenBuffer} {ctx : Context} {r : Rules}

/-! ### Literals read as patterns -/

/-- What goes through two steps goes through the first. -/
theorem Except.ok_of_bind {ε α β : Type} {x : Except ε α} {f : α → Except ε β} {b : β}
    (h : x >>= f = .ok b) : ∃ a, x = .ok a ∧ f a = .ok b := by
  cases x with
  | error e => exact nomatch h
  | ok a => exact ⟨a, rfl, h⟩

/-- What can be converted to a pattern: a name, a target, or a literal whose parts can be. -/
theorem Expr.toPat_ok {e : Expr} {p : Pat} (h : e.toPat = .ok p) :
    (∃ id, e = .ident id ∧ p = .ident id) ∨ e = .target p ∨
      (∃ loc es ps rest, e = .array loc es ∧ elemsToPats loc es = .ok (ps, rest) ∧
        p = .array loc ps rest) ∨
      ∃ loc ms ps rest, e = .object loc ms ∧ membersToProps loc ms = .ok (ps, rest) ∧
        p = .object loc ps rest := by
  cases e with
  | ident id => exact .inl ⟨id, rfl, (Except.ok.inj h).symm⟩
  | target q => exact .inr (.inl (congrArg Expr.target (Except.ok.inj h)))
  | array loc es =>
    obtain ⟨pr, hes, h⟩ := Except.ok_of_bind (x := elemsToPats loc es) h
    exact .inr (.inr (.inl ⟨loc, es, pr.1, pr.2, rfl, hes, (Except.ok.inj h).symm⟩))
  | object loc ms =>
    obtain ⟨pr, hms, h⟩ := Except.ok_of_bind (x := membersToProps loc ms) h
    exact .inr (.inr (.inr ⟨loc, ms, pr.1, pr.2, rfl, hms, (Except.ok.inj h).symm⟩))
  | _ => exact nomatch h

theorem Expr.toPat_array {loc : Loc} {es : List ArrayElem} {pr : List (Option Binder) × Option Pat}
    (h : elemsToPats loc es = .ok pr) : (Expr.array loc es).toPat = .ok (.array loc pr.1 pr.2) := by
  change elemsToPats loc es >>= _ = _
  rw [h]
  rfl

theorem Expr.toPat_object {loc : Loc} {ms : List ObjMember} {pr : List PropPat × Option Ident}
    (h : membersToProps loc ms = .ok pr) : (Expr.object loc ms).toPat = .ok (.object loc pr.1 pr.2) := by
  change membersToProps loc ms >>= _ = _
  rw [h]
  rfl

/-- A pattern stands where the literal stood. -/
theorem Expr.loc_toPat {e : Expr} {p : Pat} (h : e.toPat = .ok p) : p.loc = e.loc := by
  obtain ⟨id, rfl, rfl⟩ | rfl | ⟨loc, es, ps, rest, rfl, -, rfl⟩ |
    ⟨loc, ms, ps, rest, rfl, -, rfl⟩ := Expr.toPat_ok h <;> rfl

/-- What can be converted to a pattern with a default value: an assignment to a pattern, or a
pattern. -/
theorem Expr.toBinder_ok {e : Expr} {x : Binder} (h : e.toBinder = .ok x) :
    (∃ loc left right p, e = .binary loc .assign left right ∧ left.toPat = .ok p ∧
      x = ⟨p, some right⟩) ∨ ∃ p, e.toPat = .ok p ∧ x = ⟨p, none⟩ := by
  cases e with
  | binary loc op left right =>
    cases op
    case assign =>
      obtain ⟨p, hl, h⟩ := Except.ok_of_bind (x := left.toPat) h
      exact .inl ⟨loc, left, right, p, rfl, hl, (Except.ok.inj h).symm⟩
    all_goals exact nomatch h
  | ident id => exact .inr ⟨_, rfl, (Except.ok.inj h).symm⟩
  | target q => exact .inr ⟨_, rfl, (Except.ok.inj h).symm⟩
  | array loc es =>
    obtain ⟨pr, hes, h⟩ := Except.ok_of_bind (x := elemsToPats loc es) h
    exact .inr ⟨_, Expr.toPat_array hes, (Except.ok.inj h).symm⟩
  | object loc ms =>
    obtain ⟨pr, hms, h⟩ := Except.ok_of_bind (x := membersToProps loc ms) h
    exact .inr ⟨_, Expr.toPat_object hms, (Except.ok.inj h).symm⟩
  | _ => exact nomatch h

section Parts

variable {loc l : Loc} {es : List ArrayElem} {ms : List ObjMember} {ps : List (Option Binder)}
  {props : List PropPat} {rest : Option Pat} {name : Option Ident}

theorem elemsToPats_hole_ok (h : elemsToPats loc (.hole :: es) = .ok (ps, rest)) :
    ∃ ps', elemsToPats loc es = .ok (ps', rest) ∧ ps = none :: ps' := by
  obtain ⟨⟨ps', rest'⟩, hes, h⟩ := Except.ok_of_bind (x := elemsToPats loc es) h
  obtain ⟨rfl, rfl⟩ := Prod.mk.inj (Except.ok.inj h)
  exact ⟨ps', hes, rfl⟩

theorem elemsToPats_item_ok {e : Expr} (h : elemsToPats loc (.item e :: es) = .ok (ps, rest)) :
    ∃ b ps', e.toBinder = .ok b ∧ elemsToPats loc es = .ok (ps', rest) ∧ ps = some b :: ps' := by
  obtain ⟨b, hb, h⟩ := Except.ok_of_bind (x := e.toBinder) h
  obtain ⟨⟨ps', rest'⟩, hes, h⟩ := Except.ok_of_bind (x := elemsToPats loc es) h
  obtain ⟨rfl, rfl⟩ := Prod.mk.inj (Except.ok.inj h)
  exact ⟨b, ps', hb, hes, rfl⟩

/-- What takes the rest is the last element. -/
theorem elemsToPats_spread_ok {e : Expr} (h : elemsToPats loc (.spread e :: es) = .ok (ps, rest)) :
    ∃ p, e.toPat = .ok p ∧ es = [] ∧ ps = [] ∧ rest = some p := by
  obtain ⟨p, hp, h⟩ := Except.ok_of_bind (x := e.toPat) h
  cases es with
  | nil =>
    obtain ⟨rfl, rfl⟩ := Prod.mk.inj (Except.ok.inj h)
    exact ⟨p, hp, rfl, rfl, rfl⟩
  | cons _ _ => exact nomatch h

/-- Only a member with a value becomes a property. -/
theorem membersToProps_valued_ok {key : Key} {m : Member}
    (h : membersToProps loc (.valued l key m :: ms) = .ok (props, name)) :
    ∃ e b props', m = .field (some e) ∧ e.toBinder = .ok b ∧
      membersToProps loc ms = .ok (props', name) ∧ props = ⟨key, b, false⟩ :: props' := by
  cases m with
  | field o =>
    cases o with
    | none => exact nomatch h
    | some e =>
      obtain ⟨b, hb, h⟩ := Except.ok_of_bind (x := e.toBinder) h
      obtain ⟨⟨props', name'⟩, hms, h⟩ := Except.ok_of_bind (x := membersToProps loc ms) h
      obtain ⟨rfl, rfl⟩ := Prod.mk.inj (Except.ok.inj h)
      exact ⟨e, b, props', rfl, hb, hms, rfl⟩
  | _ => exact nomatch h

theorem membersToProps_shorthand_ok {id : Ident}
    (h : membersToProps loc (.shorthand l id :: ms) = .ok (props, name)) :
    ∃ props', membersToProps loc ms = .ok (props', name) ∧
      props = ⟨.direct id.name .ident, ⟨.ident id, none⟩, true⟩ :: props' := by
  obtain ⟨⟨props', name'⟩, hms, h⟩ := Except.ok_of_bind (x := membersToProps loc ms) h
  obtain ⟨rfl, rfl⟩ := Prod.mk.inj (Except.ok.inj h)
  exact ⟨props', hms, rfl⟩

/-- What takes the rest is a name, and the last member. -/
theorem membersToProps_spread_ok {e : Expr}
    (h : membersToProps loc (.spread l e :: ms) = .ok (props, name)) :
    ∃ id, e = .ident id ∧ ms = [] ∧ props = [] ∧ name = some id := by
  cases e with
  | ident id =>
    cases ms with
    | nil =>
      obtain ⟨rfl, rfl⟩ := Prod.mk.inj (Except.ok.inj h)
      exact ⟨id, rfl, rfl, rfl, rfl⟩
    | cons _ _ => exact nomatch h
  | _ => exact nomatch h

end Parts

theorem isKey_of_fresh {id : Ident} (h : id.Fresh ctx) (kind : TokenKind) :
    IsKey false id.name kind := by
  obtain ⟨k, hk, htok⟩ := h.2
  refine .inr ⟨k, ?_, ?_, ?_, htok⟩
  · cases k <;> simp_all [Context.isName, startsKey]
  · rintro rfl
    simp [Context.isName] at hk
  · rintro rfl
    simp [Context.isName] at hk

/-- The left side of an assignment converts to a formed pattern if it converts at all. -/
theorem Expr.formed_toPat_target {e : Expr} {p : Pat} {op : Operator} (he : e.TargetFormed ctx op)
    (h : e.toPat = .ok p) : p.Formed ctx := by
  cases e with
  | target q =>
    obtain rfl := Except.ok.inj h
    exact he.1
  | member _ _ _ _ => exact nomatch h
  | index _ _ _ _ => exact nomatch h
  | _ => exact he.elim

mutual

theorem Expr.formed_toPat {e : Expr} {p : Pat} (he : e.Formed ctx) (h : e.toPat = .ok p) :
    p.Formed ctx := by
  obtain ⟨id, rfl, rfl⟩ | rfl | ⟨loc, es, ps, rest, rfl, hes, rfl⟩ |
    ⟨loc, ms, ps, rest, rfl, hms, rfl⟩ := Expr.toPat_ok h
  · exact he
  · exact he.elim
  · exact elemsToPats_formed es he hes
  · exact membersToProps_formed ms he hms
termination_by sizeOf e

theorem Expr.formed_toBinder {e : Expr} {x : Binder} (he : e.Formed ctx)
    (h : e.toBinder = .ok x) : x.Formed ctx := by
  obtain ⟨loc, left, right, p, rfl, hl, rfl⟩ | ⟨p, hp, rfl⟩ := Expr.toBinder_ok h
  · obtain ⟨⟨-, ht⟩ | ⟨hbin, -⟩, hr⟩ := he
    · exact ⟨Expr.formed_toPat_target ht hl, hr⟩
    · exact nomatch hbin
  · exact ⟨Expr.formed_toPat he hp, trivial⟩
termination_by sizeOf e + 1

theorem elemsToPats_formed {loc : Loc} (es : List ArrayElem) {ps : List (Option Binder)}
    {rest : Option Pat} (hes : elemsFormed ctx es) (h : elemsToPats loc es = .ok (ps, rest)) :
    elemPatsFormed ctx ps ∧ optPatFormed ctx rest := by
  match es with
  | [] =>
    obtain ⟨rfl, rfl⟩ := Prod.mk.inj (Except.ok.inj h)
    exact ⟨trivial, trivial⟩
  | .hole :: es =>
    obtain ⟨ps', ht, rfl⟩ := elemsToPats_hole_ok h
    have hparts := elemsToPats_formed es hes ht
    exact hparts
  | .item e :: es =>
    obtain ⟨x, ps', hb, ht, rfl⟩ := elemsToPats_item_ok h
    obtain ⟨hps, hrest⟩ := elemsToPats_formed es hes.2 ht
    exact ⟨⟨Expr.formed_toBinder hes.1 hb, hps⟩, hrest⟩
  | .spread e :: es =>
    obtain ⟨p, hp, -, rfl, rfl⟩ := elemsToPats_spread_ok h
    exact ⟨trivial, Expr.formed_toPat hes.1 hp⟩
termination_by sizeOf es

theorem membersToProps_formed {loc : Loc} (ms : List ObjMember) {ps : List PropPat}
    {rest : Option Ident} (hms : objFormed ctx ms) (h : membersToProps loc ms = .ok (ps, rest)) :
    propsFormed ctx ps ∧ ∀ id ∈ rest, id.Fresh ctx := by
  match ms with
  | [] =>
    obtain ⟨rfl, rfl⟩ := Prod.mk.inj (Except.ok.inj h)
    exact ⟨trivial, by simp⟩
  | .valued _ key m :: ms =>
    obtain ⟨e, x, ps', rfl, hb, ht, rfl⟩ := membersToProps_valued_ok h
    obtain ⟨hps, hrest⟩ := membersToProps_formed ms hms.2 ht
    exact ⟨⟨⟨hms.1.1, Expr.formed_toBinder hms.1.2.2.2 hb⟩, hps⟩, hrest⟩
  | .shorthand _ id :: ms =>
    obtain ⟨ps', ht, rfl⟩ := membersToProps_shorthand_ok h
    obtain ⟨hps, hrest⟩ := membersToProps_formed ms hms.2 ht
    exact ⟨⟨⟨isKey_of_fresh hms.1.1 .ident, hms.1.1, trivial⟩, hps⟩, hrest⟩
  | .spread _ e :: ms =>
    obtain ⟨id, rfl, -, rfl, rfl⟩ := membersToProps_spread_ok h
    have hid : id.Fresh ctx := hms.1
    exact ⟨trivial, by simpa using hid⟩
termination_by sizeOf ms

end

/-- What can stand on the left of an assignment: a name, a member access, or, for a plain assignment
only, a literal whose parts can be converted. -/
theorem Expr.toTarget_ok {op : Operator} {e t : Expr} (h : e.toTarget op = .ok t) :
    (∃ id, e = .ident id ∧ t = .target (.ident id)) ∨
      (((∃ loc o f p, e = .member loc o f p) ∨ ∃ loc o f k, e = .index loc o f k) ∧ t = e) ∨
      (((∃ loc es, e = .array loc es) ∨ ∃ loc ms, e = .object loc ms) ∧ op = .assign ∧
        ∃ p, e.toPat = .ok p ∧ t = .target p) := by
  -- both kinds of literal go through the same branch
  have literal : ∀ e : Expr,
      (if op == .assign then do return .target (← e.toPat) else throw (notAssignable e.loc)) =
        Except.ok t → op = .assign ∧ ∃ p, e.toPat = .ok p ∧ t = .target p := by
    intro e h
    split at h
    · next hop =>
      obtain ⟨p, hp, h⟩ := Except.ok_of_bind (x := e.toPat) h
      exact ⟨eq_of_beq hop, p, hp, (Except.ok.inj h).symm⟩
    · exact nomatch h
  cases e with
  | ident id => exact .inl ⟨id, rfl, (Except.ok.inj h).symm⟩
  | member loc o f p => exact .inr (.inl ⟨.inl ⟨loc, o, f, p, rfl⟩, (Except.ok.inj h).symm⟩)
  | index loc o f k => exact .inr (.inl ⟨.inr ⟨loc, o, f, k, rfl⟩, (Except.ok.inj h).symm⟩)
  | array loc es => exact .inr (.inr ⟨.inl ⟨loc, es, rfl⟩, literal _ h⟩)
  | object loc ms => exact .inr (.inr ⟨.inr ⟨loc, ms, rfl⟩, literal _ h⟩)
  | _ => exact nomatch h

/-- The left side of an assignment is a target or a member access. -/
theorem Expr.targetFormed_toTarget {op : Operator} {e t : Expr} (he : e.Formed ctx)
    (h : e.toTarget op = .ok t) : t.TargetFormed ctx op := by
  obtain ⟨id, rfl, rfl⟩ | ⟨⟨loc, o, f, p, rfl⟩ | ⟨loc, o, f, k, rfl⟩, rfl⟩ | ⟨-, rfl, p, hp, rfl⟩ :=
    Expr.toTarget_ok h
  · exact ⟨he, .inr rfl⟩
  · exact he
  · exact he
  · exact ⟨Expr.formed_toPat he hp, .inl rfl⟩

/-! ### Arrow functions -/

/-- Parameters in parentheses are tried; anything else is a single name. -/
theorem Rules.arrowParams?_eq (r : Rules) (ctx : Context) : r.arrowParams? ctx = (do
    if (← peekKind) == .punct .lParen then
      tryCatch (some <$> r.params ctx) fun e => if e.isExhausted then throw e else pure none
    else
      let t ← consume
      if ctx.isName t.kind then
        return some [⟨false, ⟨.ident ⟨t.text, t.loc, .unknown⟩, none⟩⟩]
      else return none) := by
  unfold Rules.arrowParams?
  refine congrArg _ (funext fun k => ?_)
  split
  · funext b
    cases hp : r.params ctx b with
    | ok ps b' =>
      simp only [tryCatch, tryCatchThe, MonadExceptOf.tryCatch, EStateM.tryCatch, Bind.bind,
        EStateM.bind, ExceptT.mk, Functor.map, EStateM.map, hp, Pure.pure, EStateM.pure,
        EarlyReturnT.return, EarlyReturn.runK, throw, throwThe, MonadExceptOf.throw]
    | error e b' =>
      simp only [tryCatch, tryCatchThe, MonadExceptOf.tryCatch, EStateM.tryCatch, Bind.bind,
        EStateM.bind, ExceptT.mk, Functor.map, EStateM.map, hp, Pure.pure,
        EarlyReturnT.return, EarlyReturn.runK, throw, throwThe, MonadExceptOf.throw]
      cases e.isExhausted <;> rfl
  · rfl

theorem runs_nameExpr : Runs b (nameExpr ctx) fun e _ =>
    e.Formed ctx ∧ e.NameFrom b.position.offset :=
  runs_bindingName.bind fun _ _ _ h => .pure h

namespace Rules.Sound

variable (hr : r.Sound)
include hr

theorem args : Runs b (r.args ctx) fun as _ => argsFormed ctx as := by
  refine Runs.mono (runs_separated .rParen (P := fun a => a.value.Formed ctx) (fun b => ?_) _ _)
    fun _ _ _ h => argsFormed_of_forall h
  refine (runs_acceptPunct _ _).bind fun _ b₁ _ _ => ?_
  exact (hr.assignment _).bind fun e b₂ _ he => .pure he.1

theorem arrowParams? : Runs b (r.arrowParams? ctx) fun o _ => ∀ ps ∈ o, paramsFormed ctx ps := by
  rw [Rules.arrowParams?_eq]
  refine (runs_peekKind _).bind fun k b₁ _ _ => .ite (fun _ => ?_) fun _ => ?_
  · refine RunsFrom.tryCatch (Runs.map (hr.params.mono fun ps _ _ h => ?_)) fun _ _ =>
      .ite (fun _ => .throw) fun _ => .pure (by simp)
    simpa using h
  · refine (runs_consume _).bind fun t b₂ _ h₂ => ?_
    obtain ⟨rfl, -⟩ := h₂
    refine .ite (fun hname => .pure ?_) fun _ => .pure (by simp)
    simp only [Option.mem_some_iff, forall_eq']
    exact ⟨⟨⟨rfl, names_upcoming hname⟩, trivial⟩, trivial⟩

theorem arrowHead? : Runs b (r.arrowHead? ctx) fun o b' =>
    match o with
    | some ps => paramsFormed ctx ps
    | none => b.Consumes [] b' := by
  refine RunsFrom.bind runs_mark fun start b₁ _ h₁ => ?_
  obtain ⟨rfl, rfl⟩ := h₁
  refine .bind hr.arrowParams? fun o b₂ _ h₂ => ?_
  cases o with
  | none => exact .chain .restore fun _ b₃ _ h₃ => .pure h₃
  | some ps =>
    refine .bind (runs_peek _) fun t b₃ _ _ => .ite (fun _ => ?_) fun _ => ?_
    · exact .chain .restore fun _ b₄ _ h₄ => .pure h₄
    · refine .ite (fun _ => .throw) fun _ => ?_
      exact .bind (runs_skip _) fun _ b₄ _ _ => .pure (h₂ ps rfl)

theorem arrow? (isAsync : Bool) (ends : List TokenKind) :
    Runs b (r.arrow? ctx isAsync ends) fun o b' =>
      match o with
      | some e => e.Formed ctx ∧ ∀ n, e.NameFrom n
      | none => b.Consumes [] b' := by
  refine runs_mark.bind fun start b₁ _ h₁ => ?_
  obtain ⟨rfl, rfl⟩ := h₁
  refine hr.arrowHead?.bind fun o b₂ _ h₂ => ?_
  cases o with
  | none => exact .pure h₂
  | some ps =>
    refine (runs_peekKind _).bind fun k b₃ _ _ => .join ?_
    have hbody : Runs b₃ (if (k == .punct .lBrace) = true then
        FuncBody.block <$> r.block (ctx.ofArrow isAsync)
        else FuncBody.expr <$> r.assignment (ctx.ofArrow isAsync) ends) fun body _ =>
          body.Formed (ctx.ofArrow isAsync) :=
      .ite (fun _ => .map hr.block) fun _ => .map ((hr.assignment _).mono fun _ _ _ h => h.1)
    refine hbody.bind fun body b₄ _ hbody => ?_
    refine (runs_since _).bind fun loc b₅ _ _ => .pure ⟨?_, fun _ => trivial⟩
    exact ⟨rfl, fun _ => rfl, nofun, h₂, hbody⟩

theorem arrowOrParenthesized (ends : List TokenKind) :
    Runs b (r.arrowOrParenthesized ctx ends) fun e _ =>
      e.Formed ctx ∧ e.NameFrom b.position.offset := by
  refine (hr.arrow? false ends).bind fun o b₁ _ h₁ => ?_
  cases o with
  | some e => exact .pure ⟨h₁.1, h₁.2 _⟩
  | none => exact hr.parenthesized.mono fun e _ _ he => ⟨he.1, he.2.mono h₁.offset_le⟩

theorem nameOrArrow (ends : List TokenKind) : Runs b (r.nameOrArrow ctx ends) fun e _ =>
    e.Formed ctx ∧ e.NameFrom b.position.offset := by
  refine runs_peekTwo.bind fun ts b₁ _ h₁ => ?_
  have name : ∀ b₂, b.Keeps b₂ → Runs b₂ (nameExpr ctx) fun e _ =>
      e.Formed ctx ∧ e.NameFrom b.position.offset := fun b₂ ⟨_, h₂⟩ =>
    runs_nameExpr.mono fun e _ _ he => ⟨he.1, he.2.mono h₂.offset_le⟩
  refine .ite (fun _ => ?_) fun _ => name b₁ ⟨_, h₁.2⟩
  refine (hr.arrow? false ends).bind fun o b₂ k₂ h₂ => ?_
  cases o with
  | some e => exact .pure ⟨h₂.1, h₂.2 _⟩
  | none => exact name b₂ ⟨_, h₁.2.trans h₂⟩

theorem asyncOrName (ends : List TokenKind) : Runs b (r.asyncOrName ctx ends) fun e _ =>
    e.Formed ctx ∧ e.NameFrom b.position.offset := by
  refine runs_peekTwo.bind fun ts b₁ k₁ h₁ => ?_
  obtain ⟨rfl, h₁⟩ := h₁
  have name : ∀ b₂, b₁.Consumes [] b₂ → Runs b₂ (r.nameOrArrow ctx ends) fun e _ =>
      e.Formed ctx ∧ e.NameFrom b.position.offset := fun b₂ h₂ =>
    (hr.nameOrArrow ends).mono fun e _ _ he => ⟨he.1, he.2.mono (h₁.trans h₂).offset_le⟩
  refine .ite (fun _ => ?_) fun _ => name b₁ (.refl k₁.coherent)
  refine .ite (fun _ => ?_) fun _ => .ite (fun _ => ?_) fun _ => name b₁ (.refl k₁.coherent)
  · exact hr.funcExpr.mono fun e _ _ he => ⟨he.1, he.2.mono h₁.offset_le⟩
  refine RunsFrom.bind runs_mark fun start b₂ _ h₂ => ?_
  obtain ⟨rfl, rfl⟩ := h₂
  refine .bind (runs_skip _) fun _ b₂ _ _ => .bind (hr.arrow? true ends) fun o b₃ _ h₃ => ?_
  cases o with
  | some e => exact .pure ⟨h₃.1, h₃.2 _⟩
  | none => exact .chain .restore fun _ b₄ _ h₄ => (name b₄ h₄).widen.mono fun _ _ _ h => h.2

end Rules.Sound

/-! ### Operands -/

theorem runs_memberAccess {e : Expr} (he : e.Formed ctx) (optional : Bool) :
    Runs b (Rules.memberAccess e optional) fun e' _ => e'.Formed ctx ∧ ∀ n, e'.NameFrom n := by
  refine (runs_consume _).bind fun t b₁ _ h₁ => ?_
  obtain ⟨rfl, -⟩ := h₁
  refine .ite (fun _ => .throw) fun hname => .pure ⟨⟨he, _, by simpa using hname, ?_⟩, fun _ => trivial⟩
  refine isToken_upcoming rfl fun hinv => hname ?_
  rw [hinv]
  rfl

theorem isPrefix_of_prefixOperator? {kind : TokenKind} {op : Operator}
    (h : kind.prefixOperator? = some op) : op.isPrefix = true := by
  unfold TokenKind.prefixOperator? at h
  split at h <;> cases h <;> rfl

theorem isPrefix_of_prefixAt? {kind : TokenKind} {op : Operator}
    (h : Rules.prefixAt? ctx kind = some op) :
    op.isPrefix = true ∧ (op = .await → ctx.awaitIsName = false) := by
  unfold Rules.prefixAt? at h
  split at h
  · exact nomatch h
  · next hnot =>
    refine ⟨isPrefix_of_prefixOperator? h, ?_⟩
    rintro rfl
    have hkind : kind = .keyword .kAwait := by
      unfold TokenKind.prefixOperator? at h
      split at h <;> simp_all
    simpa [hkind] using hnot

namespace Rules.Sound

variable (hr : r.Sound)
include hr

theorem yieldExpr (hctx : ctx.yieldIsName = false) (ends : List TokenKind) :
    Runs b (r.yieldExpr ctx ends) fun e _ => e.Formed ctx ∧ ∀ n, e.NameFrom n := by
  refine runs_spanning ?_
  refine (runs_expectKeyword _).bind fun _ b₁ _ _ => ?_
  refine (runs_acceptPunct _ _).bind fun delegate b₂ _ _ => ?_
  refine (runs_peek _).bind fun t b₃ _ _ => ?_
  refine (runs_optionally (T := fun o _ => optFormed ctx o ∧ (delegate = true → o.isSome = true)) _
    (fun _ => (hr.assignment _).mono fun _ _ _ h => ⟨h.1, fun _ => rfl⟩) ?_).bind
    fun arg b₄ _ harg => .pure ⟨⟨hctx, harg.2, harg.1⟩, fun _ => trivial⟩
  intro hflag
  refine ⟨trivial, ?_⟩
  rintro rfl
  simp at hflag

theorem importExpr : Runs b (r.importExpr ctx) fun e _ => e.Formed ctx ∧ ∀ n, e.NameFrom n := by
  refine runs_spanning ?_
  refine (runs_expectKeyword _).bind fun _ b₁ _ _ => ?_
  refine (runs_acceptPunct _ _).bind fun _ b₂ _ _ => .ite (fun _ => ?_) fun _ => ?_
  · refine (runs_expectWord _).ignore.bind fun _ b₃ _ _ => .pure ⟨trivial, fun _ => trivial⟩
  refine (runs_expectPunct _ _).bind fun _ b₃ _ _ => ?_
  refine (hr.assignment _).bind fun e b₄ _ he => ?_
  refine (runs_acceptPunct _ _).ignore.bind fun _ b₅ _ _ => ?_
  exact (runs_expectPunct _ _).bind fun _ b₆ _ _ => .pure ⟨he.1, fun _ => trivial⟩

theorem indexAccess {e : Expr} (he : e.Formed ctx) (optional : Bool) :
    Runs b (r.indexAccess ctx e optional) fun e' _ => e'.Formed ctx ∧ ∀ n, e'.NameFrom n := by
  refine (hr.sequence _).bind fun k b₁ _ hk => ?_
  exact (runs_expect _ _).bind fun _ b₂ _ _ => .pure ⟨⟨he, hk.1⟩, fun _ => trivial⟩

theorem taggedTemplate {e : Expr} {t : Token} (he : e.Formed ctx) (ht : t.HasText true) :
    Runs b (r.taggedTemplate ctx e t) fun e' _ => e'.Formed ctx ∧ ∀ n, e'.NameFrom n :=
  (hr.templateAfter ht).bind fun _ _ _ hps => .pure ⟨⟨he, hps⟩, fun _ => trivial⟩

theorem calleeTail : ∀ (n : Nat) (b : TokenBuffer) (e : Expr), e.Formed ctx →
    Runs b (r.calleeTail ctx e n) fun e' _ => e'.Formed ctx
  | 0, _, _, _ => runs_exhausted
  | n + 1, b, e, he => by
    refine (runs_peekKind _).bind fun k b₁ _ h₁ => ?_
    split
    · refine (runs_skip _).bind fun _ b₂ _ _ => ?_
      exact (runs_memberAccess he _).bind fun e' b₃ _ he' => calleeTail n b₃ e' he'.1
    · refine (runs_skip _).bind fun _ b₂ _ _ => ?_
      exact (hr.indexAccess he _).bind fun e' b₃ _ he' => calleeTail n b₃ e' he'.1
    · refine (runs_consume _).bind fun t b₂ _ h₂ => ?_
      exact (hr.taggedTemplate he (h₂.1 ▸ hasText_first b₁)).bind
        fun e' b₃ _ he' => calleeTail n b₃ e' he'.1
    · refine (runs_consume _).bind fun t b₂ _ h₂ => ?_
      exact (hr.taggedTemplate he (h₂.1 ▸ hasText_first b₁)).bind
        fun e' b₃ _ he' => calleeTail n b₃ e' he'.1
    · exact .pure he

theorem constructExpr : Runs b (r.constructExpr ctx) fun e _ =>
    e.Formed ctx ∧ ∀ n, e.NameFrom n := by
  refine runs_spanning ?_
  refine (runs_expectKeyword _).bind fun _ b₁ _ _ => ?_
  refine (runs_acceptPunct _ _).bind fun _ b₂ _ _ => .ite (fun _ => ?_) fun _ => ?_
  · exact (runs_expectWord _).ignore.bind fun _ b₃ _ _ => .pure ⟨trivial, fun _ => trivial⟩
  refine (runs_peekKind _).bind fun k b₃ _ _ => .join ?_
  have hstart : Runs b₃ (if (k == .keyword .kNew) = true then r.construct ctx else r.operand ctx [])
      fun e _ => e.Formed ctx := .ite (fun _ => hr.construct _ _) fun _ => hr.operand _ _ _
  refine hstart.bind fun e b₄ _ he => ?_
  refine (hr.calleeTail _ _ _ he).bind fun callee b₅ _ hcallee => ?_
  refine (runs_acceptPunct _ _).bind fun ok b₆ _ _ => ?_
  refine (runs_optionally (T := fun o _ => optArgsFormed ctx o) ok (fun _ => hr.args)
    fun _ => trivial).bind fun args b₇ _ hargs => ?_
  exact .pure ⟨⟨hcallee, hargs⟩, fun _ => trivial⟩

theorem arrayElems : ∀ (n : Nat) (b : TokenBuffer), Runs b (r.arrayElems ctx n) fun es _ =>
    elemsFormed ctx es
  | 0, _ => runs_exhausted
  | n + 1, b => by
    refine (runs_acceptPunct _ _).bind fun _ b₁ _ _ => .ite (fun _ => .pure trivial) fun _ => ?_
    refine (runs_acceptPunct _ _).bind fun _ b₂ _ _ => .ite (fun _ => ?_) fun _ => ?_
    · exact (arrayElems n b₂).bind fun es b₃ _ h => .pure h
    refine (runs_acceptPunct _ _).bind fun isSpread b₃ _ _ => ?_
    refine (hr.assignment _).bind fun e b₄ _ he => ?_
    refine (runs_acceptPunct _ _).bind fun _ b₅ _ _ => .ite (fun _ => ?_) fun _ => ?_
    · refine (arrayElems n b₅).bind fun es b₆ _ h => .pure ?_
      cases isSpread <;> exact ⟨he.1, h⟩
    · refine (runs_expectPunct _ _).bind fun _ b₆ _ _ => .pure ?_
      cases isSpread <;> exact ⟨he.1, trivial⟩

theorem arrayLiteral : Runs b (r.arrayLiteral ctx) fun e _ =>
    e.Formed ctx ∧ ∀ n, e.NameFrom n := by
  refine runs_spanning ?_
  refine (runs_expectPunct _ _).bind fun _ b₁ _ _ => ?_
  exact (hr.arrayElems _ _).bind fun es b₂ _ h => .pure ⟨h, fun _ => trivial⟩

theorem unaryExpr {op : Operator} (hop : op.isPrefix = true)
    (hawait : op = .await → ctx.awaitIsName = false) (ends : List TokenKind) :
    Runs b (r.unaryExpr ctx op ends) fun e _ => e.Formed ctx ∧ ∀ n, e.NameFrom n := by
  refine runs_spanning ?_
  refine (runs_skip _).bind fun _ b₁ _ _ => ?_
  exact (hr.expr _ _ _ _).bind fun e b₂ _ he => .pure ⟨⟨hop, hawait, he.1⟩, fun _ => trivial⟩

end Rules.Sound

/-! ### Whole expressions -/

/-- What stands between two operands assigns, is a binary operator, or has a production of its
own. -/
theorem infixOperator?_cases {kind : TokenKind} {op : Operator}
    (h : kind.infixOperator? = some op) :
    op.isAssignment = true ∨ op.isBinary = true ∨
      op ∈ [Operator.call, .optionalChainingCall, .memberAccess, .optionalChainingMemberAccess,
        .computedMemberAccess, .optionalChainingComputedMemberAccess, .conditional] := by
  have hall : kind.infixOperator?.all (fun op => op.isAssignment || (op.isBinary ||
      op ∈ [.call, .optionalChainingCall, .memberAccess, .optionalChainingMemberAccess,
        .computedMemberAccess, .optionalChainingComputedMemberAccess, .conditional])) = true := by
    -- each sign and each keyword is looked at once, and its operator evaluated
    cases kind with
    | punct p => cases p <;> rfl
    | keyword k => cases k <;> rfl
    | _ => rfl
  rw [h, Option.all_some, Bool.or_eq_true, Bool.or_eq_true, decide_eq_true_eq] at hall
  exact hall

theorem isPostfix_of_updateOperator? {kind : TokenKind} {op : Operator}
    (h : Rules.updateOperator? kind = some op) : op.isPostfix = true := by
  unfold Rules.updateOperator? at h
  split at h <;> cases h <;> rfl

theorem runs_ofExcept {α : Type} {x : Except SyntaxError α} {P : α → Prop}
    (h : ∀ a, x = .ok a → P a) : Runs b (TokenParser.ofExcept x) fun a _ => P a := by
  cases x with
  | ok a => exact .pure (h a rfl)
  | error e => exact .throw

namespace Rules.Sound

variable (hr : r.Sound)
include hr

theorem primaryExpr (ends : List TokenKind) (t : Token) :
    Runs b (r.primaryExpr ctx ends t) fun e _ => e.Formed ctx ∧ e.NameFrom b.position.offset := by
  unfold Rules.primaryExpr
  split
  · exact hr.constructExpr.mono fun _ _ _ h => ⟨h.1, h.2 _⟩
  · exact hr.importExpr.mono fun _ _ _ h => ⟨h.1, h.2 _⟩
  · exact runs_spanning (hr.element.bind fun _ _ _ h => .pure ⟨h.1, trivial⟩)
  · exact hr.arrowOrParenthesized ends
  · exact hr.arrayLiteral.mono fun _ _ _ h => ⟨h.1, h.2 _⟩
  · exact hr.objectLiteral
  · exact hr.funcExpr
  · exact hr.classExpr
  · refine (runs_expect _ _).bind fun u b₁ _ hu => .pure ⟨?_, trivial⟩
    obtain ⟨rfl, hk, -⟩ := hu
    exact isToken_upcoming hk nofun
  · exact (runs_consume _).bind fun _ _ _ _ => .pure ⟨trivial, trivial⟩
  · exact (runs_consume _).bind fun _ _ _ _ => .pure ⟨trivial, trivial⟩
  · exact (runs_consume _).bind fun _ _ _ _ => .pure ⟨trivial, trivial⟩
  · refine (runs_expect _ _).bind fun u b₁ _ hu => ?_
    obtain ⟨rfl, hk, -⟩ := hu
    split
    · next hn => exact .pure ⟨⟨_, isToken_upcoming hk nofun, hn⟩, trivial⟩
    · exact .throw
  · refine (runs_expect _ _).bind fun u b₁ _ hu => .pure ⟨?_, trivial⟩
    obtain ⟨rfl, hk, -⟩ := hu
    exact isRegexText_upcoming hk
  · exact runs_stringValue.bind fun _ _ _ _ => .pure ⟨trivial, trivial⟩
  · refine (runs_consume _).bind fun u b₁ _ hu => ?_
    exact (hr.templateAfter (hu.1 ▸ hasText_first b)).bind fun _ _ _ h => .pure ⟨h, trivial⟩
  · refine (runs_consume _).bind fun u b₁ _ hu => ?_
    exact (hr.templateAfter (hu.1 ▸ hasText_first b)).bind fun _ _ _ h => .pure ⟨h, trivial⟩
  · exact (runs_consume _).bind fun _ _ _ _ => .pure ⟨trivial, trivial⟩
  · exact (runs_consume _).bind fun _ _ _ _ => .pure ⟨trivial, trivial⟩
  · refine .ite (fun _ => hr.asyncOrName ends) fun _ => ?_
    refine .ite (fun _ => hr.nameOrArrow ends) fun _ => ?_
    exact .ite (fun _ => .throw) fun _ => .throw

theorem operandExpr (ends : List TokenKind) : Runs b (r.operandExpr ctx ends) fun e _ =>
    e.Formed ctx ∧ e.NameFrom b.position.offset := by
  refine (runs_peek _).bind fun t b₁ _ h₁ => ?_
  cases hop : prefixAt? ctx t.kind with
  | some op =>
    obtain ⟨hpre, hawait⟩ := isPrefix_of_prefixAt? hop
    exact (hr.unaryExpr hpre hawait ends).mono fun _ _ _ h => ⟨h.1, h.2 _⟩
  | none =>
    refine .ite (fun hy => ?_) fun _ => ?_
    · exact (hr.yieldExpr (by simp at hy; exact hy.2) ends).mono fun _ _ _ h => ⟨h.1, h.2 _⟩
    · exact (hr.primaryExpr ends t).mono fun _ _ _ h => ⟨h.1, h.2.mono h₁.2.offset_le⟩

theorem binaryTail {op : Operator} (hop : op.isAssignment = true ∨ op.isBinary = true) {left : Expr}
    (hl : left.Formed ctx) (ends : List TokenKind) :
    Runs b (r.binaryTail ctx ends op left) fun e _ => e.Formed ctx ∧ ∀ n, e.NameFrom n := by
  refine .join ?_
  have hleft : Runs b (if op.isAssignment then TokenParser.ofExcept (left.toTarget op) else pure left)
      fun l _ => (op.isAssignment = true ∧ l.TargetFormed ctx op) ∨
        (op.isBinary = true ∧ l.Formed ctx) := by
    refine .ite (fun ha => ?_) fun ha => .pure (.inr ⟨hop.resolve_left ha, hl⟩)
    exact (runs_ofExcept fun l h => Expr.targetFormed_toTarget hl h).mono fun l _ _ h => .inl ⟨ha, h⟩
  refine hleft.bind fun l b₁ _ hl => ?_
  exact (hr.expr _ _ _ _).bind fun e b₂ _ he => .pure ⟨⟨hl, he.1⟩, fun _ => trivial⟩

theorem applyOperator {op : Operator} {t : Token} {left : Expr} (start : Nat)
    (hop : t.kind.infixOperator? = some op) (ht : t.HasText true) (hl : left.Formed ctx)
    (ends : List TokenKind) :
    Runs b (r.applyOperator ctx ends start t op left) fun e _ =>
      e.Formed ctx ∧ ∀ n, e.NameFrom n := by
  unfold Rules.applyOperator
  split
  · refine .ite (fun _ => ?_) fun _ => hr.taggedTemplate hl ht
    refine hr.args.bind fun as b₁ _ has => ?_
    exact (runs_since _).bind fun _ _ _ _ => .pure ⟨⟨hl, has⟩, fun _ => trivial⟩
  · refine hr.args.bind fun as b₁ _ has => ?_
    exact (runs_since _).bind fun _ _ _ _ => .pure ⟨⟨hl, has⟩, fun _ => trivial⟩
  · exact runs_memberAccess hl _
  · exact runs_memberAccess hl _
  · exact hr.indexAccess hl _
  · exact hr.indexAccess hl _
  · refine (hr.assignment _).bind fun c b₁ _ hc => ?_
    refine (runs_expectPunct _ _).bind fun _ b₂ _ _ => ?_
    exact (hr.assignment _).bind fun a b₃ _ ha => .pure ⟨⟨hl, hc.1, ha.1⟩, fun _ => trivial⟩
  · next h₁ h₂ h₃ h₄ h₅ h₆ h₇ =>
    refine hr.binaryTail ?_ hl ends
    rcases infixOperator?_cases hop with h | h | h
    · exact .inl h
    · exact .inr h
    · simp_all

theorem operatorTail (least : Nat) (ends : List TokenKind) (offset : Nat) :
    ∀ (n : Nat) (b : TokenBuffer) (left : Expr), left.Formed ctx ∧ left.NameFrom offset →
      Runs b (r.operatorTail ctx least ends left n) fun e _ => e.Formed ctx ∧ e.NameFrom offset
  | 0, _, _, _ => runs_exhausted
  | n + 1, b, left, hl => by
    refine RunsFrom.bind runs_mark fun start b₁ _ h₁ => ?_
    obtain ⟨rfl, rfl⟩ := h₁
    refine .bind (runs_consume _) fun t b₁ _ h₁ => ?_
    have stop : RunsFrom b b₁ (do restore b.mark; return left) fun e _ =>
        e.Formed ctx ∧ e.NameFrom offset := .chain .restore fun _ _ _ _ => .pure hl
    have more : ∀ (b₂ : TokenBuffer) (e : Expr), e.Formed ctx ∧ (∀ n, e.NameFrom n) →
        RunsFrom b b₂ (r.operatorTail ctx least ends e n) fun e _ =>
          e.Formed ctx ∧ e.NameFrom offset := fun b₂ e he =>
      (operatorTail least ends offset n b₂ e ⟨he.1, he.2 _⟩).widen.mono fun _ _ _ h => h.2
    refine .ite (fun _ => stop) fun _ => ?_
    split
    · next op hop =>
      refine .ite (fun _ => stop) fun _ => more b₁ _ ⟨⟨isPostfix_of_updateOperator? hop, hl.1⟩, ?_⟩
      exact fun _ => trivial
    · split
      · next op hop =>
        refine .ite (fun _ => stop) fun _ => ?_
        exact .bind (hr.applyOperator _ hop (h₁.1 ▸ hasText_first b) hl.1 ends)
          fun e b₂ _ he => more b₂ e he
      · exact stop

theorem operatorExpr (least : Nat) (ends : List TokenKind) :
    Runs b (r.operatorExpr ctx least ends) fun e _ =>
      e.Formed ctx ∧ e.NameFrom b.position.offset :=
  (hr.operandExpr ends).bind fun left b₁ _ hl => hr.operatorTail least ends _ _ b₁ left hl

end Rules.Sound

end ImportSeam
