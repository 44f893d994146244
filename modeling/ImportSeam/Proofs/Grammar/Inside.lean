import ImportSeam.Proofs.Grammar.Expressions
import ImportSeam.Proofs.Grammar.Progress

/-!
# Where expressions stand

A literal that cannot be assigned to is rejected at a place inside it, long after it was read.  So
the place has to be kept with the expression: an expression is *inside* the source if its location
is, together with those of all parts that a conversion to a pattern looks at.

## Main definitions

* `Expr.Inside` — the expression stands in the source.
* `FailsSanely` — a conversion that fails with sane errors only.

## Main results

* `Expr.toPat_sane`, `Expr.toTarget_sane`, `forTarget_sane` — conversions reject places in the
  source.
-/

namespace ImportSeam

variable {α β : Type} {src : Cursor}

/-! ### Expressions -/

mutual

/-- The expression stands in the source, and so does what a conversion to a pattern looks at. -/
def Expr.Inside (src : Cursor) : Expr → Prop
  | .array loc elems => loc.Within src ∧ elemsInside src elems
  | .object loc members => loc.Within src ∧ membersInside src members
  | .binary loc _ left _ => loc.Within src ∧ left.Inside src
  | e => e.loc.Within src

/-- The elements of an array literal stand in the source. -/
def elemsInside (src : Cursor) : List ArrayElem → Prop
  | [] => True
  | .hole :: es => elemsInside src es
  | .item e :: es => e.Inside src ∧ elemsInside src es
  | .spread e :: es => e.Inside src ∧ elemsInside src es

/-- The members of an object literal stand in the source. -/
def membersInside (src : Cursor) : List ObjMember → Prop
  | [] => True
  | .valued loc _ value :: ms => (loc.Within src ∧ value.Inside src) ∧ membersInside src ms
  | .shorthand _ _ :: ms => membersInside src ms
  | .spread _ e :: ms => e.Inside src ∧ membersInside src ms

/-- The value of a field stands in the source. -/
def Member.Inside (src : Cursor) : Member → Prop
  | .field (some e) => e.Inside src
  | _ => True

end

theorem Expr.Inside.within {e : Expr} (h : e.Inside src) : e.loc.Within src := by
  cases e with
  | array loc es => exact h.1
  | object loc ms => exact h.1
  | binary loc op left right => exact h.1
  | _ => exact h

theorem membersInside_of_forall {ms : List ObjMember} (h : ∀ m ∈ ms, membersInside src [m]) :
    membersInside src ms := by
  refine forms_of_forall trivial (fun m ms hm hms => ?_) ms h
  cases m with
  | shorthand loc id => exact hms
  | valued loc key value => exact ⟨hm.1, hms⟩
  | spread loc e => exact ⟨hm.1, hms⟩

/-! ### Conversions -/

/-- A conversion that fails with sane errors only. -/
def FailsSanely (src : Cursor) (x : Except SyntaxError α) : Prop := ∀ e, x = .error e → e.Sane src

namespace FailsSanely

theorem ok (a : α) : FailsSanely src (Except.ok a) := by
  intro e he
  cases he

theorem error {e : SyntaxError} (h : e.Sane src) : FailsSanely src (.error e : Except _ α) := by
  rintro e' he
  exact Except.error.inj he ▸ h

theorem bind {x : Except SyntaxError α} {f : α → Except SyntaxError β} (h : FailsSanely src x)
    (hf : ∀ a, FailsSanely src (f a)) : FailsSanely src (x >>= f) := by
  cases x with
  | ok a => exact hf a
  | error e => exact error (h e rfl)

theorem ite {c : Prop} [Decidable c] {x y : Except SyntaxError α} (hx : FailsSanely src x)
    (hy : FailsSanely src y) : FailsSanely src (if c then x else y) := by
  split
  · exact hx
  · exact hy

/-- What cannot be assigned to is rejected where it stands. -/
theorem notAssignable {l : Loc} (h : l.Within src) :
    FailsSanely src (throw (ImportSeam.notAssignable l) : Except SyntaxError α) :=
  error (Loc.error_sane h nofun)

end FailsSanely

mutual

theorem Expr.toPat_sane {e : Expr} (h : e.Inside src) : FailsSanely src e.toPat := by
  cases e with
  | ident id => exact .ok _
  | target p => exact .ok _
  | array loc es =>
    exact (elemsToPats_sane h.1 es h.2).bind fun _ => .ok _
  | object loc ms =>
    exact (membersToProps_sane h.1 ms h.2).bind fun _ => .ok _
  | _ => exact .notAssignable h.within
termination_by sizeOf e

theorem Expr.toBinder_sane {e : Expr} (h : e.Inside src) : FailsSanely src e.toBinder := by
  cases e with
  | ident id => exact .ok _
  | target p => exact .ok _
  | array loc es =>
    exact (elemsToPats_sane h.1 es h.2).bind fun _ => .ok _
  | object loc ms =>
    exact (membersToProps_sane h.1 ms h.2).bind fun _ => .ok _
  | binary loc op left right =>
    -- only a plain assignment can stand for a pattern with a default
    cases op
    case assign =>
      exact (Expr.toPat_sane h.2).bind fun _ => .ok _
    all_goals exact .notAssignable h.within
  | _ => exact .notAssignable h.within
termination_by sizeOf e

theorem elemsToPats_sane {loc : Loc} (hl : loc.Within src) (es : List ArrayElem)
    (h : elemsInside src es) : FailsSanely src (elemsToPats loc es) := by
  match es with
  | [] => exact .ok _
  | .hole :: es =>
    exact (elemsToPats_sane hl es h).bind fun _ => .ok _
  | .item e :: es =>
    exact (Expr.toBinder_sane h.1).bind fun _ => (elemsToPats_sane hl es h.2).bind fun _ => .ok _
  | .spread e :: es =>
    exact (Expr.toPat_sane h.1).bind fun _ => .ite (.ok _) (.notAssignable hl)
termination_by sizeOf es

theorem membersToProps_sane {loc : Loc} (hl : loc.Within src) (ms : List ObjMember)
    (h : membersInside src ms) : FailsSanely src (membersToProps loc ms) := by
  match ms with
  | [] => exact .ok _
  | .valued _ key (.field (some e)) :: ms =>
    exact (Expr.toBinder_sane h.1.2).bind fun _ => (membersToProps_sane hl ms h.2).bind
      fun _ => .ok _
  | .valued _ _ (.field none) :: _ => exact .notAssignable h.1.1
  | .valued _ _ (.getter _) :: _ => exact .notAssignable h.1.1
  | .valued _ _ (.setter _) :: _ => exact .notAssignable h.1.1
  | .valued _ _ (.method _) :: _ => exact .notAssignable h.1.1
  | .valued _ _ (.staticBlock _) :: _ => exact .notAssignable h.1.1
  | .shorthand _ id :: ms =>
    exact (membersToProps_sane hl ms h).bind fun _ => .ok _
  | .spread _ e :: ms =>
    cases e with
    | ident id =>
      -- a rest that is not the last member is rejected with the whole literal
      exact .ite (.ok _) (.notAssignable hl)
    | _ => exact .notAssignable h.1.within
termination_by sizeOf ms

end

theorem Expr.toTarget_sane {op : Operator} {e : Expr} (h : e.Inside src) :
    FailsSanely src (e.toTarget op) := by
  cases e with
  | ident id => exact .ok _
  | member loc o e p => exact .ok _
  | index loc o e k => exact .ok _
  | array loc es => exact .ite ((Expr.toPat_sane h).bind fun _ => .ok _) (.notAssignable h.within)
  | object loc ms => exact .ite ((Expr.toPat_sane h).bind fun _ => .ok _) (.notAssignable h.within)
  | _ => exact .notAssignable h.within

/-- The left side of an assignment stands where it stood as an expression. -/
theorem Expr.inside_toTarget {op : Operator} {e t : Expr} (he : e.Inside src)
    (h : e.toTarget op = .ok t) : t.Inside src := by
  obtain ⟨id, rfl, rfl⟩ | ⟨-, rfl⟩ | ⟨-, -, p, hp, rfl⟩ := Expr.toTarget_ok h
  · exact he
  · exact he
  · have hw : p.loc.Within src := Expr.loc_toPat hp ▸ he.within
    exact hw

/-- An expression in the head of a loop stands in the source. -/
def ForInit.Inside (src : Cursor) : ForInit → Prop
  | .expr e => e.Inside src
  | _ => True

theorem forTarget_sane {first : Token} {loc : Loc} {init : ForInit} (hf : first.loc.Within src)
    (hl : loc.Within src) (hi : init.Inside src) :
    FailsSanely src (Rules.forTarget first loc init) := by
  unfold Rules.forTarget
  split
  · exact .ok _
  · exact .error (Loc.error_sane hl nofun)
  · exact (Expr.toPat_sane hi).bind fun _ => .ok _
  · exact .error (first.error_sane hf _)

end ImportSeam
