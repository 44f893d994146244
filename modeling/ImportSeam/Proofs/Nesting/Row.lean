import ImportSeam.Proofs.Grammar.Expressions
import ImportSeam.Proofs.Nesting.Children
import ImportSeam.Proofs.Token.Place

/-!
# Parts that stand inside one another

A part is *nested* if it takes up some of the source and its children stand inside it, one behind
the other, and are nested in turn.  Parts laid out between two offsets are cut and put together
like the lists they are, which is all that a conversion of a literal to a pattern does to them.

## Main definitions

* `Part.Nested` — a part with everything inside it.
* `Row` — nested parts between two offsets, one behind the other.

## Main results

* `Program.Contains.nested` — whatever is inside nested statements is nested.
* `Expr.nested_toPat`, `Expr.nested_toTarget` — a literal converted to a pattern stays nested.
-/

namespace ImportSeam

variable {src : Cursor} {a a' m z z' : Nat} {x y : Part} {xs ys : List Part}

mutual

/-- The part takes up some of the source, and its children are laid out inside it. -/
inductive Part.Nested (src : Cursor) : Part → Prop
  | mk {x : Part} (within : x.loc.Within src) (nonempty : x.loc.start < x.loc.stop)
      (inside : Row src x.loc.start x.children x.loc.stop) : Part.Nested src x

/-- Nested parts that stand between two offsets, one behind the other. -/
inductive Row (src : Cursor) : Nat → List Part → Nat → Prop
  | nil {a z : Nat} (le : a ≤ z) : Row src a [] z
  | cons {a z : Nat} {x : Part} {xs : List Part} (start : a ≤ x.loc.start)
      (nested : Part.Nested src x) (rest : Row src x.loc.stop xs z) : Row src a (x :: xs) z

end

namespace Part.Nested

theorem within (h : x.Nested src) : x.loc.Within src := by
  cases h with
  | mk hw hlt hl => exact hw

theorem nonempty (h : x.Nested src) : x.loc.start < x.loc.stop := by
  cases h with
  | mk hw hlt hl => exact hlt

theorem inside (h : x.Nested src) : Row src x.loc.start x.children x.loc.stop := by
  cases h with
  | mk hw hlt hl => exact hl

end Part.Nested

/-! ### Lists of parts -/

namespace Row

theorem le (h : Row src a xs z) : a ≤ z := by
  induction xs generalizing a with
  | nil =>
    cases h with
    | nil hle => exact hle
  | cons x xs ih =>
    cases h with
    | cons hstart hx hxs =>
      have := hx.nonempty
      have := ih hxs
      omega

/-- No part has room between an offset and itself. -/
theorem eq_nil (h : Row src a xs a) : xs = [] := by
  cases h with
  | nil => rfl
  | cons hstart hx hxs =>
    have := hx.nonempty
    have := hxs.le
    omega

theorem widen (h : Row src a xs z) (ha : a' ≤ a) (hz : z ≤ z') : Row src a' xs z' := by
  induction xs generalizing a a' with
  | nil => exact .nil (Nat.le_trans ha (Nat.le_trans h.le hz))
  | cons x xs ih =>
    cases h with
    | cons hstart hx hxs => exact .cons (Nat.le_trans ha hstart) hx (ih hxs (Nat.le_refl _))

theorem append (h : Row src a xs m) (h' : Row src m ys z) : Row src a (xs ++ ys) z := by
  induction xs generalizing a with
  | nil => exact h'.widen h.le (Nat.le_refl _)
  | cons x xs ih =>
    cases h with
    | cons hstart hx hxs => exact .cons hstart hx (ih hxs)

/-- What is laid out can be cut anywhere. -/
theorem split (h : Row src a (xs ++ ys) z) : ∃ m, Row src a xs m ∧ Row src m ys z := by
  induction xs generalizing a with
  | nil => exact ⟨a, .nil (Nat.le_refl a), h⟩
  | cons x xs ih =>
    cases h with
    | cons hstart hx hxs =>
      obtain ⟨m, hm, hys⟩ := ih hxs
      exact ⟨m, .cons hstart hx hm, hys⟩

theorem single (h : x.Nested src) : Row src x.loc.start [x] x.loc.stop :=
  .cons (Nat.le_refl _) h (.nil (Nat.le_refl _))

/-- A part of the list is nested and stands between the offsets. -/
theorem of_mem (h : Row src a xs z) (hx : x ∈ xs) :
    x.Nested src ∧ a ≤ x.loc.start ∧ x.loc.stop ≤ z := by
  obtain ⟨before, after, rfl⟩ := List.append_of_mem hx
  obtain ⟨m, hbefore, hrest⟩ := h.split
  cases hrest with
  | cons hstart hnested hafter =>
    exact ⟨hnested, Nat.le_trans hbefore.le hstart, hafter.le⟩

/-- No two parts of the list overlap: each ends where the next begins, or before. -/
theorem pairwise (h : Row src a xs z) : xs.Pairwise fun x y => x.loc.stop ≤ y.loc.start := by
  induction xs generalizing a with
  | nil => exact .nil
  | cons x xs ih =>
    cases h with
    | cons hstart hx hxs => exact .cons (fun y hy => (hxs.of_mem hy).2.1) (ih hxs)

end Row

namespace Part.Nested

/-- A part around one other part. -/
theorem wrap (h : x.Nested src) (hloc : y.loc = x.loc) (hchildren : y.children = [x]) :
    y.Nested src := by
  refine .mk (hloc ▸ h.within) (hloc ▸ h.nonempty) ?_
  rw [hloc, hchildren]
  exact .single h

/-- What a wrapper wraps. -/
theorem of_wrap (h : y.Nested src) (hchildren : y.children = [x]) : x.Nested src :=
  (h.inside.of_mem (hchildren ▸ List.mem_singleton_self x)).1

/-- A part with nothing inside. -/
theorem leaf (hw : x.loc.Within src) (hlt : x.loc.start < x.loc.stop) (hchildren : x.children = []) :
    x.Nested src :=
  .mk hw hlt (hchildren ▸ .nil (Nat.le_of_lt hlt))

/-- A name, whatever it is the name of. -/
theorem name {id : Ident} {role : NameRole} (h : (Part.name role id).Nested src) (role' : NameRole) :
    (Part.name role' id).Nested src := .leaf h.within h.nonempty rfl

theorem patIdent {id : Ident} {role : NameRole} (h : (Part.name role id).Nested src) :
    (Part.pat (.ident id)).Nested src := .wrap (h.name .pattern) rfl rfl

theorem exprIdent {id : Ident} {role : NameRole} (h : (Part.name role id).Nested src) :
    (Part.expr (.ident id)).Nested src := .wrap (h.name .value) rfl rfl

/-- A pattern that is assigned to. -/
theorem target {p : Pat} (h : (Part.pat p).Nested src) : (Part.expr (.target p)).Nested src :=
  .wrap h rfl rfl

end Part.Nested

/-! ### The parts of a module -/

namespace Program.Contains

variable {p : Program}

/-- Whatever is inside nested statements is nested. -/
theorem nested (h : p.Contains x) (hbody : ∀ s ∈ p.body, (Part.stmt s).Nested src) :
    x.Nested src := by
  induction h with
  | stmt hs => exact hbody _ hs
  | child hx hc ih => exact (ih.inside.of_mem hc).1

/-- A nested part is finite, so its children lead to every part inside it. -/
theorem of_mem_parts (h : p.Contains x) (hx : x.Nested src) : ∀ q ∈ x.parts, p.Contains q := by
  -- over the part and the lists of children at once
  refine @Part.Nested.rec src (fun x _ => p.Contains x → ∀ q ∈ x.parts, p.Contains q)
    (fun _ xs _ _ => ∀ c ∈ xs, p.Contains c → ∀ q ∈ c.parts, p.Contains q) ?_ ?_ ?_ x hx h
  · intro x _ _ _ ih hx q hq
    rcases Part.mem_parts hq with rfl | ⟨c, hc, hq⟩
    · exact hx
    · exact ih c hc (hx.child hc) q hq
  · intro a z _ c hc
    exact absurd hc List.not_mem_nil
  · intro a z x xs _ _ _ ihx ihxs c hc
    rcases List.mem_cons.1 hc with rfl | hc
    · exact ihx
    · exact ihxs c hc

end Program.Contains

/-! ### Literals read as patterns -/

mutual

/-- A pattern stands where the literal stood, and its parts stand where theirs did. -/
theorem Expr.nested_toPat {e : Expr} {p : Pat} (he : (Part.expr e).Nested src)
    (h : e.toPat = .ok p) : (Part.pat p).Nested src := by
  obtain ⟨id, rfl, rfl⟩ | rfl | ⟨loc, es, ps, rest, rfl, hes, rfl⟩ |
    ⟨loc, ms, ps, rest, rfl, hms, rfl⟩ := Expr.toPat_ok h
  · exact (he.of_wrap rfl).patIdent
  · exact he.of_wrap rfl
  · have hrow := elemsToPats_row es he.inside hes
    exact .mk he.within he.nonempty hrow
  · have hrow := membersToProps_row ms he.inside hms
    exact .mk he.within he.nonempty hrow
termination_by sizeOf e

/-- An assignment to a pattern is given up, and its two sides stand where it stood. -/
theorem Expr.row_toBinder {e : Expr} {b : Binder} (he : (Part.expr e).Nested src)
    (h : e.toBinder = .ok b) : Row src e.loc.start b.nodes e.loc.stop := by
  obtain ⟨loc, left, right, p, rfl, hl, rfl⟩ | ⟨p, hp, rfl⟩ := Expr.toBinder_ok h
  · cases he.inside with
    | cons hstart hleft hright =>
      have hp : (Part.pat p).Nested src := Expr.nested_toPat hleft hl
      have hloc : (Part.pat p).loc = (Part.expr left).loc := Expr.loc_toPat hl
      exact .cons (hloc ▸ hstart) hp (hloc ▸ hright)
  · have hloc : (Part.pat p).loc = (Part.expr e).loc := Expr.loc_toPat hp
    have hrow := Row.single (Expr.nested_toPat he hp)
    rw [hloc] at hrow
    exact hrow
termination_by sizeOf e + 1

theorem elemsToPats_row {loc : Loc} {a z : Nat} (es : List ArrayElem) {ps : List (Option Binder)}
    {rest : Option Pat} (hes : Row src a (es.flatMap ArrayElem.nodes) z)
    (h : elemsToPats loc es = .ok (ps, rest)) :
    Row src a (ps.flatMap Binder.nodes? ++ Part.ofPat? rest) z := by
  match es with
  | [] =>
    obtain ⟨rfl, rfl⟩ := Prod.mk.inj (Except.ok.inj h)
    exact hes
  | .hole :: es =>
    obtain ⟨ps', ht, rfl⟩ := elemsToPats_hole_ok h
    have hrow := elemsToPats_row es hes ht
    exact hrow
  | .item e :: es =>
    obtain ⟨b, ps', hb, ht, rfl⟩ := elemsToPats_item_ok h
    cases hes with
    | cons hstart he hrest =>
      have hb := (Expr.row_toBinder he hb).widen hstart (Nat.le_refl _)
      have hrest := elemsToPats_row es hrest ht
      rw [List.flatMap_cons, List.append_assoc]
      exact hb.append hrest
  | .spread e :: es =>
    obtain ⟨p, hp, rfl, rfl, rfl⟩ := elemsToPats_spread_ok h
    cases hes with
    | cons hstart he hrest =>
      have hloc : (Part.pat p).loc = (Part.expr e).loc := Expr.loc_toPat hp
      exact .cons (hloc ▸ hstart) (Expr.nested_toPat he hp) (hloc ▸ hrest)
termination_by sizeOf es

theorem membersToProps_row {loc : Loc} {a z : Nat} (ms : List ObjMember) {ps : List PropPat}
    {rest : Option Ident} (hms : Row src a (ms.flatMap ObjMember.nodes) z)
    (h : membersToProps loc ms = .ok (ps, rest)) :
    Row src a (ps.flatMap PropPat.nodes ++ (rest.map (.name .pattern)).toList) z := by
  match ms with
  | [] =>
    obtain ⟨rfl, rfl⟩ := Prod.mk.inj (Except.ok.inj h)
    exact hms
  | .valued _ key m :: ms =>
    obtain ⟨e, b, ps', rfl, hb, ht, rfl⟩ := membersToProps_valued_ok h
    rw [List.flatMap_cons, ObjMember.nodes, List.append_assoc] at hms
    obtain ⟨m, hkey, hvalue⟩ := hms.split
    cases hvalue with
    | cons hstart he hrest =>
      have hb := (Expr.row_toBinder he hb).widen hstart (Nat.le_refl _)
      have hrest := membersToProps_row ms hrest ht
      rw [List.flatMap_cons, PropPat.nodes, List.append_assoc, List.append_assoc]
      exact hkey.append (hb.append hrest)
  | .shorthand _ id :: ms =>
    obtain ⟨ps', ht, rfl⟩ := membersToProps_shorthand_ok h
    cases hms with
    | cons hstart hid hrest =>
      have hrest := membersToProps_row ms hrest ht
      exact .cons hstart hid.patIdent hrest
  | .spread _ e :: ms =>
    obtain ⟨id, rfl, rfl, rfl, rfl⟩ := membersToProps_spread_ok h
    cases hms with
    | cons hstart he hrest => exact .cons hstart ((he.of_wrap rfl).name .pattern) hrest
termination_by sizeOf ms

end

/-- The left side of an assignment stands where it stood as an expression. -/
theorem Expr.nested_toTarget {op : Operator} {e t : Expr} (he : (Part.expr e).Nested src)
    (h : e.toTarget op = .ok t) : (Part.expr t).Nested src ∧ t.loc = e.loc := by
  obtain ⟨id, rfl, rfl⟩ | ⟨-, rfl⟩ | ⟨-, -, p, hp, rfl⟩ := Expr.toTarget_ok h
  · exact ⟨(he.of_wrap rfl).patIdent.target, rfl⟩
  · exact ⟨he, rfl⟩
  · exact ⟨(Expr.nested_toPat he hp).target, Expr.loc_toPat hp⟩

end ImportSeam
