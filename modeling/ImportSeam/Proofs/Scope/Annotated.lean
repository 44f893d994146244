import ImportSeam.Proofs.Scope.Outline
import Mathlib.Logic.Basic

/-!
# The outline of an analysed tree

Scope analysis keeps the form of a tree and only writes down, with every identifier, what it found.
So the outline of the analysed tree is the outline of the tree with the same written into it, and
analysing the tree is running its outline.

## Main definitions

* `Outline.annotate` — an outline with what its analysis finds written into it.

## Main results

* `Pat.names_inScope` — the analysis of a pattern keeps its names.
* `Expr.annotates_outline`, `Stmt.annotates_outline` — the analysis of a tree annotates its outline.
* `Program.outline_analyse` — the same for a module.
* `Program.analyse_eq_run` — the analysis of a module is the analysis of its outline.
-/

namespace ImportSeam

open Outline (declareAll ofName? ofTag? ofExport ofBound ofRest?)

namespace Outline

/-! ### Annotating an outline -/

/-- An outline with what its analysis finds written into its identifiers, and the scope tree at the
end. -/
def annotate (home s : ScopeId) : Outline → ScopeTree → Outline × ScopeTree
  | .done, t => (.done, t)
  | .declare name rest, t =>
    let after := rest.annotate home s (t.declare home name).2
    (.declare name after.1, after.2)
  | .bind role id rest, t =>
    let after := rest.annotate home s (t.declare home id.name).2
    (.bind role { id with mention := .declares (t.declare home id.name).1 } after.1, after.2)
  | .use role id rest, t =>
    let after := rest.annotate home s t
    (.use role { id with mention := .usedIn s } after.1, after.2)
  | .idle role id rest, t =>
    let after := rest.annotate home s t
    (.idle role { id with mention := .unknown } after.1, after.2)
  | .under mode inside rest, t =>
    let within := inside.annotate (homeOf t s mode) s t
    let after := rest.annotate home s within.2
    (.under mode within.1 after.1, after.2)
  | .scope kind inside rest, t =>
    let opened := t.child s kind
    let within := inside.annotate opened.1 opened.1 opened.2
    let after := rest.annotate home s within.2
    (.scope kind within.1 after.1, after.2)

/-- An annotated outline has the identifiers that running the outline finds. -/
theorem run_eq_annotate (o : Outline) (home s : ScopeId) (t : ScopeTree) :
    o.run home s t = ((o.annotate home s t).1.idents, (o.annotate home s t).2) := by
  induction o generalizing home s t with
  | done => rfl
  | declare name rest ih => exact ih _ _ _
  | bind role id rest ih | use role id rest ih | idle role id rest ih =>
    simp only [run, ih, annotate, idents]
  | under mode inside rest ihInside ihRest | scope kind inside rest ihInside ihRest =>
    simp only [run, ihInside, ihRest, annotate, idents]

theorem annotate_append (home s : ScopeId) (o₁ o₂ : Outline) (t : ScopeTree) :
    (o₁ ++ o₂).annotate home s t =
      ((o₁.annotate home s t).1 ++ (o₂.annotate home s (o₁.annotate home s t).2).1,
        (o₂.annotate home s (o₁.annotate home s t).2).2) := by
  change (o₁.append o₂).annotate home s t = _
  induction o₁ generalizing home s t with
  | done => rfl
  | declare name rest ih | bind role id rest ih | use role id rest ih | idle role id rest ih =>
    simp only [append, annotate, ih]
    rfl
  | under mode inside rest _ ih | scope kind inside rest _ ih =>
    simp only [append, annotate, ih]
    rfl

end Outline

/-! ### Names of patterns -/

mutual

/-- The analysis of a pattern keeps its names. -/
theorem Pat.names_inScope (home : Option ScopeId) (s : ScopeId) (t : ScopeTree) : ∀ p : Pat,
    (p.inScope home s t).1.names = p.names
  | .ident id => by cases home <;> rfl
  | .array _ elems none => elemNames_inScope home s t elems
  | .array _ elems (some rest) => by
    have helems := elemNames_inScope home s t elems
    have hrest := rest.names_inScope home s (elemPatsInScope home s elems t).2
    exact congrArg₂ (· ++ ·) helems hrest
  | .object _ props rest => by
    have hprops := propNames_inScope home s t props
    cases rest with
    | none => exact congrArg (· ++ []) hprops
    | some id => cases home <;> exact congrArg (· ++ [id.name]) hprops

/-- The analysis of elements keeps their names. -/
theorem elemNames_inScope (home : Option ScopeId) (s : ScopeId) (t : ScopeTree) :
    ∀ es : List (Option Binder), elemNames (elemPatsInScope home s es t).1 = elemNames es
  | [] => rfl
  | none :: es => elemNames_inScope home s t es
  | some ⟨target, _⟩ :: es =>
    congrArg₂ (· ++ ·) (target.names_inScope home s t) (elemNames_inScope home s _ es)

/-- The analysis of properties keeps their names. -/
theorem propNames_inScope (home : Option ScopeId) (s : ScopeId) (t : ScopeTree) :
    ∀ ps : List PropPat, propNames (propsInScope home s ps t).1 = propNames ps
  | [] => rfl
  | ⟨_, ⟨target, _⟩, _⟩ :: ps =>
    congrArg₂ (· ++ ·) (target.names_inScope home s _) (propNames_inScope home s _ ps)

end

/-! ### Annotating the outline of a tree -/

/-- A computation annotates an outline: the outline of its result is the annotated one, in the given
surroundings, and it changes the scope tree as the outline does. -/
def Annotates {α : Type} (outline : α → Outline) (around : Outline → Outline) (home s : ScopeId)
    (o : Outline) (m : Scoping α) : Prop :=
  ∀ t, outline (m t).1 = around (o.annotate home s t).1 ∧ (m t).2 = (o.annotate home s t).2

namespace Annotates

variable {α β : Type} {f : α → Outline} {g : β → Outline} {C : Outline → Outline}
  {home s : ScopeId} {o o' : Outline}

theorem pure {a : α} (h : f a = C .done) : Annotates f C home s .done (Pure.pure a) :=
  fun _ => ⟨h, rfl⟩

theorem bind {m : Scoping α} {k : α → Scoping β} (hm : Annotates f id home s o m)
    (hk : ∀ a, Annotates g (fun x => C (f a ++ x)) home s o' (k a)) :
    Annotates g C home s (o ++ o') (m >>= k) := by
  intro t
  obtain ⟨hout, htree⟩ := hm t
  obtain ⟨hout', htree'⟩ := hk (m t).1 (m t).2
  rw [Outline.annotate_append]
  refine ⟨?_, ?_⟩
  · change g (k (m t).1 (m t).2).1 = _
    rw [hout', hout, htree]
    rfl
  · change (k (m t).1 (m t).2).2 = _
    rw [htree', htree]

/-- The last part of a computation, which only builds the result. -/
theorem map {m : Scoping α} {k : α → β} (hm : Annotates f id home s o m)
    (hk : ∀ a, g (k a) = C (f a)) :
    Annotates g C home s o (m >>= fun a => Pure.pure (k a)) := by
  intro t
  obtain ⟨hout, htree⟩ := hm t
  refine ⟨?_, htree⟩
  change g (k (m t).1) = _
  rw [hk, hout]
  rfl

/-- A computation that opens a scope first. -/
theorem child {kind : ScopeKind} {k : ScopeId → Scoping β}
    (hk : ∀ i, Annotates g (fun x => C (.scope kind x .done)) i i o (k i)) :
    Annotates g C home s (.scope kind o .done) (Scoping.child s kind >>= k) :=
  fun t => hk (t.child s kind).1 (t.child s kind).2

/-- A computation that goes on outside a scope that it has opened. -/
theorem child_bind {kind : ScopeKind} {m : ScopeId → Scoping α} {k : α → Scoping β}
    (hm : ∀ i, Annotates f id i i o (m i))
    (hk : ∀ a, Annotates g (fun x => C (.scope kind (f a) x)) home s o' (k a)) :
    Annotates g C home s (.scope kind o o') (Scoping.child s kind >>= fun i => m i >>= k) := by
  have hopened : Annotates (fun a => .scope kind (f a) .done) id home s (.scope kind o .done)
      (Scoping.child s kind >>= m) :=
    child fun i t => ⟨congrArg (Outline.scope kind · .done) (hm i t).1, (hm i t).2⟩
  exact hopened.bind hk

/-- A computation that finds the home scope of a declaration first. -/
theorem atHome {mode : VarMode} {k : ScopeId → Scoping β}
    (hk : ∀ d, Annotates g (fun x => C (.under mode x .done)) d s o (k d)) :
    Annotates g C home s (.under mode o .done) (Scoping.home s mode >>= k) := by
  intro t
  have h := hk (Outline.homeOf t s mode) t
  cases mode <;> exact h

theorem declareAll (names : List String) :
    Annotates (fun _ => Outline.declareAll names) id home s (Outline.declareAll names)
      (Scoping.declareAll home names) := by
  induction names with
  | nil => exact fun _ => ⟨rfl, rfl⟩
  | cons name names ih =>
    intro t
    obtain ⟨hout, htree⟩ := ih (t.declare home name).2
    exact ⟨congrArg (Outline.declare name) hout, htree⟩

theorem use {role : NameRole} {id : Ident} {m : Scoping β}
    (h : Annotates g (fun x => C (.use role (Scoping.use s id) x)) home s o m) :
    Annotates g C home s (.use role id o) m :=
  h

theorem declare (home s : ScopeId) (role : NameRole) (x : Ident) :
    Annotates (.bind role · .done) id home s (.bind role x .done) (Scoping.declare home x) :=
  fun _ => ⟨rfl, rfl⟩

theorem declare? (s : ScopeId) (name : Option Ident) :
    Annotates ofName? id s s (ofName? name) (Scoping.declare? s name) := by
  cases name with
  | none => exact .pure rfl
  | some id => exact .map (.declare s s .own id) fun _ => rfl

end Annotates

/-- The home scope that is given to a pattern. -/
def homeIf (declares : Bool) (home : ScopeId) : Option ScopeId :=
  if declares then some home else none

namespace Annotates

variable {β : Type} {g : β → Outline} {C : Outline → Outline} {home s : ScopeId} {o' : Outline}

theorem bound (declares : Bool) (home s : ScopeId) (x : Ident) :
    Annotates (ofBound declares) id home s (ofBound declares x)
      (Scoping.bind (homeIf declares home) s x) := by
  cases declares with
  | true => exact .declare home s .pattern x
  | false => exact .use (.pure rfl)

theorem rest? (declares : Bool) (home s : ScopeId) (rest : Option Ident) :
    Annotates (ofRest? declares) id home s (ofRest? declares rest)
      (Scoping.bind? (homeIf declares home) s rest) := by
  cases rest with
  | none => exact .pure rfl
  | some id => exact .map (.bound declares home s id) fun _ => rfl

theorem tag {m : Scoping β} (tag : Option JsxTag)
    (h : Annotates g (fun x => C (ofTag? (Scoping.useTag s tag) ++ x)) home s o' m) :
    Annotates g C home s (ofTag? tag ++ o') m := by
  match tag with
  | some (.ident id) | some (.member id _) => exact .use h
  | some (.name _) | none => exact h

/-- A pattern whose names are all declared before it is looked at. -/
theorem declares {p : Pat}
    (hp : Annotates (Pat.outline true) id home s (p.outline true) (p.inScope (some home) s)) :
    Annotates (fun p => Outline.declareAll p.names ++ p.outline true) id home s
      (Outline.declareAll p.names ++ p.outline true)
      (Scoping.declareAll home p.names >>= fun _ => p.inScope (some home) s) := by
  have h : Annotates (fun x => Outline.declareAll p.names ++ x.outline true) id home s
      (Outline.declareAll p.names ++ p.outline true)
      (Scoping.declareAll home p.names >>= fun _ => p.inScope (some home) s) :=
    (declareAll p.names).bind fun _ t =>
      ⟨congrArg (Outline.declareAll p.names ++ ·) (hp t).1, (hp t).2⟩
  intro t
  have hnames := p.names_inScope (some home) s (Scoping.declareAll home p.names t).2
  refine ⟨Eq.trans ?_ (h t).1, (h t).2⟩
  exact congrArg (fun names => Outline.declareAll names ++ _) hnames

theorem declared {p : Pat} {k : Pat → Scoping β}
    (hp : Annotates (Pat.outline true) id home s (p.outline true) (p.inScope (some home) s))
    (hk : ∀ a : Pat, Annotates g
      (fun x => C (Outline.declareAll a.names ++ (a.outline true ++ x))) home s o' (k a)) :
    Annotates g C home s (Outline.declareAll p.names ++ (p.outline true ++ o'))
      (Scoping.declareAll home p.names >>= fun _ => p.inScope (some home) s >>= k) := by
  rw [← Outline.append_assoc]
  refine (declares hp).bind fun a => ?_
  simpa only [Outline.append_assoc] using hk a

theorem declared_map {p : Pat} {k : Pat → β}
    (hp : Annotates (Pat.outline true) id home s (p.outline true) (p.inScope (some home) s))
    (hk : ∀ a : Pat, g (k a) = C (Outline.declareAll a.names ++ a.outline true)) :
    Annotates g C home s (Outline.declareAll p.names ++ p.outline true)
      (Scoping.declareAll home p.names >>= fun _ => p.inScope (some home) s >>= fun a =>
        Pure.pure (k a)) :=
  .map (declares hp) hk

end Annotates

mutual

theorem Expr.annotates_outline (home s : ScopeId) : ∀ e : Expr,
    Annotates Expr.outline id home s e.outline (e.inScope s)
  | .ident _ => .use (.pure rfl)
  | .arrow _ f => .map (f.annotates_outline home s) fun _ => rfl
  | .binary _ _ l r => .bind (l.annotates_outline home s) fun _ =>
    .map (r.annotates_outline home s) fun _ => rfl
  | .call _ _ f args => .bind (f.annotates_outline home s) fun _ =>
    .map (args_annotate_outline home s args) fun _ => rfl
  | .classExpr _ name parent members => .child fun i => .bind (.declare? i name) fun _ =>
    .bind (opt_annotates_outline i i parent) fun _ =>
    .map (class_annotates_outline i i members) fun _ => rfl
  | .index _ _ e k => .bind (e.annotates_outline home s) fun _ =>
    .map (k.annotates_outline home s) fun _ => rfl
  | .cond _ t c a => .bind (t.annotates_outline home s) fun _ =>
    .bind (c.annotates_outline home s) fun _ =>
    .map (a.annotates_outline home s) fun _ => rfl
  | .func _ name f => .child fun i => .bind (.declare? i name) fun _ =>
    .map (f.annotates_outline i i) fun _ => rfl
  | .importCall _ m => .map (m.annotates_outline home s) fun _ => rfl
  | .member _ _ e _ => .map (e.annotates_outline home s) fun _ => rfl
  | .construct _ f none => .map (f.annotates_outline home s) fun _ => rfl
  | .construct _ f (some args) => .bind (f.annotates_outline home s) fun _ =>
    .map (args_annotate_outline home s args) fun _ => rfl
  | .tagged _ t ps => .bind (t.annotates_outline home s) fun _ =>
    .map (template_annotates_outline home s ps) fun _ => rfl
  | .unary _ _ e => .map (e.annotates_outline home s) fun _ => rfl
  | .update _ _ e => .map (e.annotates_outline home s) fun _ => rfl
  | .yield _ _ e => .map (opt_annotates_outline home s e) fun _ => rfl
  | .jsx _ e => .map (e.annotates_outline home s) fun _ => rfl
  | .array _ es => .map (elems_annotate_outline home s es) fun _ => rfl
  | .object _ ms => .map (obj_annotates_outline home s ms) fun _ => rfl
  | .template _ ps => .map (template_annotates_outline home s ps) fun _ => rfl
  | .target p => .map (p.annotates_outline false home s) fun _ => rfl
  | .importMeta _ | .newTarget _ | .superRef _ | .this _ | .bigInt _ _ | .bool _ _ | .null _
  | .num _ _ | .regex _ _ | .str _ _ => .pure rfl

theorem opt_annotates_outline (home s : ScopeId) : ∀ e : Option Expr,
    Annotates optOutline id home s (optOutline e) (optInScope s e)
  | none => .pure rfl
  | some e => .map (e.annotates_outline home s) fun _ => rfl

theorem Func.annotates_outline (home s : ScopeId) : ∀ f : Func,
    Annotates Func.outline id home s f.outline (f.inScope s)
  | ⟨_, _, _, params, body⟩ => .child fun i => .bind (params_annotate_outline i params) fun _ =>
    .map (body.annotates_outline i) fun _ => rfl

theorem FuncBody.annotates_outline (s : ScopeId) : ∀ b : FuncBody,
    Annotates FuncBody.outline id s s b.outline (b.inScope s)
  | .block body => .map (stmts_annotate_outline s body) fun _ => rfl
  | .expr e => .map (e.annotates_outline s s) fun _ => rfl

theorem params_annotate_outline (s : ScopeId) : ∀ ps : List Param,
    Annotates paramsOutline id s s (paramsOutline ps) (paramsInScope s ps)
  | [] => .pure rfl
  | ⟨_, ⟨target, init⟩⟩ :: ps => .declared (target.annotates_outline true s s) fun _ =>
    .bind (opt_annotates_outline s s init) fun _ =>
    .map (params_annotate_outline s ps) fun _ => rfl

theorem binders_annotate_outline (home s : ScopeId) : ∀ bs : List Binder,
    Annotates bindersOutline id home s (bindersOutline bs)
      (bindersInScope home s bs)
  | [] => .pure rfl
  | ⟨target, init⟩ :: bs => .declared (target.annotates_outline true home s) fun _ =>
    .bind (opt_annotates_outline home s init) fun _ =>
    .map (binders_annotate_outline home s bs) fun _ => rfl

theorem args_annotate_outline (home s : ScopeId) : ∀ args : List Arg,
    Annotates argsOutline id home s (argsOutline args)
      (argsInScope s args)
  | [] => .pure rfl
  | ⟨_, e⟩ :: as => .bind (e.annotates_outline home s) fun _ =>
    .map (args_annotate_outline home s as) fun _ => rfl

theorem template_annotates_outline (home s : ScopeId) : ∀ ps : List TemplatePart,
    Annotates templateOutline id home s (templateOutline ps)
      (templateInScope s ps)
  | [] => .pure rfl
  | .text _ :: ps => .map (template_annotates_outline home s ps) fun _ => rfl
  | .subst e :: ps => .bind (e.annotates_outline home s) fun _ =>
    .map (template_annotates_outline home s ps) fun _ => rfl

theorem elems_annotate_outline (home s : ScopeId) : ∀ es : List ArrayElem,
    Annotates elemsOutline id home s (elemsOutline es) (elemsInScope s es)
  | [] => .pure rfl
  | .item e :: es | .spread e :: es => .bind (e.annotates_outline home s) fun _ =>
    .map (elems_annotate_outline home s es) fun _ => rfl
  | .hole :: es => .map (elems_annotate_outline home s es) fun _ => rfl

theorem Key.annotates_outline (home s : ScopeId) : ∀ k : Key,
    Annotates Key.outline id home s k.outline (k.inScope s)
  | .direct _ _ => .pure rfl
  | .computed e => .map (e.annotates_outline home s) fun _ => rfl

theorem Member.annotates_outline (home s : ScopeId) : ∀ m : Member,
    Annotates Member.outline id home s m.outline (m.inScope s)
  | .getter f | .setter f | .method f => .map (f.annotates_outline home s) fun _ => rfl
  | .field e => .map (opt_annotates_outline home s e) fun _ => rfl
  | .staticBlock body => .child fun i => .map (stmts_annotate_outline i body) fun _ => rfl

theorem obj_annotates_outline (home s : ScopeId) : ∀ ms : List ObjMember,
    Annotates objOutline id home s (objOutline ms) (objInScope s ms)
  | [] => .pure rfl
  | .valued _ key m :: ms => .bind (key.annotates_outline home s) fun _ =>
    .bind (m.annotates_outline home s) fun _ =>
    .map (obj_annotates_outline home s ms) fun _ => rfl
  | .shorthand _ _ :: ms => .use (.map (obj_annotates_outline home s ms) fun _ => rfl)
  | .spread _ e :: ms => .bind (e.annotates_outline home s) fun _ =>
    .map (obj_annotates_outline home s ms) fun _ => rfl

theorem class_annotates_outline (home s : ScopeId) : ∀ ms : List ClassMember,
    Annotates classOutline id home s (classOutline ms) (classInScope s ms)
  | [] => .pure rfl
  | ⟨key, _, m⟩ :: ms => .bind (key.annotates_outline home s) fun _ =>
    .bind (m.annotates_outline home s) fun _ =>
    .map (class_annotates_outline home s ms) fun _ => rfl

theorem Pat.annotates_outline (declares : Bool) (home s : ScopeId) : ∀ p : Pat,
    Annotates (Pat.outline declares) id home s (p.outline declares)
      (p.inScope (homeIf declares home) s)
  | .ident id => .map (.bound declares home s id) fun _ => rfl
  | .array _ elems none => .map (elemPats_annotate_outline declares home s elems) fun _ => rfl
  | .array _ elems (some rest) => .bind (elemPats_annotate_outline declares home s elems) fun _ =>
    .map (rest.annotates_outline declares home s) fun _ => rfl
  | .object _ props rest => .bind (props_annotate_outline declares home s props) fun _ =>
    .map (.rest? declares home s rest) fun _ => rfl

theorem elemPats_annotate_outline (declares : Bool) (home s : ScopeId) :
    ∀ es : List (Option Binder),
    Annotates (elemPatsOutline declares) id home s (elemPatsOutline declares es)
      (elemPatsInScope (homeIf declares home) s es)
  | [] => .pure rfl
  | none :: es => .map (elemPats_annotate_outline declares home s es) fun _ => rfl
  | some ⟨target, init⟩ :: es => .bind (target.annotates_outline declares home s) fun _ =>
    .bind (opt_annotates_outline home s init) fun _ =>
    .map (elemPats_annotate_outline declares home s es) fun _ => rfl

theorem props_annotate_outline (declares : Bool) (home s : ScopeId) : ∀ ps : List PropPat,
    Annotates (propsOutline declares) id home s (propsOutline declares ps)
      (propsInScope (homeIf declares home) s ps)
  | [] => .pure rfl
  | ⟨key, ⟨target, init⟩, _⟩ :: ps => .bind (key.annotates_outline home s) fun _ =>
    .bind (target.annotates_outline declares home s) fun _ =>
    .bind (opt_annotates_outline home s init) fun _ =>
    .map (props_annotate_outline declares home s ps) fun _ => rfl

theorem JsxElem.annotates_outline (home s : ScopeId) : ∀ e : JsxElem,
    Annotates JsxElem.outline id home s e.outline (e.inScope s)
  | ⟨tag, attrs, children⟩ => .tag tag (.bind (attrs_annotate_outline home s attrs) fun _ =>
    .map (contents_annotate_outline home s children) fun _ => rfl)

theorem attrs_annotate_outline (home s : ScopeId) : ∀ as : List JsxAttr,
    Annotates attrsOutline id home s (attrsOutline as) (attrsInScope s as)
  | [] => .pure rfl
  | .named _ none :: as => .map (attrs_annotate_outline home s as) fun _ => rfl
  | .named _ (some c) :: as => .bind (c.annotates_outline home s) fun _ =>
    .map (attrs_annotate_outline home s as) fun _ => rfl
  | .spread e :: as => .bind (e.annotates_outline home s) fun _ =>
    .map (attrs_annotate_outline home s as) fun _ => rfl

theorem JsxContent.annotates_outline (home s : ScopeId) : ∀ c : JsxContent,
    Annotates JsxContent.outline id home s c.outline (c.inScope s)
  | .container e => .map (opt_annotates_outline home s e) fun _ => rfl
  | .text _ => .pure rfl
  | .elem e => .map (e.annotates_outline home s) fun _ => rfl

theorem contents_annotate_outline (home s : ScopeId) : ∀ cs : List JsxContent,
    Annotates contentsOutline id home s (contentsOutline cs)
      (contentsInScope s cs)
  | [] => .pure rfl
  | c :: cs => .bind (c.annotates_outline home s) fun _ =>
    .map (contents_annotate_outline home s cs) fun _ => rfl

theorem Stmt.annotates_outline (s : ScopeId) : ∀ st : Stmt,
    Annotates Stmt.outline id s s st.outline (st.inScope s)
  | .block _ body => .child fun i => .map (stmts_annotate_outline i body) fun _ => rfl
  | .doWhile _ body test => .bind (test.annotates_outline s s) fun _ =>
    .map (body.annotates_outline s) fun _ => rfl
  | .exportDefault _ e => .map (e.annotates_outline s s) fun _ => rfl
  | .exportList _ (.all (some _)) _ => fun _ => ⟨rfl, rfl⟩
  | .exportList _ (.all none) _ | .exportList _ (.specific _) _ => .pure rfl
  | .expr _ e => .map (e.annotates_outline s s) fun _ => rfl
  | .forIn _ target e body | .forOf _ _ target e body => .child fun i =>
    .bind (target.annotates_outline i) fun _ => .bind (e.annotates_outline i i) fun _ =>
    .map (body.annotates_outline i) fun _ => rfl
  | .forLoop _ init test post body => .child fun i => .bind (init.annotates_outline i) fun _ =>
    .bind (opt_annotates_outline i i test) fun _ => .bind (opt_annotates_outline i i post) fun _ =>
    .map (body.annotates_outline i) fun _ => rfl
  | .ifElse _ test c none => .bind (test.annotates_outline s s) fun _ =>
    .map (c.annotates_outline s) fun _ => rfl
  | .ifElse _ test c (some a) => .bind (test.annotates_outline s s) fun _ =>
    .bind (c.annotates_outline s) fun _ =>
    .map (a.annotates_outline s) fun _ => rfl
  | .importDecl _ default none _ => .map (declared_annotates_outline s default) fun _ => rfl
  | .importDecl _ default (some names) _ => .bind (declared_annotates_outline s default) fun _ =>
    .map (names.annotates_outline s) fun _ => rfl
  | .label _ _ body => .map (body.annotates_outline s) fun _ => rfl
  | .returnValue _ e => .map (opt_annotates_outline s s e) fun _ => rfl
  | .switch _ e cases => .child fun i => .bind (e.annotates_outline i i) fun _ =>
    .map (cases_annotate_outline i cases) fun _ => rfl
  | .throw _ e => .map (e.annotates_outline s s) fun _ => rfl
  | .tryCatch _ body none none => .child_bind (fun i => stmts_annotate_outline i body) fun _ => by
    exact .pure rfl
  | .tryCatch loc body none (some last) =>
    .child_bind (fun i => stmts_annotate_outline i body) fun body => by
    change Annotates _ _ s s (.scope .block (stmtsOutline last) .done) (Scoping.child s .block >>=
      fun i => stmtsInScope i last >>= fun last => pure (Stmt.tryCatch loc body none (some last)))
    exact .child fun i => .map (stmts_annotate_outline i last) fun _ => rfl
  | .tryCatch loc body (some ⟨param, handler⟩) none =>
    .child_bind (fun i => stmts_annotate_outline i body) fun body => by
    change Annotates _ _ s s (.scope .block (declaredOutline param ++ stmtsOutline handler) .done)
      (Scoping.child s .block >>= fun i => declaredInScope i param >>= fun param =>
        stmtsInScope i handler >>= fun handler =>
          pure (Stmt.tryCatch loc body (some ⟨param, handler⟩) none))
    exact .child fun i => .bind (declared_annotates_outline i param) fun param =>
      .map (stmts_annotate_outline i handler) fun _ => rfl
  | .tryCatch loc body (some ⟨param, handler⟩) (some last) =>
    .child_bind (fun i => stmts_annotate_outline i body) fun body => by
    change Annotates _ _ s s (.scope .block (declaredOutline param ++ stmtsOutline handler)
        (.scope .block (stmtsOutline last) .done))
      (Scoping.child s .block >>= fun i => (declaredInScope i param >>= fun param =>
        stmtsInScope i handler >>= fun handler => pure (⟨param, handler⟩ : Catch)) >>= fun c =>
          Scoping.child s .block >>= fun i => stmtsInScope i last >>= fun last =>
            pure (Stmt.tryCatch loc body (some c) (some last)))
    refine .child_bind (f := fun c => declaredOutline c.param ++ stmtsOutline c.body)
      (fun i => .bind (declared_annotates_outline i param) fun param =>
        .map (stmts_annotate_outline i handler) fun _ => rfl) fun ⟨_, _⟩ =>
      .child fun i => .map (stmts_annotate_outline i last) fun _ => rfl
  | .while _ test body => .bind (test.annotates_outline s s) fun _ =>
    .map (body.annotates_outline s) fun _ => rfl
  | .withObject _ e body => .bind (e.annotates_outline s s) fun _ =>
    .map (body.annotates_outline s) fun _ => rfl
  | .classDecl _ _ _ name parent members => .bind (.declare? s name) fun _ =>
    .bind (opt_annotates_outline s s parent) fun _ =>
    .map (class_annotates_outline s s members) fun _ => rfl
  | .funcDecl _ _ _ name f => .bind (.declare? s name) fun _ =>
    .map (f.annotates_outline s s) fun _ => rfl
  | .varDecl _ _ _ binders => .atHome fun d =>
    .map (binders_annotate_outline d s binders) fun _ => rfl
  | .breakTo _ _ | .continueTo _ _ | .debugger _ | .empty _ => .pure rfl

theorem stmts_annotate_outline (s : ScopeId) : ∀ ss : List Stmt,
    Annotates stmtsOutline id s s (stmtsOutline ss) (stmtsInScope s ss)
  | [] => .pure rfl
  | st :: ss => .bind (st.annotates_outline s) fun _ =>
    .map (stmts_annotate_outline s ss) fun _ => rfl

theorem ForInit.annotates_outline (s : ScopeId) : ∀ i : ForInit,
    Annotates ForInit.outline id s s i.outline (i.inScope s)
  | .absent => .pure rfl
  | .expr e => .map (e.annotates_outline s s) fun _ => rfl
  | .decl _ binders => .atHome fun d => .map (binders_annotate_outline d s binders) fun _ => rfl

theorem ForTarget.annotates_outline (s : ScopeId) : ∀ g : ForTarget,
    Annotates ForTarget.outline id s s g.outline (g.inScope s)
  | .assign p => .map (p.annotates_outline false s s) fun _ => rfl
  | .decl _ p => .atHome fun d => .declared_map (p.annotates_outline true d s) fun _ => rfl

theorem cases_annotate_outline (s : ScopeId) : ∀ cs : List SwitchCase,
    Annotates casesOutline id s s (casesOutline cs) (casesInScope s cs)
  | [] => .pure rfl
  | ⟨test, body⟩ :: cs => .bind (opt_annotates_outline s s test) fun _ =>
    .bind (stmts_annotate_outline s body) fun _ =>
    .map (cases_annotate_outline s cs) fun _ => rfl

theorem declared_annotates_outline (s : ScopeId) : ∀ p : Option Pat,
    Annotates declaredOutline id s s (declaredOutline p) (declaredInScope s p)
  | none => .pure rfl
  | some p => .declared_map (p.annotates_outline true s s) fun _ => rfl

theorem ImportNames.annotates_outline (s : ScopeId) : ∀ n : ImportNames,
    Annotates ImportNames.outline id s s n.outline (n.inScope s)
  | .all p => .declared_map (p.annotates_outline true s s) fun _ => rfl
  | .specific names => .map (specs_annotate_outline s names) fun _ => rfl

theorem specs_annotate_outline (s : ScopeId) : ∀ ss : List ImportSpec,
    Annotates specsOutline id s s (specsOutline ss) (specsInScope s ss)
  | [] => .pure rfl
  | ⟨_, p⟩ :: ss => .declared (p.annotates_outline true s s) fun _ =>
    .map (specs_annotate_outline s ss) fun _ => rfl

end

namespace Program

/-- **The outline of an analysed module** is the outline of the module, annotated in the module's own
scope. -/
theorem outline_analyse (p : Program) :
    stmtsOutline p.analyse.1.body =
        ((stmtsOutline p.body).annotate moduleScope moduleScope (.root .module)).1 ∧
      p.analyse.2 = ((stmtsOutline p.body).annotate moduleScope moduleScope (.root .module)).2 :=
  stmts_annotate_outline moduleScope p.body (.root .module)

/-- **The analysis of a module is the analysis of its outline**, in the module's own scope. -/
theorem analyse_eq_run (p : Program) :
    identsOf p.analyse.1.parts =
        ((stmtsOutline p.body).run moduleScope moduleScope (.root .module)).1 ∧
      p.analyse.2 = ((stmtsOutline p.body).run moduleScope moduleScope (.root .module)).2 := by
  rw [Outline.run_eq_annotate, ← p.outline_analyse.1, ← p.outline_analyse.2]
  exact ⟨(stmts_outline_lists p.analyse.1.body).symm, rfl⟩

end Program

end ImportSeam
