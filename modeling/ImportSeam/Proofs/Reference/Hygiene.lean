import ImportSeam.Proofs.Grammar.Spelled
import ImportSeam.Proofs.Reference.Reanalysis

/-!
# Hygiene

Instrumenting writes two names into a module, which its own names may capture or be captured by.
Whether that happens is read off the analysis of the module: nothing is captured exactly if the module
leaves both names to what is inserted, no scope around a replaced use has the name of the registry,
and no other use has one of the names without a meaning.  Only the first of these is looked at before
a module is instrumented, and only in part.

## Main definitions

* `ComesFrom` — what an identifier of an instrumented module was.
* `Hygienic` — an identifier of an instrumented module means what it is there for.
* `Undisturbed` — nothing that is inserted can be captured or capture.

## Main results

* `instrumented_hygienic_iff` — when instrumenting is hygienic.
-/

namespace ImportSeam

open Program (moduleScope)

/-- What an identifier of an instrumented module was: one of the module's own, which may have become
the registry, or none, in which case it stands in the module's own scope. -/
def ComesFrom (a : Aliases) (t' : ScopeTree) : Option RoleIdent → RoleIdent → Prop
  | some x, y => y.1 = x.1 ∧ y.2.name = (redirectRole a x).2.name ∧ y.2.loc = x.2.loc
  | none, y => t'.Local moduleScope y.2

/-- The use of a binding. -/
def IsReplaced (a : Aliases) (x : RoleIdent) : Prop := x.1 = .value ∧ (a x.2).isSome

theorem redirectRole_of_not {a : Aliases} {x : RoleIdent} (h : ¬ IsReplaced a x) :
    redirectRole a x = x := by
  obtain ⟨role, id⟩ := x
  cases role with
  | pattern | own => rfl
  | value => rw [redirectRole, if_neg fun hsome => h ⟨rfl, hsome⟩]

/-- An identifier of an instrumented module means what it is there for: an inserted one stands for the
module's name, and any other for what it stood for. -/
def Hygienic (a : Aliases) (t t' : ScopeTree) : Option RoleIdent → RoleIdent → Prop
  | some x, y =>
    (IsReplaced a x → t'.Means y.2 moduleScope) ∧
      (¬ IsReplaced a x → ∀ i, t'.Means y.2 i ↔ t.Means x.2 i)
  | none, y => y.2.name ∈ insertedNames → t'.Means y.2 moduleScope

/-- At the place of a use that is replaced the name of the registry is free, and any other use that
has one of the inserted names has a meaning. -/
def Steady (a : Aliases) (t : ScopeTree) (x : RoleIdent) : Prop :=
  ∀ s, x.2.mention = .usedIn s →
    (IsReplaced a x → t.symbolOf? { x.2 with name := registryName } = none) ∧
      (¬ IsReplaced a x → x.2.name ∈ insertedNames → (t.symbolOf? x.2).isSome)

/-- Nothing that is inserted into a module can be captured or capture. -/
structure Undisturbed (a : Aliases) (t : ScopeTree) (ids : List RoleIdent) : Prop where
  free : ∀ name ∈ insertedNames, t.get? moduleScope name = none
  steady : ∀ x ∈ ids, Steady a t x

theorem steady_iff {a : Aliases} {t : ScopeTree} {x : RoleIdent} {s : ScopeId}
    (hs : x.2.mention = .usedIn s) :
    Steady a t x ↔
      (IsReplaced a x → t.symbolOf? { x.2 with name := registryName } = none) ∧
        (¬ IsReplaced a x → x.2.name ∈ insertedNames → (t.symbolOf? x.2).isSome) :=
  ⟨fun h => h s hs, fun h _ _ => h⟩

section

variable (a : Aliases) (t : ScopeTree)

instance (x : RoleIdent) : Decidable (IsReplaced a x) :=
  inferInstanceAs (Decidable (_ ∧ _))

instance (x : RoleIdent) : Decidable (Steady a t x) :=
  match h : x.2.mention with
  | .usedIn _ => decidable_of_iff _ (steady_iff h).symm
  | .declares _ | .unknown => isTrue fun _ hs => nomatch h.symm.trans hs

instance (ids : List RoleIdent) : Decidable (Undisturbed a t ids) :=
  decidable_of_iff ((∀ name ∈ insertedNames, t.get? moduleScope name = none) ∧
      ∀ x ∈ ids, Steady a t x)
    ⟨fun h => ⟨h.1, h.2⟩, fun h => ⟨h.free, h.steady⟩⟩

end

variable {a : Aliases} {t t' : ScopeTree} {o : Option RoleIdent} {y : RoleIdent}

theorem Stems.comesFrom (h : Stems a t t' o y) : ComesFrom a t' o y := by
  cases h with
  | inserted h => exact h
  | own h =>
    cases h with
    | @bind role id home x x' hrole hx hx' =>
      refine ⟨rfl, ?_, rfl⟩
      rw [redirectRole_of_ne a hrole]
    | idle hrole hid =>
      refine ⟨rfl, ?_, rfl⟩
      rw [redirectRole_of_ne a hrole]
    | @use role id s hs hid =>
      refine ⟨rfl, rfl, ?_⟩
      cases role with
      | pattern | own => rfl
      | value =>
        dsimp only [redirectRole]
        split <;> rfl

/-- An identifier in the module's own scope stands for the name that this scope has. -/
theorem ScopeTree.Local.means {id : Ident} (h : t.Local moduleScope id) (ht : t.Numbered)
    (hchain : t.chain moduleScope = [moduleScope])
    (hname : (t.get? moduleScope id.name).isSome) : t.Means id moduleScope := by
  obtain huse | ⟨x, hdecl, hx⟩ := h
  · rw [ht.means_use huse, hchain, List.find?_singleton, if_pos hname]
  · exact (ht.means_declares hdecl hx moduleScope).mpr rfl

/-- A use means something if it has a symbol. -/
theorem ScopeTree.Numbered.exists_means (ht : t.Numbered) {id : Ident} {s : ScopeId}
    (hid : id.mention = .usedIn s) : (∃ i, t.Means id i) ↔ (t.symbolOf? id).isSome := by
  have hsymbol : t.symbolOf? id = (t.find? s id.name).map (·.2) := by rw [symbolOf?, hid]
  simp only [ht.means_use hid, ← find?_map_fst, hsymbol, Option.isSome_map]
  cases t.find? s id.name <;> simp

/-- The registry is what a replaced use means, if its name was free there. -/
theorem ScopeTree.Widens.means_registry (hw : t.Widens insertedNames t')
    (hfull : ∀ name ∈ insertedNames, (t'.get? moduleScope name).isSome)
    (hfree : ∀ name ∈ insertedNames, t.get? moduleScope name = none) (ht : t.Numbered)
    (ht' : t'.Numbered) {s : ScopeId} (hs : t.Rooted s) {id : Ident}
    (hid : id.mention = .usedIn s) (hname : id.name = registryName) :
    t'.Means id moduleScope ↔ t.symbolOf? id = none := by
  have hmem : id.name ∈ insertedNames := by simp [hname, insertedNames]
  have hnot : ¬ t.Means id moduleScope := by
    rintro ⟨x, -, hx⟩
    rw [hfree _ hmem] at hx
    exact nomatch hx
  rw [hw.means_iff hfull ht ht' hs hid, or_iff_right hnot, ← not_exists, ht.exists_means hid]
  simp [hmem]

/-- Any other use means what it meant, if it meant something or has none of the new names. -/
theorem ScopeTree.Widens.means_kept (hw : t.Widens insertedNames t')
    (hfull : ∀ name ∈ insertedNames, (t'.get? moduleScope name).isSome) (ht : t.Numbered)
    (ht' : t'.Numbered) {s : ScopeId} (hs : t.Rooted s) {id : Ident}
    (hid : id.mention = .usedIn s) :
    (∀ i, t'.Means id i ↔ t.Means id i) ↔
      (id.name ∈ insertedNames → (t.symbolOf? id).isSome) := by
  simp only [hw.means_iff hfull ht ht' hs hid, or_iff_left_iff_imp, ← ht.exists_means hid]
  constructor
  · intro h hmem
    by_contra hnone
    have hnot := not_exists.mp hnone
    exact hnot moduleScope (h moduleScope ⟨hnot, hmem, rfl⟩)
  · rintro h i ⟨hnot, hmem, -⟩
    exact absurd (h hmem) (not_exists.mpr hnot)

/-- **Hygiene of one identifier.** -/
theorem Stems.hygienic_iff (h : Stems a t t' o y) (hw : t.Widens insertedNames t')
    (hfull : ∀ name ∈ insertedNames, (t'.get? moduleScope name).isSome)
    (hfree : ∀ name ∈ insertedNames, t.get? moduleScope name = none) (ht : t.Numbered)
    (ht' : t'.Numbered) (hchain : t'.chain moduleScope = [moduleScope]) :
    Hygienic a t t' o y ↔ ∀ x ∈ o, Steady a t x := by
  cases h with
  | inserted hlocal =>
    exact iff_of_true (fun hname => hlocal.means ht' hchain (hfull _ hname)) nofun
  | @own x y h =>
    have hmem : (∀ z ∈ some x, Steady a t z) ↔ Steady a t x := by simp
    rw [hmem]
    cases h with
    | @bind role id home x x' hrole hx hx' =>
      refine iff_of_true ⟨fun h => absurd h.1 hrole, fun _ i => ?_⟩ nofun
      have hold : ({ id with mention := .declares x } : Ident).mention = .declares x := rfl
      have hnew : ({ id with mention := .declares x' } : Ident).mention = .declares x' := rfl
      exact (ht'.means_declares hnew hx' i).trans (ht.means_declares hold hx i).symm
    | idle hrole hid =>
      refine iff_of_true ⟨fun h => absurd h.1 hrole, fun _ i => ?_⟩ fun s hs => ?_
      · exact iff_of_false (ScopeTree.not_means_unknown hid i) (ScopeTree.not_means_unknown hid i)
      · exact nomatch hid.symm.trans hs
    | @use role id s hs hid =>
      rw [steady_iff hid]
      refine and_congr (imp_congr_right fun hreplaced => ?_) (imp_congr_right fun hkept => ?_)
      · -- A read of the registry stands where the use was, so its name is looked up from there.
        obtain ⟨rfl, hsome⟩ := hreplaced
        replace hsome : (a id).isSome := hsome
        have hregistry : ({ (redirectRole a (.value, id)).2 with mention := .usedIn s } : Ident) =
            { id with name := registryName } := by
          rw [redirectRole, if_pos hsome, ← hid]
          rfl
        rw [hregistry]
        exact hw.means_registry hfull hfree ht ht' hs hid rfl
      · have hsame : ({ (redirectRole a (role, id)).2 with mention := .usedIn s } : Ident) = id := by
          rw [redirectRole_of_not hkept, ← hid]
        rw [hsame]
        exact hw.means_kept hfull ht ht' hs hid

/-- Hygiene of all identifiers. -/
theorem forall₂_hygienic_iff {origins : List (Option RoleIdent)} {ids : List RoleIdent}
    (h : List.Forall₂ (Stems a t t') origins ids) (hw : t.Widens insertedNames t')
    (hfull : ∀ name ∈ insertedNames, (t'.get? moduleScope name).isSome)
    (hfree : ∀ name ∈ insertedNames, t.get? moduleScope name = none) (ht : t.Numbered)
    (ht' : t'.Numbered) (hchain : t'.chain moduleScope = [moduleScope]) :
    List.Forall₂ (Hygienic a t t') origins ids ↔ ∀ x ∈ origins.reduceOption, Steady a t x := by
  simp only [List.reduceOption_mem_iff]
  induction h with
  | nil => simp
  | @cons o y _ _ hhead _ ih =>
    rw [List.forall₂_cons, ih, hhead.hygienic_iff hw hfull hfree ht ht' hchain]
    cases o with
    | none => simp
    | some x => simp [or_imp, forall_and]

/-- **When instrumenting is hygienic.**  The identifiers of an instrumented module, analysed anew, are
those of the module in their order and inserted ones at the top level.  Nothing but what is inserted
declares the inserted names in the module's own scope, the inserted identifiers and the replaced uses
stand for those declarations, and every other identifier stands for what it stood for, exactly if
nothing in the module disturbs that. -/
theorem instrumented_hygienic_iff {p q : Program} {place : Option String} {options : Options}
    {bs : List Binding}
    (h : p.analyse.1.instrument p.analyse.2.symbolOf? place options =
      .ok (.instrumented bs, q)) :
    let a := aliasesOf bs p.analyse.2.symbolOf?
    let t := p.analyse.2
    let t' := q.analyse.2
    ∃ origins : List (Option RoleIdent),
      origins.reduceOption = identsOf p.analyse.1.parts ∧
      List.Forall₂ (ComesFrom a t') origins (identsOf q.analyse.1.parts) ∧
      (∀ name ∈ insertedNames, (t'.get? moduleScope name).isSome) ∧
      ((∀ name ∈ insertedNames, t.get? moduleScope name = none) ∧
          List.Forall₂ (Hygienic a t t') origins (identsOf q.analyse.1.parts) ↔
        Undisturbed a t (identsOf p.analyse.1.parts)) := by
  intro a t t'
  obtain ⟨origins, horigins, hgrown⟩ := instrumented_grown h
  have hstems := hgrown.stems t t' (.refl _) (.refl _)
  have hfull := Program.isSome_get?_inserted h
  refine ⟨origins, horigins, hstems.imp fun _ _ => Stems.comesFrom, hfull, ?_⟩
  have hall := fun hfree => forall₂_hygienic_iff hstems hgrown.widens hfull hfree
    p.numbered_analyse q.numbered_analyse (Outline.chain_of_single q.matches_analyse)
  rw [horigins] at hall
  constructor
  · exact fun ⟨hfree, hhygienic⟩ => ⟨hfree, (hall hfree).mp hhygienic⟩
  · exact fun hund => ⟨hund.free, (hall hund.free).mpr hund.steady⟩

/-! ### Sources -/

/-- A source that is instrumented: the module as it was read, its bindings and the new module. -/
def instrumented? (source : String) : Option (Program × List Binding × Program) :=
  match Program.parse source with
  | .error _ => none
  | .ok p =>
    match p.analyse.1.instrument p.analyse.2.symbolOf? none {} with
    | .ok (.instrumented bs, q) => some (p, bs, q)
    | _ => none

theorem of_instrumented? {source : String} {p q : Program} {bs : List Binding}
    (h : instrumented? source = some (p, bs, q)) :
    Program.parse source = .ok p ∧
      p.analyse.1.instrument p.analyse.2.symbolOf? none {} = .ok (.instrumented bs, q) := by
  unfold instrumented? at h
  split at h
  · exact nomatch h
  · rename_i p' hp
    split at h
    · rename_i bs' q' hq
      simp only [Option.some.injEq, Prod.mk.injEq] at h
      obtain ⟨rfl, rfl, rfl⟩ := h
      exact ⟨hp, hq⟩
    · exact nomatch h

theorem instrumented?_of_spelled {source : String} {cs : List Char}
    (h : source = String.ofList cs) :
    instrumented? source =
      match Program.ofChars cs with
      | .error _ => none
      | .ok p =>
        match p.analyse.1.instrument p.analyse.2.symbolOf? none {} with
        | .ok (.instrumented bs, q) => some (p, bs, q)
        | _ => none := by
  rw [instrumented?, Program.parse_of_spelled h]

/-- A module whose names leave the registry alone. -/
def steadySource : String := "import {a} from 'm'; function f(b) { return b(a); }"

theorem steadySource_hygienic :
    ∃ p q bs, Program.parse steadySource = .ok p ∧
      p.analyse.1.instrument p.analyse.2.symbolOf? none {} = .ok (.instrumented bs, q) ∧
      Undisturbed (aliasesOf bs p.analyse.2.symbolOf?) p.analyse.2 (identsOf p.analyse.1.parts) ∧
      ∃ origins : List (Option RoleIdent),
        origins.reduceOption = identsOf p.analyse.1.parts ∧
        List.Forall₂ (ComesFrom (aliasesOf bs p.analyse.2.symbolOf?) q.analyse.2) origins
          (identsOf q.analyse.1.parts) ∧
        List.Forall₂ (Hygienic (aliasesOf bs p.analyse.2.symbolOf?) p.analyse.2 q.analyse.2) origins
          (identsOf q.analyse.1.parts) := by
  have hsource : (instrumented? steadySource).any (fun (p, bs, _) =>
      decide (Undisturbed (aliasesOf bs p.analyse.2.symbolOf?) p.analyse.2
        (identsOf p.analyse.1.parts))) := by decide +kernel
  obtain ⟨⟨p, bs, q⟩, hpq, hund⟩ := (Option.any_eq_true _ _).mp hsource
  obtain ⟨hp, hq⟩ := of_instrumented? hpq
  have hund := of_decide_eq_true hund
  obtain ⟨origins, horigins, hfrom, -, hiff⟩ := instrumented_hygienic_iff hq
  exact ⟨p, q, bs, hp, hq, hund, origins, horigins, hfrom, (hiff.mpr hund).2⟩

/-- A module with a use inside a function whose parameter has the name of the registry. -/
def capturingSource : String := "import {a} from 'm'; function f($imports) { return a; }"

/-- The use becomes a read of the parameter. -/
theorem capturingSource_captures :
    ∃ p q bs, Program.parse capturingSource = .ok p ∧
      p.analyse.1.instrument p.analyse.2.symbolOf? none {} = .ok (.instrumented bs, q) ∧
      (∀ x ∈ identsOf p.analyse.1.parts, x.1 = .value → x.2.name ≠ registryName) ∧
      ∃ x ∈ identsOf q.analyse.1.parts, x.1 = .value ∧ x.2.name = registryName ∧
        ¬ q.analyse.2.Means x.2 moduleScope := by
  have hsource : (instrumented? capturingSource).any (fun (p, _, q) =>
      decide ((∀ x ∈ identsOf p.analyse.1.parts, x.1 = .value → x.2.name ≠ registryName) ∧
        ∃ x ∈ identsOf q.analyse.1.parts, x.1 = .value ∧ x.2.name = registryName ∧
          ¬ q.analyse.2.Means x.2 moduleScope)) := by decide +kernel
  obtain ⟨⟨p, bs, q⟩, hpq, hcaptures⟩ := (Option.any_eq_true _ _).mp hsource
  obtain ⟨hp, hq⟩ := of_instrumented? hpq
  exact ⟨p, q, bs, hp, hq, of_decide_eq_true hcaptures⟩

end ImportSeam
