import ImportSeam.Proofs.Discovery
import ImportSeam.Proofs.Scope.Lexical

/-!
# Bindings belong to the module

Discovery looks at the statements of a module, and at no scope that they open.  What it finds is
named by identifiers that stand in the module's own scope, so the declaration of a binding is what
that scope has under the name of the binding, and no two bindings share a name.

## Main definitions

* `ScopeTree.Local` — an identifier stands in a scope.
* `Outline.surface` — the identifiers of an outline that no scope inside it surrounds.
* `Setting.Declares` — an outline has an identifier for a binding on its surface.

## Main results

* `Outline.local_of_mem_surface` — an identifier on the surface stands in the scope around.
* `Program.get?_of_mem_surface` — an identifier on the surface of a module refers to the module's own
  scope.
* `Setting.declares_candidates` — the bindings that a statement offers are named on its surface.
* `Discovery.Describes.not_reserved` — no binding hides an operation of the registry.
* `Discovery.Describes.get?_declaration` — the declaration of a binding is the module's.
* `Discovery.Describes.nodup_names` — the bindings that are found have different names.
-/

namespace ImportSeam

/-- The identifier is used in the scope or declares the name that it has. -/
def ScopeTree.Local (t : ScopeTree) (s : ScopeId) (id : Ident) : Prop :=
  id.mention = .usedIn s ∨ ∃ x, id.mention = .declares x ∧ t.get? s id.name = some x

namespace Outline

/-- The identifiers of an outline that no scope inside it surrounds. -/
def surface : Outline → List RoleIdent
  | .done => []
  | .declare _ rest => rest.surface
  | .bind role id rest | .use role id rest | .idle role id rest => (role, id) :: rest.surface
  | .under _ inside rest => inside.surface ++ rest.surface
  | .scope _ _ rest => rest.surface

@[simp] theorem surface_append (o₁ o₂ : Outline) :
    (o₁ ++ o₂).surface = o₁.surface ++ o₂.surface := by
  change (o₁.append o₂).surface = _
  induction o₁ with
  | done => rfl
  | declare name rest ih => exact ih
  | bind role id rest ih | use role id rest ih | idle role id rest ih =>
    simp only [append, surface, ih, List.cons_append]
  | under mode inside rest _ ih => simp only [append, surface, ih, List.append_assoc]
  | scope kind inside rest _ ih => simp only [append, surface, ih]

/-! ### What the surface refers to -/

variable {t T : ScopeTree} {s : ScopeId} {f : Frame}

/-- Around a place in the outermost scope there is nothing else. -/
theorem chain_of_single (hm : Env.Matches [f] t s) : t.chain s = [s] := by
  have hchain : [f.scope] = s :: (t.scope s).around := hm.chain
  rw [ScopeTree.chain, ← (List.cons.inj hchain).2]

theorem homeOf_of_single (hm : Env.Matches [f] t s) (mode : VarMode) : homeOf t s mode = s := by
  have hscope : f.scope = s := (List.cons.inj hm.chain).1
  have hhome := hm.home mode
  obtain ⟨g, hg, hclosure⟩ := hm.closed
  obtain rfl := List.mem_singleton.mp hg
  cases mode with
  | hoisted =>
    rw [Env.home, List.find?_cons, hclosure] at hhome
    exact (Option.some.inj hhome).symm.trans hscope
  | constant | lexical => rfl

/-- **An identifier on the surface** of an outline is used in the scope around the outline or declares
the name that this scope has, if there is only one. -/
theorem local_of_mem_surface (o : Outline) (hm : Env.Matches [f] t s)
    (hT : (o.annotate s s t).2.Extends T) {role : NameRole} {id : Ident}
    (h : (role, id) ∈ (o.annotate s s t).1.surface) : id.mention = .unknown ∨ T.Local s id := by
  induction o generalizing t with
  | done => exact nomatch h
  | declare n rest ih => exact ih (hm.extend (t.extends_declare hm.lt n)) hT h
  | bind role' id' rest ih =>
    have hm' := hm.extend (t.extends_declare hm.lt id'.name)
    obtain heq | h := List.mem_cons.mp h
    · -- The symbol that was given out stays with the name.
      obtain rfl := (Prod.mk.inj heq).2
      have hdeclared : (t.declare s id'.name).2.get? s id'.name =
          some (t.declare s id'.name).1 := by
        rw [ScopeTree.get?_declare hm.lt, if_pos ⟨rfl, rfl⟩]
      exact .inr (.inr ⟨_, rfl, ((rest.extends_annotate hm' hm'.lt).trans hT).get? _ _ _ hdeclared⟩)
    · exact ih hm' hT h
  | use role' id' rest ih =>
    obtain heq | h := List.mem_cons.mp h
    · obtain rfl := (Prod.mk.inj heq).2
      exact .inr (.inl rfl)
    · exact ih hm hT h
  | idle role' id' rest ih =>
    obtain heq | h := List.mem_cons.mp h
    · obtain rfl := (Prod.mk.inj heq).2
      exact .inl rfl
    · exact ih hm hT h
  | under mode inside rest ihInside ihRest =>
    simp only [annotate, homeOf_of_single hm] at hT h
    have hm' := hm.extend (inside.extends_annotate hm hm.lt)
    obtain h | h := List.mem_append.mp h
    · exact ihInside hm ((rest.extends_annotate hm' hm'.lt).trans hT) h
    · exact ihRest hm' hT h
  | scope kind inside rest _ ih =>
    have hchild := hm.child kind []
    have hstep := (t.extends_child s kind).trans (inside.extends_annotate hchild hchild.lt)
    exact ih (hm.extend hstep) hT h

end Outline

/-- What an identifier on the surface of a module refers to is in the module's own scope. -/
theorem Program.get?_of_mem_surface (p : Program) {role : NameRole} {id : Ident} {x : Symbol}
    (h : (role, id) ∈ (stmtsOutline p.analyse.1.body).surface)
    (hx : p.analyse.2.symbolOf? id = some x) :
    p.analyse.2.get? moduleScope id.name = some x := by
  have hm := p.matches_root
  have hT : ((stmtsOutline p.body).annotate moduleScope moduleScope (.root .module)).2.Extends
      p.analyse.2 := by
    rw [p.outline_analyse.2]
    exact .refl _
  rw [p.outline_analyse.1] at h
  rw [ScopeTree.symbolOf?] at hx
  obtain hnone | huse | ⟨y, hdecl, hy⟩ := (stmtsOutline p.body).local_of_mem_surface hm hT h
  · rw [hnone] at hx
    exact nomatch hx
  · have hchain := Outline.chain_of_single p.matches_analyse
    simp only [huse, ScopeTree.find?, hchain, List.findSome?_cons] at hx
    cases hget : p.analyse.2.get? moduleScope id.name with
    | none => simp [hget] at hx
    | some y => simpa [hget] using hx
  · rw [hdecl] at hx
    rw [← hx, hy]

/-! ### The names of bindings -/

/-- The binding is what an identifier on the surface stands for. -/
def Setting.Declares (cfg : Setting) (o : Outline) (b : Binding) : Prop :=
  ∃ role id, (role, id) ∈ o.surface ∧ cfg.candidate? b.path b.symbol id = some b

namespace Setting

open Outline (declareAll ofBound)

variable {cfg : Setting} {b : Binding} {path : String} {symbol : Export}

theorem Declares.append_left {o : Outline} (h : cfg.Declares o b) (o' : Outline) :
    cfg.Declares (o ++ o') b := by
  obtain ⟨role, id, hmem, hid⟩ := h
  exact ⟨role, id, by simp [hmem], hid⟩

theorem Declares.append_right {o' : Outline} (h : cfg.Declares o' b) (o : Outline) :
    cfg.Declares (o ++ o') b := by
  obtain ⟨role, id, hmem, hid⟩ := h
  exact ⟨role, id, by simp [hmem], hid⟩

theorem candidate?_eq_some {id : Ident} (h : cfg.candidate? path symbol id = some b) :
    isReservedAlias id.name = false ∧ cfg.resolve id = some b.declaration ∧
      b = ⟨id.name, path, symbol, b.declaration⟩ := by
  unfold candidate? at h
  split at h
  · exact nomatch h
  · rename_i hfree
    obtain ⟨x, hx, rfl⟩ := Option.map_eq_some_iff.mp h
    exact ⟨Bool.not_eq_true _ ▸ hfree, hx, rfl⟩

theorem declares_candidate (declares : Bool) {id : Ident}
    (h : cfg.candidate? path symbol id = some b) : cfg.Declares (ofBound declares id) b := by
  obtain ⟨-, -, hb⟩ := candidate?_eq_some h
  rw [hb] at h ⊢
  refine ⟨.pattern, id, ?_, h⟩
  cases declares <;> exact List.mem_cons_self

theorem declares_imported {p : Pat} (h : cfg.imported? path symbol p = some b) :
    cfg.Declares (p.outline true) b := by
  cases p with
  | ident id => exact declares_candidate true h
  | _ => exact nomatch h

theorem declares_required (declares : Bool) {id : Ident}
    (h : cfg.required? path symbol id = some b) : cfg.Declares (ofBound declares id) b := by
  unfold required? at h
  split at h
  · exact nomatch h
  · exact declares_candidate declares h

theorem declares_properties (declares : Bool) {props : List PropPat}
    (h : b ∈ props.filterMap (cfg.property? path)) :
    cfg.Declares (propsOutline declares props) b := by
  induction props with
  | nil => exact nomatch h
  | cons prop props ih =>
    obtain ⟨key, ⟨target, init⟩, isShorthand⟩ := prop
    obtain ⟨x, hx, hb⟩ := List.mem_filterMap.mp h
    obtain rfl | hx := List.mem_cons.mp hx
    · refine .append_right ?_ _
      unfold property? at hb
      split at hb
      · rename_i heq
        cases heq
        exact (declares_required declares hb).append_left _
      · exact nomatch hb
    · exact (((ih (List.mem_filterMap.mpr ⟨x, hx, hb⟩)).append_right _).append_right _).append_right _

theorem declares_requiredBy (declares : Bool) {call : RequireCall} {target : Pat}
    (h : b ∈ cfg.requiredBy call target) : cfg.Declares (target.outline declares) b := by
  unfold requiredBy at h
  split at h
  · exact nomatch h
  · split at h
    · exact declares_required declares (Option.mem_toList.mp h)
    · exact (declares_properties declares h).append_left _
    · exact nomatch h

theorem declares_importedBy {names : ImportNames} (h : b ∈ cfg.importedBy path (some names)) :
    cfg.Declares names.outline b := by
  cases names with
  | all p => exact (declares_imported (Option.mem_toList.mp h)).append_right _
  | specific specs =>
    change cfg.Declares (specsOutline specs) b
    replace h : b ∈ specs.filterMap _ := h
    induction specs with
    | nil => exact nomatch h
    | cons spec specs ih =>
      obtain ⟨imported, target⟩ := spec
      obtain ⟨x, hx, hb⟩ := List.mem_filterMap.mp h
      obtain rfl | hx := List.mem_cons.mp hx
      · exact ((declares_imported hb).append_left _).append_right _
      · exact ((ih (List.mem_filterMap.mpr ⟨x, hx, hb⟩)).append_right _).append_right _

theorem declares_boundBy {bs : List Binder} (h : b ∈ bs.flatMap cfg.boundBy) :
    cfg.Declares (bindersOutline bs) b := by
  induction bs with
  | nil => exact nomatch h
  | cons x bs ih =>
    obtain ⟨target, init⟩ := x
    refine .append_right ?_ _
    obtain hx | hbs := List.mem_append.mp h
    · unfold boundBy at hx
      split at hx
      · exact (declares_requiredBy true hx).append_left _
      · exact nomatch hx
    · exact ((ih hbs).append_right _).append_right _

theorem declares_assignedBy {left right : Expr} (h : b ∈ cfg.assignedBy left right) :
    cfg.Declares left.outline b := by
  unfold assignedBy at h
  split at h
  · exact nomatch h
  · split at h
    · exact declares_requiredBy false h
    · exact nomatch h

/-- **The bindings that a statement offers** are declared or assigned to on its surface. -/
theorem declares_candidates {s : Stmt} (h : b ∈ s.candidates cfg) : cfg.Declares s.outline b := by
  unfold Stmt.candidates at h
  split at h
  · rename_i loc default names path
    split at h
    · exact nomatch h
    · have hdefault : b ∈ default.toList.filterMap (cfg.imported? path .default) →
          cfg.Declares (declaredOutline default) b := by
        intro h
        obtain ⟨p, hp, hb⟩ := List.mem_filterMap.mp h
        obtain rfl := Option.mem_toList.mp hp
        exact (declares_imported hb).append_right _
      cases names with
      | none =>
        rw [importedBy, List.append_nil] at h
        exact hdefault h
      | some names =>
        obtain h | h := List.mem_append.mp h
        · exact (hdefault h).append_left _
        · exact (declares_importedBy h).append_right _
  · obtain ⟨role, id, hmem, hid⟩ := declares_boundBy h
    exact ⟨role, id, List.mem_append_left [] hmem, hid⟩
  · exact (declares_assignedBy h).append_left _
  · exact nomatch h

theorem declares_of_mem {body : List Stmt} {s : Stmt} (hs : s ∈ body)
    (h : b ∈ s.candidates cfg) : cfg.Declares (stmtsOutline body) b := by
  induction body with
  | nil => exact nomatch hs
  | cons x body ih =>
    obtain rfl | hs := List.mem_cons.mp hs
    · exact (declares_candidates h).append_left _
    · exact (ih hs).append_right _

end Setting

/-! ### The declarations of bindings -/

namespace Discovery.Describes

variable {p : Program} {excludes : String → Bool} {d : Discovery}

/-- What is found stands for an identifier on the surface of the module. -/
theorem declares {cfg : Setting} {body : List Stmt} {d : Discovery} (hd : Describes cfg body d)
    {b : Binding} (hb : b ∈ d.bindings) : cfg.Declares (stmtsOutline body) b := by
  obtain ⟨f, hf, rfl⟩ := List.mem_map.mp hb
  obtain ⟨⟨s, hs, hcand⟩, -⟩ := hd.own f hf
  exact Setting.declares_of_mem (List.mem_of_getElem? hs) hcand

/-- No binding has the name of an operation of the registry. -/
theorem not_reserved {cfg : Setting} {body : List Stmt} {d : Discovery} (hd : Describes cfg body d)
    {b : Binding} (hb : b ∈ d.bindings) : isReservedAlias b.name = false := by
  obtain ⟨role, id, -, hcand⟩ := hd.declares hb
  obtain ⟨hfree, -, heq⟩ := Setting.candidate?_eq_some hcand
  rw [heq]
  exact hfree

/-- **The declaration of a binding is the module's**: what its own scope has under the name. -/
theorem get?_declaration (hd : Describes ⟨p.analyse.2.symbolOf?, excludes⟩ p.analyse.1.body d)
    {b : Binding} (hb : b ∈ d.bindings) :
    p.analyse.2.get? Program.moduleScope b.name = some b.declaration := by
  obtain ⟨role, id, hmem, hcand⟩ := hd.declares hb
  obtain ⟨-, hid, heq⟩ := Setting.candidate?_eq_some hcand
  rw [heq]
  exact p.get?_of_mem_surface hmem hid

/-- The bindings that are found have different names, since they have different declarations. -/
theorem nodup_names (hd : Describes ⟨p.analyse.2.symbolOf?, excludes⟩ p.analyse.1.body d) :
    (d.bindings.map (·.name)).Nodup := by
  have hdecl : (d.bindings.map (·.declaration)).Nodup := hd.nodup
  refine List.nodup_map_iff_inj_on hdecl.of_map |>.mpr fun b hb c hc hname => ?_
  refine List.inj_on_of_nodup_map hdecl hb hc ?_
  have hget := hd.get?_declaration hb
  rw [hname, hd.get?_declaration hc] at hget
  exact (Option.some.inj hget).symm

end Discovery.Describes

end ImportSeam
