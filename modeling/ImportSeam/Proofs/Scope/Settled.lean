import ImportSeam.Proofs.Scope.Lexical
import ImportSeam.Proofs.Scope.Within

/-!
# An outline in its place

In an analysed module every piece of the outline stands in scopes that can be named: those of the
finished scope tree that are around it.  Its identifiers mean what lexical scoping says in them, and
the scopes that it opens stand one inside the other as they do in the outline.

## Main definitions

* `Outline.Opens` — the scopes of an outline stand in a scope tree as they do in the outline.
* `Outline.Settled` — an outline in its place in a finished scope tree.

## Main results

* `Outline.annotate_annotate` — analysing an analysed tree finds the same.
* `Outline.Settled.within` — a piece of an outline is settled where the outline is.
* `Program.settled_analyse` — the outline of an analysed module is settled in the module's scope.
-/

namespace ImportSeam

open Program (moduleScope)

namespace Outline

/-! ### Putting outlines together -/

theorem references_append (env : Env) (mode : VarMode) (next : ScopeId) (o₁ o₂ : Outline) :
    (o₁ ++ o₂).references env mode next =
      o₁.references env mode next ++ o₂.references env mode (next + o₁.scopeCount) := by
  change (o₁.append o₂).references env mode next = _
  induction o₁ generalizing next with
  | done => rfl
  | declare _ _ ih => exact ih next
  | bind _ _ _ ih | use _ _ _ ih | idle _ _ _ ih => exact congrArg (_ :: ·) (ih next)
  | under _ _ _ _ ih | scope _ _ _ _ ih =>
    simp only [append, references, scopeCount, ih, List.append_assoc, Nat.add_assoc]

theorem frames_append (next : ScopeId) (o₁ o₂ : Outline) :
    (o₁ ++ o₂).frames next = o₁.frames next ++ o₂.frames (next + o₁.scopeCount) := by
  change (o₁.append o₂).frames next = _
  induction o₁ generalizing next with
  | done => rfl
  | declare _ _ ih | bind _ _ _ ih | use _ _ _ ih | idle _ _ _ ih => exact ih next
  | under _ _ _ _ ih | scope _ _ _ _ ih =>
    simp only [append, frames, scopeCount, ih, List.append_assoc, List.cons_append, Nat.add_assoc]

/-- Every identifier of an outline has a meaning. -/
theorem length_references (env : Env) (mode : VarMode) (next : ScopeId) (o : Outline) :
    (o.references env mode next).length = o.idents.length := by
  induction o generalizing env mode next with
  | done => rfl
  | declare _ _ ih => exact ih env mode next
  | bind _ _ _ ih | use _ _ _ ih | idle _ _ _ ih => exact congrArg (· + 1) (ih env mode next)
  | under _ _ _ ihInside ih | scope _ _ _ ihInside ih =>
    simp only [references, idents, List.length_append, ihInside, ih]

/-- **Analysing an analysed tree finds the same.** -/
theorem annotate_annotate (o : Outline) (home s : ScopeId) (t : ScopeTree) :
    (o.annotate home s t).1.annotate home s t = o.annotate home s t := by
  induction o generalizing home s t with
  | done => rfl
  | declare _ _ ih | bind _ _ _ ih | use _ _ _ ih | idle _ _ _ ih => simp only [annotate, ih]
  | under _ _ _ ihInside ih | scope _ _ _ ihInside ih => simp only [annotate, ihInside, ih]

/-! ### Scopes inside scopes -/

/-- The scopes of an outline, numbered from `next` on, stand in a scope tree as they do in the
outline. -/
def Opens (t : ScopeTree) (s next : ScopeId) : Outline → Prop
  | .done => True
  | .declare _ rest | .bind _ _ rest | .use _ _ rest | .idle _ _ rest => rest.Opens t s next
  | .under _ inside rest => inside.Opens t s next ∧ rest.Opens t s (next + inside.scopeCount)
  | .scope _ inside rest =>
    t.chain next = next :: t.chain s ∧ inside.Opens t next (next + 1) ∧
      rest.Opens t s (next + 1 + inside.scopeCount)

theorem opens_append {t : ScopeTree} {s next : ScopeId} {o₁ o₂ : Outline} :
    (o₁ ++ o₂).Opens t s next ↔ o₁.Opens t s next ∧ o₂.Opens t s (next + o₁.scopeCount) := by
  change (o₁.append o₂).Opens t s next ↔ _
  induction o₁ generalizing next with
  | done => exact (iff_of_eq (true_and _)).symm
  | declare _ _ ih | bind _ _ _ ih | use _ _ _ ih | idle _ _ _ ih => exact ih
  | under _ _ _ _ ih | scope _ _ _ _ ih =>
    simp only [append, Opens, scopeCount, ih, and_assoc, Nat.add_assoc]

/-- Running an outline opens its scopes in their places. -/
theorem opens_run {T t : ScopeTree} {env : Env} {home s : ScopeId} (o : Outline)
    (hm : env.Matches t s) (hhome : home < t.size) (hT : (o.run home s t).2.Extends T) :
    o.Opens T s t.size := by
  induction o generalizing env home s t with
  | done => trivial
  | declare name rest ih =>
    have hstep := t.extends_declare hhome name
    have hrest := ih (hm.extend hstep) (Nat.lt_of_lt_of_le hhome hstep.size_le) hT
    rwa [ScopeTree.size_declare] at hrest
  | bind role id rest ih =>
    have hstep := t.extends_declare hhome id.name
    have hrest := ih (hm.extend hstep) (Nat.lt_of_lt_of_le hhome hstep.size_le) hT
    rwa [ScopeTree.size_declare] at hrest
  | use role id rest ih | idle role id rest ih => exact ih hm hhome hT
  | under mode inside rest ihInside ihRest =>
    have hstep := inside.extends_run hm (hm.homeOf_lt mode)
    have hhome' := Nat.lt_of_lt_of_le hhome hstep.size_le
    have hend := (rest.extends_run (hm.extend hstep) hhome').trans hT
    have hrest := ihRest (hm.extend hstep) hhome' hT
    rw [inside.size_run] at hrest
    exact ⟨ihInside hm (hm.homeOf_lt mode) hend, hrest⟩
  | scope kind inside rest ihInside ihRest =>
    have hchild := hm.child kind []
    have hinside := inside.extends_run hchild hchild.lt
    have hstep := (t.extends_child s kind).trans hinside
    have hhome' := Nat.lt_of_lt_of_le hhome hstep.size_le
    have hend := (rest.extends_run (hm.extend hstep) hhome').trans hT
    have hopened := ihInside hchild hchild.lt hend
    have hrest := ihRest (hm.extend hstep) hhome' hT
    rw [ScopeTree.size_child] at hopened
    rw [inside.size_run, ScopeTree.size_child] at hrest
    refine ⟨?_, hopened, hrest⟩
    -- The scope was put inside the present one when it was opened.
    rw [(hinside.trans hend).chain hchild.lt, ← hchild.chain, (hstep.trans hend).chain hm.lt,
      ← hm.chain]
    rfl

/-! ### In its place -/

/-- An outline in its place in a finished scope tree: in the scope `s`, with the given scopes around
it, in a declaration of the given mode, and with its own scopes numbered from `next` on. -/
structure Settled (t : ScopeTree) (s : ScopeId) (env : Env) (mode : VarMode) (next : ScopeId)
    (o : Outline) : Prop where
  around : env.Matches t s
  there : ∀ f ∈ env, t.Has f
  resolves : t.Resolves o.idents (o.references env mode next) (o.frames next)
  opens : o.Opens t s next

namespace Settled

variable {t : ScopeTree} {s next : ScopeId} {env : Env} {mode : VarMode} {o o₁ o₂ : Outline}

/-- Identifiers and their meanings come in step. -/
theorem resolves_of_append {ids₁ ids₂ : List RoleIdent} {refs₁ refs₂ : List Reference}
    {frames₁ frames₂ : List Frame} (h : t.Resolves (ids₁ ++ ids₂) (refs₁ ++ refs₂) (frames₁ ++ frames₂))
    (hlength : refs₁.length = ids₁.length) :
    t.Resolves ids₁ refs₁ frames₁ ∧ t.Resolves ids₂ refs₂ frames₂ := by
  have hidents := h.idents
  rw [List.map_append, List.map_append] at hidents
  obtain ⟨h₁, h₂⟩ := List.append_inj hidents (by simp [hlength])
  exact ⟨⟨h₁, fun f hf => h.frames f (List.mem_append_left _ hf)⟩,
    ⟨h₂, fun f hf => h.frames f (List.mem_append_right _ hf)⟩⟩

theorem append (h : (o₁ ++ o₂).Settled t s env mode next) :
    o₁.Settled t s env mode next ∧ o₂.Settled t s env mode (next + o₁.scopeCount) := by
  have hres := h.resolves
  rw [idents_append, references_append, frames_append] at hres
  obtain ⟨h₁, h₂⟩ := resolves_of_append hres (o₁.length_references env mode next)
  obtain ⟨hopen₁, hopen₂⟩ := opens_append.mp h.opens
  exact ⟨⟨h.around, h.there, h₁, hopen₁⟩, ⟨h.around, h.there, h₂, hopen₂⟩⟩

theorem use {role : NameRole} {id : Ident} {rest : Outline}
    (h : (Outline.use role id rest).Settled t s env mode next) : rest.Settled t s env mode next where
  around := h.around
  there := h.there
  resolves := ⟨(List.cons.inj h.resolves.idents).2, h.resolves.frames⟩
  opens := h.opens

theorem under {mode' : VarMode} {inside rest : Outline}
    (h : (Outline.under mode' inside rest).Settled t s env mode next) :
    inside.Settled t s env mode' next :=
  have hres := resolves_of_append h.resolves (inside.length_references env mode' next)
  ⟨h.around, h.there, hres.1, h.opens.1⟩

/-- A scope is there, with its names, inside those around it. -/
theorem scope {kind : ScopeKind} {inside rest : Outline}
    (h : (Outline.scope kind inside rest).Settled t s env mode next) :
    inside.Settled t next (⟨next, kind, inside.declared kind⟩ :: env) .lexical (next + 1) ∧
      rest.Settled t s env mode (next + 1 + inside.scopeCount) := by
  have hframe : t.Has ⟨next, kind, inside.declared kind⟩ := h.resolves.frames _ List.mem_cons_self
  have hres := resolves_of_append
    ⟨h.resolves.idents, fun f hf => h.resolves.frames f (List.mem_cons_of_mem _ hf)⟩
    (inside.length_references (⟨next, kind, inside.declared kind⟩ :: env) .lexical (next + 1))
  obtain ⟨hchain, hinside, hrest⟩ := h.opens
  refine ⟨⟨⟨?_, ?_, ?_, ?_⟩, ?_, hres.1, hinside⟩, ⟨h.around, h.there, hres.2, hrest⟩⟩
  · rw [List.map_cons, h.around.chain, hchain]
  · exact List.forall_mem_cons.mpr ⟨hframe.lt_size, h.around.lt_size⟩
  · exact List.forall_mem_cons.mpr ⟨hframe.kind, h.around.kind⟩
  · obtain ⟨f, hf, hclosure⟩ := h.around.closed
    exact ⟨f, List.mem_cons_of_mem _ hf, hclosure⟩
  · exact List.forall_mem_cons.mpr ⟨hframe, h.there⟩

/-- **A piece of an outline is settled** where the outline is. -/
theorem within (h : o₂.Settled t s env mode next) (hw : o₁.Within o₂) :
    ∃ s env mode next, o₁.Settled t s env mode next := by
  induction hw generalizing s env mode next with
  | refl => exact ⟨s, env, mode, next, h⟩
  | left _ _ ih => exact ih h.append.1
  | right _ _ ih => exact ih h.append.2
  | use _ _ _ ih => exact ih h.use
  | under _ _ _ ih => exact ih h.under
  | scope _ _ _ ih => exact ih h.scope.1
  | after _ _ _ ih => exact ih h.scope.2

end Settled

end Outline

/-! ### Analysed modules -/

namespace Program

/-- **The outline of an analysed module** is settled in the module's own scope. -/
theorem settled_analyse (p : Program) : ∃ f : Frame,
    (stmtsOutline p.analyse.1.body).Settled p.analyse.2 moduleScope [f] .lexical 1 := by
  obtain ⟨houtline, htree⟩ := p.outline_analyse
  have hagain := (stmtsOutline p.body).annotate_annotate moduleScope moduleScope (.root .module)
  rw [← houtline] at hagain
  obtain ⟨houtline', htree'⟩ := p.analyse.1.outline_analyse
  rw [hagain] at houtline' htree'
  -- So the analysed module is analysed to itself.
  have hsame : p.analyse.1.analyse.2 = p.analyse.2 := htree'.trans htree.symm
  have hres := p.analyse.1.resolves_analyse
  have hidents : identsOf p.analyse.1.analyse.1.parts = (stmtsOutline p.analyse.1.body).idents := by
    rw [houtline, ← houtline']
    exact (stmts_outline_lists _).symm
  have hm := p.analyse.1.matches_root
  have hopens := (stmtsOutline p.analyse.1.body).opens_run hm hm.lt (.refl _)
  rw [← (p.analyse.1.analyse_eq_run).2] at hopens
  rw [hidents, hsame] at hres
  rw [hsame] at hopens
  refine ⟨p.analyse.1.moduleFrame, hsame ▸ p.analyse.1.matches_analyse, ?_, ?_, hopens⟩
  · intro f hf
    rw [List.mem_singleton.mp hf, ← hsame]
    exact p.analyse.1.has_moduleFrame
  · exact ⟨hres.idents, fun f hf => hres.frames f (List.mem_cons_of_mem _ hf)⟩

end Program

end ImportSeam
