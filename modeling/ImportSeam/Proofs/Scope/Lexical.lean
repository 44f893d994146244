import ImportSeam.Proofs.Scope.Annotated
import ImportSeam.Proofs.Scope.Tree
import Mathlib.Data.List.Find

/-!
# Lexical scoping

The meaning of names, read off an outline without building a scope tree: every scope has the names
that are declared anywhere in it, and a use means the innermost scope around it that has its name.
Scopes are numbered in the order in which they open.

## Main definitions

* `Outline.lexical`, `Outline.hoisted` — the names that an outline declares where it stands, and
  those that it leaves to the closure around it.
* `Frame` — a scope with its number, its kind and all its names.
* `Outline.frames` — the scopes of an outline.
* `Outline.references` — what the identifiers of an outline mean.

## Main results

* `Outline.isSome_get?_run` — what an outline adds to the scopes around it.
* `Outline.run_resolves` — running an outline resolves its identifiers as lexical scoping says.
* `Program.name_eq_of_symbolOf?` — a symbol determines its name.
* `analyse_lexical` — scope analysis of a module is lexical scoping.
-/

namespace ImportSeam

/-- Whether the names of a declaration come to rest in the closure around it. -/
def VarMode.isHoisted : VarMode → Bool
  | .hoisted => true
  | .constant | .lexical => false

namespace Outline

/-! ### Names -/

/-- The names that come to rest in the innermost scope around an outline that stands in a declaration
of the given mode. -/
def lexical (mode : VarMode) : Outline → List String
  | .done => []
  | .declare name rest => (if mode.isHoisted then [] else [name]) ++ rest.lexical mode
  | .bind _ id rest => (if mode.isHoisted then [] else [id.name]) ++ rest.lexical mode
  | .use _ _ rest | .idle _ _ rest => rest.lexical mode
  | .under mode' inside rest => inside.lexical mode' ++ rest.lexical mode
  | .scope _ _ rest => rest.lexical mode

/-- The names that come to rest in the closure around an outline that stands in a declaration of the
given mode. -/
def hoisted (mode : VarMode) : Outline → List String
  | .done => []
  | .declare name rest => (if mode.isHoisted then [name] else []) ++ rest.hoisted mode
  | .bind _ id rest => (if mode.isHoisted then [id.name] else []) ++ rest.hoisted mode
  | .use _ _ rest | .idle _ _ rest => rest.hoisted mode
  | .under mode' inside rest => inside.hoisted mode' ++ rest.hoisted mode
  | .scope kind inside rest =>
    (if kind.isClosure then [] else inside.hoisted .lexical) ++ rest.hoisted mode

@[simp] theorem lexical_append (mode : VarMode) (o₁ o₂ : Outline) :
    (o₁ ++ o₂).lexical mode = o₁.lexical mode ++ o₂.lexical mode := by
  change (o₁.append o₂).lexical mode = _
  induction o₁ with
  | done => rfl
  | declare name rest ih | bind role id rest ih =>
    simp only [append, lexical, ih, List.append_assoc]
  | use role id rest ih | idle role id rest ih => exact ih
  | under mode' inside rest _ ih => simp only [append, lexical, ih, List.append_assoc]
  | scope kind inside rest _ ih => exact ih

/-- All names of a scope with the outline inside it. -/
def declared (kind : ScopeKind) (o : Outline) : List String :=
  o.lexical .lexical ++ if kind.isClosure then o.hoisted .lexical else []

/-- How many scopes an outline opens. -/
def scopeCount : Outline → Nat
  | .done => 0
  | .declare _ rest | .bind _ _ rest | .use _ _ rest | .idle _ _ rest => rest.scopeCount
  | .under _ inside rest => inside.scopeCount + rest.scopeCount
  | .scope _ inside rest => 1 + inside.scopeCount + rest.scopeCount

end Outline

/-- A scope with its number, its kind and all its names. -/
structure Frame where
  scope : ScopeId
  kind : ScopeKind
  names : List String

/-- The scopes around a place, from the inside out. -/
abbrev Env := List Frame

namespace Env

/-- The innermost scope that has a name. -/
def lookup (env : Env) (name : String) : Option ScopeId :=
  (env.find? fun f => f.names.contains name).map (·.scope)

/-- The scope in which a declaration of a mode declares its names. -/
def home (env : Env) : VarMode → Option ScopeId
  | .hoisted => (env.find? fun f => f.kind.isClosure).map (·.scope)
  | .constant | .lexical => env.head?.map (·.scope)

end Env

/-- What an identifier means: the scope whose name it is, if it means one. -/
structure Reference where
  role : NameRole
  name : String
  scope : Option ScopeId

namespace Outline

/-- The scopes of an outline, numbered from `next` on. -/
def frames (next : ScopeId) : Outline → List Frame
  | .done => []
  | .declare _ rest | .bind _ _ rest | .use _ _ rest | .idle _ _ rest => rest.frames next
  | .under _ inside rest => inside.frames next ++ rest.frames (next + inside.scopeCount)
  | .scope kind inside rest =>
    ⟨next, kind, inside.declared kind⟩ ::
      (inside.frames (next + 1) ++ rest.frames (next + 1 + inside.scopeCount))

/-- What the identifiers of an outline mean, inside the given scopes and a declaration of the given
mode. -/
def references (env : Env) (mode : VarMode) (next : ScopeId) : Outline → List Reference
  | .done => []
  | .declare _ rest => rest.references env mode next
  | .bind role id rest => ⟨role, id.name, env.home mode⟩ :: rest.references env mode next
  | .use role id rest => ⟨role, id.name, env.lookup id.name⟩ :: rest.references env mode next
  | .idle role id rest => ⟨role, id.name, none⟩ :: rest.references env mode next
  | .under mode' inside rest =>
    inside.references env mode' next ++ rest.references env mode (next + inside.scopeCount)
  | .scope kind inside rest =>
    inside.references (⟨next, kind, inside.declared kind⟩ :: env) .lexical (next + 1) ++
      rest.references env mode (next + 1 + inside.scopeCount)

end Outline

/-! ### Scopes around a place -/

/-- The scopes around a place are those of a scope tree.  Their names need not be declared yet. -/
structure Env.Matches (env : Env) (t : ScopeTree) (s : ScopeId) : Prop where
  chain : env.map (·.scope) = t.chain s
  lt_size : ∀ f ∈ env, f.scope < t.size
  kind : ∀ f ∈ env, (t.scope f.scope).kind = f.kind
  closed : ∃ f ∈ env, f.kind.isClosure

namespace Env.Matches

variable {env : Env} {t t' : ScopeTree} {s : ScopeId}

theorem lt (h : env.Matches t s) : s < t.size := by
  have hs : s ∈ env.map (·.scope) := by simp [h.chain, ScopeTree.chain]
  obtain ⟨f, hf, rfl⟩ := List.mem_map.mp hs
  exact h.lt_size f hf

theorem extend (h : env.Matches t s) (ht : t.Extends t') : env.Matches t' s where
  chain := by rw [h.chain, ht.chain h.lt]
  lt_size f hf := Nat.lt_of_lt_of_le (h.lt_size f hf) ht.size_le
  kind f hf := by rw [ht.kind _ (h.lt_size f hf), h.kind f hf]
  closed := h.closed

theorem child (h : env.Matches t s) (kind : ScopeKind) (names : List String) :
    Env.Matches (⟨t.size, kind, names⟩ :: env) (t.child s kind).2 t.size where
  chain := by
    have haround : ((t.child s kind).2.scope t.size).around = t.chain s := by
      rw [ScopeTree.scope_child, if_pos rfl]
    rw [List.map_cons, h.chain, ← haround]
    rfl
  lt_size f hf := by
    rw [ScopeTree.size_child]
    obtain rfl | hf := List.mem_cons.mp hf
    · exact Nat.lt_succ_self _
    · exact Nat.lt_succ_of_lt (h.lt_size f hf)
  kind f hf := by
    obtain rfl | hf := List.mem_cons.mp hf
    · rw [ScopeTree.scope_child, if_pos rfl]
    · rw [ScopeTree.scope_child_of_lt (h.lt_size f hf), h.kind f hf]
  closed := by
    obtain ⟨f, hf, hclosure⟩ := h.closed
    exact ⟨f, List.mem_cons_of_mem _ hf, hclosure⟩

/-- The closure around a place is the innermost closure among the scopes around it. -/
theorem home_hoisted (h : env.Matches t s) : env.home .hoisted = some (t.closure s) := by
  have hfind : (t.chain s).find? (fun j => (t.scope j).kind.isClosure) =
      (env.find? fun f => f.kind.isClosure).map (·.scope) := by
    rw [← h.chain, List.find?_map, List.find?_congr fun f hf => ?_]
    rw [Function.comp_apply, h.kind f hf]
  obtain ⟨f, hf, hclosure⟩ := h.closed
  obtain ⟨g, hg⟩ := Option.isSome_iff_exists.mp
    (List.find?_isSome.mpr ⟨f, hf, hclosure⟩ : (env.find? fun f => f.kind.isClosure).isSome)
  rw [home, ScopeTree.closure, hfind, hg]
  rfl

theorem home (h : env.Matches t s) (mode : VarMode) :
    env.home mode = some (Outline.homeOf t s mode) := by
  have hhead : env.head?.map (·.scope) = some s := by
    rw [← List.head?_map, h.chain]
    rfl
  cases mode with
  | hoisted => exact h.home_hoisted
  | constant | lexical => exact hhead

theorem homeOf_lt (h : env.Matches t s) (mode : VarMode) : Outline.homeOf t s mode < t.size := by
  have hmem : ∀ f, env.find? (fun f => f.kind.isClosure) = some f → f.scope < t.size :=
    fun f hf => h.lt_size f (List.mem_of_find?_eq_some hf)
  cases mode with
  | hoisted =>
    obtain ⟨f, hf, hscope⟩ := Option.map_eq_some_iff.mp h.home_hoisted
    change t.closure s < t.size
    rw [← hscope]
    exact hmem f hf
  | constant | lexical => exact h.lt

theorem homeOf_extend (h : env.Matches t s) (ht : t.Extends t') (mode : VarMode) :
    Outline.homeOf t' s mode = Outline.homeOf t s mode :=
  Option.some.inj ((h.extend ht).home mode ▸ h.home mode)

theorem closure_extend (h : env.Matches t s) (ht : t.Extends t') : t'.closure s = t.closure s :=
  h.homeOf_extend ht .hoisted

end Env.Matches

namespace Outline

variable {env : Env} {t : ScopeTree} {home s : ScopeId} {mode : VarMode}

/-! ### What running an outline does to the scope tree -/

theorem size_run (o : Outline) (home s : ScopeId) (t : ScopeTree) :
    (o.run home s t).2.size = t.size + o.scopeCount := by
  induction o generalizing home s t with
  | done => rfl
  | declare name rest ih => rw [run, ih, ScopeTree.size_declare, scopeCount]
  | bind role id rest ih =>
    simp only [run, scopeCount]
    rw [ih, ScopeTree.size_declare]
  | use role id rest ih | idle role id rest ih => exact ih home s t
  | under mode inside rest ihInside ihRest =>
    simp only [run, scopeCount]
    rw [ihRest, ihInside]
    omega
  | scope kind inside rest ihInside ihRest =>
    simp only [run, scopeCount]
    rw [ihRest, ihInside, ScopeTree.size_child]
    omega

/-- What was there before an outline is there after it. -/
theorem extends_run (o : Outline) (hm : env.Matches t s) (hhome : home < t.size) :
    t.Extends (o.run home s t).2 := by
  induction o generalizing env home s t with
  | done => exact .refl t
  | declare name rest ih =>
    have hstep := t.extends_declare hhome name
    exact hstep.trans (ih (hm.extend hstep) (Nat.lt_of_lt_of_le hhome hstep.size_le))
  | bind role id rest ih =>
    have hstep := t.extends_declare hhome id.name
    exact hstep.trans (ih (hm.extend hstep) (Nat.lt_of_lt_of_le hhome hstep.size_le))
  | use role id rest ih | idle role id rest ih => exact ih hm hhome
  | under mode inside rest ihInside ihRest =>
    have hstep := ihInside hm (hm.homeOf_lt mode)
    exact hstep.trans (ihRest (hm.extend hstep) (Nat.lt_of_lt_of_le hhome hstep.size_le))
  | scope kind inside rest ihInside ihRest =>
    have hopen := t.extends_child s kind
    have hinside := ihInside (hm.child kind []) (hm.child kind []).lt
    have hstep := hopen.trans hinside
    exact hstep.trans (ihRest (hm.extend hstep) (Nat.lt_of_lt_of_le hhome hstep.size_le))

theorem extends_annotate (o : Outline) (hm : env.Matches t s) (hhome : home < t.size) :
    t.Extends (o.annotate home s t).2 := by
  have hrun := o.extends_run hm hhome
  rwa [run_eq_annotate] at hrun

theorem numbered_run (o : Outline) (hm : env.Matches t s) (hhome : home < t.size)
    (hn : t.Numbered) : (o.run home s t).2.Numbered := by
  induction o generalizing env home s t with
  | done => exact hn
  | declare name rest ih =>
    have hstep := t.extends_declare hhome name
    exact ih (hm.extend hstep) (Nat.lt_of_lt_of_le hhome hstep.size_le) (hn.declare hhome name)
  | bind role id rest ih =>
    have hstep := t.extends_declare hhome id.name
    exact ih (hm.extend hstep) (Nat.lt_of_lt_of_le hhome hstep.size_le)
      (hn.declare hhome id.name)
  | use role id rest ih | idle role id rest ih => exact ih hm hhome hn
  | under mode inside rest ihInside ihRest =>
    have hstep := inside.extends_run hm (hm.homeOf_lt mode)
    exact ihRest (hm.extend hstep) (Nat.lt_of_lt_of_le hhome hstep.size_le)
      (ihInside hm (hm.homeOf_lt mode) hn)
  | scope kind inside rest ihInside ihRest =>
    have hchild := hm.child kind []
    have hstep := (t.extends_child s kind).trans (inside.extends_run hchild hchild.lt)
    exact ihRest (hm.extend hstep) (Nat.lt_of_lt_of_le hhome hstep.size_le)
      (ihInside hchild hchild.lt (hn.child s kind))

theorem homeOf_eq_iff {i : ScopeId} :
    i = homeOf t s mode ↔ (mode.isHoisted = false ∧ i = s) ∨ (mode.isHoisted ∧ i = t.closure s) := by
  cases mode <;> simp [homeOf, VarMode.isHoisted]

theorem isSome_get?_declare {i : ScopeId} (hhome : home < t.size) (n m : String) :
    ((t.declare home n).2.get? i m).isSome ↔ (t.get? i m).isSome ∨ i = home ∧ m = n := by
  rw [ScopeTree.get?_declare hhome]
  split
  · simp [*]
  · simp [*]

theorem closure_child (hm : env.Matches t s) (kind : ScopeKind) :
    (t.child s kind).2.closure t.size = if kind.isClosure then t.size else t.closure s := by
  have hhome := (hm.child kind []).home_hoisted
  rw [Env.home, List.find?_cons] at hhome
  split
  · rename_i hclosure
    simpa [hclosure] using hhome.symm
  · rename_i hclosure
    have hout := hm.home_hoisted
    rw [Env.home] at hout
    simp only [hclosure] at hhome
    exact Option.some.inj (hhome.symm.trans hout)

/-- A declaration followed by other names. -/
theorem isSome_get?_declare_or (hm : env.Matches t s) {i : ScopeId} (n m : String)
    (lexical hoisted : List String) :
    ((t.declare (homeOf t s mode) n).2.get? i m).isSome ∨ i = s ∧ m ∈ lexical ∨
        i = t.closure s ∧ m ∈ hoisted ↔
      (t.get? i m).isSome ∨ i = s ∧ m ∈ (if mode.isHoisted then [] else [n]) ++ lexical ∨
        i = t.closure s ∧ m ∈ (if mode.isHoisted then [n] else []) ++ hoisted := by
  rw [isSome_get?_declare (hm.homeOf_lt mode), homeOf_eq_iff]
  cases mode.isHoisted <;> grind

/-- **What an outline adds to the scopes around it**: its lexical names to the innermost one, and its
hoisted names to the closure. -/
theorem isSome_get?_run (o : Outline) (hm : env.Matches t s) (hhome : home = homeOf t s mode)
    {i : ScopeId} (hi : i < t.size) (name : String) :
    ((o.run home s t).2.get? i name).isSome ↔ (t.get? i name).isSome ∨
      i = s ∧ name ∈ o.lexical mode ∨ i = t.closure s ∧ name ∈ o.hoisted mode := by
  induction o generalizing env mode home s t i with
  | done => simp [run, lexical, hoisted]
  | declare n rest ih =>
    subst hhome
    have hstep := t.extends_declare (hm.homeOf_lt mode) n
    rw [lexical, hoisted, ← isSome_get?_declare_or hm, ← hm.closure_extend hstep]
    exact ih (hm.extend hstep) (hm.homeOf_extend hstep mode).symm
      (Nat.lt_of_lt_of_le hi hstep.size_le)
  | bind role id rest ih =>
    subst hhome
    have hstep := t.extends_declare (hm.homeOf_lt mode) id.name
    rw [lexical, hoisted, ← isSome_get?_declare_or hm, ← hm.closure_extend hstep]
    exact ih (hm.extend hstep) (hm.homeOf_extend hstep mode).symm
      (Nat.lt_of_lt_of_le hi hstep.size_le)
  | use role id rest ih | idle role id rest ih => exact ih hm hhome hi
  | under mode' inside rest ihInside ihRest =>
    have hstep := inside.extends_run hm (hm.homeOf_lt mode')
    have hinside := ihInside hm (Eq.refl (homeOf t s mode')) hi
    have hrest := ihRest (hm.extend hstep) (hhome.trans (hm.homeOf_extend hstep mode).symm)
      (Nat.lt_of_lt_of_le hi hstep.size_le)
    rw [hm.closure_extend hstep] at hrest
    simp only [run, lexical, hoisted, List.mem_append]
    rw [hrest, hinside]
    grind
  | scope kind inside rest ihInside ihRest =>
    have hchild := hm.child kind []
    have hopen := t.extends_child s kind
    have hstep := hopen.trans (inside.extends_run hchild hchild.lt)
    -- The scope that is opened is new, so only hoisted names can leave it.
    have hhere : t.size = homeOf (t.child s kind).2 t.size .lexical := rfl
    have hinside := ihInside hchild hhere (Nat.lt_of_lt_of_le hi hopen.size_le)
    have hrest := ihRest (hm.extend hstep) (hhome.trans (hm.homeOf_extend hstep mode).symm)
      (Nat.lt_of_lt_of_le hi hstep.size_le)
    have hne : i ≠ t.size := Nat.ne_of_lt hi
    rw [ScopeTree.get?_child, closure_child hm] at hinside
    rw [hm.closure_extend hstep] at hrest
    simp only [run, lexical, hoisted, List.mem_append, ScopeTree.child_fst]
    rw [hrest, hinside]
    cases kind.isClosure <;> grind

end Outline

/-! ### What the identifiers mean -/

/-- A scope tree has a scope with exactly the given names. -/
structure ScopeTree.Has (t : ScopeTree) (f : Frame) : Prop where
  lt_size : f.scope < t.size
  kind : (t.scope f.scope).kind = f.kind
  names : ∀ name, (t.get? f.scope name).isSome ↔ name ∈ f.names

/-- In a scope tree, identifiers have the given meaning and the given scopes are there. -/
structure ScopeTree.Resolves (t : ScopeTree) (ids : List RoleIdent) (refs : List Reference)
    (frames : List Frame) : Prop where
  idents : ids.map (fun x => (x.1, x.2.name, t.symbolOf? x.2)) =
    refs.map fun r => (r.role, r.name, r.scope.bind fun i => t.get? i r.name)
  frames : ∀ f ∈ frames, t.Has f

theorem ScopeTree.Resolves.append {t : ScopeTree} {ids ids' : List RoleIdent}
    {refs refs' : List Reference} {frames frames' : List Frame} (h : t.Resolves ids refs frames)
    (h' : t.Resolves ids' refs' frames') :
    t.Resolves (ids ++ ids') (refs ++ refs') (frames ++ frames') where
  idents := by rw [List.map_append, List.map_append, h.idents, h'.idents]
  frames f hf := (List.mem_append.mp hf).elim (h.frames f) (h'.frames f)

theorem ScopeTree.Resolves.cons {t : ScopeTree} {id : RoleIdent} {ids : List RoleIdent}
    {r : Reference} {refs : List Reference} {frames : List Frame}
    (hrole : id.1 = r.role) (hname : id.2.name = r.name)
    (hsymbol : t.symbolOf? id.2 = r.scope.bind fun i => t.get? i r.name)
    (h : t.Resolves ids refs frames) : t.Resolves (id :: ids) (r :: refs) frames where
  idents := by rw [List.map_cons, List.map_cons, h.idents, hrole, hname, hsymbol]
  frames := h.frames

/-- Looking a name up along the scopes around a place. -/
theorem Env.lookup_eq_findSome? (env : Env) (t : ScopeTree) (name : String)
    (henv : ∀ f ∈ env, (t.get? f.scope name).isSome ↔ name ∈ f.names) :
    ((env.map (·.scope)).findSome? fun j => (t.get? j name).map fun x => (j, x)).map (·.2) =
      (env.lookup name).bind fun i => t.get? i name := by
  induction env with
  | nil => rfl
  | cons f env ih =>
    have hf := henv f (by simp)
    have hrest := ih fun g hg => henv g (List.mem_cons_of_mem f hg)
    rw [List.map_cons, List.findSome?_cons, lookup, List.find?_cons]
    cases hget : t.get? f.scope name with
    | some x =>
      have hmem : name ∈ f.names := hf.mp (by simp [hget])
      simp [hmem, hget]
    | none =>
      have hmem : name ∉ f.names := fun h => by simpa [hget] using hf.mpr h
      simpa [hmem, lookup] using hrest

namespace Outline

variable {env : Env} {t : ScopeTree} {home s : ScopeId} {mode : VarMode}

/-- Running an outline leaves all scopes alone but the innermost one and the closure. -/
theorem get?_run_of_ne (o : Outline) (hm : env.Matches t s) (hhome : home = homeOf t s mode)
    {i : ScopeId} (hi : i < t.size) (hs : i ≠ s) (hclosure : i ≠ t.closure s) (name : String) :
    (o.run home s t).2.get? i name = t.get? i name := by
  have hextends := o.extends_run hm (hhome ▸ hm.homeOf_lt mode)
  cases hget : t.get? i name with
  | some x => exact hextends.get? i name x hget
  | none =>
    have hiff := o.isSome_get?_run hm hhome hi name
    simpa [hget, hs, hclosure] using hiff

/-- What follows a part of an outline does not touch the scopes that were opened in that part. -/
theorem get?_run_opened (o : Outline) {t' : ScopeTree} (hm : env.Matches t s)
    (hstep : t.Extends t') (hhome : home = homeOf t s mode) {i : ScopeId} (hlo : t.size ≤ i)
    (hhi : i < t'.size) (name : String) :
    (o.run home s t').2.get? i name = t'.get? i name := by
  refine o.get?_run_of_ne (hm.extend hstep) (hhome.trans (hm.homeOf_extend hstep mode).symm) hhi
    ?_ ?_ name
  · exact (Nat.ne_of_lt (Nat.lt_of_lt_of_le hm.lt hlo)).symm
  · rw [hm.closure_extend hstep]
    exact (Nat.ne_of_lt (Nat.lt_of_lt_of_le (hm.homeOf_lt .hoisted) hlo)).symm

/-- The names of a scope after its outline was run. -/
theorem isSome_get?_opened (inside : Outline) (hm : env.Matches t s) (kind : ScopeKind)
    (name : String) :
    ((inside.run t.size t.size (t.child s kind).2).2.get? t.size name).isSome ↔
      name ∈ inside.declared kind := by
  have hhere : t.size = homeOf (t.child s kind).2 t.size .lexical := rfl
  have hout : t.closure s < t.size := hm.homeOf_lt .hoisted
  rw [inside.isSome_get?_run (hm.child kind []) hhere (hm.child kind []).lt, closure_child hm,
    ScopeTree.get?_child, ScopeTree.get?_eq_none_of_le (Nat.le_refl _), declared, List.mem_append]
  have hne : t.size ≠ t.closure s := (Nat.ne_of_lt hout).symm
  cases kind.isClosure <;> simp [hne]

/-- **Running an outline resolves its identifiers as lexical scoping says**, in every tree that grows
out of the result without touching the scopes of the outline, once the scopes around have all
their names. -/
theorem run_resolves (o : Outline) (hm : env.Matches t s) (hhome : home = homeOf t s mode)
    {T : ScopeTree} (hT : (o.run home s t).2.Extends T)
    (hfinal : ∀ i, t.size ≤ i → i < (o.run home s t).2.size →
      ∀ name, T.get? i name = (o.run home s t).2.get? i name)
    (henv : ∀ f ∈ env, ∀ name, (T.get? f.scope name).isSome ↔ name ∈ f.names) :
    T.Resolves (o.run home s t).1 (o.references env mode t.size) (o.frames t.size) := by
  induction o generalizing env mode home s t with
  | done => exact ⟨rfl, by simp [frames]⟩
  | declare n rest ih =>
    have hlt : home < t.size := hhome ▸ hm.homeOf_lt mode
    have hstep := t.extends_declare hlt n
    have hsize : (t.declare home n).2.size = t.size := t.size_declare home n
    have hrest := ih (hm.extend hstep) (hhome.trans (hm.homeOf_extend hstep mode).symm) hT
      (hsize ▸ hfinal) henv
    rwa [hsize] at hrest
  | bind role id rest ih =>
    have hlt : home < t.size := hhome ▸ hm.homeOf_lt mode
    have hstep := t.extends_declare hlt id.name
    have hsize : (t.declare home id.name).2.size = t.size := t.size_declare home id.name
    have hrest := ih (hm.extend hstep) (hhome.trans (hm.homeOf_extend hstep mode).symm) hT
      (hsize ▸ hfinal) henv
    rw [hsize] at hrest
    refine .cons rfl rfl ?_ hrest
    -- The symbol of the declaration is still there at the end.
    have hdeclared : (t.declare home id.name).2.get? home id.name =
        some (t.declare home id.name).1 := by
      rw [ScopeTree.get?_declare hlt, if_pos ⟨rfl, rfl⟩]
    have hend := ((rest.extends_run (hm.extend hstep) (hsize ▸ hlt)).trans hT).get? _ _ _ hdeclared
    change some _ = (env.home mode).bind _
    rw [hm.home mode, ← hhome]
    exact hend.symm
  | use role id rest ih =>
    refine .cons rfl rfl ?_ (ih hm hhome hT hfinal henv)
    have hextends := (rest.extends_run hm (hhome ▸ hm.homeOf_lt mode)).trans hT
    change (T.find? s id.name).map (·.2) = _
    rw [ScopeTree.find?, ← (hm.extend hextends).chain]
    exact env.lookup_eq_findSome? T id.name fun f hf => henv f hf id.name
  | idle role id rest ih => exact .cons rfl rfl rfl (ih hm hhome hT hfinal henv)
  | under mode' inside rest ihInside ihRest =>
    have hstep := inside.extends_run hm (hm.homeOf_lt mode')
    have hsize := inside.size_run (homeOf t s mode') s t
    have hm' := hm.extend hstep
    have hhome' := hhome.trans (hm.homeOf_extend hstep mode).symm
    have hrest := rest.extends_run hm' (hhome' ▸ hm'.homeOf_lt mode)
    simp only [run, references, frames] at hT hfinal ⊢
    rw [← hsize]
    refine .append (ihInside hm rfl (hrest.trans hT) (fun i hlo hhi name => ?_) henv)
      (ihRest hm' hhome' hT (fun i hlo => hfinal i (Nat.le_trans hstep.size_le hlo)) henv)
    rw [hfinal i hlo (Nat.lt_of_lt_of_le hhi hrest.size_le)]
    exact rest.get?_run_opened hm hstep hhome hlo hhi name
  | scope kind inside rest ihInside ihRest =>
    have hchild := hm.child kind (inside.declared kind)
    have hhere : t.size = homeOf (t.child s kind).2 t.size .lexical := rfl
    have hinside := inside.extends_run hchild hchild.lt
    have hstep := (t.extends_child s kind).trans hinside
    have hsize := inside.size_run t.size t.size (t.child s kind).2
    rw [ScopeTree.size_child] at hsize
    have hm' := hm.extend hstep
    have hhome' := hhome.trans (hm.homeOf_extend hstep mode).symm
    have hrest := rest.extends_run hm' (hhome' ▸ hm'.homeOf_lt mode)
    simp only [run, references, frames, ScopeTree.child_fst] at hT hfinal ⊢
    -- What follows the scope does not touch it, nor the scopes inside it.
    have hkept : ∀ i, t.size ≤ i → i < (inside.run t.size t.size (t.child s kind).2).2.size →
        ∀ name, T.get? i name = (inside.run t.size t.size (t.child s kind).2).2.get? i name := by
      intro i hlo hhi name
      rw [hfinal i hlo (Nat.lt_of_lt_of_le hhi hrest.size_le)]
      exact rest.get?_run_opened hm hstep hhome hlo hhi name
    have hopened : t.size < (inside.run t.size t.size (t.child s kind).2).2.size := by
      rw [hsize]
      omega
    have hnames : ∀ name, (T.get? t.size name).isSome ↔ name ∈ inside.declared kind := by
      intro name
      rw [hkept t.size (Nat.le_refl _) hopened, inside.isSome_get?_opened hm]
    have hres := ihInside hchild hhere (hrest.trans hT)
      (fun i hlo hhi => hkept i (Nat.le_of_succ_le (by simpa using hlo)) hhi)
      fun f hf name => ?_
    · have hend := hinside.trans (hrest.trans hT)
      have hframe : T.Has ⟨t.size, kind, inside.declared kind⟩ := by
        refine ⟨Nat.lt_of_lt_of_le hopened (hrest.trans hT).size_le, ?_, hnames⟩
        rw [hend.kind _ hchild.lt, ScopeTree.scope_child, if_pos rfl]
      rw [ScopeTree.size_child] at hres
      rw [← hsize]
      have hafter := ihRest hm' hhome' hT
        (fun i hlo => hfinal i (Nat.le_trans hstep.size_le hlo)) henv
      have hall := hres.append hafter
      exact ⟨hall.idents, fun f hf => (List.mem_cons.mp hf).elim (· ▸ hframe) (hall.frames f)⟩
    · obtain rfl | hf := List.mem_cons.mp hf
      · exact hnames name
      · exact henv f hf name

end Outline

/-! ### Modules -/

namespace Program

/-- The scope of a module. -/
def moduleFrame (p : Program) : Frame :=
  ⟨moduleScope, .module, (stmtsOutline p.body).declared .module⟩

/-- The scopes of a module in the order in which they open. -/
def frames (p : Program) : List Frame := p.moduleFrame :: (stmtsOutline p.body).frames 1

/-- What the identifiers of a module mean. -/
def references (p : Program) : List Reference :=
  (stmtsOutline p.body).references [p.moduleFrame] .lexical 1

theorem matches_root (p : Program) :
    Env.Matches [p.moduleFrame] (.root .module) moduleScope where
  chain := rfl
  lt_size f hf := by
    rw [List.mem_singleton.mp hf]
    exact Nat.zero_lt_one
  kind f hf := by
    rw [List.mem_singleton.mp hf]
    rfl
  closed := ⟨_, List.mem_singleton.mpr rfl, rfl⟩

/-- An analysed module ends in its own scope. -/
theorem matches_analyse (p : Program) : Env.Matches [p.moduleFrame] p.analyse.2 moduleScope := by
  rw [p.analyse_eq_run.2]
  exact p.matches_root.extend ((stmtsOutline p.body).extends_run p.matches_root p.matches_root.lt)

/-- The module's own scope has exactly the names that are declared in it. -/
theorem has_moduleFrame (p : Program) : p.analyse.2.Has p.moduleFrame := by
  have hm := p.matches_root
  have hhere : moduleScope = Outline.homeOf (.root .module) moduleScope .lexical := rfl
  rw [p.analyse_eq_run.2]
  have hextends := (stmtsOutline p.body).extends_run hm hm.lt
  refine ⟨Nat.lt_of_lt_of_le hm.lt hextends.size_le, hextends.kind _ hm.lt, fun name => ?_⟩
  change ((_ : ScopeTree).get? moduleScope name).isSome ↔ _
  rw [(stmtsOutline p.body).isSome_get?_run hm hhere hm.lt]
  change _ ↔ name ∈ (stmtsOutline p.body).declared .module
  have hclosure : ScopeTree.closure (.root .module) moduleScope = moduleScope := rfl
  have hnone : ScopeTree.get? (.root .module) moduleScope name = none := rfl
  simp [hclosure, hnone, Outline.declared, ScopeKind.isClosure]

/-- The identifiers of an analysed module are resolved, and its scopes are there. -/
theorem resolves_analyse (p : Program) :
    p.analyse.2.Resolves (identsOf p.analyse.1.parts) p.references p.frames := by
  have hm := p.matches_root
  have hhere : moduleScope = Outline.homeOf (.root .module) moduleScope .lexical := rfl
  have hmodule := p.has_moduleFrame
  rw [p.analyse_eq_run.1]
  rw [p.analyse_eq_run.2] at hmodule ⊢
  have hresolves := (stmtsOutline p.body).run_resolves hm hhere (.refl _) (fun _ _ _ _ => rfl)
    fun f hf => List.mem_singleton.mp hf ▸ hmodule.names
  exact ⟨hresolves.idents,
    fun f hf => (List.mem_cons.mp hf).elim (· ▸ hmodule) (hresolves.frames f)⟩

/-- The symbols of an analysed module are all different. -/
theorem numbered_analyse (p : Program) : p.analyse.2.Numbered := by
  rw [p.analyse_eq_run.2]
  exact (stmtsOutline p.body).numbered_run p.matches_root p.matches_root.lt
    (ScopeTree.numbered_root _)

/-- What an identifier of an analysed module means. -/
theorem symbolOf?_of_mem (p : Program) {role : NameRole} {id : Ident}
    (h : (role, id) ∈ identsOf p.analyse.1.parts) :
    ∃ r ∈ p.references, r.role = role ∧ r.name = id.name ∧
      p.analyse.2.symbolOf? id = r.scope.bind fun i => p.analyse.2.get? i id.name := by
  have hmem := List.mem_map_of_mem
    (f := fun x : RoleIdent => (x.1, x.2.name, p.analyse.2.symbolOf? x.2)) h
  rw [p.resolves_analyse.idents] at hmem
  obtain ⟨r, hr, heq⟩ := List.mem_map.mp hmem
  simp only [Prod.mk.injEq] at heq
  obtain ⟨hrole, hname, hsymbol⟩ := heq
  exact ⟨r, hr, hrole, hname, by rw [← hsymbol, hname]⟩

/-- **A symbol determines its name**, among the identifiers of an analysed module. -/
theorem name_eq_of_symbolOf? (p : Program) {role role' : NameRole} {id id' : Ident} {x : Symbol}
    (h : (role, id) ∈ identsOf p.analyse.1.parts) (h' : (role', id') ∈ identsOf p.analyse.1.parts)
    (hx : p.analyse.2.symbolOf? id = some x) (hx' : p.analyse.2.symbolOf? id' = some x) :
    id.name = id'.name := by
  obtain ⟨r, -, -, -, hr⟩ := p.symbolOf?_of_mem h
  obtain ⟨r', -, -, -, hr'⟩ := p.symbolOf?_of_mem h'
  obtain ⟨i, -, hi⟩ := Option.bind_eq_some_iff.mp (hr.symm.trans hx)
  obtain ⟨j, -, hj⟩ := Option.bind_eq_some_iff.mp (hr'.symm.trans hx')
  exact (p.numbered_analyse.unique i j _ _ x hi hj).2

end Program

/-- **Scope analysis is lexical scoping.**  The identifiers of an analysed module are resolved, one
by one and in order, to the symbols of their names in the scopes that lexical scoping gives them; a
scope has symbols for exactly the names that are declared in it; and a symbol belongs to one name of
one scope. -/
theorem analyse_lexical (p : Program) :
    let ids := identsOf p.analyse.1.parts
    let t := p.analyse.2
    ids.length = p.references.length ∧
      (∀ (k : Nat) (role : NameRole) (id : Ident) (r : Reference),
        ids[k]? = some (role, id) → p.references[k]? = some r →
        r.role = role ∧ r.name = id.name ∧
          t.symbolOf? id = r.scope.bind fun i => t.get? i id.name) ∧
      (∀ f ∈ p.frames, ∀ name, (∃ x, t.get? f.scope name = some x) ↔ name ∈ f.names) ∧
      ∀ i j n m x, t.get? i n = some x → t.get? j m = some x → i = j ∧ n = m := by
  have hres := p.resolves_analyse
  refine ⟨?_, ?_, ?_, p.numbered_analyse.unique⟩
  · simpa using congrArg List.length hres.idents
  · intro k role id r hid hr
    have hk := congrArg (·[k]?) hres.idents
    simp only [List.getElem?_map, hid, hr, Option.map_some, Option.some.injEq,
      Prod.mk.injEq] at hk
    obtain ⟨hrole, hname, hsymbol⟩ := hk
    exact ⟨hrole.symm, hname.symm, by rw [hsymbol, hname]⟩
  · intro f hf name
    rw [← Option.isSome_iff_exists, (hres.frames f hf).names name]

end ImportSeam
