import ImportSeam.Proofs.Scope.Lexical

/-!
# More names for a module

Two scope trees may have the same scopes and differ only in that one knows more names in the module's
own scope.  An identifier in a scope then means the same in both, unless it has one of the new names
and meant nothing before.

## Main definitions

* `ScopeTree.Means` — an identifier stands for the name that a scope has.
* `ScopeTree.Widens` — a tree with more names in the module's own scope.
* `ScopeTree.Rooted` — a scope that the module's own scope surrounds.

## Main results

* `ScopeTree.Widens.declare`, `ScopeTree.Widens.child` — trees that grow alike stay alike.
* `ScopeTree.Widens.means_iff` — what an identifier means where there are more names.
-/

namespace ImportSeam

open Program (moduleScope)

namespace ScopeTree

variable {names : List String} {t t' : ScopeTree} {s : ScopeId}

/-! ### The meaning of an identifier -/

/-- An identifier stands for its name in the scope. -/
def Means (t : ScopeTree) (id : Ident) (i : ScopeId) : Prop :=
  ∃ x, t.symbolOf? id = some x ∧ t.get? i id.name = some x

instance (t : ScopeTree) (id : Ident) (i : ScopeId) : Decidable (t.Means id i) :=
  decidable_of_iff (∃ x ∈ t.symbolOf? id, t.get? i id.name = some x) Iff.rfl

/-- The innermost scope that has a name. -/
theorem find?_map_fst (t : ScopeTree) (s : ScopeId) (name : String) :
    (t.find? s name).map (·.1) = (t.chain s).find? fun j => (t.get? j name).isSome := by
  rw [find?]
  induction t.chain s with
  | nil => rfl
  | cons j js ih =>
    rw [List.findSome?_cons, List.find?_cons]
    cases t.get? j name with
    | none => exact ih
    | some x => rfl

/-- The symbol that a search gives is that of the scope it ended in. -/
theorem get?_of_find? {name : String} {j : ScopeId} {x : Symbol}
    (h : t.find? s name = some (j, x)) : t.get? j name = some x := by
  obtain ⟨i, -, hi⟩ := List.exists_of_findSome?_eq_some h
  obtain ⟨y, hy, heq⟩ := Option.map_eq_some_iff.mp hi
  cases heq
  exact hy

/-- A use stands for the name of the innermost scope that has it. -/
theorem Numbered.means_use (ht : t.Numbered) {id : Ident} (hid : id.mention = .usedIn s)
    (i : ScopeId) :
    t.Means id i ↔ ((t.chain s).find? fun j => (t.get? j id.name).isSome) = some i := by
  have hsymbol : t.symbolOf? id = (t.find? s id.name).map (·.2) := by rw [symbolOf?, hid]
  rw [Means, hsymbol, ← find?_map_fst]
  constructor
  · rintro ⟨x, hx, hi⟩
    obtain ⟨⟨j, y⟩, hfind, rfl⟩ := Option.map_eq_some_iff.mp hx
    rw [hfind, (ht.unique i j _ _ _ hi (get?_of_find? hfind)).1]
    rfl
  · intro h
    obtain ⟨⟨j, y⟩, hfind, rfl⟩ := Option.map_eq_some_iff.mp h
    exact ⟨y, by rw [hfind]; rfl, get?_of_find? hfind⟩

/-- A declaration stands for its own name. -/
theorem Numbered.means_declares (ht : t.Numbered) {id : Ident} {x : Symbol} {home : ScopeId}
    (hid : id.mention = .declares x) (hx : t.get? home id.name = some x) (i : ScopeId) :
    t.Means id i ↔ i = home := by
  have hsymbol : t.symbolOf? id = some x := by rw [symbolOf?, hid]
  rw [Means, hsymbol]
  constructor
  · rintro ⟨y, hy, hi⟩
    obtain rfl := Option.some.inj hy
    exact (ht.unique i home _ _ _ hi hx).1
  · rintro rfl
    exact ⟨x, rfl, hx⟩

theorem not_means_unknown {id : Ident} (hid : id.mention = .unknown) (i : ScopeId) :
    ¬ t.Means id i := by
  rintro ⟨x, hx, -⟩
  rw [symbolOf?, hid] at hx
  exact nomatch hx

/-! ### Trees that differ in the names of the module -/

/-- The second tree has the scopes of the first, and more names in the module's own scope. -/
structure Widens (names : List String) (t t' : ScopeTree) : Prop where
  size : t'.size = t.size
  kind : ∀ i, (t'.scope i).kind = (t.scope i).kind
  around : ∀ i, (t'.scope i).around = (t.scope i).around
  isSome : ∀ i name, (t.get? i name).isSome → (t'.get? i name).isSome
  only : ∀ i name, (t'.get? i name).isSome → (t.get? i name).isSome ∨ i = moduleScope ∧ name ∈ names

/-- A scope that the module's own scope surrounds, and no scope around it twice. -/
def Rooted (t : ScopeTree) (s : ScopeId) : Prop :=
  ∃ inner, t.chain s = inner ++ [moduleScope] ∧ moduleScope ∉ inner

theorem Rooted.extend (h : t.Rooted s) (hs : s < t.size) (ht : t.Extends t') : t'.Rooted s := by
  obtain ⟨inner, hchain, hmem⟩ := h
  exact ⟨inner, by rw [ht.chain hs, hchain], hmem⟩

theorem Rooted.child (h : t.Rooted s) (hs : s < t.size) (kind : ScopeKind) :
    (t.child s kind).2.Rooted t.size := by
  obtain ⟨inner, hchain, hmem⟩ := h
  refine ⟨t.size :: inner, ?_, fun h => ?_⟩
  · rw [chain, scope_child, if_pos rfl, hchain]
    rfl
  · obtain heq | h := List.mem_cons.mp h
    · exact absurd hs (heq ▸ Nat.not_lt_zero s)
    · exact hmem h

namespace Widens

theorem refl (names : List String) (t : ScopeTree) : Widens names t t :=
  ⟨rfl, fun _ => rfl, fun _ => rfl, fun _ _ h => h, fun _ _ h => .inl h⟩

theorem chain (h : Widens names t t') (i : ScopeId) : t'.chain i = t.chain i := by
  rw [ScopeTree.chain, ScopeTree.chain, h.around]

theorem closure (h : Widens names t t') (i : ScopeId) : t'.closure i = t.closure i := by
  rw [ScopeTree.closure, ScopeTree.closure, h.chain, funext fun j => congrArg _ (h.kind j)]

theorem homeOf (h : Widens names t t') (s : ScopeId) (mode : VarMode) :
    Outline.homeOf t' s mode = Outline.homeOf t s mode := by
  cases mode with
  | hoisted => exact h.closure s
  | constant | lexical => rfl

theorem matches_env {env : Env} (h : Widens names t t') (hm : env.Matches t s) :
    env.Matches t' s where
  chain := by rw [hm.chain, h.chain]
  lt_size f hf := h.size ▸ hm.lt_size f hf
  kind f hf := by rw [h.kind, hm.kind f hf]
  closed := hm.closed

/-- Both trees declare a name. -/
theorem declare (h : Widens names t t') {home : ScopeId} (hhome : home < t.size) (name : String) :
    Widens names (t.declare home name).2 (t'.declare home name).2 where
  size := by rw [size_declare, size_declare, h.size]
  kind i := by rw [kind_declare, kind_declare, h.kind]
  around i := by rw [around_declare, around_declare, h.around]
  isSome i m := by
    rw [Outline.isSome_get?_declare hhome, Outline.isSome_get?_declare (h.size ▸ hhome)]
    exact Or.imp_left (h.isSome i m)
  only i m := by
    rw [Outline.isSome_get?_declare hhome, Outline.isSome_get?_declare (h.size ▸ hhome)]
    rintro (hm | hm)
    · exact (h.only i m hm).imp_left .inl
    · exact .inl (.inr hm)

/-- Both trees open a scope. -/
theorem child (h : Widens names t t') (s : ScopeId) (kind : ScopeKind) :
    Widens names (t.child s kind).2 (t'.child s kind).2 where
  size := by rw [size_child, size_child, h.size]
  kind i := by
    rw [scope_child, scope_child, h.size]
    split
    · rfl
    · exact h.kind i
  around i := by
    rw [scope_child, scope_child, h.size]
    split
    · exact h.chain s
    · exact h.around i
  isSome i m := by
    rw [get?_child, get?_child]
    exact h.isSome i m
  only i m := by
    rw [get?_child, get?_child]
    exact h.only i m

/-- Only the second tree declares one of the names, in the module's own scope. -/
theorem declare_right (h : Widens names t t') (hsize : moduleScope < t'.size) {name : String}
    (hname : name ∈ names) : Widens names t (t'.declare moduleScope name).2 where
  size := by rw [size_declare, h.size]
  kind i := by rw [kind_declare, h.kind]
  around i := by rw [around_declare, h.around]
  isSome i m hm := by
    rw [Outline.isSome_get?_declare hsize]
    exact .inl (h.isSome i m hm)
  only i m := by
    rw [Outline.isSome_get?_declare hsize]
    rintro (hm | ⟨rfl, rfl⟩)
    · exact h.only i m hm
    · exact .inr ⟨rfl, hname⟩

/-- The innermost scope that has a name, where the module has more names. -/
theorem find?_chain (h : Widens names t t')
    (hfull : ∀ name ∈ names, (t'.get? moduleScope name).isSome) (hs : t.Rooted s)
    (name : String) :
    ((t'.chain s).find? fun j => (t'.get? j name).isSome) =
      ((t.chain s).find? fun j => (t.get? j name).isSome).or
        (if name ∈ names then some moduleScope else none) := by
  obtain ⟨inner, hchain, hmem⟩ := hs
  -- Only the outermost scope can have names that it did not have.
  have hinner : (inner.find? fun j => (t'.get? j name).isSome) =
      inner.find? fun j => (t.get? j name).isSome := by
    refine List.find?_congr fun j hj => Bool.eq_iff_iff.mpr ⟨fun hsome => ?_, h.isSome j name⟩
    obtain hsome | ⟨rfl, -⟩ := h.only j name hsome
    · exact hsome
    · exact absurd hj hmem
  rw [h.chain, hchain, List.find?_append, List.find?_append, hinner, Option.or_assoc]
  congr 1
  rw [List.find?_singleton, List.find?_singleton]
  by_cases hin : name ∈ names
  · rw [if_pos (hfull name hin), if_pos hin]
    split <;> rfl
  · have hiff : (t'.get? moduleScope name).isSome = (t.get? moduleScope name).isSome :=
      Bool.eq_iff_iff.mpr ⟨fun hsome => (h.only _ _ hsome).resolve_right fun hr => hin hr.2,
        h.isSome _ _⟩
    rw [hiff, if_neg hin, Option.or_none]

/-- **What a use means where the module has more names**: what it meant before, or else the module's
name. -/
theorem means_iff (h : Widens names t t')
    (hfull : ∀ name ∈ names, (t'.get? moduleScope name).isSome) (ht : t.Numbered)
    (ht' : t'.Numbered) (hs : t.Rooted s) {id : Ident} (hid : id.mention = .usedIn s)
    (i : ScopeId) :
    t'.Means id i ↔
      t.Means id i ∨ (∀ j, ¬ t.Means id j) ∧ id.name ∈ names ∧ i = moduleScope := by
  simp only [ht'.means_use hid, ht.means_use hid, h.find?_chain hfull hs]
  cases (t.chain s).find? fun j => (t.get? j id.name).isSome with
  | some j => simp
  | none => by_cases hin : id.name ∈ names <;> simp [hin, eq_comm]

end Widens

end ScopeTree

end ImportSeam
