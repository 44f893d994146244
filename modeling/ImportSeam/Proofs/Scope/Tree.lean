import ImportSeam.Scope.Tree

/-!
# Growing a scope tree

A scope tree grows in two ways: a scope is opened, or a name is declared.  Neither changes what is
already there.

## Main definitions

* `ScopeTree.Extends` — a tree that has grown out of another.
* `ScopeTree.Numbered` — a tree in which a symbol belongs to one name of one scope.

## Main results

* `ScopeTree.get?_declare` — what every name means after a declaration.
* `ScopeTree.extends_declare`, `ScopeTree.extends_child` — trees grow.
* `ScopeTree.Numbered.declare`, `ScopeTree.Numbered.child` — symbols stay apart.
-/

namespace ImportSeam

namespace ScopeTree

variable {t t' t'' : ScopeTree}

/-- The number of scopes. -/
def size (t : ScopeTree) : Nat := t.scopes.size

/-! ### Opening a scope -/

@[simp] theorem child_fst (t : ScopeTree) (s : ScopeId) (kind : ScopeKind) :
    (t.child s kind).1 = t.size := rfl

@[simp] theorem size_child (t : ScopeTree) (s : ScopeId) (kind : ScopeKind) :
    (t.child s kind).2.size = t.size + 1 := by
  simp [size, child]

theorem scope_child (t : ScopeTree) (s : ScopeId) (kind : ScopeKind) (i : ScopeId) :
    (t.child s kind).2.scope i = if i = t.size then ⟨kind, t.chain s, []⟩ else t.scope i := by
  unfold scope child size
  rw [Array.getElem?_push]
  split <;> rfl

theorem scope_child_of_lt {i : ScopeId} (h : i < t.size) (s : ScopeId) (kind : ScopeKind) :
    (t.child s kind).2.scope i = t.scope i := by
  rw [scope_child, if_neg (Nat.ne_of_lt h)]

theorem get?_eq_none_of_le {i : ScopeId} (h : t.size ≤ i) (name : String) :
    t.get? i name = none := by
  unfold get? scope
  rw [Array.getElem?_eq_none h]
  rfl

theorem get?_child (t : ScopeTree) (s : ScopeId) (kind : ScopeKind) (i : ScopeId) (name : String) :
    (t.child s kind).2.get? i name = t.get? i name := by
  rw [get?, scope_child]
  split
  · rename_i h
    rw [get?_eq_none_of_le (Nat.le_of_eq h.symm)]
    rfl
  · rfl

/-! ### Declaring a name -/

@[simp] theorem size_declare (t : ScopeTree) (i : ScopeId) (name : String) :
    (t.declare i name).2.size = t.size := by
  unfold declare size
  split <;> simp

theorem lookup_append_singleton (l : List (String × Symbol)) (name m : String) (x : Symbol) :
    (l ++ [(name, x)]).lookup m =
      (l.lookup m).or (if m = name then some x else none) := by
  rw [List.lookup_append, List.lookup_cons, List.lookup_nil]
  by_cases h : m = name
  · simp [h]
  · simp [h, beq_eq_false_iff_ne.mpr h]

/-- The symbol of a declaration that was there before is the old one. -/
theorem declare_of_get? {i : ScopeId} {name : String} {x : Symbol} (h : t.get? i name = some x) :
    t.declare i name = (x, t) := by
  unfold declare
  rw [get?] at h
  rw [h]

theorem declare_of_none {i : ScopeId} {name : String} (h : t.get? i name = none) :
    t.declare i name = (⟨t.symbolCount⟩,
      ⟨t.scopes.modify i fun sc => { sc with symbols := sc.symbols ++ [(name, ⟨t.symbolCount⟩)] },
        t.symbolCount + 1⟩) := by
  unfold declare
  rw [get?] at h
  rw [h]

/-- What every name means after a declaration: the declared one has the symbol, and all others
mean what they did. -/
theorem get?_declare {i : ScopeId} (hi : i < t.size) (name : String) (j : ScopeId) (m : String) :
    (t.declare i name).2.get? j m =
      if j = i ∧ m = name then some (t.declare i name).1 else t.get? j m := by
  cases hget : t.get? i name with
  | some x =>
    rw [declare_of_get? hget]
    split
    · rename_i h
      rw [h.1, h.2, hget]
    · rfl
  | none =>
    rw [declare_of_none hget]
    simp only [get?, scope, Array.getElem?_modify]
    by_cases hj : i = j
    · subst hj
      have hsome : t.scopes[i]? = some (t.scope i) := by
        rw [scope, Array.getElem?_eq_getElem hi]
        rfl
      rw [if_pos rfl, hsome]
      simp only [Option.map_some, Option.getD_some, Scope.get?, lookup_append_singleton, true_and]
      by_cases hm : m = name
      · subst hm
        rw [if_pos rfl, if_pos rfl]
        rw [get?, Scope.get?] at hget
        rw [hget]
        rfl
      · rw [if_neg hm, if_neg hm, Option.or_none]
    · rw [if_neg hj, if_neg (fun h => hj h.1.symm)]

theorem kind_declare (t : ScopeTree) (i : ScopeId) (name : String) (j : ScopeId) :
    ((t.declare i name).2.scope j).kind = (t.scope j).kind := by
  unfold declare
  split
  · rfl
  · simp only [scope, Array.getElem?_modify]
    split
    · cases t.scopes[j]? <;> rfl
    · rfl

theorem around_declare (t : ScopeTree) (i : ScopeId) (name : String) (j : ScopeId) :
    ((t.declare i name).2.scope j).around = (t.scope j).around := by
  unfold declare
  split
  · rfl
  · simp only [scope, Array.getElem?_modify]
    split
    · cases t.scopes[j]? <;> rfl
    · rfl

/-! ### Trees that have grown -/

/-- A tree that has grown out of another: what was there is still there. -/
structure Extends (t t' : ScopeTree) : Prop where
  size_le : t.size ≤ t'.size
  kind : ∀ i < t.size, (t'.scope i).kind = (t.scope i).kind
  around : ∀ i < t.size, (t'.scope i).around = (t.scope i).around
  get? : ∀ i name x, t.get? i name = some x → t'.get? i name = some x

theorem Extends.refl (t : ScopeTree) : Extends t t :=
  ⟨Nat.le_refl _, fun _ _ => rfl, fun _ _ => rfl, fun _ _ _ h => h⟩

theorem Extends.trans (h : Extends t t') (h' : Extends t' t'') : Extends t t'' where
  size_le := Nat.le_trans h.size_le h'.size_le
  kind i hi := (h'.kind i (Nat.lt_of_lt_of_le hi h.size_le)).trans (h.kind i hi)
  around i hi := (h'.around i (Nat.lt_of_lt_of_le hi h.size_le)).trans (h.around i hi)
  get? i name x hx := h'.get? i name x (h.get? i name x hx)

theorem Extends.chain (h : Extends t t') {i : ScopeId} (hi : i < t.size) :
    t'.chain i = t.chain i := by
  rw [ScopeTree.chain, ScopeTree.chain, h.around i hi]

theorem extends_child (t : ScopeTree) (s : ScopeId) (kind : ScopeKind) :
    Extends t (t.child s kind).2 where
  size_le := by simp
  kind i hi := by rw [scope_child_of_lt hi]
  around i hi := by rw [scope_child_of_lt hi]
  get? i name x hx := by rw [get?_child, hx]

theorem extends_declare {i : ScopeId} (hi : i < t.size) (name : String) :
    Extends t (t.declare i name).2 where
  size_le := by simp
  kind j _ := kind_declare t i name j
  around j _ := around_declare t i name j
  get? j m x hx := by
    rw [get?_declare hi]
    split
    · rename_i h
      obtain ⟨rfl, rfl⟩ := h
      rw [declare_of_get? hx]
    · exact hx

/-! ### Symbols -/

/-- A tree in which a symbol belongs to one name of one scope. -/
structure Numbered (t : ScopeTree) : Prop where
  lt_count : ∀ i name x, t.get? i name = some x → x.number < t.symbolCount
  unique : ∀ i j n m x, t.get? i n = some x → t.get? j m = some x → i = j ∧ n = m

theorem numbered_root (kind : ScopeKind) : Numbered (root kind) := by
  have hnone : ∀ i name, (root kind).get? i name = none := by
    intro i name
    cases i with
    | zero => rfl
    | succ i => exact get?_eq_none_of_le (by simp [size, root]) name
  exact ⟨fun i name x h => by simp [hnone] at h, fun i j n m x h => by simp [hnone] at h⟩

theorem Numbered.child (h : Numbered t) (s : ScopeId) (kind : ScopeKind) :
    Numbered (t.child s kind).2 where
  lt_count i name x hx := h.lt_count i name x (by rwa [get?_child] at hx)
  unique i j n m x hi hj :=
    h.unique i j n m x (by rwa [get?_child] at hi) (by rwa [get?_child] at hj)

theorem Numbered.declare (h : Numbered t) {i : ScopeId} (hi : i < t.size) (name : String) :
    Numbered (t.declare i name).2 := by
  cases hget : t.get? i name with
  | some x =>
    rw [declare_of_get? hget]
    exact h
  | none =>
    -- The new symbol has the number that was next, so no name had it before.
    have hnew : (t.declare i name).1 = ⟨t.symbolCount⟩ := by rw [declare_of_none hget]
    have hcount : (t.declare i name).2.symbolCount = t.symbolCount + 1 := by
      rw [declare_of_none hget]
    have hcase : ∀ j m x, (t.declare i name).2.get? j m = some x →
        (j = i ∧ m = name) ∧ x.number = t.symbolCount ∨ t.get? j m = some x := by
      intro j m x hx
      rw [get?_declare hi] at hx
      split at hx
      · rename_i hjm
        rw [hnew] at hx
        obtain rfl := Option.some.inj hx
        exact .inl ⟨hjm, rfl⟩
      · exact .inr hx
    constructor
    · intro j m x hx
      rw [hcount]
      obtain ⟨-, hnum⟩ | hold := hcase j m x hx
      · omega
      · exact Nat.lt_succ_of_lt (h.lt_count j m x hold)
    · intro j k n m x hj hk
      obtain ⟨⟨rfl, rfl⟩, hnum⟩ | hold := hcase j n x hj
      · obtain ⟨⟨rfl, rfl⟩, -⟩ | hk := hcase k m x hk
        · exact ⟨rfl, rfl⟩
        · exact absurd (h.lt_count k m x hk) (by omega)
      · obtain ⟨-, hnum⟩ | hk := hcase k m x hk
        · exact absurd (h.lt_count j n x hold) (by omega)
        · exact h.unique j k n m x hold hk

end ScopeTree

end ImportSeam
