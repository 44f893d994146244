import ImportSeam.Proofs.Scope.Tree
import Mathlib.Algebra.BigOperators.Intervals
import Mathlib.Logic.Relation

/-!
# The entries of a scope tree

An entry is a name of a scope with its symbol.  However a tree has grown out of a single scope, by
steps that open a scope or declare a name anywhere in it, a symbol identifies its entry, and the
symbols are numbered without gaps.

## Main definitions

* `ScopeStep`, `ScopeTree.grow` — a step, and the tree after it.
* `ScopeTree.Grown` — the trees that steps lead to.
* `ScopeTree.Reaches` — a scope is another or is around it, following parents.
* `ScopeTree.IsNearest` — the innermost of those that have a name.

## Main results

* `ScopeTree.Grown.entries` — **what holds of the entries of every tree**.
* `ScopeTree.find?_spec` — a search through the listed scopes is one through the parents.
-/

namespace ImportSeam

/-- A step in which a scope tree grows. -/
inductive ScopeStep where
  /-- A scope is opened inside another. -/
  | child (parent : ScopeId) (kind : ScopeKind)
  /-- A name is declared in a scope. -/
  | declare (scope : ScopeId) (name : String)

namespace ScopeStep

/-- The scope that the step is about. -/
def scope : ScopeStep → ScopeId
  | child parent _ => parent
  | declare scope _ => scope

/-- The name that the step declares in a scope. -/
def declared? (i : ScopeId) : ScopeStep → Option String
  | child _ _ => none
  | declare scope name => if scope = i then some name else none

/-- Whether the step declares a name. -/
def isDeclaration : ScopeStep → Bool
  | child _ _ => false
  | declare _ _ => true

end ScopeStep

namespace ScopeTree

/-- The tree after a step. -/
def grow (t : ScopeTree) : ScopeStep → ScopeTree
  | .child parent kind => (t.child parent kind).2
  | .declare scope name => (t.declare scope name).2

/-- The trees that grow out of a single scope, each step being about a scope of its tree. -/
inductive Grown (kind : ScopeKind) : List ScopeStep → ScopeTree → Prop
  | root : Grown kind [] (root kind)
  | step {steps : List ScopeStep} {t : ScopeTree} {s : ScopeStep} (h : Grown kind steps t)
      (hs : s.scope < t.size) : Grown kind (steps ++ [s]) (t.grow s)

/-- How many entries there are. -/
def entryCount (t : ScopeTree) : Nat := ∑ i ∈ Finset.range t.size, (t.scope i).names.length

/-- The second scope is the first or is around it. -/
def Reaches (t : ScopeTree) : ScopeId → ScopeId → Prop :=
  Relation.ReflTransGen fun i j => t.parent? i = some j

/-- The name has a symbol in the innermost of the scopes around a scope in which it has any. -/
structure IsNearest (t : ScopeTree) (i : ScopeId) (name : String) (j : ScopeId) (x : Symbol) :
    Prop where
  reaches : t.Reaches i j
  get? : t.get? j name = some x
  nearest : ∀ k, t.Reaches i k → (t.get? k name).isSome → t.Reaches j k

variable {t : ScopeTree} {kind : ScopeKind} {steps : List ScopeStep} {s : ScopeStep}
  {i j p : ScopeId} {name : String} {x : Symbol}

/-! ### What a step does -/

theorem extends_grow (hs : s.scope < t.size) : Extends t (t.grow s) := by
  cases s with
  | child parent kind => exact extends_child t parent kind
  | declare i name => exact extends_declare hs name

theorem Numbered.grow (h : Numbered t) (hs : s.scope < t.size) : Numbered (t.grow s) := by
  cases s with
  | child parent kind => exact h.child parent kind
  | declare i name => exact h.declare hs name

theorem mem_names_iff : name ∈ (t.scope i).names ↔ (t.get? i name).isSome := by
  rw [← not_iff_not, Option.not_isSome_iff_eq_none, get?, Scope.get?, List.lookup_eq_none_iff,
    Scope.names, List.mem_map]
  constructor
  · intro h p hp
    exact bne_iff_ne.mpr fun heq => h ⟨p, hp, heq.symm⟩
  · rintro h ⟨p, hp, rfl⟩
    exact absurd rfl (bne_iff_ne.mp (h p hp))

/-- A new scope has no names. -/
theorem names_child (t : ScopeTree) (parent : ScopeId) (kind : ScopeKind) (i : ScopeId) :
    ((t.child parent kind).2.scope i).names = (t.scope i).names := by
  rw [scope_child]
  split
  · next hi =>
    rw [scope, Array.getElem?_eq_none (Nat.le_of_eq hi.symm)]
    rfl
  · rfl

/-- A declaration adds its name at the end unless the scope has it. -/
theorem names_declare (hi : i < t.size) (name : String) (j : ScopeId) :
    ((t.declare i name).2.scope j).names =
      (t.scope j).names ++ if j = i ∧ t.get? i name = none then [name] else [] := by
  cases hget : t.get? i name with
  | some x => rw [declare_of_get? hget, if_neg (fun h => nomatch h.2), List.append_nil]
  | none =>
    rw [declare_of_none hget, scope, Array.getElem?_modify]
    by_cases hj : i = j
    · subst hj
      have hsome : t.scopes[i]? = some (t.scope i) := by
        rw [scope, Array.getElem?_eq_getElem hi]
        rfl
      simp [hsome, Scope.names]
    · rw [if_neg hj, if_neg fun h => hj h.1.symm, List.append_nil, scope]

theorem symbolCount_declare (t : ScopeTree) (i : ScopeId) (name : String) :
    (t.declare i name).2.symbolCount =
      t.symbolCount + if t.get? i name = none then 1 else 0 := by
  cases hget : t.get? i name with
  | some x => rw [declare_of_get? hget]; rfl
  | none => rw [declare_of_none hget]; rfl

/-! ### The entries -/

theorem Grown.numbered (h : Grown kind steps t) : Numbered t := by
  induction h with
  | root => exact numbered_root kind
  | step _ hs ih => exact ih.grow hs

/-- The names of a scope are those declared in it, first declared first. -/
theorem Grown.names (h : Grown kind steps t) (i : ScopeId) :
    (t.scope i).names = (steps.filterMap (·.declared? i)).eraseDups := by
  induction h with
  | root =>
    cases i <;> rfl
  | @step steps t s _ hs ih =>
    rw [List.filterMap_append, List.eraseDups_append, ← ih]
    cases s with
    | child parent kind =>
      rw [grow, names_child]
      exact (List.append_nil _).symm
    | declare j name =>
      have hj : j < t.size := hs
      rw [grow, names_declare hj]
      refine congrArg (_ ++ ·) ?_
      by_cases hi : i = j
      · subst hi
        have hmem : t.get? i name = none ↔ name ∉ steps.filterMap (·.declared? i) := by
          rw [← List.mem_eraseDups, ← ih, mem_names_iff, Option.not_isSome_iff_eq_none]
        have hlast : [ScopeStep.declare i name].filterMap (·.declared? i) = [name] := by
          simp [ScopeStep.declared?]
        rw [hlast, List.cons_removeAll]
        by_cases hname : name ∈ steps.filterMap (·.declared? i)
        · simp [hmem, hname]
        · simp [hmem, hname, List.eraseDups_cons]
      · simp [ScopeStep.declared?, hi, Ne.symm hi]

/-- There are as many entries as symbols were given out. -/
theorem Grown.symbolCount_eq (h : Grown kind steps t) : t.symbolCount = t.entryCount := by
  induction h with
  | root => rfl
  | @step steps t s _ hs ih =>
    cases s with
    | child parent kind =>
      have hnew : (t.scope t.size).names = [] := by
        rw [scope, Array.getElem?_eq_none (Nat.le_refl t.size)]
        rfl
      rw [grow, entryCount, size_child, Finset.sum_range_succ]
      simp only [names_child, hnew]
      exact ih
    | declare i name =>
      have hi : i < t.size := hs
      rw [grow, symbolCount_declare, ih, entryCount, entryCount, size_declare]
      simp only [names_declare hi, List.length_append, Finset.sum_add_distrib]
      by_cases hget : t.get? i name = none
      · simp [hget, apply_ite List.length, hi]
      · simp [hget]

/-- Every symbol that was given out belongs to an entry. -/
theorem Grown.exists_entry (h : Grown kind steps t) :
    ∀ k < t.symbolCount, ∃ i name, t.get? i name = some ⟨k⟩ := by
  induction h with
  | root => exact fun k hk => absurd hk (Nat.not_lt_zero k)
  | @step steps t s _ hs ih =>
    intro k hk
    by_cases hold : k < t.symbolCount
    · obtain ⟨i, name, hget⟩ := ih k hold
      exact ⟨i, name, (extends_grow hs).get? i name _ hget⟩
    · cases s with
      | child parent kind => exact absurd hk hold
      | declare i name =>
        have hi : i < t.size := hs
        rw [grow, symbolCount_declare] at hk
        by_cases hget : t.get? i name = none
        · -- the only new symbol is that of the declared name
          have hlast : k = t.symbolCount := by
            rw [if_pos hget] at hk
            omega
          refine ⟨i, name, ?_⟩
          rw [grow, get?_declare hi, if_pos ⟨rfl, rfl⟩, declare_of_none hget, hlast]
        · rw [if_neg hget] at hk
          exact absurd hk hold

/-- No symbol is given out without a declaration. -/
theorem Grown.symbolCount_le (h : Grown kind steps t) :
    t.symbolCount ≤ steps.countP (·.isDeclaration) := by
  induction h with
  | root => rfl
  | @step steps t s _ hs ih =>
    rw [List.countP_append, List.countP_singleton]
    cases s with
    | child parent kind => exact ih
    | declare i name =>
      rw [grow, symbolCount_declare]
      refine Nat.add_le_add ih ?_
      split
      · exact Nat.le_refl 1
      · exact Nat.zero_le _

/-! ### Looking up -/

/-- The scopes listed around a scope are its parent and those around that. -/
def Linked (t : ScopeTree) : Prop :=
  ∀ i p, t.parent? i = some p → p < i ∧ (t.scope i).around = t.chain p

/-- The parent of a new scope is the one it was opened in. -/
theorem parent?_child (t : ScopeTree) (parent : ScopeId) (kind : ScopeKind) :
    (t.child parent kind).2.parent? (t.child parent kind).1 = some parent := by
  rw [parent?, child_fst, scope_child, if_pos rfl]
  rfl

theorem Linked.lt_size (h : Linked t) (hp : t.parent? i = some p) : i < t.size ∧ p < t.size := by
  have hi : i < t.size := by
    refine Nat.lt_of_not_le fun hi => ?_
    rw [parent?, scope, Array.getElem?_eq_none hi] at hp
    cases hp
  exact ⟨hi, Nat.lt_trans (h i p hp).1 hi⟩

theorem Linked.child (h : Linked t) {parent : ScopeId} (hparent : parent < t.size)
    (kind : ScopeKind) : Linked (t.child parent kind).2 := by
  intro i p hp
  rw [parent?] at hp
  rw [scope_child] at hp ⊢
  split at hp
  · next hi =>
    obtain rfl := Option.some.inj hp
    rw [if_pos hi, (extends_child t parent kind).chain hparent, hi]
    exact ⟨hparent, rfl⟩
  · next hi =>
    obtain ⟨hlt, haround⟩ := h i p hp
    rw [if_neg hi, (extends_child t parent kind).chain (h.lt_size hp).2]
    exact ⟨hlt, haround⟩

theorem Linked.declare (h : Linked t) (hi : i < t.size) (name : String) :
    Linked (t.declare i name).2 := by
  intro j p hp
  rw [parent?, around_declare] at hp
  obtain ⟨hlt, haround⟩ := h j p hp
  rw [around_declare, (extends_declare hi name).chain (h.lt_size hp).2]
  exact ⟨hlt, haround⟩

theorem Grown.linked (h : Grown kind steps t) : Linked t := by
  induction h with
  | root =>
    intro i p hp
    cases i <;> cases hp
  | @step steps t s _ hs ih =>
    cases s with
    | child parent kind => exact ih.child hs kind
    | declare i name => exact ih.declare hs name

/-- A search through the listed scopes goes on with the parent. -/
theorem find?_eq (h : Linked t) (i : ScopeId) (name : String) :
    t.find? i name = match t.get? i name with
      | some x => some (i, x)
      | none => (t.parent? i).bind (t.find? · name) := by
  rw [find?, chain, List.findSome?_cons]
  cases t.get? i name with
  | some x => rfl
  | none =>
    cases hp : t.parent? i with
    | none => rw [List.head?_eq_none_iff.mp hp]; rfl
    | some p => rw [(h i p hp).2]; rfl

theorem Reaches.le (h : Linked t) (hij : t.Reaches i j) : j ≤ i := by
  induction hij with
  | refl => rfl
  | tail _ hp ih => exact Nat.le_of_lt (Nat.lt_of_lt_of_le (h _ _ hp).1 ih)

theorem IsNearest.unique (h : Linked t) {k : ScopeId} {y : Symbol} (hj : t.IsNearest i name j x)
    (hk : t.IsNearest i name k y) : k = j ∧ y = x := by
  have hjk : t.Reaches j k := hj.nearest k hk.reaches (Option.isSome_of_eq_some hk.get?)
  have hkj : t.Reaches k j := hk.nearest j hj.reaches (Option.isSome_of_eq_some hj.get?)
  obtain rfl := Nat.le_antisymm (hjk.le h) (hkj.le h)
  exact ⟨rfl, Option.some.inj (hk.get?.symm.trans hj.get?)⟩

/-- What is found is the nearest, and nothing is found only if no scope around has the name. -/
theorem find?_spec (h : Linked t) (i : ScopeId) (name : String) :
    match t.find? i name with
    | some (j, x) => t.IsNearest i name j x
    | none => ∀ j, t.Reaches i j → t.get? j name = none := by
  induction i using Nat.strongRecOn with
  | ind i ih =>
    rw [find?_eq h]
    cases hget : t.get? i name with
    | some x => exact ⟨.refl, hget, fun k hk _ => hk⟩
    | none =>
      cases hp : t.parent? i with
      | none =>
        intro j hj
        obtain rfl | ⟨p, hp', -⟩ := hj.cases_head
        · exact hget
        · rw [hp] at hp'
          cases hp'
      | some p =>
        have hreach : ∀ {j}, t.Reaches i j → j = i ∨ t.Reaches p j := by
          intro j hj
          obtain rfl | ⟨p', hp', hj⟩ := hj.cases_head
          · exact .inl rfl
          · obtain rfl := Option.some.inj (hp.symm.trans hp')
            exact .inr hj
        have hrest := ih p (h i p hp).1
        rw [Option.bind_some]
        split at hrest
        · next j x hfind =>
          rw [hfind]
          refine ⟨.head hp hrest.reaches, hrest.get?, fun k hk hsome => ?_⟩
          obtain rfl | hk := hreach hk
          · rw [hget] at hsome
            cases hsome
          · exact hrest.nearest k hk hsome
        · next hfind =>
          rw [hfind]
          intro j hj
          obtain rfl | hj := hreach hj
          · exact hget
          · exact hrest j hj

theorem find?_eq_some_iff (h : Linked t) :
    t.find? i name = some (j, x) ↔ t.IsNearest i name j x := by
  have hspec := find?_spec h i name
  constructor
  · intro hfind
    rwa [hfind] at hspec
  · intro hnear
    cases hfind : t.find? i name with
    | none =>
      rw [hfind] at hspec
      exact nomatch (hspec j hnear.reaches).symm.trans hnear.get?
    | some found =>
      rw [hfind] at hspec
      obtain ⟨rfl, rfl⟩ := hnear.unique h hspec
      rfl

theorem find?_eq_none_iff (h : Linked t) :
    t.find? i name = none ↔ ∀ j, t.Reaches i j → t.get? j name = none := by
  have hspec := find?_spec h i name
  constructor
  · intro hfind
    rwa [hfind] at hspec
  · intro hnone
    cases hfind : t.find? i name with
    | none => rfl
    | some found =>
      rw [hfind] at hspec
      exact nomatch (hnone _ hspec.reaches).symm.trans hspec.get?

/-! ### Every tree -/

/-- **Symbols identify declarations.**  In a tree that has grown out of a single scope, two entries
with the same symbol are the same entry, and the symbols of the entries are the numbers below how
many entries there are, which is at most the number of declarations.  A name that a scope has is
declared again without effect, and no step changes an entry.  The names of a scope are those that
were declared in it, in the order of their first declaration, and what is found for a name is its
entry in the nearest scope, following the parents. -/
theorem Grown.entries (h : Grown kind steps t) :
    (∀ i j n m x, t.get? i n = some x → t.get? j m = some x → i = j ∧ n = m) ∧
      (∀ k, (∃ i n, t.get? i n = some ⟨k⟩) ↔ k < t.entryCount) ∧
      t.entryCount ≤ steps.countP (·.isDeclaration) ∧
      (∀ i n x, t.get? i n = some x → t.declare i n = (x, t)) ∧
      (∀ s : ScopeStep, s.scope < t.size → Extends t (t.grow s)) ∧
      (∀ i, (t.scope i).names = (steps.filterMap (·.declared? i)).eraseDups ∧
        ∀ n, n ∈ (t.scope i).names ↔ (t.get? i n).isSome) ∧
      ∀ i n, (∀ j x, t.find? i n = some (j, x) ↔ t.IsNearest i n j x) ∧
        (t.find? i n = none ↔ ∀ j, t.Reaches i j → t.get? j n = none) := by
  have hcount := h.symbolCount_eq
  refine ⟨h.numbered.unique, fun k => ?_, hcount ▸ h.symbolCount_le, fun _ _ _ => declare_of_get?,
    fun _ => extends_grow, fun i => ⟨h.names i, fun _ => mem_names_iff⟩,
    fun _ _ => ⟨fun _ _ => find?_eq_some_iff h.linked, find?_eq_none_iff h.linked⟩⟩
  rw [← hcount]
  constructor
  · rintro ⟨i, n, hget⟩
    exact h.numbered.lt_count i n _ hget
  · exact h.exists_entry k

/-- An inner name is kept apart from the outer one of the same text. -/
theorem entries_shadowed : ∃ t,
    Grown .module [.declare 0 "a", .child 0 .block, .declare 1 "a", .declare 0 "b"] t ∧
      t.find? 1 "a" = some (1, ⟨1⟩) ∧ t.find? 1 "b" = some (0, ⟨2⟩) ∧
      ∀ j m, t.get? j m = some ⟨1⟩ → j = 1 ∧ m = "a" := by
  have hgrown : Grown .module [.declare 0 "a", .child 0 .block, .declare 1 "a", .declare 0 "b"] _ :=
    (((Grown.root.step (s := .declare 0 "a") (by decide)).step (s := .child 0 .block)
      (by decide)).step (s := .declare 1 "a") (by decide)).step (s := .declare 0 "b") (by decide)
  refine ⟨_, hgrown, by decide, by decide, fun j m hm => ?_⟩
  exact hgrown.entries.1 j 1 m "a" ⟨1⟩ hm rfl

end ScopeTree

end ImportSeam
