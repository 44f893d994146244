import ImportSeam.Proofs.Reference.Hygiene

/-!
# Publishing the registry again

A module that replaces the object it exports loses what was exported before, so the registry is put
on the new object by a statement at the end.  Discovery decides this by the statements at the top
level.  It looks at the outermost target of a chain of assignments only: what the chain assigns
further inside does not count.

## Main definitions

* `Expr.assignmentTargets` — the targets of a chain of assignments.

## Main results

* `Discovery.assignsExports_ofBody` — what discovery says about the exports of a module.
* `instrumented_republishes` — when the registry is published again.
* `chainSource_not_republished` — a chain whose second target is not seen.
-/

namespace ImportSeam

/-! ### Chains of assignments -/

/-- The targets of a chain of assignments, from left to right. -/
def Expr.assignmentTargets : Expr → List Expr
  | .binary _ .assign left right => left :: right.assignmentTargets
  | _ => []

/-- The targets of the chain of assignments that a statement is. -/
def Stmt.assignmentTargets : Stmt → List Expr
  | .expr _ e => e.assignmentTargets
  | _ => []

namespace Discovery

variable {cfg : Setting} {body : List Stmt} {d : Discovery}

/-- Only the first target of a chain decides whether it replaces the exports. -/
theorem replacesExports_iff {s : Stmt} :
    replacesExports cfg s = true ↔
      ∃ t, s.assignmentTargets.head? = some t ∧ t.isModuleExports cfg.resolve = true := by
  constructor
  · intro h
    unfold replacesExports at h
    split at h
    · next left right => exact ⟨left, rfl, h⟩
    · exact nomatch h
  · rintro ⟨t, ht, hexports⟩
    cases s
    case expr e =>
      rw [Stmt.assignmentTargets] at ht
      unfold Expr.assignmentTargets at ht
      split at ht
      · obtain rfl := Option.some.inj ht
        exact hexports
      · exact nomatch ht
    all_goals exact nomatch ht

/-! ### What discovery says -/

/-- **Every run**: discovery says that the exports are replaced if some statement does so. -/
theorem assignsExports_ofBody (h : ofBody cfg body = .ok d) :
    d.assignsExports = body.any (replacesExports cfg) := by
  induction body using List.reverseRecOn generalizing d with
  | nil =>
    rw [← Except.ok.inj h]
    rfl
  | append_singleton body s ih =>
    obtain ⟨d₁, hbody, hs⟩ := ofBody_append h
    rw [addStmt_eq hs, List.any_append, ← ih hbody, Bool.or_comm]
    simp

/-- The last item of a module publishes the registry again, or none does. -/
theorem republishing_mem_items {anchor count : Nat} :
    .republishing ∈ d.items anchor count ↔ d.assignsExports = true := by
  have hafter : ∀ i, Item.republishing ∉ d.itemsAfter anchor i := by
    intro i
    rw [itemsAfter]
    split <;> simp
  simp [items, itemsLast, hafter]

theorem getLast?_items {anchor count : Nat} (h : d.assignsExports = true) :
    (d.items anchor count).getLast? = some .republishing := by
  rw [items, itemsLast, if_pos h, List.getLast?_append]
  rfl

end Discovery

/-- The last of the items stands for the last of the statements. -/
theorem getLast?_of_stands {redirected : List Stmt} {items : List Item} {body : List Stmt}
    {x : Item} (h : List.Forall₂ (Item.Stands redirected) items body)
    (hx : items.getLast? = some x) : ∃ s, body.getLast? = some s ∧ x.Stands redirected s := by
  induction h with
  | nil => exact nomatch hx
  | @cons y s items body hys hrest ih =>
    cases hrest with
    | nil =>
      obtain rfl := Option.some.inj hx
      exact ⟨s, rfl, hys⟩
    | cons hzt hrest =>
      rw [List.getLast?_cons_cons] at hx ⊢
      exact ih hx

/-! ### Instrumented modules -/

/-- **When the registry is published again.**  An instrumented module is its own statements and
others that were put between them.  If a statement of the module is an assignment, or a chain of
them, whose first target is `module.exports`, the last statement publishes the registry on that
object.  If there is none, no such statement is added. -/
theorem instrumented_republishes {p q : Program} {resolve : Resolver} {place : Option String}
    {options : Options} {bs : List Binding}
    (h : p.instrument resolve place options = .ok (.instrumented bs, q)) :
    ∃ items,
      List.Forall₂ (Item.Stands (redirectStmts (aliasesOf bs resolve) p.body)) items q.body ∧
      items.filterMap Item.kept? = List.range p.body.length ∧
      ((∃ s ∈ p.body, ∃ t, s.assignmentTargets.head? = some t ∧
          t.isModuleExports resolve = true) →
        ∃ loc, q.body.getLast? = some (republishRegistry loc)) ∧
      ((∀ s ∈ p.body, ∀ t, s.assignmentTargets.head? = some t →
          t.isModuleExports resolve = false) →
        .republishing ∉ items) := by
  obtain ⟨d, anchor, hd, hstands⟩ := Program.instrument_items h
  have hassigns := Discovery.assignsExports_ofBody hd
  refine ⟨_, hstands, Discovery.filterMap_kept_items _, ?_, ?_⟩
  · rintro ⟨s, hs, hfirst⟩
    have htrue : d.assignsExports = true := by
      rw [hassigns, List.any_eq_true]
      exact ⟨s, hs, Discovery.replacesExports_iff.mpr hfirst⟩
    obtain ⟨t, ht, hlast⟩ := getLast?_of_stands hstands (Discovery.getLast?_items htrue)
    cases hlast with
    | republishing loc => exact ⟨loc, ht⟩
  · intro hnone hmem
    have htrue := Discovery.republishing_mem_items.mp hmem
    rw [hassigns, List.any_eq_true] at htrue
    obtain ⟨s, hs, hreplaces⟩ := htrue
    obtain ⟨t, ht, hexports⟩ := Discovery.replacesExports_iff.mp hreplaces
    rw [hnone s hs t ht] at hexports
    exact nomatch hexports

/-- A module that replaces its exports in the first step of a chain. -/
def replacingSource : String := "var a = require('a'); module.exports = exports = a;"

/-- The registry is published again at the end of it. -/
theorem replacingSource_republished :
    ∃ p q bs, Program.parse replacingSource = .ok p ∧
      p.analyse.1.instrument p.analyse.2.symbolOf? none {} = .ok (.instrumented bs, q) ∧
      ∃ loc, q.body.getLast? = some (republishRegistry loc) := by
  have hsource : (instrumented? replacingSource).any (fun (p, _, _) =>
      p.analyse.1.body.any fun s => s.assignmentTargets.head?.any
        (·.isModuleExports p.analyse.2.symbolOf?)) := by decide +kernel
  obtain ⟨⟨p, bs, q⟩, hpq, hany⟩ := (Option.any_eq_true _ _).mp hsource
  obtain ⟨hp, hq⟩ := of_instrumented? hpq
  obtain ⟨s, hs, hfirst⟩ := List.any_eq_true.mp hany
  obtain ⟨t, ht, hexports⟩ := (Option.any_eq_true _ _).mp hfirst
  obtain ⟨items, -, -, hrepublished, -⟩ := instrumented_republishes hq
  exact ⟨p, q, bs, hp, hq, hrepublished ⟨s, hs, t, ht, hexports⟩⟩

/-- A module that replaces its exports in the second step of a chain. -/
def chainSource : String := "var a = require('a'); exports = module.exports = a;"

/-- Whether a statement is the export of the registry. -/
def Stmt.isExportList : Stmt → Bool
  | .exportList .. => true
  | _ => false

/-- The second step is not seen: the module ends with the exports, and the registry is not published
again. -/
theorem chainSource_not_republished :
    ∃ p q bs, Program.parse chainSource = .ok p ∧
      p.analyse.1.instrument p.analyse.2.symbolOf? none {} = .ok (.instrumented bs, q) ∧
      (∃ s ∈ p.analyse.1.body, ∃ t ∈ s.assignmentTargets,
        t.isModuleExports p.analyse.2.symbolOf? = true) ∧
      ∀ loc, q.body.getLast? ≠ some (republishRegistry loc) := by
  have hsource : (instrumented? chainSource).any (fun (p, _, q) =>
      (p.analyse.1.body.any fun s => s.assignmentTargets.any
        (·.isModuleExports p.analyse.2.symbolOf?)) && q.body.getLast?.any Stmt.isExportList) := by
    decide +kernel
  obtain ⟨⟨p, bs, q⟩, hpq, hboth⟩ := (Option.any_eq_true _ _).mp hsource
  obtain ⟨hp, hq⟩ := of_instrumented? hpq
  obtain ⟨hany, hlast⟩ := (Bool.and_eq_true _ _).mp hboth
  obtain ⟨s, hs, htargets⟩ := List.any_eq_true.mp hany
  obtain ⟨t, ht, hexports⟩ := List.any_eq_true.mp htargets
  refine ⟨p, q, bs, hp, hq, ⟨s, hs, t, ht, hexports⟩, ?_⟩
  intro loc hloc
  rw [hloc] at hlast
  exact nomatch hlast

end ImportSeam
