import ImportSeam.Proofs.Reference.Hygiene
import ImportSeam.Proofs.Scope.Declared

/-!
# The reserved name

A module that has a name like the registry at its top level is left alone.  The check goes through the
statements of the module and not through its scopes, so it agrees with the analysis of the module on a
name exactly if the name is not buried in a statement, or is declared at the top level as well.

## Main results

* `Program.instrument_of_declaresTopLevel` — a module that has the name is left alone.
* `declaresTopLevel_agrees_iff` — when the check agrees with the analysis.
-/

namespace ImportSeam

open Program (moduleScope)

/-- A module that declares the name of the registry at its top level is left alone. -/
theorem Program.instrument_of_declaresTopLevel {p : Program}
    (h : declaresTopLevel p.body registryName = true) (resolve : Resolver) (place : Option String)
    (options : Options) :
    p.instrument resolve place options =
      .ok (if options.excludesFile place then .excluded else .reservedNameConflict, p) := by
  unfold instrument instrumentIncluded
  rw [if_pos h]
  split <;> rfl

/-- The names that a module gets from statements inside its statements. -/
def Program.buriedNames (p : Program) : List String := p.body.flatMap Stmt.buriedNames

/-- **When the check agrees with the analysis.**  The module's own scope has the names that are found
at the top level and the buried ones.  So both agree on all names exactly if the buried names are
declared at the top level as well; and a module whose own scope has the name of the registry is left
alone, unless that name is buried. -/
theorem declaresTopLevel_agrees_iff (p : Program) :
    (∀ name, (p.analyse.2.get? moduleScope name).isSome ↔
      declaresTopLevel p.body name = true ∨ name ∈ p.buriedNames) ∧
    ((∀ name, declaresTopLevel p.body name = true ↔ (p.analyse.2.get? moduleScope name).isSome) ↔
      ∀ name ∈ p.buriedNames, declaresTopLevel p.body name = true) ∧
    ((p.analyse.2.get? moduleScope registryName).isSome → registryName ∉ p.buriedNames →
      ∀ place options, p.analyse.1.instrument p.analyse.2.symbolOf? place options =
        .ok (if options.excludesFile place then .excluded else .reservedNameConflict,
          p.analyse.1)) := by
  have hscope : ∀ name, (p.analyse.2.get? moduleScope name).isSome ↔
      declaresTopLevel p.body name = true ∨ name ∈ p.buriedNames := p.get?_moduleScope_iff
  refine ⟨hscope, ?_, fun hsome hburied place options => ?_⟩
  · simp only [hscope, iff_self_or]
  · have htop := ((hscope registryName).mp hsome).resolve_right hburied
    rw [← p.declaresTopLevel_analyse] at htop
    exact Program.instrument_of_declaresTopLevel htop _ place options

/-- A module that declares the name of the registry at its top level. -/
def reservedSource : String := "import a from 'm'; var [b, {c: $imports}] = a; { var b; }"

theorem reservedSource_left_alone :
    ∃ p, Program.parse reservedSource = .ok p ∧
      (p.analyse.2.get? moduleScope registryName).isSome ∧ registryName ∉ p.buriedNames ∧
      (∀ name, declaresTopLevel p.body name = true ↔
        (p.analyse.2.get? moduleScope name).isSome) ∧
      p.analyse.1.instrument p.analyse.2.symbolOf? none {} =
        .ok (.reservedNameConflict, p.analyse.1) := by
  have hsource : (Program.parse reservedSource).toOption.any (fun p =>
      decide ((p.analyse.2.get? moduleScope registryName).isSome ∧ registryName ∉ p.buriedNames ∧
        ∀ name ∈ p.buriedNames, declaresTopLevel p.body name = true)) = true := by decide +kernel
  cases hp : Program.parse reservedSource with
  | error e =>
    rw [hp] at hsource
    exact absurd hsource Bool.false_ne_true
  | ok p =>
    rw [hp] at hsource
    obtain ⟨hsome, hburied, hall⟩ := of_decide_eq_true hsource
    obtain ⟨-, hagree, halone⟩ := declaresTopLevel_agrees_iff p
    exact ⟨p, rfl, hsome, hburied, hagree.mpr hall, halone hsome hburied none {}⟩

/-- A module in which a block hides a declaration of the name of the registry. -/
def buriedSource : String := "import a from 'm'; { var $imports; } a;"

/-- The declaration is carried out of the block, and the module is instrumented all the same. -/
theorem buriedSource_instrumented :
    ∃ p q bs, Program.parse buriedSource = .ok p ∧
      declaresTopLevel p.body registryName = false ∧
      (p.analyse.2.get? moduleScope registryName).isSome ∧
      p.analyse.1.instrument p.analyse.2.symbolOf? none {} = .ok (.instrumented bs, q) := by
  have hsource : (instrumented? buriedSource).any (fun (p, _, _) =>
      decide (declaresTopLevel p.body registryName = false ∧
        (p.analyse.2.get? moduleScope registryName).isSome)) := by decide +kernel
  obtain ⟨⟨p, bs, q⟩, hpq, hnames⟩ := (Option.any_eq_true _ _).mp hsource
  obtain ⟨hp, hq⟩ := of_instrumented? hpq
  obtain ⟨htop, hsome⟩ := of_decide_eq_true hnames
  exact ⟨p, q, bs, hp, htop, hsome, hq⟩

end ImportSeam
