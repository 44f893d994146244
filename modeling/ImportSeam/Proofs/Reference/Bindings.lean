import ImportSeam.Proofs.Reference.Exact

/-!
# The bindings of an instrumented module

Discovery refuses a declaration that it has already seen, but the registry knows a binding by its
name.  The two agree, since every declaration is what the module's own scope has under the name of
its binding; how the module says it, by an import, a destructuring or an assignment, and how often,
does not matter.

## Main definitions

* `BindingList` — what a list of bindings has to satisfy to be registered.

## Main results

* `Setting.not_excluded_of_mem_candidates`, `Setting.not_underscore_of_mem_candidates` — what a
  statement offers is neither excluded nor, outside of imports, a helper of an earlier tool.
* `instrumented_bindings` — the bindings of every instrumented module satisfy it.
-/

namespace ImportSeam

/-! ### What a statement offers -/

namespace Setting

variable {cfg : Setting} {b : Binding} {path : String} {symbol : Export}

theorem path_of_candidate? {id : Ident} (h : cfg.candidate? path symbol id = some b) :
    b.path = path := by
  obtain ⟨-, -, hb⟩ := candidate?_eq_some h
  rw [hb]

theorem path_of_imported? {p : Pat} (h : cfg.imported? path symbol p = some b) :
    b.path = path := by
  cases p with
  | ident id => exact path_of_candidate? h
  | array => exact nomatch h
  | object => exact nomatch h

theorem path_of_mem_importedBy {names : Option ImportNames} (h : b ∈ cfg.importedBy path names) :
    b.path = path := by
  match names with
  | none => exact nomatch h
  | some (.all p) => exact path_of_imported? (Option.mem_toList.mp h)
  | some (.specific specs) =>
    obtain ⟨s, -, hs⟩ := List.mem_filterMap.mp h
    exact path_of_imported? hs

theorem of_required? {id : Ident} (h : cfg.required? path symbol id = some b) :
    b.path = path ∧ b.name.toList.head? ≠ some '_' := by
  unfold required? at h
  split at h
  · exact nomatch h
  · rename_i hfree
    obtain ⟨-, -, hb⟩ := candidate?_eq_some h
    rw [hb]
    exact ⟨rfl, hfree⟩

theorem of_property? {prop : PropPat} (h : cfg.property? path prop = some b) :
    b.path = path ∧ b.name.toList.head? ≠ some '_' := by
  unfold property? at h
  split at h
  · exact of_required? h
  · exact nomatch h

/-- What a call of `require` is bound to comes from a module that is not excluded, under a name that
is not a helper's. -/
theorem of_mem_requiredBy {call : RequireCall} {target : Pat} (h : b ∈ cfg.requiredBy call target) :
    cfg.excludesImport b.path = false ∧ b.name.toList.head? ≠ some '_' := by
  unfold requiredBy at h
  split at h
  · exact nomatch h
  · rename_i hincluded
    have hpath : b.path = call.path ∧ b.name.toList.head? ≠ some '_' := by
      split at h
      · exact of_required? (Option.mem_toList.mp h)
      · obtain ⟨prop, -, hprop⟩ := List.mem_filterMap.mp h
        exact of_property? hprop
      · exact nomatch h
    rw [hpath.1]
    exact ⟨Bool.not_eq_true _ ▸ hincluded, hpath.2⟩

theorem of_mem_boundBy {x : Binder} (h : b ∈ cfg.boundBy x) :
    cfg.excludesImport b.path = false ∧ b.name.toList.head? ≠ some '_' := by
  unfold boundBy at h
  split at h
  · exact of_mem_requiredBy h
  · exact nomatch h

theorem of_mem_assignedBy {left right : Expr} (h : b ∈ cfg.assignedBy left right) :
    cfg.excludesImport b.path = false ∧ b.name.toList.head? ≠ some '_' := by
  unfold assignedBy at h
  split at h
  · exact nomatch h
  · split at h
    · exact of_mem_requiredBy h
    · exact nomatch h

/-- **A statement that is no import** offers nothing from an excluded module, and no name that starts
with an underscore. -/
theorem of_mem_candidates {s : Stmt} (hs : ¬ s.isImport) (h : b ∈ s.candidates cfg) :
    cfg.excludesImport b.path = false ∧ b.name.toList.head? ≠ some '_' := by
  unfold Stmt.candidates at h
  split at h
  · exact absurd rfl hs
  · obtain ⟨x, -, hx⟩ := List.mem_flatMap.mp h
    exact of_mem_boundBy hx
  · exact of_mem_assignedBy h
  · exact nomatch h

/-- **No statement** offers a binding from an excluded module. -/
theorem not_excluded_of_mem_candidates {s : Stmt} (h : b ∈ s.candidates cfg) :
    cfg.excludesImport b.path = false := by
  cases s with
  | importDecl loc default names path =>
    rw [Stmt.candidates] at h
    split at h
    · cases h
    · rename_i hincluded
      have hpath : b.path = path := by
        rcases List.mem_append.mp h with hdefault | hnames
        · obtain ⟨p, -, hp⟩ := List.mem_filterMap.mp hdefault
          exact path_of_imported? hp
        · exact path_of_mem_importedBy hnames
      rw [hpath]
      exact Bool.not_eq_true _ ▸ hincluded
  | _ =>
    refine (of_mem_candidates ?_ h).1
    exact Bool.false_ne_true

end Setting

/-! ### What is registered -/

/-- What a list of bindings has to satisfy to be registered for a module.  The program is the module
as it was before it was instrumented, after its scopes were analysed. -/
structure BindingList (p : Program) (t : ScopeTree) (options : Options) (bs : List Binding) :
    Prop where
  ne_nil : bs ≠ []
  nodup_names : (bs.map (·.name)).Nodup
  nodup_declarations : (bs.map (·.declaration)).Nodup
  /-- Every declaration is what the module's own scope has under the name of its binding. -/
  get?_declaration : ∀ b ∈ bs, t.get? Program.moduleScope b.name = some b.declaration
  not_reserved : ∀ b ∈ bs, isReservedAlias b.name = false
  not_excluded : ∀ b ∈ bs, options.excludesImport b.path = false
  /-- Every binding is introduced by one statement, and if this statement is no import, then the name
  does not start with an underscore. -/
  introduced : ∀ b ∈ bs, ∃ k s, p.body[k]? = some s ∧
    OwnStmt ⟨t.symbolOf?, options.excludesImport⟩ p.body b k ∧
    (s.isImport ∨ b.name.toList.head? ≠ some '_')

/-- **The bindings of every instrumented module** can be registered: there are some, no name and no
declaration is there twice, every declaration is the module's, and none of them is excluded. -/
theorem instrumented_bindings {p q : Program} {place : Option String} {options : Options}
    {bs : List Binding}
    (h : p.analyse.1.instrument p.analyse.2.symbolOf? place options =
      .ok (.instrumented bs, q)) :
    BindingList p.analyse.1 p.analyse.2 options bs := by
  obtain ⟨d, hd, hne, rfl, -⟩ := Program.instrument_eq h
  have hdesc := Discovery.describes_ofBody hd
  have hown : ∀ b ∈ d.bindings, ∃ k s, p.analyse.1.body[k]? = some s ∧
      OwnStmt ⟨p.analyse.2.symbolOf?, options.excludesImport⟩ p.analyse.1.body b k ∧
      b ∈ s.candidates ⟨p.analyse.2.symbolOf?, options.excludesImport⟩ := by
    intro b hb
    obtain ⟨f, hf, rfl⟩ := List.mem_map.mp hb
    have hfown := hdesc.own f hf
    obtain ⟨s, hs, hcand⟩ := hfown.1
    exact ⟨f.stmt, s, hs, hfown, hcand⟩
  constructor
  case ne_nil => simpa [Discovery.bindings] using hne
  case nodup_names => exact hdesc.nodup_names
  case nodup_declarations => exact hdesc.nodup
  case get?_declaration => exact fun b hb => hdesc.get?_declaration hb
  case not_reserved => exact fun b hb => hdesc.not_reserved hb
  case not_excluded =>
    intro b hb
    obtain ⟨k, s, -, -, hcand⟩ := hown b hb
    exact Setting.not_excluded_of_mem_candidates hcand
  case introduced =>
    intro b hb
    obtain ⟨k, s, hs, hk, hcand⟩ := hown b hb
    refine ⟨k, s, hs, hk, ?_⟩
    by_cases hi : s.isImport
    · exact .inl hi
    · exact .inr (Setting.of_mem_candidates hi hcand).2

/-- A module that imports a name twice, declares a variable twice, takes the same variable from
`require` by two declarations and an assignment, and has a helper of an earlier tool. -/
def repeatedSource : String :=
  "import A from 'm'; import {A, B} from 'n'; import * as C from 'o'; var d = require('p').d; " ++
    "var d = require('q'), {e, _f} = require('r'); d = require('s'); _f = require('t');"

theorem repeatedSource_bindings :
    ∃ p q bs, Program.parse repeatedSource = .ok p ∧
      p.analyse.1.instrument p.analyse.2.symbolOf? none {} = .ok (.instrumented bs, q) ∧
      bs.map (·.name) = ["A", "B", "C", "d", "e"] ∧
      BindingList p.analyse.1 p.analyse.2 {} bs := by
  have hspelled : repeatedSource = String.ofList _ := spelled_append rfl rfl
  have hnames : registeredNames repeatedSource = some ["A", "B", "C", "d", "e"] := by
    rw [registeredNames_of_spelled hspelled]
    decide +kernel
  obtain ⟨p, q, bs, hp, hq, hbs⟩ := exists_of_registeredNames hnames
  exact ⟨p, q, bs, hp, hq, hbs, instrumented_bindings hq⟩

end ImportSeam
