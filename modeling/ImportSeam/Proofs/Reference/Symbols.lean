import ImportSeam.Proofs.Reference.Hygiene

/-!
# What bindings are registered as

A statement introduces names for a default export, for all exports together, for whatever `require`
returns, or for one export.  The first three have symbols of their own, and an export has its name.
The symbol of an export is made from its name, as a text, and two texts stand for the symbols of
whole modules: an export with one of these two names is taken for a whole module.

## Main definitions

* `Origin` — what a name stands for.
* `Stmt.introductions` — the names that a statement introduces, whether they are registered or not.
* `Introduction.StandsFor` — a binding for an introduced name.

## Main results

* `Origin.registered_eq_intended_iff` — which exports are taken for something else.
* `Stmt.candidates_eq` — what a statement offers comes from the names that it introduces.
* `instrumented_symbols` — the symbols of every instrumented module.
* `sentinelSource_collides` — exports that are taken for whole modules.
-/

namespace ImportSeam

/-! ### What a name stands for -/

/-- What an introduced name stands for. -/
inductive Origin where
  | default
  /-- All exports together. -/
  | everything
  /-- Whatever a call of `require` returns. -/
  | result
  /-- An export that an import list names. -/
  | imported (name : String)
  /-- A property taken from the result of `require`.  A direct key is kept as it was written, also if
  it is a number. -/
  | property (name : String)
  deriving DecidableEq, Repr

namespace Origin

/-- What the result of `require` or a property of it is. -/
def ofProperty : Option String → Origin
  | none => result
  | some name => property name

/-- The name of the export, if it is a single one that is named. -/
def name? : Origin → Option String
  | imported name | property name => some name
  | default | everything | result => none

/-- Whether the name comes from a call of `require`. -/
def isRequired : Origin → Bool
  | result | property _ => true
  | default | everything | imported _ => false

/-- The symbol of an export that was named: the default export is known by its name. -/
def ordinary (name : String) : Export := if name = "default" then .default else .named name

/-- The symbol that says what the name stands for. -/
def intended : Origin → Export
  | default => .default
  | everything => .star
  | result => .dynamicModule
  | imported name | property name => ordinary name

/-- The symbol that is registered. -/
def registered : Origin → Export
  | default => .default
  | everything => .star
  | result => .dynamicModule
  | imported name | property name => .ofText name

theorem registered_ofProperty (property : Option String) :
    (ofProperty property).registered = Discovery.requiredSymbol property := by
  cases property <;> rfl

theorem ofText_eq_star_iff {name : String} : Export.ofText name = .star ↔ name = "*" := by
  unfold Export.ofText
  constructor
  · intro h
    split at h
    · cases h
    · split at h
      · assumption
      · split at h <;> cases h
  · rintro rfl
    rfl

theorem ofText_eq_dynamicModule_iff {name : String} :
    Export.ofText name = .dynamicModule ↔ name = "<CJS>" := by
  unfold Export.ofText
  constructor
  · intro h
    split at h
    · cases h
    · split at h
      · cases h
      · split at h
        · assumption
        · cases h
  · rintro rfl
    rfl

/-- A text that stands for a whole module is no ordinary symbol. -/
theorem ofText_eq_ordinary_iff {name : String} :
    Export.ofText name = ordinary name ↔ name ≠ "*" ∧ name ≠ "<CJS>" := by
  constructor
  · intro h
    refine ⟨?_, ?_⟩ <;> rintro rfl <;> exact absurd h (by decide)
  · rintro ⟨hstar, hdynamic⟩
    simp only [Export.ofText, ordinary, hstar, hdynamic, if_false]

theorem text_ofText (name : String) : (Export.ofText name).text = name := by
  unfold Export.ofText
  split
  · next h => exact h.symm
  · split
    · next h => exact h.symm
    · split
      · next h => exact h.symm
      · rfl

theorem text_ordinary (name : String) : (ordinary name).text = name := by
  unfold ordinary
  split
  · next h => exact h.symm
  · rfl

variable {o : Origin}

/-- The text of the symbol is right, whatever the symbol is. -/
theorem text_registered : o.registered.text = o.intended.text := by
  cases o with
  | default | everything | result => rfl
  | imported name | property name => exact (text_ofText name).trans (text_ordinary name).symm

/-- **What is taken for something else**: the exports that have the name of a symbol for a whole
module. -/
theorem registered_eq_intended_iff :
    o.registered = o.intended ↔ ∀ name, o.name? = some name → name ≠ "*" ∧ name ≠ "<CJS>" := by
  cases o with
  | default | everything | result => exact iff_of_true rfl fun _ h => nomatch h
  | imported name | property name =>
    refine ofText_eq_ordinary_iff.trans ⟨?_, fun h => h name rfl⟩
    rintro h _ ⟨⟩
    exact h

theorem registered_eq_star_iff :
    o.registered = .star ↔ o = everything ∨ o.name? = some "*" := by
  cases o with
  | default | everything | result => simp [registered, name?]
  | imported name | property name => simp [registered, name?, ofText_eq_star_iff]

theorem registered_eq_dynamicModule_iff :
    o.registered = .dynamicModule ↔ o = result ∨ o.name? = some "<CJS>" := by
  cases o with
  | default | everything | result => simp [registered, name?]
  | imported name | property name => simp [registered, name?, ofText_eq_dynamicModule_iff]

end Origin

/-! ### Introduced names -/

/-- A name that a statement introduces for something of another module. -/
structure Introduction where
  path : String
  ident : Ident
  origin : Origin
  deriving DecidableEq, Repr

/-- The name that a pattern introduces if it is a single one. -/
def Pat.introductions (path : String) (origin : Origin) : Pat → List Introduction
  | .ident id => [⟨path, id, origin⟩]
  | _ => []

/-- The names that an import list introduces. -/
def ImportNames.introductions (path : String) : ImportNames → List Introduction
  | .all p => p.introductions path .everything
  | .specific specs =>
    specs.flatMap fun s => s.target.introductions path (.imported s.imported.text)

/-- The name that a property introduces.  Nested patterns, computed keys and defaults introduce
none. -/
def PropPat.introductions (path : String) : PropPat → List Introduction
  | ⟨.direct key _, ⟨.ident id, none⟩, _⟩ => [⟨path, id, .property key⟩]
  | _ => []

/-- The names that a pattern for the result of `require` introduces. -/
def RequireCall.introductions (call : RequireCall) : Pat → List Introduction
  | .ident id => [⟨call.path, id, .ofProperty call.property⟩]
  | .object _ props _ =>
    if call.property = none then props.flatMap (·.introductions call.path) else []
  | .array _ _ _ => []

/-- The names that a variable with its value introduces. -/
def Binder.introductions (resolve : Resolver) (b : Binder) : List Introduction :=
  (b.init.bind (·.requireCall? resolve)).toList.flatMap (·.introductions b.target)

/-- The name that an assignment introduces. -/
def assignedIntroductions (resolve : Resolver) (left right : Expr) : List Introduction :=
  match left with
  | .target (.ident id) =>
    (right.requireCall? resolve).toList.flatMap (·.introductions (.ident id))
  | _ => []

/-- The names that a statement introduces, in the order in which they stand. -/
def Stmt.introductions (resolve : Resolver) : Stmt → List Introduction
  | .importDecl _ default names path =>
    default.toList.flatMap (·.introductions path .default) ++
      names.toList.flatMap (·.introductions path)
  | .varDecl _ _ _ binders => binders.flatMap (·.introductions resolve)
  | .expr _ (.binary _ .assign left right) => assignedIntroductions resolve left right
  | _ => []

namespace Introduction

/-- Whether the name is registered if it has a declaration: its module is not excluded, it is not
that of an operation of the registry, and it is not that of an earlier tool's helper. -/
def isWanted (cfg : Setting) (i : Introduction) : Bool :=
  !cfg.excludesImport i.path && !isReservedAlias i.ident.name &&
    !(i.origin.isRequired && i.ident.name.toList.head? == some '_')

/-- The binding for the name. -/
def binding? (cfg : Setting) (i : Introduction) : Option Binding :=
  if i.isWanted cfg then
    (cfg.resolve i.ident).map fun declaration =>
      ⟨i.ident.name, i.path, i.origin.registered, declaration⟩
  else none

/-- The binding stands for the introduced name. -/
structure StandsFor (resolve : Resolver) (i : Introduction) (b : Binding) : Prop where
  name_eq : b.name = i.ident.name
  path_eq : b.path = i.path
  declaration : resolve i.ident = some b.declaration
  /-- The registered text is right. -/
  text_eq : b.symbol.text = i.origin.intended.text
  /-- The symbol is right unless the export has the name of a symbol for a whole module. -/
  symbol_eq_iff : b.symbol = i.origin.intended ↔
    ∀ name, i.origin.name? = some name → name ≠ "*" ∧ name ≠ "<CJS>"
  star_iff : b.symbol = .star ↔ i.origin = .everything ∨ i.origin.name? = some "*"
  dynamicModule_iff :
    b.symbol = .dynamicModule ↔ i.origin = .result ∨ i.origin.name? = some "<CJS>"

variable {cfg : Setting} {i : Introduction} {b : Binding}

theorem binding?_eq (hi : i.isWanted cfg = true) {declaration : Symbol}
    (h : cfg.resolve i.ident = some declaration) :
    i.binding? cfg = some ⟨i.ident.name, i.path, i.origin.registered, declaration⟩ := by
  rw [binding?, if_pos hi, h]
  rfl

theorem standsFor (h : i.binding? cfg = some b) : i.StandsFor cfg.resolve b := by
  unfold binding? at h
  split at h
  · obtain ⟨declaration, hdeclaration, rfl⟩ := Option.map_eq_some_iff.mp h
    exact ⟨rfl, rfl, hdeclaration, Origin.text_registered, Origin.registered_eq_intended_iff,
      Origin.registered_eq_star_iff, Origin.registered_eq_dynamicModule_iff⟩
  · cases h

end Introduction

/-! ### What a statement offers -/

section Candidates

variable {cfg : Setting} {path : String}

theorem Introduction.binding?_of_excluded {i : Introduction}
    (h : cfg.excludesImport i.path = true) : i.binding? cfg = none := by
  simp [binding?, isWanted, h]

/-- An import offers what it introduces. -/
theorem Setting.imported?_eq (hpath : cfg.excludesImport path = false) {o : Origin}
    (ho : o.isRequired = false) (p : Pat) :
    (cfg.imported? path o.registered p).toList =
      (p.introductions path o).filterMap (·.binding? cfg) := by
  cases p with
  | ident id =>
    by_cases hreserved : isReservedAlias id.name = true
    · simp [imported?, candidate?, Pat.introductions, Introduction.binding?,
        Introduction.isWanted, hreserved]
    · cases hid : cfg.resolve id <;>
        simp [imported?, candidate?, Pat.introductions, Introduction.binding?,
          Introduction.isWanted, hreserved, hpath, ho, hid]
  | array => rfl
  | object => rfl

/-- A name for something that `require` returns is offered. -/
theorem Setting.required?_eq (hpath : cfg.excludesImport path = false) {o : Origin}
    (ho : o.isRequired = true) (id : Ident) :
    cfg.required? path o.registered id = (⟨path, id, o⟩ : Introduction).binding? cfg := by
  by_cases hhelper : id.name.toList.head? = some '_'
  · simp [required?, Introduction.binding?, Introduction.isWanted, hhelper, ho]
  · by_cases hreserved : isReservedAlias id.name = true <;>
      simp [required?, candidate?, Introduction.binding?, Introduction.isWanted, hhelper, ho,
        hreserved, hpath]

theorem Setting.property?_eq (hpath : cfg.excludesImport path = false) (prop : PropPat) :
    (cfg.property? path prop).toList =
      (prop.introductions path).filterMap (·.binding? cfg) := by
  fun_cases PropPat.introductions path prop with
  | case1 key _ id _ =>
    have hrequired := required?_eq hpath (o := .property key) rfl id
    rw [property?, List.filterMap_cons, ← hrequired]
    cases hb : cfg.required? path (.ofText key) id <;> simp [Origin.registered, hb]
  | case2 _ hother =>
    have hnone : cfg.property? path prop = none := by
      rw [property?]
      exact hother
    rw [hnone]
    rfl

/-- What is offered one by one is offered in order. -/
theorem filterMap_eq_of_toList {α β : Type} {f : α → Option Binding} {g : α → List β}
    {k : β → Option Binding} (h : ∀ a, (f a).toList = (g a).filterMap k) (l : List α) :
    l.filterMap f = (l.flatMap g).filterMap k := by
  induction l with
  | nil => rfl
  | cons a l ih =>
    rw [List.flatMap_cons, List.filterMap_append, ← h, ← ih, List.filterMap_cons]
    cases f a <;> rfl

theorem filterMap_flatMap_eq {α β : Type} {f : α → List Binding} {g : α → List β}
    {k : β → Option Binding} (h : ∀ a, f a = (g a).filterMap k) (l : List α) :
    l.flatMap f = (l.flatMap g).filterMap k := by
  induction l with
  | nil => rfl
  | cons a l ih => rw [List.flatMap_cons, List.flatMap_cons, List.filterMap_append, h, ih]

/-- Nothing of an excluded module is registered. -/
theorem filterMap_binding?_of_excluded {l : List Introduction}
    (h : ∀ i ∈ l, cfg.excludesImport i.path = true) : l.filterMap (·.binding? cfg) = [] :=
  List.filterMap_eq_nil_iff.mpr fun i hi => Introduction.binding?_of_excluded (h i hi)

theorem Pat.path_of_mem_introductions {o : Origin} {p : Pat} {i : Introduction}
    (h : i ∈ p.introductions path o) : i.path = path := by
  unfold introductions at h
  split at h
  · rw [List.mem_singleton.mp h]
  · cases h

theorem ImportNames.path_of_mem_introductions {names : ImportNames} {i : Introduction}
    (h : i ∈ names.introductions path) : i.path = path := by
  cases names with
  | all p => exact Pat.path_of_mem_introductions h
  | specific specs =>
    obtain ⟨s, -, hs⟩ := List.mem_flatMap.mp h
    exact Pat.path_of_mem_introductions hs

theorem RequireCall.path_of_mem_introductions {call : RequireCall} {target : Pat}
    {i : Introduction} (h : i ∈ call.introductions target) : i.path = call.path := by
  unfold introductions at h
  split at h
  · rw [List.mem_singleton.mp h]
  · split at h
    · obtain ⟨prop, -, hprop⟩ := List.mem_flatMap.mp h
      unfold PropPat.introductions at hprop
      split at hprop
      · rw [List.mem_singleton.mp hprop]
      · cases hprop
    · cases h
  · cases h

/-- What a call of `require` is bound to. -/
theorem Setting.requiredBy_eq (call : RequireCall) (target : Pat) :
    cfg.requiredBy call target = (call.introductions target).filterMap (·.binding? cfg) := by
  unfold requiredBy
  by_cases hexcluded : cfg.excludesImport call.path = true
  · rw [if_pos hexcluded, filterMap_binding?_of_excluded]
    intro i hi
    rw [RequireCall.path_of_mem_introductions hi, hexcluded]
  · rw [if_neg hexcluded]
    have hpath : cfg.excludesImport call.path = false := Bool.not_eq_true _ ▸ hexcluded
    match target with
    | .ident id =>
      have hrequired : ∀ property, (Origin.ofProperty property).isRequired = true := by
        rintro (_ | _) <;> rfl
      simp only [RequireCall.introductions, ← Origin.registered_ofProperty]
      rw [required?_eq hpath (hrequired _), List.filterMap_cons]
      cases (⟨call.path, id, .ofProperty call.property⟩ : Introduction).binding? cfg <;> rfl
    | .object _ props _ =>
      cases hproperty : call.property with
      | none =>
        simp only [RequireCall.introductions, hproperty, if_true]
        exact filterMap_eq_of_toList (property?_eq hpath) props
      | some property => simp [RequireCall.introductions, hproperty]
    | .array _ _ _ => rfl

theorem Setting.boundBy_eq (b : Binder) :
    cfg.boundBy b = (b.introductions cfg.resolve).filterMap (·.binding? cfg) := by
  unfold boundBy Binder.introductions
  cases b.init.bind (·.requireCall? cfg.resolve) with
  | none => rfl
  | some call => simpa using requiredBy_eq call b.target

theorem Setting.assignedBy_eq (left right : Expr) : cfg.assignedBy left right =
    (assignedIntroductions cfg.resolve left right).filterMap (·.binding? cfg) := by
  unfold assignedBy assignedIntroductions
  by_cases hexports : left.isModuleExports cfg.resolve = true
  · rw [if_pos hexports]
    cases left <;> first | rfl | exact absurd hexports Bool.false_ne_true
  · rw [if_neg hexports]
    split
    · next id call hcall => simpa [hcall] using requiredBy_eq call (.ident id)
    · next hother =>
      split
      · next id =>
        cases hcall : right.requireCall? cfg.resolve with
        | none => rfl
        | some call => exact (hother id call rfl hcall).elim
      · rfl

theorem Setting.importedBy_eq (hpath : cfg.excludesImport path = false)
    (names : Option ImportNames) : cfg.importedBy path names =
      (names.toList.flatMap (·.introductions path)).filterMap (·.binding? cfg) := by
  match names with
  | none => rfl
  | some (.all p) =>
    rw [Option.toList_some, List.flatMap_singleton]
    exact imported?_eq hpath (o := .everything) rfl p
  | some (.specific specs) =>
    rw [Option.toList_some, List.flatMap_singleton]
    exact filterMap_eq_of_toList
      (fun s => imported?_eq hpath (o := .imported s.imported.text) rfl s.target) specs

/-- **What a statement offers** are the bindings for the names that it introduces. -/
theorem Stmt.candidates_eq (s : Stmt) :
    s.candidates cfg = (s.introductions cfg.resolve).filterMap (·.binding? cfg) := by
  fun_cases candidates cfg s with
  | case1 loc default names path hexcluded =>
    rw [introductions, filterMap_binding?_of_excluded]
    intro i hi
    have hpath : i.path = path := by
      rcases List.mem_append.mp hi with hi | hi
      · obtain ⟨p, -, hp⟩ := List.mem_flatMap.mp hi
        exact Pat.path_of_mem_introductions hp
      · obtain ⟨ns, -, hns⟩ := List.mem_flatMap.mp hi
        exact ImportNames.path_of_mem_introductions hns
    rw [hpath, hexcluded]
  | case2 loc default names path hincluded =>
    have hpath : cfg.excludesImport path = false := Bool.not_eq_true _ ▸ hincluded
    rw [introductions, List.filterMap_append, ← Setting.importedBy_eq hpath]
    exact congrArg (· ++ _) (filterMap_eq_of_toList
      (fun p => Setting.imported?_eq hpath (o := .default) rfl p) default.toList)
  | case3 loc isExported mode binders => exact filterMap_flatMap_eq Setting.boundBy_eq _
  | case4 loc loc' left right => exact Setting.assignedBy_eq _ _
  | case5 _ hi hv ha =>
    have hnone : s.introductions cfg.resolve = [] := by
      rw [introductions]
      · exact hi
      · exact hv
      · exact ha
    rw [hnone]
    rfl

end Candidates

/-! ### What is registered -/

/-- **The symbols of an instrumented module.**  Every binding stands for a name that a statement
introduces.  It is registered as all exports only if the name stands for all of them, or for an
export of the name `*`, and as a whole module only if the name stands for the result of `require`,
or for an export of the name `<CJS>`.  Every other export is registered under its name.  And every
wanted name with a declaration is registered, if nothing else is introduced for the declaration as
what it stands for. -/
theorem instrumented_symbols {p q : Program} {resolve : Resolver} {place : Option String}
    {options : Options} {bs : List Binding}
    (h : p.instrument resolve place options = .ok (.instrumented bs, q)) :
    (∀ b ∈ bs, ∃ s ∈ p.body, ∃ i ∈ s.introductions resolve, i.StandsFor resolve b) ∧
      ∀ s ∈ p.body, ∀ i ∈ s.introductions resolve,
        i.isWanted ⟨resolve, options.excludesImport⟩ = true →
        ∀ declaration, resolve i.ident = some declaration →
          ∃ b ∈ bs, b.declaration = declaration ∧
            ((∀ s' ∈ p.body, ∀ j ∈ s'.introductions resolve,
              resolve j.ident = some declaration → j = i) → i.StandsFor resolve b) := by
  obtain ⟨d, hd, -, rfl, -⟩ := Program.instrument_eq h
  have hdesc := Discovery.describes_ofBody hd
  have hstands : ∀ b ∈ d.bindings, ∃ s ∈ p.body, ∃ i ∈ s.introductions resolve,
      i.StandsFor resolve b := by
    intro b hb
    obtain ⟨f, hf, rfl⟩ := List.mem_map.mp hb
    obtain ⟨⟨s, hs, hcand⟩, -⟩ := hdesc.own f hf
    rw [Stmt.candidates_eq, List.mem_filterMap] at hcand
    obtain ⟨i, hi, hbinding⟩ := hcand
    exact ⟨s, List.mem_of_getElem? hs, i, hi, i.standsFor hbinding⟩
  refine ⟨hstands, fun s hs i hi hwanted declaration hdeclaration => ?_⟩
  have hcand : (⟨i.ident.name, i.path, i.origin.registered, declaration⟩ : Binding) ∈
      s.candidates ⟨resolve, options.excludesImport⟩ := by
    rw [Stmt.candidates_eq, List.mem_filterMap]
    exact ⟨i, hi, i.binding?_eq hwanted hdeclaration⟩
  obtain ⟨b, hb, hsame⟩ := List.mem_map.mp (hdesc.complete s hs _ hcand)
  refine ⟨b, hb, hsame, fun hsole => ?_⟩
  obtain ⟨s', hs', j, hj, hjstands⟩ := hstands b hb
  have hjdeclaration : resolve j.ident = some declaration := by
    rw [hjstands.declaration, hsame]
  rwa [hsole s' hs' j hj hjdeclaration] at hjstands

/-- A module that introduces names in every way. -/
def everyOriginSource : String :=
  "import d, \x7ba, 'b c' as e, default as f\x7d from 'm'; import * as n from 'o'; " ++
    "const r = require('p'), \x7bs, 't': u\x7d = require('q'), v = require('w')['x'], g = " ++
    "require('y')[1.0]; var z; z = require('w').default;"

theorem everyOriginSource_symbols :
    ∃ p q bs, Program.parse everyOriginSource = .ok p ∧
      p.analyse.1.instrument p.analyse.2.symbolOf? none {} = .ok (.instrumented bs, q) ∧
      bs.map (·.symbol) = [.default, .named "a", .named "b c", .default, .star, .dynamicModule,
        .named "s", .named "t", .named "x", .named "1", .default] ∧
      ∀ b ∈ bs, ∃ s ∈ p.analyse.1.body, ∃ i ∈ s.introductions p.analyse.2.symbolOf?,
        i.StandsFor p.analyse.2.symbolOf? b := by
  have hspelled : everyOriginSource = String.ofList _ :=
    spelled_append (spelled_append rfl rfl) rfl
  have hsource : (instrumented? everyOriginSource).any (fun (_, bs, _) =>
      bs.map (·.symbol) = [.default, .named "a", .named "b c", .default, .star, .dynamicModule,
        .named "s", .named "t", .named "x", .named "1", .default]) := by
    rw [instrumented?_of_spelled hspelled]
    decide +kernel
  obtain ⟨⟨p, bs, q⟩, hpq, hsymbols⟩ := (Option.any_eq_true _ _).mp hsource
  obtain ⟨hp, hq⟩ := of_instrumented? hpq
  exact ⟨p, q, bs, hp, hq, of_decide_eq_true hsymbols, (instrumented_symbols hq).1⟩

/-- A module that imports one export by a name that stands for all exports, and takes another one
from the result of `require` by a name that stands for the result. -/
def sentinelSource : String := "import \x7b'*' as x\x7d from 'm'; const y = require('m')['<CJS>'];"

/-- Both are taken for whole modules, although the module introduces no name for one. -/
theorem sentinelSource_collides :
    ∃ p q bs, Program.parse sentinelSource = .ok p ∧
      p.analyse.1.instrument p.analyse.2.symbolOf? none {} = .ok (.instrumented bs, q) ∧
      bs.map (·.symbol) = [.star, .dynamicModule] ∧
      ∀ s ∈ p.analyse.1.body, ∀ i ∈ s.introductions p.analyse.2.symbolOf?,
        i.origin ≠ .everything ∧ i.origin ≠ .result := by
  have hspelled : sentinelSource = String.ofList _ := rfl
  have hsource : (instrumented? sentinelSource).any (fun (p, bs, _) =>
      decide (bs.map (·.symbol) = [.star, .dynamicModule]) &&
        p.analyse.1.body.all fun s => (s.introductions p.analyse.2.symbolOf?).all fun i =>
          i.origin ≠ .everything ∧ i.origin ≠ .result) := by
    rw [instrumented?_of_spelled hspelled]
    decide +kernel
  obtain ⟨⟨p, bs, q⟩, hpq, hboth⟩ := (Option.any_eq_true _ _).mp hsource
  obtain ⟨hp, hq⟩ := of_instrumented? hpq
  obtain ⟨hsymbols, hall⟩ := (Bool.and_eq_true _ _).mp hboth
  refine ⟨p, q, bs, hp, hq, of_decide_eq_true hsymbols, fun s hs i hi => ?_⟩
  exact of_decide_eq_true (List.all_eq_true.mp (List.all_eq_true.mp hall s hs) i hi)

end ImportSeam
