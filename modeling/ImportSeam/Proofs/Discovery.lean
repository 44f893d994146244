import ImportSeam.Instrument.Module
import Mathlib.Data.List.Induction
import Mathlib.Data.List.Nodup
import Mathlib.Tactic.Set

/-!
# What discovery finds

Discovery walks over the statements of a module and collects bindings one by one.  Here it is
compared with a description that does not walk: every statement offers a list of candidates, and a
binding is found at the first statement that offers its declaration.

## Main definitions

* `Stmt.candidates` — the bindings that a statement offers.
* `OwnStmt` — the statement that introduces a binding.
* `Discovery.Describes` — a discovery that says the truth about a list of statements.

## Main results

* `Discovery.addStmt_eq` — what one statement adds to a discovery.
* `Discovery.describes_ofBody` — discovery says the truth about every module.
* `Discovery.anchor_of_found` — where something is found, there is an anchor.
-/

namespace ImportSeam

/-- Whether a statement is an import. -/
def Stmt.isImport : Stmt → Bool
  | .importDecl .. => true
  | _ => false

/-! ### Candidates -/

namespace Setting

/-- The binding that a declared name stands for.  The names of operations of the registry stand for
none. -/
def candidate? (cfg : Setting) (path : String) (symbol : Export) (id : Ident) : Option Binding :=
  if isReservedAlias id.name then none
  else (cfg.resolve id).map fun declaration => ⟨id.name, path, symbol, declaration⟩

/-- The binding that an imported name stands for. -/
def imported? (cfg : Setting) (path : String) (symbol : Export) : Pat → Option Binding
  | .ident id => cfg.candidate? path symbol id
  | _ => none

/-- The binding that a name for the result of `require` stands for. -/
def required? (cfg : Setting) (path : String) (symbol : Export) (id : Ident) : Option Binding :=
  if id.name.toList.head? = some '_' then none else cfg.candidate? path symbol id

/-- The binding that a property taken from the result of `require` stands for. -/
def property? (cfg : Setting) (path : String) : PropPat → Option Binding
  | ⟨.direct key _, ⟨.ident id, none⟩, _⟩ => cfg.required? path (.ofText key) id
  | _ => none

/-- The bindings that a pattern for the result of `require` stands for. -/
def requiredBy (cfg : Setting) (call : RequireCall) (target : Pat) : List Binding :=
  if cfg.excludesImport call.path then []
  else
    match target, call.property with
    | .ident id, property =>
      (cfg.required? call.path (Discovery.requiredSymbol property) id).toList
    | .object _ props _, none => props.filterMap (cfg.property? call.path)
    | _, _ => []

/-- The bindings that an import list stands for. -/
def importedBy (cfg : Setting) (path : String) : Option ImportNames → List Binding
  | none => []
  | some (.all p) => (cfg.imported? path .star p).toList
  | some (.specific specs) =>
    specs.filterMap fun s => cfg.imported? path (.ofText s.imported.text) s.target

/-- The bindings that a variable with its value stands for. -/
def boundBy (cfg : Setting) (b : Binder) : List Binding :=
  match b.init.bind (·.requireCall? cfg.resolve) with
  | some call => cfg.requiredBy call b.target
  | none => []

/-- The bindings that an assignment stands for. -/
def assignedBy (cfg : Setting) (left right : Expr) : List Binding :=
  if left.isModuleExports cfg.resolve then []
  else
    match left, right.requireCall? cfg.resolve with
    | .target (.ident id), some call => cfg.requiredBy call (.ident id)
    | _, _ => []

end Setting

/-- The bindings that a statement offers, in the order in which they stand. -/
def Stmt.candidates (cfg : Setting) : Stmt → List Binding
  | .importDecl _ default names path =>
    if cfg.excludesImport path then []
    else default.toList.filterMap (cfg.imported? path .default) ++ cfg.importedBy path names
  | .varDecl _ _ _ binders => binders.flatMap cfg.boundBy
  | .expr _ (.binary _ .assign left right) => cfg.assignedBy left right
  | _ => []

/-- The statement that introduces a binding: it offers it, and no statement before it offers the
declaration. -/
def OwnStmt (cfg : Setting) (body : List Stmt) (b : Binding) (k : Nat) : Prop :=
  (∃ s, body[k]? = some s ∧ b ∈ s.candidates cfg) ∧
    ∀ j < k, ∀ s, body[j]? = some s → ∀ c ∈ s.candidates cfg, c.declaration ≠ b.declaration

/-- The index of the last import. -/
def IsLastImport (body : List Stmt) (k : Nat) : Prop :=
  (∃ s, body[k]? = some s ∧ s.isImport) ∧
    ∀ j, k < j → ∀ s, body[j]? = some s → ¬ s.isImport

namespace Discovery

/-! ### What one statement adds -/

/-- The candidates whose declarations are not known yet, each declaration once. -/
def fresh (known : List Symbol) : List Binding → List Binding
  | [] => []
  | b :: bs =>
    if b.declaration ∈ known then fresh known bs
    else b :: fresh (known ++ [b.declaration]) bs

theorem fresh_append (known : List Symbol) (bs cs : List Binding) :
    fresh known (bs ++ cs) =
      fresh known bs ++ fresh (known ++ (fresh known bs).map (·.declaration)) cs := by
  induction bs generalizing known with
  | nil => simp [fresh]
  | cons b bs ih =>
    by_cases h : b.declaration ∈ known
    · simp [fresh, h, ih]
    · simp [fresh, h, ih, List.append_assoc]

theorem fresh_sublist (known : List Symbol) (bs : List Binding) :
    (fresh known bs).Sublist bs := by
  induction bs generalizing known with
  | nil => exact List.Sublist.slnil
  | cons b bs ih =>
    by_cases h : b.declaration ∈ known
    · simpa [fresh, h] using (ih known).cons b
    · simpa [fresh, h] using (ih (known ++ [b.declaration])).cons_cons b

theorem declaration_mem_of_mem_fresh {known : List Symbol} {bs : List Binding} {b : Binding}
    (h : b ∈ fresh known bs) : b.declaration ∉ known := by
  induction bs generalizing known with
  | nil => simp [fresh] at h
  | cons c bs ih =>
    by_cases hc : c.declaration ∈ known
    · rw [fresh, if_pos hc] at h
      exact ih h
    · rw [fresh, if_neg hc, List.mem_cons] at h
      obtain rfl | h := h
      · exact hc
      · exact fun hb => ih h (List.mem_append_left _ hb)

theorem nodup_fresh (known : List Symbol) (bs : List Binding) :
    ((fresh known bs).map (·.declaration)).Nodup := by
  induction bs generalizing known with
  | nil => simp [fresh]
  | cons b bs ih =>
    by_cases h : b.declaration ∈ known
    · simpa [fresh, h] using ih known
    · rw [fresh, if_neg h, List.map_cons, List.nodup_cons]
      refine ⟨fun hb => ?_, ih _⟩
      obtain ⟨c, hc, hcb⟩ := List.mem_map.mp hb
      exact declaration_mem_of_mem_fresh hc (by simp [hcb])

/-- Nothing is lost: the declaration of every candidate is known or fresh. -/
theorem declaration_mem_fresh {known : List Symbol} {bs : List Binding} {b : Binding}
    (h : b ∈ bs) : b.declaration ∈ known ++ (fresh known bs).map (·.declaration) := by
  induction bs generalizing known with
  | nil => simp at h
  | cons c bs ih =>
    by_cases hc : c.declaration ∈ known
    · rw [fresh, if_pos hc]
      obtain rfl | h := List.mem_cons.mp h
      · exact List.mem_append_left _ hc
      · exact ih h
    · rw [fresh, if_neg hc]
      obtain rfl | h := List.mem_cons.mp h
      · simp
      · have hb := @ih (known ++ [c.declaration]) h
        simpa using hb

/-- The declarations that are registered. -/
def declarations (d : Discovery) : List Symbol := d.bindings.map (·.declaration)

theorem registers_iff (d : Discovery) (s : Symbol) : d.registers s = true ↔ s ∈ d.declarations := by
  simp [registers, declarations]

/-- A discovery with the fresh ones among some candidates of an import. -/
def extend (d : Discovery) (stmt : Nat) (bs : List Binding) : Discovery :=
  { d with found := d.found ++ (fresh d.declarations bs).map (⟨·, stmt⟩) }

/-- A discovery with the fresh ones among some candidates of a call of `require`. -/
def require (d : Discovery) (stmt : Nat) (bs : List Binding) : Discovery :=
  { d.extend stmt bs with
    lastRequire := if fresh d.declarations bs = [] then d.lastRequire else some stmt }

theorem declarations_extend (d : Discovery) (stmt : Nat) (bs : List Binding) :
    (d.extend stmt bs).declarations =
      d.declarations ++ (fresh d.declarations bs).map (·.declaration) := by
  simp [extend, declarations, bindings, Function.comp_def]

@[simp] theorem extend_nil (d : Discovery) (stmt : Nat) : d.extend stmt [] = d := by
  simp [extend, fresh]

@[simp] theorem require_nil (d : Discovery) (stmt : Nat) : d.require stmt [] = d := by
  simp [require, fresh]

theorem extend_extend (d : Discovery) (stmt : Nat) (bs cs : List Binding) :
    (d.extend stmt bs).extend stmt cs = d.extend stmt (bs ++ cs) := by
  rw [extend, declarations_extend]
  simp [extend, fresh_append]

theorem require_require (d : Discovery) (stmt : Nat) (bs cs : List Binding) :
    (d.require stmt bs).require stmt cs = d.require stmt (bs ++ cs) := by
  have hd : (d.require stmt bs).declarations =
      d.declarations ++ (fresh d.declarations bs).map (·.declaration) :=
    declarations_extend d stmt bs
  have hf : ((d.require stmt bs).extend stmt cs).found = (d.extend stmt (bs ++ cs)).found := by
    rw [← extend_extend]
    rfl
  have hr : ((d.require stmt bs).require stmt cs).lastRequire =
      (d.require stmt (bs ++ cs)).lastRequire := by
    change (if fresh (d.require stmt bs).declarations cs = [] then _ else _) = _
    rw [hd, require, require, fresh_append]
    split <;> simp [*]
  exact Discovery.mk.injEq .. |>.mpr ⟨hf, rfl, hr, rfl⟩

theorem add?_eq (cfg : Setting) (d : Discovery) (stmt : Nat) (id : Ident) (path : String)
    (symbol : Export) :
    d.add? cfg stmt id path symbol =
      (cfg.candidate? path symbol id).bind fun b =>
        if b.declaration ∈ d.declarations then none
        else some { d with found := d.found ++ [⟨b, stmt⟩] } := by
  unfold add? Setting.candidate?
  by_cases hr : isReservedAlias id.name
  · simp [hr]
  · cases hs : cfg.resolve id with
    | none => simp [hr]
    | some s =>
      by_cases hd : s ∈ d.declarations
      · simp [hr, hd, (registers_iff d s).mpr hd]
      · have hreg : d.registers s = false := by
          simpa using fun h => hd ((registers_iff d s).mp h)
        simp [hr, hd, hreg]

theorem add?_getD (cfg : Setting) (d : Discovery) (stmt : Nat) (id : Ident) (path : String)
    (symbol : Export) :
    (d.add? cfg stmt id path symbol).getD d =
      d.extend stmt (cfg.candidate? path symbol id).toList := by
  rw [add?_eq]
  cases cfg.candidate? path symbol id with
  | none => simp
  | some b => by_cases hd : b.declaration ∈ d.declarations <;> simp [extend, fresh, hd]

/-! #### Imports -/

theorem addImported_eq {cfg : Setting} {d d' : Discovery} {stmt : Nat} {path : String}
    {symbol : Export} {p : Pat} (h : d.addImported cfg stmt path symbol p = .ok d') :
    d' = d.extend stmt (cfg.imported? path symbol p).toList := by
  cases p with
  | ident id =>
    rw [Setting.imported?, ← add?_getD]
    exact (Except.ok.inj h).symm
  | array => simp [addImported, throw, throwThe, MonadExceptOf.throw] at h
  | object => simp [addImported, throw, throwThe, MonadExceptOf.throw] at h

theorem addSpecs_eq {cfg : Setting} {d d' : Discovery} {stmt : Nat} {path : String}
    {specs : List ImportSpec} (h : d.addSpecs cfg stmt path specs = .ok d') :
    d' = d.extend stmt (cfg.importedBy path (some (.specific specs))) := by
  induction specs generalizing d with
  | nil => simpa [Setting.importedBy] using (Except.ok.inj h).symm
  | cons s specs ih =>
    rw [addSpecs, List.foldlM_cons] at h
    cases hs : d.addImported cfg stmt path (.ofText s.imported.text) s.target with
    | error e => simp [hs, bind, Except.bind] at h
    | ok d₁ =>
      rw [hs] at h
      rw [ih (d := d₁) h, addImported_eq hs, extend_extend, Setting.importedBy,
        Setting.importedBy, List.filterMap_cons]
      cases cfg.imported? path (.ofText s.imported.text) s.target <;> rfl

theorem addNames_eq {cfg : Setting} {d d' : Discovery} {stmt : Nat} {path : String}
    {names : Option ImportNames} (h : d.addNames cfg stmt path names = .ok d') :
    d' = d.extend stmt (cfg.importedBy path names) := by
  match names with
  | none => simpa [Setting.importedBy] using (Except.ok.inj h).symm
  | some (.all p) => exact addImported_eq h
  | some (.specific specs) => exact addSpecs_eq h

theorem addImport_eq {cfg : Setting} {d d' : Discovery} {stmt : Nat} {loc : Loc}
    {default : Option Pat} {names : Option ImportNames} {path : String}
    (h : d.addImport cfg stmt default names path = .ok d') :
    d' = { d with lastImport := some stmt }.extend stmt
      ((Stmt.importDecl loc default names path).candidates cfg) := by
  unfold addImport at h
  rw [Stmt.candidates]
  by_cases hx : cfg.excludesImport path
  · simpa [hx, pure, Except.pure] using h.symm
  · simp only [hx] at h
    cases default with
    | none => simpa [hx] using addNames_eq h
    | some p =>
      cases hp : { d with lastImport := some stmt }.addImported cfg stmt path .default p with
      | error e => simp [hp, bind, Except.bind] at h
      | ok d₁ =>
        simp only [hp] at h
        rw [addNames_eq h, addImported_eq hp, extend_extend]
        cases hi : cfg.imported? path .default p <;> simp [hx, hi]

/-! #### Calls of `require` -/

theorem addRequired_eq (cfg : Setting) (d : Discovery) (stmt : Nat) (id : Ident) (path : String)
    (symbol : Export) :
    d.addRequired cfg stmt id path symbol =
      d.require stmt (cfg.required? path symbol id).toList := by
  unfold addRequired Setting.required?
  by_cases hu : id.name.toList.head? = some '_'
  · simp [hu]
  · rw [if_neg hu, if_neg hu, add?_eq]
    cases cfg.candidate? path symbol id with
    | none => simp
    | some b => by_cases hd : b.declaration ∈ d.declarations <;> simp [require, extend, fresh, hd]

theorem addProps_eq (cfg : Setting) (d : Discovery) (stmt : Nat) (path : String)
    (props : List PropPat) :
    d.addProps cfg stmt path props = d.require stmt (props.filterMap (cfg.property? path)) := by
  induction props generalizing d with
  | nil => simp [addProps]
  | cons prop props ih =>
    have hstep : ∀ d : Discovery, d.addProps cfg stmt path [prop] =
        d.require stmt (cfg.property? path prop).toList := by
      intro d
      unfold addProps Setting.property?
      rw [List.foldl_cons, List.foldl_nil]
      split
      · exact addRequired_eq ..
      · simp
    have hcons : d.addProps cfg stmt path (prop :: props) =
        (d.addProps cfg stmt path [prop]).addProps cfg stmt path props := rfl
    rw [hcons, hstep, ih, require_require]
    cases hp : cfg.property? path prop <;> simp [hp]

theorem addRequire_eq (cfg : Setting) (d : Discovery) (stmt : Nat) (target : Pat)
    (call : RequireCall) :
    d.addRequire cfg stmt target call = d.require stmt (cfg.requiredBy call target) := by
  unfold addRequire Setting.requiredBy
  by_cases hx : cfg.excludesImport call.path
  · simp [hx]
  · rw [if_neg hx, if_neg hx]
    match target, call.property with
    | .ident id, property => exact addRequired_eq ..
    | .object _ props _, none => exact addProps_eq ..
    | .object _ props _, some _ | .array _ _ _, _ => simp

theorem addBinders_eq (cfg : Setting) (d : Discovery) (stmt : Nat) (binders : List Binder) :
    d.addBinders cfg stmt binders = d.require stmt (binders.flatMap cfg.boundBy) := by
  induction binders generalizing d with
  | nil => simp [addBinders]
  | cons b binders ih =>
    have hstep : ∀ d : Discovery, d.addBinders cfg stmt [b] =
        d.require stmt (cfg.boundBy b) := by
      intro d
      rw [addBinders, Setting.boundBy, List.foldl_cons, List.foldl_nil]
      cases b.init.bind (·.requireCall? cfg.resolve) with
      | some call => exact addRequire_eq ..
      | none => simp
    have hcons : d.addBinders cfg stmt (b :: binders) =
        (d.addBinders cfg stmt [b]).addBinders cfg stmt binders := rfl
    rw [hcons, hstep, ih, require_require, List.flatMap_cons]

theorem addAssignment_eq (cfg : Setting) (d : Discovery) (stmt : Nat) (left right : Expr) :
    d.addAssignment cfg stmt left right =
      { d.require stmt (cfg.assignedBy left right) with
        assignsExports := left.isModuleExports cfg.resolve || d.assignsExports } := by
  unfold addAssignment Setting.assignedBy
  by_cases hx : left.isModuleExports cfg.resolve
  · simp [hx]
  · rw [if_neg hx, if_neg hx]
    simp only [hx, Bool.false_or]
    split
    · simp [*, addRequire_eq, require, extend]
    · simp

/-- Whether a statement replaces the object that the module exports. -/
def replacesExports (cfg : Setting) : Stmt → Bool
  | .expr _ (.binary _ .assign left _) => left.isModuleExports cfg.resolve
  | _ => false

/-- **What one statement adds**: the fresh ones among its candidates.  An import is then the last
import, and another statement with something fresh is the last call of `require`. -/
theorem addStmt_eq {cfg : Setting} {d d' : Discovery} {stmt : Nat} {s : Stmt}
    (h : d.addStmt cfg stmt s = .ok d') :
    d' = { d.extend stmt (s.candidates cfg) with
      lastImport := if s.isImport then some stmt else d.lastImport
      lastRequire :=
        if s.isImport ∨ fresh d.declarations (s.candidates cfg) = [] then d.lastRequire
        else some stmt
      assignsExports := replacesExports cfg s || d.assignsExports } := by
  unfold addStmt at h
  split at h
  · rw [addImport_eq h]
    simp [Stmt.isImport, replacesExports]
    rfl
  · rw [← Except.ok.inj h, addBinders_eq]
    simp [Stmt.isImport, Stmt.candidates, replacesExports, require, extend]
  · rw [← Except.ok.inj h, addAssignment_eq]
    simp [Stmt.isImport, Stmt.candidates, replacesExports, require, extend]
  · rename_i hi hv ha
    have hc : s.candidates cfg = [] := by
      unfold Stmt.candidates
      split
      · exact (hi _ _ _ _ rfl).elim
      · exact (hv _ _ _ _ rfl).elim
      · exact (ha _ _ _ _ rfl).elim
      · rfl
    have hne : s.isImport = false := by
      unfold Stmt.isImport
      split
      · exact (hi _ _ _ _ rfl).elim
      · rfl
    have hx : replacesExports cfg s = false := by
      unfold replacesExports
      split
      · exact (ha _ _ _ _ rfl).elim
      · rfl
    rw [← Except.ok.inj h, hc, hne, hx]
    simp [fresh]

/-! ### What a run of statements adds -/

/-- A discovery that says the truth about a list of statements. -/
structure Describes (cfg : Setting) (body : List Stmt) (d : Discovery) : Prop where
  own : ∀ f ∈ d.found, OwnStmt cfg body f.binding f.stmt
  sorted : d.found.Pairwise fun f g => f.stmt ≤ g.stmt
  nodup : d.declarations.Nodup
  complete : ∀ s ∈ body, ∀ b ∈ s.candidates cfg, b.declaration ∈ d.declarations
  lastImport_iff : ∀ k, d.lastImport = some k ↔ IsLastImport body k
  lastImport_none : d.lastImport = none ↔ ∀ s ∈ body, ¬ s.isImport
  /-- Without imports, the last call of `require` is where the last binding was found. -/
  lastRequire : (∀ s ∈ body, ¬ s.isImport) → d.lastRequire = d.found.getLast?.map (·.stmt)

theorem describes_nil (cfg : Setting) : Describes cfg [] {} := by
  constructor <;> simp [declarations, bindings, IsLastImport]

/-- The index of a statement of a longer list is that of a statement before or the last one. -/
theorem getElem?_append_singleton {body : List Stmt} {s t : Stmt} {k : Nat}
    (h : (body ++ [s])[k]? = some t) : body[k]? = some t ∨ k = body.length ∧ t = s := by
  rw [List.getElem?_append] at h
  split at h
  · exact .inl h
  · rw [List.getElem?_singleton] at h
    split at h
    · exact .inr ⟨by omega, (Option.some.inj h).symm⟩
    · exact absurd h (by simp)

theorem OwnStmt.append {cfg : Setting} {body : List Stmt} {b : Binding} {k : Nat}
    (h : OwnStmt cfg body b k) (s : Stmt) : OwnStmt cfg (body ++ [s]) b k := by
  obtain ⟨⟨t, ht, hb⟩, hfirst⟩ := h
  have hk : k < body.length := (List.getElem?_eq_some_iff.mp ht).1
  refine ⟨⟨t, by rw [List.getElem?_append_left hk, ht], hb⟩, fun j hj t ht => ?_⟩
  rw [List.getElem?_append_left (by omega)] at ht
  exact hfirst j hj t ht

theorem isLastImport_append {body : List Stmt} {s : Stmt} {k : Nat} :
    IsLastImport (body ++ [s]) k ↔
      if s.isImport then k = body.length else IsLastImport body k := by
  constructor
  · rintro ⟨⟨t, ht, hi⟩, hlast⟩
    have hend : (body ++ [s])[body.length]? = some s := by simp
    obtain ht' | ⟨rfl, rfl⟩ := getElem?_append_singleton ht
    · have hk : k < body.length := (List.getElem?_eq_some_iff.mp ht').1
      rw [if_neg (hlast _ hk _ hend)]
      refine ⟨⟨t, ht', hi⟩, fun j hj u hu => hlast j hj u ?_⟩
      rw [List.getElem?_append_left (List.getElem?_eq_some_iff.mp hu).1, hu]
    · rw [if_pos hi]
  · split
    · rintro rfl
      refine ⟨⟨s, by simp, ‹_›⟩, fun j hj t ht => ?_⟩
      have hlt := (List.getElem?_eq_some_iff.mp ht).1
      simp only [List.length_append, List.length_singleton] at hlt
      omega
    · rintro ⟨⟨t, ht, hi⟩, hlast⟩
      have hk : k < body.length := (List.getElem?_eq_some_iff.mp ht).1
      refine ⟨⟨t, by rw [List.getElem?_append_left hk, ht], hi⟩, fun j hj u hu => ?_⟩
      obtain hu | ⟨rfl, rfl⟩ := getElem?_append_singleton hu
      · exact hlast j hj u hu
      · assumption

/-- **One step**: a discovery stays true when the next statement is added. -/
theorem Describes.addStmt {cfg : Setting} {body : List Stmt} {d d' : Discovery} {s : Stmt}
    (hd : Describes cfg body d) (h : d.addStmt cfg body.length s = .ok d') :
    Describes cfg (body ++ [s]) d' := by
  obtain rfl := addStmt_eq h
  set new := fresh d.declarations (s.candidates cfg) with hnew
  have hdecl : ∀ i r x, declarations ⟨d.found ++ new.map (⟨·, body.length⟩), i, r, x⟩ =
      d.declarations ++ new.map (·.declaration) := by
    intro i r x
    simp [declarations, bindings, Function.comp_def]
  constructor
  case own =>
    intro f hf
    obtain hf | hf := List.mem_append.mp hf
    · exact OwnStmt.append (hd.own f hf) s
    · -- A fresh binding: what stands before offers only declarations that are known.
      obtain ⟨b, hb, rfl⟩ := List.mem_map.mp hf
      refine ⟨⟨s, by simp, (fresh_sublist _ _).subset hb⟩, fun j hj t ht c hc hcb => ?_⟩
      rw [List.getElem?_append_left hj] at ht
      refine declaration_mem_of_mem_fresh hb ?_
      rw [← hcb]
      exact hd.complete t (List.mem_of_getElem? ht) c hc
  case sorted =>
    refine List.pairwise_append.mpr ⟨hd.sorted, ?_, fun f hf g hg => ?_⟩
    · exact List.pairwise_map.mpr (List.pairwise_of_forall fun _ _ => Nat.le_refl _)
    · obtain ⟨b, -, rfl⟩ := List.mem_map.mp hg
      obtain ⟨⟨t, ht, -⟩, -⟩ := hd.own f hf
      exact Nat.le_of_lt (List.getElem?_eq_some_iff.mp ht).1
  case nodup =>
    refine (hdecl _ _ _).symm ▸ List.nodup_append.mpr ⟨hd.nodup, nodup_fresh _ _, ?_⟩
    intro x hx y hy hxy
    obtain ⟨b, hb, rfl⟩ := List.mem_map.mp hy
    exact declaration_mem_of_mem_fresh hb (hxy ▸ hx)
  case complete =>
    intro t ht b hb
    rw [extend, hdecl]
    obtain ht | ht := List.mem_append.mp ht
    · exact List.mem_append_left _ (hd.complete t ht b hb)
    · rw [List.mem_singleton.mp ht] at hb
      exact declaration_mem_fresh hb
  case lastImport_iff =>
    intro k
    rw [isLastImport_append]
    split
    · simp [eq_comm]
    · exact hd.lastImport_iff k
  case lastImport_none =>
    by_cases hi : s.isImport
    · simp [hi]
    · simpa [hi, or_imp, forall_and] using hd.lastImport_none
  case lastRequire =>
    intro hno
    have hbody : ∀ t ∈ body, ¬ t.isImport := fun t ht => hno t (List.mem_append_left _ ht)
    have hs : ¬ s.isImport := hno s (by simp)
    simp only [extend, hs, Bool.false_eq_true, false_or, ← hnew]
    by_cases hempty : new = []
    · simp [hempty, hd.lastRequire hbody]
    · rw [if_neg hempty, List.getLast?_append, List.getLast?_map,
        List.getLast?_eq_getLast_of_ne_nil hempty]
      rfl

/-- Discovery goes over the statements one after another. -/
theorem ofBody_append {cfg : Setting} {body : List Stmt} {s : Stmt} {d' : Discovery}
    (h : ofBody cfg (body ++ [s]) = .ok d') :
    ∃ d, ofBody cfg body = .ok d ∧ d.addStmt cfg body.length s = .ok d' := by
  have hsplit : ofBody cfg (body ++ [s]) =
      (ofBody cfg body).bind fun d => d.addStmt cfg body.length s := by
    simp only [ofBody, List.zipIdx_append, List.foldlM_append, List.zipIdx_singleton, Nat.zero_add,
      List.foldlM_cons, List.foldlM_nil, bind_pure]
    rfl
  rw [hsplit] at h
  cases hb : ofBody cfg body with
  | error e => simp [hb, Except.bind] at h
  | ok d =>
    rw [hb] at h
    exact ⟨d, rfl, h⟩

/-- **Every run**: discovery says the truth about the whole module. -/
theorem describes_ofBody {cfg : Setting} {body : List Stmt} {d : Discovery}
    (h : ofBody cfg body = .ok d) : Describes cfg body d := by
  induction body using List.reverseRecOn generalizing d with
  | nil =>
    rw [← Except.ok.inj h]
    exact describes_nil cfg
  | append_singleton body s ih =>
    obtain ⟨d₁, hb, hs⟩ := ofBody_append h
    exact (ih hb).addStmt hs

/-- Where something is found, there is an anchor: without imports it is the statement where the last
binding was found. -/
theorem anchor_of_found {cfg : Setting} {body : List Stmt} {d : Discovery}
    (hd : Describes cfg body d) (hne : d.found ≠ []) :
    ∃ k, d.anchor = some k ∧ (IsLastImport body k ∨ (∀ s ∈ body, ¬ s.isImport) ∧
      ∃ f, d.found.getLast? = some f ∧ f.stmt = k) := by
  cases hi : d.lastImport with
  | some k => exact ⟨k, by simp [anchor, hi], .inl ((hd.lastImport_iff k).mp hi)⟩
  | none =>
    have hno := hd.lastImport_none.mp hi
    have hlast := List.getLast?_eq_getLast_of_ne_nil hne
    refine ⟨(d.found.getLast hne).stmt, ?_, .inr ⟨hno, _, hlast, rfl⟩⟩
    rw [anchor, hi, hd.lastRequire hno, hlast]
    rfl

end Discovery

end ImportSeam
