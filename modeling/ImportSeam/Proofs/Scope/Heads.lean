import ImportSeam.Grammar.Module
import ImportSeam.Proofs.Scope.Declared
import ImportSeam.Proofs.Scope.Settled
import Mathlib.Data.List.Forall2

/-!
# What stands before a body

The parameters of a function are evaluated before its body, and the value that a switch is about
before its branches.  The parameters share one scope with the body.  So a default value sees what the
body declares there: its own `let`, `const`, classes and functions, and everything that is hoisted
out of its blocks.  Where neither the default nor the parameters declare such a name, the name means
the declaration in the body.  Any other name means what it would mean without the body.

## Main definitions

* `Part.funcs` — the functions of a statement or an expression, methods included.
* `Func.paramNames`, `FuncBody.ownNames` — what the two parts of a function declare in its scope.
* `Env.Narrowed` — what is left of a meaning when a scope loses names.
* `Func.Headed`, `Stmt.SwitchHeaded` — what the identifiers before a body mean.

## Main results

* `Outline.references_narrow` — the meaning of names when a scope around them loses names.
* `Program.heads_resolve` — the identifiers before all bodies of an analysed module.
* `defaultSource_sees_body` — a default value that means a declaration in the body.
-/

namespace ImportSeam

open Program (moduleScope)

/-! ### Functions and switches of a tree -/

/-- The function that a member is. -/
def Member.func? : Member → Option Func
  | .getter f | .setter f | .method f => some f
  | .field _ | .staticBlock _ => none

/-- The function that a member of an object literal is. -/
def ObjMember.func? : ObjMember → Option Func
  | .valued _ _ m => m.func?
  | .shorthand _ _ | .spread _ _ => none

/-- The functions that a statement or an expression is or has as members. -/
def Part.funcs : Part → List Func
  | .expr (.arrow _ f) | .expr (.func _ _ f) | .stmt (.funcDecl _ _ _ _ f) => [f]
  | .expr (.object _ ms) => ms.filterMap (·.func?)
  | .expr (.classExpr _ _ _ ms) | .stmt (.classDecl _ _ _ _ _ ms) =>
    ms.filterMap (·.value.func?)
  | _ => []

theorem Member.outline_of_func? {m : Member} {f : Func} (h : m.func? = some f) :
    m.outline = f.outline := by
  cases m with
  | getter g | setter g | method g => exact congrArg Func.outline (Option.some.inj h)
  | field value => exact nomatch h
  | staticBlock body => exact nomatch h

theorem within_objOutline {ms : List ObjMember} {f : Func} (h : f ∈ ms.filterMap (·.func?)) :
    f.outline.Within (objOutline ms) := by
  induction ms with
  | nil => exact nomatch h
  | cons m ms ih =>
    obtain ⟨m', hm', hf⟩ := List.mem_filterMap.mp h
    rcases List.mem_cons.mp hm' with rfl | hmem
    · match m' with
      | .valued _ key value =>
        exact .right _ (.left (Member.outline_of_func? hf ▸ .refl) _)
      | .shorthand _ _ => exact nomatch hf
      | .spread _ _ => exact nomatch hf
    · have hrest := ih (List.mem_filterMap.mpr ⟨m', hmem, hf⟩)
      match m with
      | .valued _ key value => exact .right _ (.right _ hrest)
      | .shorthand _ id => exact .use .value id hrest
      | .spread _ e => exact .right _ hrest

theorem within_classOutline {ms : List ClassMember} {f : Func}
    (h : f ∈ ms.filterMap (·.value.func?)) : f.outline.Within (classOutline ms) := by
  induction ms with
  | nil => exact nomatch h
  | cons m ms ih =>
    obtain ⟨m', hm', hf⟩ := List.mem_filterMap.mp h
    obtain ⟨key, isStatic, value⟩ := m
    rcases List.mem_cons.mp hm' with rfl | hmem
    · exact .right _ (.left (Member.outline_of_func? hf ▸ .refl) _)
    · exact .right _ (.right _ (ih (List.mem_filterMap.mpr ⟨m', hmem, hf⟩)))

/-- The outline of a part has those of its functions as pieces. -/
theorem Part.within_funcs {q : Part} {f : Func} (hf : f ∈ q.funcs) :
    ∃ o, q.outline? = some o ∧ f.outline.Within o := by
  unfold Part.funcs at hf
  split at hf
  · obtain rfl := List.mem_singleton.mp hf
    exact ⟨_, rfl, .refl⟩
  · obtain rfl := List.mem_singleton.mp hf
    exact ⟨_, rfl, .scope _ (.right _ .refl) _⟩
  · obtain rfl := List.mem_singleton.mp hf
    exact ⟨_, rfl, .right _ .refl⟩
  · exact ⟨_, rfl, within_objOutline hf⟩
  · exact ⟨_, rfl, .scope _ (.right _ (.right _ (within_classOutline hf))) _⟩
  · exact ⟨_, rfl, .right _ (.right _ (within_classOutline hf))⟩
  · exact nomatch hf

/-! ### The names of a function and of a switch -/

/-- The kind of the scope of a function. -/
def Func.scopeKind (f : Func) : ScopeKind := if f.isArrow then .arrow else .function

/-- The names of the parameters. -/
def Func.paramNames (f : Func) : List String := f.params.flatMap (·.binder.target.names)

/-- The names that the body of a function declares in the scope of the function: those of its own
statements, and those that are hoisted out of them. -/
def FuncBody.ownNames : FuncBody → List String
  | .block body => body.flatMap Stmt.scopedNames ++ stmtsHoistedNames body
  | .expr _ => []

/-- The names that the branches of a switch declare in its scope. -/
def casesScopedNames (cases : List SwitchCase) : List String :=
  cases.flatMap fun c => c.body.flatMap Stmt.scopedNames

open Outline (Gives Names)

theorem params_give_names (ps : List Param) :
    (paramsOutline ps).Gives (ps.flatMap (·.binder.target.names)) := by
  induction ps with
  | nil => exact .done
  | cons p ps ih =>
    obtain ⟨isRest, target, init⟩ := p
    exact .declares (target.gives_names true) ((opt_gives_nothing init).append ih)

theorem FuncBody.outline_names (b : FuncBody) :
    ∃ here far, Names b.outline here far ∧ here ++ far = b.ownNames := by
  cases b with
  | block body => exact ⟨_, _, stmts_outline_names body, rfl⟩
  | expr e => exact ⟨_, _, .gives e.gives_nothing, rfl⟩

theorem mem_lexical_casesOutline (cases : List SwitchCase) (name : String) :
    name ∈ (casesOutline cases).lexical .lexical ↔ name ∈ casesScopedNames cases := by
  induction cases with
  | nil => exact Iff.rfl
  | cons c cases ih =>
    obtain ⟨test, body⟩ := c
    have htest := (opt_gives_nothing test).lexical .lexical name
    have hbody := (stmts_outline_names body).lexical name
    change name ∈ (optOutline test ++ (stmtsOutline body ++ casesOutline cases)).lexical _ ↔ _
    rw [Outline.lexical_append, Outline.lexical_append, List.mem_append, List.mem_append, hbody, ih,
      htest]
    simp [casesScopedNames]

theorem Func.outline_eq (f : Func) :
    f.outline = .scope f.scopeKind (paramsOutline f.params ++ f.body.outline) .done := by
  cases f
  rfl

/-- **The scope of a function has the names of its parameters and those of its body.** -/
theorem Func.mem_declared (f : Func) (name : String) :
    name ∈ (paramsOutline f.params ++ f.body.outline).declared f.scopeKind ↔
      name ∈ f.paramNames ++ f.body.ownNames := by
  have hparams := params_give_names f.params
  obtain ⟨here, far, hbody, hown⟩ := f.body.outline_names
  have hclosure : f.scopeKind.isClosure = true := by
    rw [Func.scopeKind]
    split <;> rfl
  rw [Outline.declared, if_pos hclosure, Outline.lexical_append, Outline.hoisted_append, ← hown,
    Func.paramNames]
  simp only [List.mem_append, hparams.lexical, hparams.hoisted, hbody.lexical, hbody.hoisted,
    VarMode.isHoisted]
  grind

/-- **The scope of a switch has the names that its branches declare.** -/
theorem mem_declared_switch (e : Expr) (cases : List SwitchCase) (name : String) :
    name ∈ (e.outline ++ casesOutline cases).declared .block ↔ name ∈ casesScopedNames cases := by
  have he := e.gives_nothing.lexical .lexical name
  simp [Outline.declared, ScopeKind.isClosure, Outline.lexical_append, he,
    mem_lexical_casesOutline]

/-! ### A scope that loses names -/

/-- What is left of a meaning when the scope `i` loses names: either it stays, or it was one of these
names in that scope and becomes what the name means around it. -/
structure Env.Narrowed (env : Env) (i : ScopeId) (lost : String → Prop) (r r' : Reference) : Prop where
  role : r'.role = r.role
  name : r'.name = r.name
  scope : r'.scope = r.scope ∨ lost r.name ∧ r.scope = some i ∧ r'.scope = env.lookup r.name

namespace Outline

/-- Looking a name up when a scope on the way has lost names. -/
theorem lookup_narrow {f f' : Frame} (hscope : f'.scope = f.scope)
    (hnames : ∀ name, name ∈ f'.names → name ∈ f.names) (inner env : Env) (name : String) :
    Env.lookup (inner ++ f' :: env) name = Env.lookup (inner ++ f :: env) name ∨
      (name ∈ f.names ∧ name ∉ f'.names) ∧ Env.lookup (inner ++ f :: env) name = some f.scope ∧
        Env.lookup (inner ++ f' :: env) name = Env.lookup env name := by
  simp only [Env.lookup, List.find?_append]
  cases hinner : inner.find? fun g => g.names.contains name with
  | some g => exact .inl rfl
  | none =>
    rw [Option.none_or, Option.none_or, List.find?_cons, List.find?_cons]
    by_cases hname : name ∈ f.names
    · by_cases hname' : name ∈ f'.names
      · simp [hname, hname', hscope]
      · simp [hname, hname']
    · simp [hname, mt (hnames name) hname]

/-- A declaration comes to rest in the same scope. -/
theorem home_narrow {f f' : Frame} (hscope : f'.scope = f.scope) (hkind : f'.kind = f.kind)
    (inner env : Env) (mode : VarMode) :
    Env.home (inner ++ f' :: env) mode = Env.home (inner ++ f :: env) mode := by
  cases mode with
  | hoisted =>
    simp only [Env.home, List.find?_append, List.find?_cons, hkind]
    cases inner.find? fun g => g.kind.isClosure with
    | some g => rfl
    | none => cases f.kind.isClosure <;> simp [hscope]
  | constant | lexical => cases inner <;> simp [Env.home, hscope]

/-- **The meaning of names when a scope around them loses names.** -/
theorem references_narrow (o : Outline) (f f' : Frame) (hscope : f'.scope = f.scope)
    (hkind : f'.kind = f.kind) (hnames : ∀ name, name ∈ f'.names → name ∈ f.names)
    (inner env : Env) (mode : VarMode) (next : ScopeId) :
    List.Forall₂ (env.Narrowed f.scope fun name => name ∈ f.names ∧ name ∉ f'.names)
      (o.references (inner ++ f :: env) mode next)
      (o.references (inner ++ f' :: env) mode next) := by
  induction o generalizing inner mode next with
  | done => exact .nil
  | declare name rest ih => exact ih inner mode next
  | bind role id rest ih =>
    exact .cons ⟨rfl, rfl, .inl (home_narrow hscope hkind inner env mode)⟩ (ih inner mode next)
  | use role id rest ih =>
    exact .cons ⟨rfl, rfl, lookup_narrow hscope hnames inner env id.name⟩ (ih inner mode next)
  | idle role id rest ih => exact .cons ⟨rfl, rfl, .inl rfl⟩ (ih inner mode next)
  | under mode' inside rest ihInside ihRest =>
    exact List.rel_append (ihInside inner mode' next) (ihRest inner mode _)
  | scope kind inside rest ihInside ihRest =>
    exact List.rel_append (ihInside (_ :: inner) .lexical (next + 1)) (ihRest inner mode _)

end Outline

/-! ### In an analysed module -/

/-- What an identifier means that stands before a body in the scope `i`, against what it would mean
without the names that only the body declares.  It means the same, or the name means nothing before
the body is left, and then it means the declaration in the body. -/
structure ScopeTree.SeesBody (t : ScopeTree) (env : Env) (i : ScopeId) (own more : List String)
    (x : RoleIdent) (r : Reference) : Prop where
  role : r.role = x.1
  name : r.name = x.2.name
  means : t.symbolOf? x.2 = r.scope.bind (t.get? · x.2.name) ∨
    (x.2.name ∈ more ∧ x.2.name ∉ own) ∧ r.scope = env.lookup x.2.name ∧
      t.symbolOf? x.2 = t.get? i x.2.name

namespace Outline

/-- What stands first in a scope, in its place. -/
theorem Settled.head {t : ScopeTree} {s i : ScopeId} {env : Env} {mode : VarMode}
    {kind : ScopeKind} {head body : Outline} (own more : List String)
    (h : (Outline.scope kind (head ++ body) .done).Settled t s env mode i)
    (hnames : ∀ name, name ∈ (head ++ body).declared kind ↔ name ∈ own ++ more) :
    t.Has ⟨i, kind, own ++ more⟩ ∧ t.chain i = i :: env.map (·.scope) ∧ (∀ g ∈ env, t.Has g) ∧
      List.Forall₂ (t.SeesBody env i own more) head.idents
        (head.references (⟨i, kind, own⟩ :: env) .lexical (i + 1)) := by
  obtain ⟨hinside, -⟩ := h.scope
  have hframe := hinside.there _ List.mem_cons_self
  refine ⟨⟨hframe.lt_size, hframe.kind, fun name => (hframe.names name).trans (hnames name)⟩,
    hinside.around.chain.symm, h.there, ?_⟩
  have hnarrow := head.references_narrow ⟨i, kind, (head ++ body).declared kind⟩ ⟨i, kind, own⟩ rfl
    rfl (fun name hname => (hnames name).mpr (List.mem_append_left _ hname)) [] env .lexical (i + 1)
  have hidents := hinside.append.1.resolves.idents
  -- Identifiers and what they mean are compared by role, name and symbol.
  have hsees : List.Forall₂ (fun (y : NameRole × String × Option Symbol) (r : Reference) =>
      r.role = y.1 ∧ r.name = y.2.1 ∧ (y.2.2 = r.scope.bind (t.get? · y.2.1) ∨
        (y.2.1 ∈ more ∧ y.2.1 ∉ own) ∧ r.scope = env.lookup y.2.1 ∧ y.2.2 = t.get? i y.2.1))
      ((head.references (⟨i, kind, (head ++ body).declared kind⟩ :: env) .lexical (i + 1)).map
        fun r => (r.role, r.name, r.scope.bind fun j => t.get? j r.name))
      (head.references (⟨i, kind, own⟩ :: env) .lexical (i + 1)) := by
    refine List.forall₂_map_left_iff.mpr (hnarrow.imp fun r r' hr => ⟨hr.role, hr.name, ?_⟩)
    rcases hr.scope with hsame | ⟨⟨hmem, hnot⟩, hscope, haround⟩
    · exact .inl (by rw [hsame])
    · have hmore := (List.mem_append.mp ((hnames r.name).mp hmem)).resolve_left hnot
      exact .inr ⟨⟨hmore, hnot⟩, haround, by rw [hscope]; rfl⟩
  rw [← hidents] at hsees
  exact (List.forall₂_map_left_iff.mp hsees).imp fun x r hr => ⟨hr.1, hr.2.1, hr.2.2⟩

end Outline

/-- The parameters of a function in an analysed module, whose scope is `i`, with the given scopes
around it. -/
structure Func.Headed (f : Func) (t : ScopeTree) (i : ScopeId) (env : Env) : Prop where
  /-- The scope has the names of the parameters and those of the body. -/
  scope : t.Has ⟨i, f.scopeKind, f.paramNames ++ f.body.ownNames⟩
  around : t.chain i = i :: env.map (·.scope)
  there : ∀ g ∈ env, t.Has g
  /-- The identifiers among the parameters mean what they would mean if the body declared nothing, or
  else they mean what the body declares. -/
  params : List.Forall₂ (t.SeesBody env i f.paramNames f.body.ownNames)
    (identsOf (paramsParts f.params))
    ((paramsOutline f.params).references (⟨i, f.scopeKind, f.paramNames⟩ :: env) .lexical (i + 1))
  /-- A name that is used in the scope itself means the name of the scope, if it has it. -/
  direct : ∀ id : Ident, id.mention = .usedIn i → t.symbolOf? id =
    if id.name ∈ f.paramNames ++ f.body.ownNames then t.get? i id.name
    else (env.lookup id.name).bind (t.get? · id.name)

/-- The value that a switch in an analysed module is about, with the given scopes around the
switch. -/
structure SwitchHeaded (e : Expr) (cases : List SwitchCase) (t : ScopeTree) (i : ScopeId)
    (env : Env) : Prop where
  /-- The scope has the names that the branches declare. -/
  scope : t.Has ⟨i, .block, casesScopedNames cases⟩
  around : t.chain i = i :: env.map (·.scope)
  there : ∀ g ∈ env, t.Has g
  /-- A name that the branches do not declare means what it would mean if they declared nothing. -/
  value : List.Forall₂ (fun x r => r.role = x.1 ∧ r.name = x.2.name ∧
      (x.2.name ∉ casesScopedNames cases → t.symbolOf? x.2 = r.scope.bind (t.get? · x.2.name)))
    (identsOf e.parts) (e.outline.references (⟨i, .block, []⟩ :: env) .lexical (i + 1))

theorem Func.headed_of_settled {f : Func} {t : ScopeTree} {s i : ScopeId} {env : Env}
    {mode : VarMode} (h : f.outline.Settled t s env mode i) : f.Headed t i env := by
  obtain ⟨hscope, haround, hthere, hparams⟩ := Outline.Settled.head f.paramNames
    f.body.ownNames (f.outline_eq ▸ h) f.mem_declared
  rw [params_outline_lists f.params] at hparams
  refine ⟨hscope, haround, hthere, hparams, fun id hid => ?_⟩
  have hlookup := Env.lookup_eq_findSome?
    (⟨i, f.scopeKind, f.paramNames ++ f.body.ownNames⟩ :: env) t id.name
    (List.forall_mem_cons.mpr ⟨hscope.names id.name, fun g hg => (hthere g hg).names id.name⟩)
  have hsymbol : t.symbolOf? id = ((t.chain i).findSome? fun j =>
      (t.get? j id.name).map fun x => (j, x)).map (·.2) := by
    rw [ScopeTree.symbolOf?, hid]
    rfl
  rw [hsymbol, haround]
  refine hlookup.trans ?_
  rw [Env.lookup, List.find?_cons]
  split <;> simp_all [Env.lookup]

theorem switchHeaded_of_settled {loc : Loc} {e : Expr} {cases : List SwitchCase} {t : ScopeTree}
    {s i : ScopeId} {env : Env} {mode : VarMode}
    (h : (Stmt.switch loc e cases).outline.Settled t s env mode i) : SwitchHeaded e cases t i env := by
  obtain ⟨hscope, haround, hthere, hvalue⟩ := Outline.Settled.head [] (casesScopedNames cases) h
    (mem_declared_switch e cases)
  rw [e.outline_lists] at hvalue
  refine ⟨hscope, haround, hthere, hvalue.imp fun x r hr => ⟨hr.role, hr.name, fun hname => ?_⟩⟩
  rcases hr.means with hsame | ⟨⟨hmem, -⟩, -⟩
  · exact hsame
  · exact absurd hmem hname

/-- **What stands before a body does not see into it**, but for the names that the body declares in
the scope that it shares.  In an analysed module every identifier among the parameters of a function
means what it would mean if the body declared nothing, or else a name that the body declares in the
scope of the function and that it would not find before; and every identifier in the value of a switch
whose name the branches do not declare means what it would mean without them. -/
theorem Program.heads_resolve (p : Program) :
    (∀ q ∈ p.analyse.1.parts, ∀ f ∈ q.funcs, ∃ i env, f.Headed p.analyse.2 i env) ∧
      ∀ loc e cases, .stmt (.switch loc e cases) ∈ p.analyse.1.parts →
        ∃ i env, SwitchHeaded e cases p.analyse.2 i env := by
  obtain ⟨frame, hsettled⟩ := p.settled_analyse
  have hcovers := stmts_outline_covers p.analyse.1.body
  constructor
  · intro q hq f hf
    obtain ⟨o, ho, hwithin⟩ := Part.within_funcs hf
    obtain ⟨s, env, mode, next, h⟩ := hsettled.within (hcovers q hq o ho)
    obtain ⟨s', env', mode', i, hf⟩ := h.within hwithin
    exact ⟨i, env', Func.headed_of_settled hf⟩
  · intro loc e cases hswitch
    obtain ⟨s, env, mode, i, h⟩ := hsettled.within (hcovers _ hswitch _ rfl)
    exact ⟨i, env, switchHeaded_of_settled h⟩

/-- A function whose default value has the name of an import and of a variable in its body. -/
def defaultSource : String := "import a from 'm'; function f(x = a) { var a; }"

/-- **A default value means a declaration in the body.**  The `a` of the default value has the symbol
of the variable in the body, and not that of the import. -/
theorem defaultSource_sees_body :
    ∃ p, Program.parse defaultSource = .ok p ∧
      (identsOf p.analyse.1.parts).map (fun x => (x.1, x.2.name, p.analyse.2.symbolOf? x.2)) =
        [(.pattern, "a", some ⟨0⟩), (.own, "f", some ⟨1⟩), (.pattern, "x", some ⟨2⟩),
          (.value, "a", some ⟨3⟩), (.pattern, "a", some ⟨3⟩)] := by
  have hsource : (Program.parse defaultSource).toOption.any (fun p =>
      (identsOf p.analyse.1.parts).map (fun x => (x.1, x.2.name, p.analyse.2.symbolOf? x.2)) ==
        [(.pattern, "a", some ⟨0⟩), (.own, "f", some ⟨1⟩), (.pattern, "x", some ⟨2⟩),
          (.value, "a", some ⟨3⟩), (.pattern, "a", some ⟨3⟩)]) = true := by decide +kernel
  obtain ⟨p, hp, hsymbols⟩ := (Option.any_eq_true _ _).mp hsource
  exact ⟨p, Program.parse_of_toOption hp, by simpa using hsymbols⟩

end ImportSeam
