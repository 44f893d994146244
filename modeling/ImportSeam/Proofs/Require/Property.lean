import ImportSeam.Instrument.Source
import ImportSeam.Proofs.Reference.Symbols
import ImportSeam.Proofs.Require.Reading
import ImportSeam.Proofs.Text.Escapes

/-!
# Two ways to take a property

A property of the result of `require` is bound to a name by a pattern or in brackets.  Both modules
are instrumented alike but for the name of the export: a string names the same export in both, while
a number names what its usual text says only in brackets.  In a pattern it names what was written.

## Main definitions

* `ScopeTree.single` — the scopes of a module that declares one name.
* `propertyOutcome` — what becomes of a module that takes one property.

## Main results

* `required_property` — **what becomes of both modules**, and when they register the same binding.
* `hexadecimalKey_differs` — two modules that do not.
-/

namespace ImportSeam

variable {loc : Loc} {name path key property direct : String} {s : Stmt} {e : Expr}

/-! ### Scopes -/

/-- The scopes of a module that declares a single name. -/
def ScopeTree.single (name : String) : ScopeTree := ⟨#[⟨.module, [], [(name, ⟨0⟩)]⟩], 1⟩

namespace ScopeTree

theorem declare_single (name : String) : (single name).declare 0 name = (⟨0⟩, single name) := by
  have hget : ((single name).scope 0).get? name = some ⟨0⟩ := List.lookup_cons_self
  rw [declare, hget]

/-- What the module does not declare is not known in it. -/
theorem symbolOf?_used (name : String) (id : String) (loc : Loc) :
    (single name).symbolOf? ⟨id, loc, .usedIn 0⟩ = if id = name then some ⟨0⟩ else none := by
  by_cases h : id = name
  · subst h
    simp [symbolOf?, find?, chain, scope, single, get?, Scope.get?]
  · simp [symbolOf?, find?, chain, scope, single, get?, Scope.get?, h, List.lookup_cons,
      beq_false_of_ne h]

end ScopeTree

namespace Scoping

variable {α β : Type} (t : ScopeTree)

theorem run_pure (a : α) : (pure a : Scoping α).run t = (a, t) := rfl

theorem run_bind (x : Scoping α) (f : α → Scoping β) :
    (x >>= f).run t = (f (x.run t).1).run (x.run t).2 := rfl

/-- An identifier of a pattern is declared in the home scope. -/
theorem run_declared (name : String) (loc : Loc) :
    (Scoping.bind (some 0) 0 ⟨name, loc, .unknown⟩).run (.single name) =
      (⟨name, loc, .declares ⟨0⟩⟩, .single name) := by
  have hdeclare : (modifyGet (·.declare 0 name) : Scoping Symbol).run (.single name) =
      (⟨0⟩, .single name) := ScopeTree.declare_single name
  rw [Scoping.bind, declare, run_bind, hdeclare, run_pure]

end Scoping

/-- The analysis of a call of `require` declares nothing. -/
theorem Expr.Requires.inScope (h : e.Requires .unknown path) (t : ScopeTree) :
    ∃ e', (e.inScope 0).run t = (e', t) ∧ e'.Requires (.usedIn 0) path := by
  obtain ⟨loc, nameLoc, arg, rfl⟩ := h
  exact ⟨_, rfl, loc, nameLoc, arg, rfl⟩

theorem Expr.NamesProperty.inScope (h : e.NamesProperty property) (t : ScopeTree) :
    (e.inScope 0).run t = (e, t) := by
  cases h <;> rfl

/-- A pattern that is a name declares it. -/
theorem Pat.inScope_name (name : String) (loc : Loc) :
    ((Pat.ident ⟨name, loc, .unknown⟩).inScope (some 0) 0).run (.single name) =
      (.ident ⟨name, loc, .declares ⟨0⟩⟩, .single name) := by
  have hpat : (Pat.ident ⟨name, loc, .unknown⟩).inScope (some 0) 0 = (do
      return .ident (← Scoping.bind (some 0) 0 ⟨name, loc, .unknown⟩)) := rfl
  rw [hpat, Scoping.run_bind, Scoping.run_declared, Scoping.run_pure]

/-- So does a pattern with one property, whose key is kept. -/
theorem Pat.inScope_property (patLoc : Loc) (key : String) (kind : TokenKind) (name : String)
    (loc : Loc) :
    ((Pat.object patLoc [⟨.direct key kind, ⟨.ident ⟨name, loc, .unknown⟩, none⟩, false⟩]
        none).inScope (some 0) 0).run (.single name) =
      (.object patLoc [⟨.direct key kind, ⟨.ident ⟨name, loc, .declares ⟨0⟩⟩, none⟩, false⟩] none,
        .single name) := by
  have hpat : (Pat.object patLoc [⟨.direct key kind, ⟨.ident ⟨name, loc, .unknown⟩, none⟩, false⟩]
      none).inScope (some 0) 0 = (do
        let id ← Scoping.bind (some 0) 0 ⟨name, loc, .unknown⟩
        return .object patLoc [⟨.direct key kind, ⟨.ident id, none⟩, false⟩] none) := rfl
  rw [hpat, Scoping.run_bind, Scoping.run_declared, Scoping.run_pure]

/-- The analysis of a constant with a value: the name of its pattern is declared first. -/
theorem Stmt.inScope_constant {p p' : Pat} {e e' : Expr} (hnames : p.names = [name])
    (hp : (p.inScope (some 0) 0).run (.single name) = (p', .single name))
    (he : (e.inScope 0).run (.single name) = (e', .single name)) :
    ((Stmt.varDecl loc false .constant [⟨p, some e⟩]).inScope 0).run (.root .module) =
      (.varDecl loc false .constant [⟨p', some e'⟩], .single name) := by
  have hstmt : (Stmt.varDecl loc false .constant [⟨p, some e⟩]).inScope 0 = (do
      Scoping.declareAll 0 p.names
      let p ← p.inScope (some 0) 0
      let e ← e.inScope 0
      return .varDecl loc false .constant [⟨p, some e⟩]) := rfl
  have hdeclare : (Scoping.declareAll 0 p.names).run (.root .module) = ((), .single name) := by
    rw [hnames]
    rfl
  simp only [hstmt, Scoping.run_bind, Scoping.run_pure, hdeclare, hp, he]

theorem Stmt.Destructures.inScope (h : s.Destructures .unknown .unknown name path direct) :
    ∃ s', (s.inScope 0).run (.root .module) = (s', .single name) ∧
      s'.Destructures (.declares ⟨0⟩) (.usedIn 0) name path direct := by
  obtain ⟨loc, patLoc, idLoc, kind, init, rfl, hinit⟩ := h
  obtain ⟨init', hrun, hinit'⟩ := hinit.inScope (.single name)
  exact ⟨_, Stmt.inScope_constant rfl (Pat.inScope_property patLoc direct kind name idLoc) hrun,
    loc, patLoc, idLoc, kind, init', rfl, hinit'⟩

theorem Stmt.TakesProperty.inScope (h : s.TakesProperty .unknown .unknown name path property) :
    ∃ s', (s.inScope 0).run (.root .module) = (s', .single name) ∧
      s'.TakesProperty (.declares ⟨0⟩) (.usedIn 0) name path property := by
  obtain ⟨loc, idLoc, indexLoc, call, key, rfl, hcall, hkey⟩ := h
  obtain ⟨call', hrun, hcall'⟩ := hcall.inScope (.single name)
  have hindex : (Expr.index indexLoc false call key).inScope 0 = (do
      return .index indexLoc false (← call.inScope 0) (← key.inScope 0)) := rfl
  have hvalue : ((Expr.index indexLoc false call key).inScope 0).run (.single name) =
      (.index indexLoc false call' key, .single name) := by
    simp only [hindex, Scoping.run_bind, Scoping.run_pure, hrun, hkey.inScope (.single name)]
  exact ⟨_, Stmt.inScope_constant rfl (Pat.inScope_name name idLoc) hvalue, loc, idLoc, indexLoc,
    call', key, rfl, hcall', hkey⟩

/-- The analysis of a module of one statement. -/
theorem Program.analyse_single {p : Program} {s' : Stmt} {t : ScopeTree} (hbody : p.body = [s])
    (h : (s.inScope 0).run (.root .module) = (s', t)) :
    p.analyse = ({ p with body := [s'] }, t) := by
  have hstmts : stmtsInScope 0 [s] = (do return [← s.inScope 0]) := rfl
  simp only [analyse, moduleScope, hbody, hstmts, Scoping.run_bind, Scoping.run_pure, h]

/-! ### What is found -/

/-- Whether no binding is made for the name: `require` is the name itself, the module is excluded, or
the name is one of an earlier tool or of an operation of the registry. -/
def passesOver (options : Options) (name path : String) : Bool :=
  name == "require" || options.excludesImport path || name.toList.head? == some '_' ||
    isReservedAlias name

/-- What is found in a module that takes one property. -/
def foundProperty (options : Options) (name path property : String) : Discovery :=
  if passesOver options name path then {}
  else { found := [⟨⟨name, path, .ofText property, ⟨0⟩⟩, 0⟩], lastRequire := some 0 }

section

variable {options : Options}

/-- What decides about the bindings of a module that declares one name. -/
def settingOf (options : Options) (name : String) : Setting :=
  ⟨(ScopeTree.single name).symbolOf?, options.excludesImport⟩

theorem Expr.requirePath?_call (resolve : Resolver) (loc : Loc) (id : Ident) (argLoc : Loc)
    (path : String) :
    (Expr.call loc false (.ident id) [⟨false, .str argLoc path⟩]).requirePath? resolve =
      if id.name = "require" ∧ resolve id = none then some path else none := rfl

theorem Expr.requireCall?_call (resolve : Resolver) (loc : Loc) (optional : Bool) (callee : Expr)
    (args : List Arg) :
    (Expr.call loc optional callee args).requireCall? resolve = (do
      return ⟨← (Expr.call loc optional callee args).requirePath? resolve, none⟩) := rfl

theorem Expr.requireCall?_index (resolve : Resolver) (loc : Loc) (owner key : Expr) :
    (Expr.index loc false owner key).requireCall? resolve = (do
      let property ← key.propertyKey?
      return ⟨← owner.requirePath? resolve, some property⟩) := rfl

theorem Expr.Requires.requirePath? (h : e.Requires (.usedIn 0) path) (name : String) :
    e.requirePath? (ScopeTree.single name).symbolOf? =
      if name = "require" then none else some path := by
  obtain ⟨loc, nameLoc, arg, rfl⟩ := h
  have hresolve := ScopeTree.symbolOf?_used name "require" nameLoc
  rw [Expr.requirePath?_call, hresolve]
  by_cases hname : name = "require"
  · subst hname
    simp
  · simp [hname, Ne.symm hname]

/-- The whole result is taken. -/
theorem Expr.Requires.requireCall? (h : e.Requires (.usedIn 0) path) (name : String) :
    e.requireCall? (ScopeTree.single name).symbolOf? =
      if name = "require" then none else some ⟨path, none⟩ := by
  have hpath := h.requirePath? name
  obtain ⟨loc, nameLoc, arg, rfl⟩ := h
  rw [Expr.requireCall?_call, hpath]
  split <;> rfl

/-- A property of the result is taken. -/
theorem Expr.NamesProperty.requireCall? {call : Expr} (h : e.NamesProperty property)
    (hcall : call.Requires (.usedIn 0) path) (name : String) (loc : Loc) :
    (Expr.index loc false call e).requireCall? (ScopeTree.single name).symbolOf? =
      if name = "require" then none else some ⟨path, some property⟩ := by
  have hkey : e.propertyKey? = some property := by cases h <;> rfl
  rw [Expr.requireCall?_index, hcall.requirePath? name, hkey]
  split <;> rfl

/-- The name is registered for the property unless it is passed over. -/
theorem addRequired_single (name path property : String) (loc : Loc)
    (hname : name ≠ "require") (hpath : options.excludesImport path = false) :
    ({} : Discovery).addRequired (settingOf options name) 0 ⟨name, loc, .declares ⟨0⟩⟩ path
      (.ofText property) = foundProperty options name path property := by
  have hresolve : (settingOf options name).resolve ⟨name, loc, .declares ⟨0⟩⟩ = some ⟨0⟩ := rfl
  have hpasses : passesOver options name path =
      (name.toList.head? == some '_' || isReservedAlias name) := by
    simp [passesOver, beq_false_of_ne hname, hpath]
  rw [foundProperty, hpasses]
  unfold Discovery.addRequired Discovery.add?
  by_cases hhelper : name.toList.head? = some '_'
  · simp [hhelper]
  · by_cases hreserved : isReservedAlias name = true
    · simp [hhelper, hreserved]
    · simp [hhelper, hreserved, hresolve, Discovery.registers, Discovery.bindings]

/-- A constant whose value is taken from the result of `require`. -/
theorem addStmt_constant {p : Pat} {call : RequireCall} (hpath : call.path = path)
    (hcall : e.requireCall? (ScopeTree.single name).symbolOf? =
      if name = "require" then none else some call)
    (hadd : name ≠ "require" → options.excludesImport path = false →
      ({} : Discovery).addRequire (settingOf options name) 0 p call =
        foundProperty options name path property) :
    Discovery.addStmt (settingOf options name) {} 0 (.varDecl loc false .constant [⟨p, some e⟩]) =
      .ok (foundProperty options name path property) := by
  refine congrArg Except.ok ?_
  have hresolve : (settingOf options name).resolve = (ScopeTree.single name).symbolOf? := rfl
  simp only [Discovery.addBinders, List.foldl_cons, List.foldl_nil, Option.bind_some, hresolve,
    hcall]
  by_cases hname : name = "require"
  · simp [foundProperty, passesOver, hname]
  · rw [if_neg hname]
    by_cases hexcluded : options.excludesImport path = true
    · simp [Discovery.addRequire, settingOf, foundProperty, passesOver, hpath, hexcluded]
    · exact hadd hname (Bool.not_eq_true _ ▸ hexcluded)

theorem Stmt.Destructures.addStmt
    (h : s.Destructures (.declares ⟨0⟩) (.usedIn 0) name path direct) :
    Discovery.addStmt (settingOf options name) {} 0 s =
      .ok (foundProperty options name path direct) := by
  obtain ⟨loc, patLoc, idLoc, kind, init, rfl, hinit⟩ := h
  refine addStmt_constant rfl (hinit.requireCall? name) fun hname hpath => ?_
  have hincluded : (settingOf options name).excludesImport path = false := hpath
  rw [← addRequired_single name path direct idLoc hname hpath]
  simp [Discovery.addRequire, hincluded, Discovery.addProps]

theorem Stmt.TakesProperty.addStmt
    (h : s.TakesProperty (.declares ⟨0⟩) (.usedIn 0) name path property) :
    Discovery.addStmt (settingOf options name) {} 0 s =
      .ok (foundProperty options name path property) := by
  obtain ⟨loc, idLoc, indexLoc, call, key, rfl, hcall, hkey⟩ := h
  refine addStmt_constant rfl (hkey.requireCall? hcall name indexLoc) fun hname hpath => ?_
  have hincluded : (settingOf options name).excludesImport path = false := hpath
  rw [← addRequired_single name path property idLoc hname hpath]
  simp [Discovery.addRequire, hincluded, Discovery.requiredSymbol]

end

/-! ### What becomes of the modules -/

/-- What becomes of a module that takes one property. -/
def propertyOutcome (options : Options) (place : Option String) (name path property : String) :
    Outcome :=
  if options.excludesFile place then .excluded
  else if name = registryName then .reservedNameConflict
  else if passesOver options name path then .unchanged
  else .instrumented [⟨name, path, .ofText property, ⟨0⟩⟩]

/-- A module of one statement that declares the name and takes the property. -/
theorem instrument_single {p : Program} (options : Options) (place : Option String)
    (hbody : p.body = [s]) (hnames : s.declaredNames = [name])
    (hadd : Discovery.addStmt (settingOf options name) {} 0 s =
      .ok (foundProperty options name path property)) :
    ∃ q, p.instrument (ScopeTree.single name).symbolOf? place options =
      .ok (propertyOutcome options place name path property, q) := by
  have hdeclares : declaresTopLevel p.body registryName = true ↔ name = registryName := by
    simp [declaresTopLevel, hbody, hnames, eq_comm]
  have hfound : Discovery.ofBody (settingOf options name) p.body =
      .ok (foundProperty options name path property) := by
    rw [hbody]
    simp only [Discovery.ofBody, List.zipIdx_cons, List.zipIdx_nil, List.foldlM_cons,
      List.foldlM_nil, hadd]
    rfl
  unfold Program.instrument propertyOutcome
  by_cases hfile : options.excludesFile place = true
  · rw [if_pos hfile, if_pos hfile]
    exact ⟨p, rfl⟩
  rw [if_neg hfile, if_neg hfile]
  change ∃ q, p.instrumentIncluded (settingOf options name) = _
  unfold Program.instrumentIncluded
  by_cases hname : name = registryName
  · rw [if_pos (hdeclares.mpr hname), if_pos hname]
    exact ⟨p, rfl⟩
  rw [if_neg (mt hdeclares.mp hname), if_neg hname, hfound, foundProperty]
  cases passesOver options name path with
  | true => exact ⟨p, rfl⟩
  | false => exact ⟨_, rfl⟩

/-- The same for the source of the module. -/
theorem instrumentSource_single {source : String} {p : Program} {s' : Stmt} (options : Options)
    (place : Option String) (hparse : Program.parse source = .ok p) (hbody : p.body = [s])
    (hscope : (s.inScope 0).run (.root .module) = (s', .single name))
    (hnames : s'.declaredNames = [name])
    (hadd : Discovery.addStmt (settingOf options name) {} 0 s' =
      .ok (foundProperty options name path property)) :
    ∃ code, instrumentSource source place options =
      .ok ⟨code, propertyOutcome options place name path property⟩ := by
  obtain ⟨q, hq⟩ := instrument_single (p := { p with body := [s'] }) options place rfl hnames hadd
  have hanalyse := Program.analyse_single hbody hscope
  simp only [instrumentSource, hparse, Except.mapError, bind, Except.bind, hanalyse, hq]
  exact ⟨_, rfl⟩

/-! ### The two modules -/

/-- The name of the export decides about the binding. -/
theorem bindings_propertyOutcome_eq_iff (options : Options) (place : Option String)
    (name path property property' : String) :
    (propertyOutcome options place name path property).bindings =
        (propertyOutcome options place name path property').bindings ↔
      property = property' ∨ (propertyOutcome options place name path property').bindings = [] := by
  have hofText : Export.ofText property = .ofText property' ↔ property = property' := by
    refine ⟨fun h => ?_, congrArg _⟩
    rw [← Origin.text_ofText property, h, Origin.text_ofText]
  unfold propertyOutcome
  split
  · simp [Outcome.bindings]
  split
  · simp [Outcome.bindings]
  split
  · simp [Outcome.bindings]
  · simp [Outcome.bindings, hofText]

/-- **Two ways to take a property of the result of `require`.**  By a pattern, the name is registered
for the export that is called as the key was written, if that is a number; in brackets, for the one
that the number's usual text names.  Whatever the options are, everything else is the same, so both
modules register the same binding if the key is a string, if it is a number that is written as
usual, or if nothing is registered; and only then. -/
theorem required_property {pathText source : String} (hp : IsStringLiteral pathText path)
    (hk : IsKeyLiteral source direct property) (hname : Context.top.Names name)
    (place : Option String) (options : Options) :
    (∃ code, instrumentSource (destructuring source name pathText) place options =
        .ok ⟨code, propertyOutcome options place name path direct⟩) ∧
      (∃ code, instrumentSource (propertyAccess source name pathText) place options =
        .ok ⟨code, propertyOutcome options place name path property⟩) ∧
      ((propertyOutcome options place name path direct).bindings =
          (propertyOutcome options place name path property).bindings ↔
        direct = property ∨ (propertyOutcome options place name path property).bindings = []) := by
  refine ⟨?_, ?_, bindings_propertyOutcome_eq_iff options place name path direct property⟩
  · obtain ⟨p, hparse, s, hbody, hs⟩ := exists_destructures hp hk hname
    obtain ⟨s', hscope, hs'⟩ := hs.inScope
    refine instrumentSource_single options place hparse hbody hscope ?_ hs'.addStmt
    obtain ⟨loc, patLoc, idLoc, kind, init, rfl, -⟩ := hs'
    rfl
  · obtain ⟨p, hparse, s, hbody, hs⟩ := exists_takesProperty hp hk hname
    obtain ⟨s', hscope, hs'⟩ := hs.inScope
    refine instrumentSource_single options place hparse hbody hscope ?_ hs'.addStmt
    obtain ⟨loc, idLoc, indexLoc, call, key, rfl, -⟩ := hs'
    rfl

theorem stringKey_property :
    IsStringLiteral "'./m'" "./m" ∧ IsKeyLiteral "\"b-c\"" "b-c" "b-c" ∧ Context.top.Names "x" ∧
      ∃ code code', instrumentSource (destructuring "\"b-c\"" "x" "'./m'") none {} =
          .ok ⟨code, .instrumented [⟨"x", "./m", .named "b-c", ⟨0⟩⟩]⟩ ∧
        instrumentSource (propertyAccess "\"b-c\"" "x" "'./m'") none {} =
          .ok ⟨code', .instrumented [⟨"x", "./m", .named "b-c", ⟨0⟩⟩]⟩ := by
  have hpath : IsStringLiteral "'./m'" "./m" := ⟨by decide, decodeString_unescaped (by decide)⟩
  have hkey : IsKeyLiteral "\"b-c\"" "b-c" "b-c" :=
    .string ⟨by decide, decodeString_unescaped (by decide)⟩
  have hname : Context.top.Names "x" := ⟨.ident, rfl, isToken_ident (by decide) (by decide)⟩
  have houtcome : propertyOutcome {} none "x" "./m" "b-c" =
      .instrumented [⟨"x", "./m", .named "b-c", ⟨0⟩⟩] := rfl
  obtain ⟨⟨code, hcode⟩, ⟨code', hcode'⟩, -⟩ := required_property hpath hkey hname none {}
  rw [houtcome] at hcode hcode'
  exact ⟨hpath, hkey, hname, code, code', hcode, hcode'⟩

/-- A number that is not written as usual names another export in a pattern than in brackets. -/
theorem hexadecimalKey_differs :
    (instrumentSource (destructuring "0x10" "x" "'m'") none {}).toOption.map (·.outcome.bindings) =
        some [⟨"x", "m", .named "0x10", ⟨0⟩⟩] ∧
      (instrumentSource (propertyAccess "0x10" "x" "'m'") none {}).toOption.map
          (·.outcome.bindings) = some [⟨"x", "m", .named "16", ⟨0⟩⟩] := by
  decide +kernel

end ImportSeam
