import ImportSeam.Instrument.Discovery
import ImportSeam.Proofs.Scope.Annotated
import ImportSeam.Proofs.Scope.Lexical

/-!
# The names that a module declares

The module's own scope has the names that its statements declare where they stand, and those that
come to rest there from statements inside them: a hoisted declaration is carried out of blocks and
loops, and what the branch of a conditional or a labelled statement declares belongs to the scope
around.  Only functions and static blocks keep their names for themselves.

## Main definitions

* `Stmt.scopedNames`, `Stmt.hoistedNames` — the names that a statement declares in the scope around
  it, and those that it hoists.
* `Stmt.buriedNames` — the names that a module gets from statements inside a statement.
* `Outline.Gives`, `Outline.Names` — the names of an outline.

## Main results

* `Stmt.outline_names` — the outline of a statement has the names of the statement.
* `Program.get?_moduleScope_iff` — the names of the module's own scope.
* `Program.declaresTopLevel_analyse` — the analysis keeps the names at the top level.
-/

namespace ImportSeam

open Program (moduleScope)

/-! ### The names of a statement -/

/-- The names that a declaration in the head of a loop hoists. -/
def ForInit.hoistedNames : ForInit → List String
  | .decl .hoisted binders => binders.flatMap (·.target.names)
  | _ => []

/-- The names that a declaration in the head of a loop over an object hoists. -/
def ForTarget.hoistedNames : ForTarget → List String
  | .decl .hoisted p => p.names
  | _ => []

/-- The names that a statement declares in the scope around it. -/
def Stmt.scopedNames : Stmt → List String
  | .doWhile _ body _ | .label _ _ body | .while _ _ body | .withObject _ _ body => body.scopedNames
  | .ifElse _ _ c none => c.scopedNames
  | .ifElse _ _ c (some a) => c.scopedNames ++ a.scopedNames
  | .varDecl _ _ .hoisted _ => []
  | s => s.declaredNames

mutual

/-- The names that a statement hoists. -/
def Stmt.hoistedNames : Stmt → List String
  | .block _ body => stmtsHoistedNames body
  | .doWhile _ body _ | .label _ _ body | .while _ _ body | .withObject _ _ body =>
    body.hoistedNames
  | .forIn _ target _ body | .forOf _ _ target _ body => target.hoistedNames ++ body.hoistedNames
  | .forLoop _ init _ _ body => init.hoistedNames ++ body.hoistedNames
  | .ifElse _ _ c none => c.hoistedNames
  | .ifElse _ _ c (some a) => c.hoistedNames ++ a.hoistedNames
  | .switch _ _ cases => casesHoistedNames cases
  | .tryCatch _ body none none => stmtsHoistedNames body
  | .tryCatch _ body none (some last) => stmtsHoistedNames body ++ stmtsHoistedNames last
  | .tryCatch _ body (some ⟨_, handler⟩) none => stmtsHoistedNames body ++ stmtsHoistedNames handler
  | .tryCatch _ body (some ⟨_, handler⟩) (some last) =>
    stmtsHoistedNames body ++ (stmtsHoistedNames handler ++ stmtsHoistedNames last)
  | .varDecl _ _ .hoisted binders => binders.flatMap (·.target.names)
  | _ => []

/-- The names that statements hoist. -/
def stmtsHoistedNames : List Stmt → List String
  | [] => []
  | st :: ss => st.hoistedNames ++ stmtsHoistedNames ss

/-- The names that the branches of a switch hoist. -/
def casesHoistedNames : List SwitchCase → List String
  | [] => []
  | ⟨_, body⟩ :: cs => stmtsHoistedNames body ++ casesHoistedNames cs

end

/-- The names that a module gets from statements inside a statement. -/
def Stmt.buriedNames : Stmt → List String
  | .importDecl .. | .varDecl .. | .classDecl .. | .funcDecl .. => []
  | s => s.scopedNames ++ s.hoistedNames

/-- A module gets the names that its statements declare where they stand and the buried ones. -/
theorem Stmt.mem_names_iff (s : Stmt) (name : String) :
    name ∈ s.scopedNames ∨ name ∈ s.hoistedNames ↔
      name ∈ s.declaredNames ∨ name ∈ s.buriedNames := by
  have hburied (here far : List String) :
      name ∈ here ∨ name ∈ far ↔ name ∈ [] ∨ name ∈ here ++ far := by
    simp
  cases s with
  | importDecl | classDecl | funcDecl => exact Iff.rfl
  | varDecl loc isExported mode binders =>
    cases mode with
    | hoisted => exact or_comm
    | _ => exact Iff.rfl
  | _ => exact hburied _ _

/-! ### The names of an outline -/

namespace Outline

/-- An outline declares names in the scope or in the closure around it, as the mode of the declaration
that it stands in says. -/
structure Gives (o : Outline) (names : List String) : Prop where
  lexical : ∀ mode name, name ∈ o.lexical mode ↔ mode.isHoisted = false ∧ name ∈ names
  hoisted : ∀ mode name, name ∈ o.hoisted mode ↔ mode.isHoisted = true ∧ name ∈ names

@[simp] theorem hoisted_append (mode : VarMode) (o₁ o₂ : Outline) :
    (o₁ ++ o₂).hoisted mode = o₁.hoisted mode ++ o₂.hoisted mode := by
  change (o₁.append o₂).hoisted mode = _
  induction o₁ with
  | done => rfl
  | declare name rest ih | bind role id rest ih =>
    simp only [append, hoisted, ih, List.append_assoc]
  | use role id rest ih | idle role id rest ih => exact ih
  | under mode' inside rest _ ih | scope kind inside rest _ ih =>
    simp only [append, hoisted, ih, List.append_assoc]

namespace Gives

variable {o o₁ o₂ o₃ : Outline} {names names₁ names₂ : List String}

theorem done : Gives .done [] := ⟨by simp [Outline.lexical], by simp [Outline.hoisted]⟩

theorem use (role : NameRole) (id : Ident) (h : Gives o names) : Gives (.use role id o) names :=
  ⟨h.lexical, h.hoisted⟩

theorem idle (role : NameRole) (id : Ident) (h : Gives o names) : Gives (.idle role id o) names :=
  ⟨h.lexical, h.hoisted⟩

theorem declare (name : String) (h : Gives o names) : Gives (.declare name o) (name :: names) where
  lexical mode m := by
    rw [Outline.lexical, List.mem_append, h.lexical]
    cases mode <;> simp [VarMode.isHoisted]
  hoisted mode m := by
    rw [Outline.hoisted, List.mem_append, h.hoisted]
    cases mode <;> simp [VarMode.isHoisted]

theorem bind (role : NameRole) (id : Ident) : Gives (.bind role id .done) [id.name] :=
  ⟨(done.declare id.name).lexical, (done.declare id.name).hoisted⟩

theorem append (h₁ : Gives o₁ names₁) (h₂ : Gives o₂ names₂) :
    Gives (o₁ ++ o₂) (names₁ ++ names₂) where
  lexical mode m := by
    rw [lexical_append, List.mem_append, h₁.lexical, h₂.lexical, List.mem_append, and_or_left]
  hoisted mode m := by
    rw [hoisted_append, List.mem_append, h₁.hoisted, h₂.hoisted, List.mem_append, and_or_left]

/-- What declares nothing adds nothing. -/
theorem append_nothing (h₁ : Gives o₁ names) (h₂ : Gives o₂ []) : Gives (o₁ ++ o₂) names :=
  List.append_nil names ▸ h₁.append h₂

theorem append₃ (h₁ : Gives o₁ []) (h₂ : Gives o₂ []) (h₃ : Gives o₃ []) :
    Gives (o₁ ++ (o₂ ++ o₃)) [] :=
  h₁.append (h₂.append h₃)

theorem congr (h : Gives o names₁) (heq : ∀ name, name ∈ names₁ ↔ name ∈ names₂) :
    Gives o names₂ where
  lexical mode m := by rw [h.lexical, heq]
  hoisted mode m := by rw [h.hoisted, heq]

theorem declareAll : ∀ names : List String, Gives (declareAll names) names
  | [] => done
  | name :: names => (declareAll names).declare name

/-- The names of a pattern are declared before it is looked at, and once more in it. -/
theorem declares (hnames : Gives o₁ names₁) (h : Gives o₂ names₂) :
    Gives (Outline.declareAll names₁ ++ (o₁ ++ o₂)) (names₁ ++ names₂) :=
  ((declareAll names₁).append (hnames.append h)).congr (by simp)

/-- The parts of a pattern, which declares its names or not. -/
theorem both {declares : Bool} (h₁ : Gives o₁ (if declares then names₁ else []))
    (h₂ : Gives o₂ (if declares then names₂ else [])) :
    Gives (o₁ ++ o₂) (if declares then names₁ ++ names₂ else []) := by
  cases declares with
  | true => exact h₁.append h₂
  | false => exact h₁.append h₂

/-- A function keeps its names. -/
theorem closed {kind : ScopeKind} (hkind : kind.isClosure) (o : Outline) :
    Gives (.scope kind o .done) [] where
  lexical mode m := by simp [Outline.lexical]
  hoisted mode m := by simp [Outline.hoisted, hkind]

/-- So does any scope around what hoists nothing. -/
theorem scope (kind : ScopeKind) (h : Gives o names) : Gives (.scope kind o .done) [] where
  lexical mode m := by simp [Outline.lexical]
  hoisted mode m := by
    have hnone := h.hoisted .lexical m
    simp only [VarMode.isHoisted, Bool.false_eq_true, false_and, iff_false] at hnone
    simp only [Outline.hoisted, List.append_nil, List.not_mem_nil, and_false, iff_false]
    split
    · exact List.not_mem_nil
    · exact hnone

theorem ofName? (name : Option Ident) : Gives (Outline.ofName? name) (name.map (·.name)).toList := by
  cases name with
  | none => exact done
  | some id => exact bind .own id

theorem ofTag? (tag : Option JsxTag) : Gives (Outline.ofTag? tag) [] := by
  match tag with
  | none | some (.name _) => exact done
  | some (.ident id) | some (.member id _) => exact done.use .value id

theorem ofExport (names : ExportNames) : Gives (Outline.ofExport names) [] := by
  match names with
  | .all (some id) => exact done.idle .pattern id
  | .all none | .specific _ => exact done

theorem ofBound (declares : Bool) (id : Ident) :
    Gives (Outline.ofBound declares id) (if declares then [id.name] else []) := by
  cases declares with
  | true => exact bind .pattern id
  | false => exact done.use .pattern id

theorem ofRest? (declares : Bool) (rest : Option Ident) :
    Gives (Outline.ofRest? declares rest)
      (if declares then (rest.map (·.name)).toList else []) := by
  cases rest with
  | none => cases declares <;> exact done
  | some id => exact ofBound declares id

end Gives

end Outline

open Outline (Gives)

/-- A function keeps its names. -/
theorem Func.gives_nothing (f : Func) : f.outline.Gives [] := by
  obtain ⟨isArrow, isAsync, isGenerator, params, body⟩ := f
  cases isArrow with
  | true => exact .closed rfl _
  | false => exact .closed rfl _

mutual

/-- An expression declares nothing around it. -/
theorem Expr.gives_nothing : ∀ e : Expr, e.outline.Gives []
  | .ident id => .use .value id .done
  | .arrow _ f => f.gives_nothing
  | .binary _ _ l r => l.gives_nothing.append r.gives_nothing
  | .call _ _ f args => f.gives_nothing.append (args_give_nothing args)
  | .classExpr _ name parent members =>
    .scope _ (.append (.ofName? name) ((opt_gives_nothing parent).append
      (class_gives_nothing members)))
  | .index _ _ e k => e.gives_nothing.append k.gives_nothing
  | .cond _ t c e => .append₃ t.gives_nothing c.gives_nothing e.gives_nothing
  | .func _ name f => .scope _ (.append (.ofName? name) f.gives_nothing)
  | .importCall _ m => m.gives_nothing
  | .member _ _ e _ => e.gives_nothing
  | .construct _ f none => f.gives_nothing
  | .construct _ f (some args) => f.gives_nothing.append (args_give_nothing args)
  | .tagged _ t ps => t.gives_nothing.append (template_gives_nothing ps)
  | .unary _ _ e => e.gives_nothing
  | .update _ _ e => e.gives_nothing
  | .yield _ _ e => opt_gives_nothing e
  | .jsx _ e => e.gives_nothing
  | .array _ es => elems_give_nothing es
  | .object _ ms => obj_gives_nothing ms
  | .template _ ps => template_gives_nothing ps
  | .target p => p.gives_names false
  | .importMeta _ | .newTarget _ | .superRef _ | .this _ | .bigInt _ _ | .bool _ _ | .null _
  | .num _ _ | .regex _ _ | .str _ _ => .done

theorem opt_gives_nothing : ∀ e : Option Expr, (optOutline e).Gives []
  | none => .done
  | some e => e.gives_nothing

theorem args_give_nothing : ∀ args : List Arg, (argsOutline args).Gives []
  | [] => .done
  | ⟨_, e⟩ :: as => e.gives_nothing.append (args_give_nothing as)

theorem template_gives_nothing : ∀ ps : List TemplatePart, (templateOutline ps).Gives []
  | [] => .done
  | .text _ :: ps => template_gives_nothing ps
  | .subst e :: ps => e.gives_nothing.append (template_gives_nothing ps)

theorem elems_give_nothing : ∀ es : List ArrayElem, (elemsOutline es).Gives []
  | [] => .done
  | .item e :: es | .spread e :: es => e.gives_nothing.append (elems_give_nothing es)
  | .hole :: es => elems_give_nothing es

theorem Key.gives_nothing : ∀ k : Key, k.outline.Gives []
  | .direct _ _ => .done
  | .computed e => e.gives_nothing

theorem Member.gives_nothing : ∀ m : Member, m.outline.Gives []
  | .getter f | .setter f | .method f => f.gives_nothing
  | .field e => opt_gives_nothing e
  | .staticBlock _ => .closed rfl _

theorem obj_gives_nothing : ∀ ms : List ObjMember, (objOutline ms).Gives []
  | [] => .done
  | .valued _ key m :: ms => .append₃ key.gives_nothing m.gives_nothing (obj_gives_nothing ms)
  | .shorthand _ id :: ms => .use .value id (obj_gives_nothing ms)
  | .spread _ e :: ms => e.gives_nothing.append (obj_gives_nothing ms)

theorem class_gives_nothing : ∀ ms : List ClassMember, (classOutline ms).Gives []
  | [] => .done
  | ⟨key, _, m⟩ :: ms => .append₃ key.gives_nothing m.gives_nothing (class_gives_nothing ms)

/-- A pattern that declares its names has no others. -/
theorem Pat.gives_names (declares : Bool) : ∀ p : Pat,
    (p.outline declares).Gives (if declares then p.names else [])
  | .ident id => .ofBound declares id
  | .array _ elems none => elemPats_give_names declares elems
  | .array _ elems (some rest) =>
    (elemPats_give_names declares elems).both (rest.gives_names declares)
  | .object _ props rest => (props_give_names declares props).both (.ofRest? declares rest)

theorem elemPats_give_names (declares : Bool) : ∀ es : List (Option Binder),
    (elemPatsOutline declares es).Gives (if declares then elemNames es else [])
  | [] => by cases declares <;> exact .done
  | none :: es => elemPats_give_names declares es
  | some ⟨target, init⟩ :: es =>
    (target.gives_names declares).both
      ((opt_gives_nothing init).append (elemPats_give_names declares es))

theorem props_give_names (declares : Bool) : ∀ ps : List PropPat,
    (propsOutline declares ps).Gives (if declares then propNames ps else [])
  | [] => by cases declares <;> exact .done
  | ⟨key, ⟨target, init⟩, _⟩ :: ps =>
    key.gives_nothing.append ((target.gives_names declares).both
      ((opt_gives_nothing init).append (props_give_names declares ps)))

theorem JsxElem.gives_nothing : ∀ e : JsxElem, e.outline.Gives []
  | ⟨tag, attrs, children⟩ =>
    .append₃ (.ofTag? tag) (attrs_give_nothing attrs) (contents_give_nothing children)

theorem attrs_give_nothing : ∀ as : List JsxAttr, (attrsOutline as).Gives []
  | [] => .done
  | .named _ none :: as => attrs_give_nothing as
  | .named _ (some c) :: as => c.gives_nothing.append (attrs_give_nothing as)
  | .spread e :: as => e.gives_nothing.append (attrs_give_nothing as)

theorem JsxContent.gives_nothing : ∀ c : JsxContent, c.outline.Gives []
  | .container e => opt_gives_nothing e
  | .text _ => .done
  | .elem e => e.gives_nothing

theorem contents_give_nothing : ∀ cs : List JsxContent, (contentsOutline cs).Gives []
  | [] => .done
  | c :: cs => c.gives_nothing.append (contents_give_nothing cs)

end

/-- Bindings declare the names of their patterns. -/
theorem binders_give_names (bs : List Binder) :
    (bindersOutline bs).Gives (bs.flatMap (·.target.names)) := by
  induction bs with
  | nil => exact .done
  | cons b bs ih =>
    obtain ⟨target, init⟩ := b
    exact .declares (target.gives_names true) ((opt_gives_nothing init).append ih)

/-- An import list declares the names of its patterns. -/
theorem specs_give_names (ss : List ImportSpec) :
    (specsOutline ss).Gives (ss.flatMap (·.target.names)) := by
  induction ss with
  | nil => exact .done
  | cons s ss ih =>
    obtain ⟨imported, p⟩ := s
    exact .declares (p.gives_names true) ih

theorem declared_gives_names (p : Option Pat) :
    (declaredOutline p).Gives ((p.map Pat.names).getD []) := by
  cases p with
  | none => exact .done
  | some p => exact ((Gives.declareAll p.names).append (p.gives_names true)).congr (by simp)

theorem ImportNames.gives_names (n : ImportNames) : n.outline.Gives n.names := by
  cases n with
  | all p => exact declared_gives_names (some p)
  | specific specs => exact specs_give_names specs

/-! ### The names of a module -/

/-- An outline declares names in the scope around it, and hoists names. -/
structure Outline.Names (o : Outline) (here far : List String) : Prop where
  lexical : ∀ name, name ∈ o.lexical .lexical ↔ name ∈ here
  hoisted : ∀ name, name ∈ o.hoisted .lexical ↔ name ∈ far

open Outline (Names)

namespace Outline.Names

variable {o o₁ o₂ : Outline} {names here far here₁ far₁ here₂ far₂ : List String}

theorem gives (h : Gives o names) : Names o names [] :=
  ⟨by simp [h.lexical, VarMode.isHoisted], by simp [h.hoisted, VarMode.isHoisted]⟩

theorem append (h₁ : Names o₁ here₁ far₁) (h₂ : Names o₂ here₂ far₂) :
    Names (o₁ ++ o₂) (here₁ ++ here₂) (far₁ ++ far₂) :=
  ⟨by simp [h₁.lexical, h₂.lexical], by simp [h₁.hoisted, h₂.hoisted]⟩

/-- An expression before what declares names. -/
theorem after (h₁ : Gives o₁ []) (h₂ : Names o₂ here far) : Names (o₁ ++ o₂) here far :=
  (gives h₁).append h₂

/-- A block keeps what is declared in it, and hoists what is hoisted in it. -/
theorem block_append (h₁ : Names o₁ here₁ far₁) (h₂ : Names o₂ here₂ far₂) :
    Names (.scope .block o₁ o₂) here₂ (far₁ ++ far₂) where
  lexical := h₂.lexical
  hoisted m := by simp [Outline.hoisted, ScopeKind.isClosure, h₁.hoisted, h₂.hoisted]

theorem block (h : Names o here far) : Names (.scope .block o .done) [] far :=
  List.append_nil far ▸ h.block_append (gives .done)

theorem under_hoisted (h : Gives o names) : Names (.under .hoisted o .done) [] names :=
  ⟨by simp [Outline.lexical, h.lexical, VarMode.isHoisted],
    by simp [Outline.hoisted, h.hoisted, VarMode.isHoisted]⟩

theorem under {mode : VarMode} (hmode : mode.isHoisted = false) (h : Gives o names) :
    Names (.under mode o .done) names [] :=
  ⟨by simp [Outline.lexical, h.lexical, hmode], by simp [Outline.hoisted, h.hoisted, hmode]⟩

end Outline.Names

theorem ForInit.outline_names : ∀ i : ForInit, ∃ here, Names i.outline here i.hoistedNames
  | .absent => ⟨_, .gives .done⟩
  | .expr e => ⟨_, .gives e.gives_nothing⟩
  | .decl .hoisted binders => ⟨_, .under_hoisted (binders_give_names binders)⟩
  | .decl .constant binders | .decl .lexical binders => ⟨_, .under rfl (binders_give_names binders)⟩

theorem ForTarget.outline_names : ∀ g : ForTarget, ∃ here, Names g.outline here g.hoistedNames
  | .assign p => ⟨_, .gives (p.gives_names false)⟩
  | .decl .hoisted p => ⟨_, .under_hoisted (declared_gives_names (some p))⟩
  | .decl .constant p | .decl .lexical p => ⟨_, .under rfl (declared_gives_names (some p))⟩

mutual

/-- **The outline of a statement has the names of the statement.** -/
theorem Stmt.outline_names : ∀ st : Stmt, Names st.outline st.scopedNames st.hoistedNames
  | .block _ body => (stmts_outline_names body).block
  | .doWhile _ body test => .after test.gives_nothing body.outline_names
  | .exportDefault _ e => .gives e.gives_nothing
  | .exportList _ names _ => .gives (.ofExport names)
  | .expr _ e => .gives e.gives_nothing
  | .forIn _ target e body | .forOf _ _ target e body =>
    have ⟨_, htarget⟩ := target.outline_names
    (htarget.append (.after e.gives_nothing body.outline_names)).block
  | .forLoop _ init test post body =>
    have ⟨_, hinit⟩ := init.outline_names
    (hinit.append (.after (opt_gives_nothing test)
      (.after (opt_gives_nothing post) body.outline_names))).block
  | .ifElse _ test c none => .after test.gives_nothing c.outline_names
  | .ifElse _ test c (some a) =>
    .after test.gives_nothing (c.outline_names.append a.outline_names)
  | .importDecl _ default none _ =>
    .gives ((declared_gives_names default).congr fun name =>
      iff_of_eq (congrArg (name ∈ ·) (List.append_nil _).symm))
  | .importDecl _ default (some names) _ =>
    .gives ((declared_gives_names default).append names.gives_names)
  | .label _ _ body => body.outline_names
  | .returnValue _ e => .gives (opt_gives_nothing e)
  | .switch _ e cases =>
    have ⟨_, hcases⟩ := cases_outline_names cases
    (Names.after e.gives_nothing hcases).block
  | .throw _ e => .gives e.gives_nothing
  | .tryCatch _ body none none => (stmts_outline_names body).block
  | .tryCatch _ body none (some last) =>
    (stmts_outline_names body).block_append (stmts_outline_names last).block
  | .tryCatch _ body (some ⟨param, handler⟩) none =>
    (stmts_outline_names body).block_append
      ((Names.gives (declared_gives_names param)).append (stmts_outline_names handler)).block
  | .tryCatch _ body (some ⟨param, handler⟩) (some last) =>
    (stmts_outline_names body).block_append
      (((Names.gives (declared_gives_names param)).append (stmts_outline_names handler)).block_append
        (stmts_outline_names last).block)
  | .while _ test body => .after test.gives_nothing body.outline_names
  | .withObject _ e body => .after e.gives_nothing body.outline_names
  | .classDecl _ _ _ name parent members =>
    .gives ((Gives.ofName? name).append_nothing
      ((opt_gives_nothing parent).append (class_gives_nothing members)))
  | .funcDecl _ _ _ name f => .gives ((Gives.ofName? name).append_nothing f.gives_nothing)
  | .varDecl _ _ .hoisted binders => .under_hoisted (binders_give_names binders)
  | .varDecl _ _ .constant binders | .varDecl _ _ .lexical binders =>
    .under rfl (binders_give_names binders)
  | .breakTo _ _ | .continueTo _ _ | .debugger _ | .empty _ => .gives .done

theorem stmts_outline_names : ∀ ss : List Stmt,
    Names (stmtsOutline ss) (ss.flatMap Stmt.scopedNames) (stmtsHoistedNames ss)
  | [] => .gives .done
  | st :: ss => st.outline_names.append (stmts_outline_names ss)

theorem cases_outline_names : ∀ cs : List SwitchCase,
    ∃ here, Names (casesOutline cs) here (casesHoistedNames cs)
  | [] => ⟨_, .gives .done⟩
  | ⟨test, body⟩ :: cs =>
    have ⟨_, hcases⟩ := cases_outline_names cs
    ⟨_, .after (opt_gives_nothing test) ((stmts_outline_names body).append hcases)⟩

end

theorem stmtsHoistedNames_eq (ss : List Stmt) :
    stmtsHoistedNames ss = ss.flatMap Stmt.hoistedNames := by
  induction ss with
  | nil => rfl
  | cons st ss ih => exact congrArg (st.hoistedNames ++ ·) ih

theorem declaresTopLevel_iff (body : List Stmt) (name : String) :
    declaresTopLevel body name = true ↔ name ∈ body.flatMap Stmt.declaredNames := by
  simp [declaresTopLevel]

/-- **The names of the module's own scope** are those that the statements of the module declare where
they stand, and the buried ones. -/
theorem Program.get?_moduleScope_iff (p : Program) (name : String) :
    (p.analyse.2.get? moduleScope name).isSome ↔
      declaresTopLevel p.body name = true ∨ name ∈ p.body.flatMap Stmt.buriedNames := by
  have hnames := stmts_outline_names p.body
  calc (p.analyse.2.get? moduleScope name).isSome
      ↔ name ∈ (stmtsOutline p.body).declared .module := p.has_moduleFrame.names name
    _ ↔ ∃ s ∈ p.body, name ∈ s.scopedNames ∨ name ∈ s.hoistedNames := by
      simp only [Outline.declared, ScopeKind.isClosure, if_true, List.mem_append, hnames.lexical,
        hnames.hoisted, stmtsHoistedNames_eq, List.mem_flatMap, ← exists_or, ← and_or_left]
    _ ↔ ∃ s ∈ p.body, name ∈ s.declaredNames ∨ name ∈ s.buriedNames := by
      simp only [Stmt.mem_names_iff]
    _ ↔ declaresTopLevel p.body name = true ∨ name ∈ p.body.flatMap Stmt.buriedNames := by
      simp only [declaresTopLevel_iff, List.mem_flatMap, ← exists_or, ← and_or_left]

/-! ### Names after the analysis -/

theorem binders_names_inScope (home s : ScopeId) (bs : List Binder) (t : ScopeTree) :
    (bindersInScope home s bs t).1.flatMap (·.target.names) = bs.flatMap (·.target.names) := by
  induction bs generalizing t with
  | nil => rfl
  | cons b bs ih =>
    obtain ⟨target, init⟩ := b
    exact congrArg₂ (· ++ ·) (target.names_inScope _ s _) (ih _)

theorem specs_names_inScope (s : ScopeId) (ss : List ImportSpec) (t : ScopeTree) :
    (specsInScope s ss t).1.flatMap (·.target.names) = ss.flatMap (·.target.names) := by
  induction ss generalizing t with
  | nil => rfl
  | cons spec ss ih =>
    obtain ⟨imported, p⟩ := spec
    exact congrArg₂ (· ++ ·) (p.names_inScope _ s _) (ih _)

theorem declared_names_inScope (s : ScopeId) (p : Option Pat) (t : ScopeTree) :
    ((declaredInScope s p t).1.map Pat.names).getD [] = (p.map Pat.names).getD [] := by
  cases p with
  | none => rfl
  | some p => exact p.names_inScope _ s _

theorem ImportNames.names_inScope (s : ScopeId) (n : ImportNames) (t : ScopeTree) :
    (n.inScope s t).1.names = n.names := by
  cases n with
  | all p => exact p.names_inScope _ s _
  | specific specs => exact specs_names_inScope s specs t

theorem Stmt.declaredNames_inScope (s : ScopeId) (t : ScopeTree) (st : Stmt) :
    (st.inScope s t).1.declaredNames = st.declaredNames := by
  match st with
  | .varDecl _ _ _ binders => exact binders_names_inScope _ s binders _
  | .importDecl _ default none _ =>
    exact congrArg (· ++ []) (declared_names_inScope s default t)
  | .importDecl _ default (some names) _ =>
    exact congrArg₂ (· ++ ·) (declared_names_inScope s default t) (names.names_inScope s _)
  | .classDecl _ _ _ name _ _ | .funcDecl _ _ _ name _ => cases name <;> rfl
  | .tryCatch _ _ none finalizer | .tryCatch _ _ (some ⟨_, _⟩) finalizer =>
    cases finalizer <;> rfl
  | .ifElse _ _ _ alternate => cases alternate <;> rfl
  | .block .. | .breakTo .. | .continueTo .. | .debugger _ | .doWhile .. | .empty _
  | .exportDefault .. | .exportList .. | .expr .. | .forIn .. | .forOf .. | .forLoop .. | .label ..
  | .returnValue .. | .switch .. | .throw .. | .while .. | .withObject .. => rfl

/-- **The analysis keeps the names at the top level.** -/
theorem Program.declaresTopLevel_analyse (p : Program) (name : String) :
    declaresTopLevel p.analyse.1.body name = declaresTopLevel p.body name := by
  have hstmts : ∀ ss t, declaresTopLevel (stmtsInScope moduleScope ss t).1 name =
      declaresTopLevel ss name := by
    intro ss
    induction ss with
    | nil => exact fun _ => rfl
    | cons st ss ih =>
      intro t
      exact congrArg₂ (· || ·) (congrArg (·.contains name) (st.declaredNames_inScope moduleScope t))
        (ih _)
  exact hstmts p.body (.root .module)

end ImportSeam
