import ImportSeam.Scope.Analysis
import ImportSeam.Tree.Part

/-!
# The outline of a tree

For the meaning of its names a tree is a sequence of few things: names are declared and used, and
scopes are opened around parts of the sequence.  Here every tree gets such an outline.

## Main definitions

* `Outline` — what matters about a tree for its scopes.
* `Expr.outline`, `Stmt.outline` — the outline of a tree.
* `Outline.run` — the scope analysis of an outline.
* `identsOf` — the identifiers of a tree, in the order of its parts.

## Main results

* `Expr.outline_lists`, `Stmt.outline_lists` — an outline has the identifiers of its tree.
-/

namespace ImportSeam

/-- What matters about a tree for its scopes: a sequence of declarations and uses, with scopes
around parts of it. -/
inductive Outline where
  | done
  /-- A name is declared in the home scope, without an identifier that says so. -/
  | declare (name : String) (rest : Outline)
  /-- An identifier declares its name in the home scope. -/
  | bind (role : NameRole) (id : Ident) (rest : Outline)
  | use (role : NameRole) (id : Ident) (rest : Outline)
  /-- The name under which another module is exported whole. -/
  | idle (role : NameRole) (id : Ident) (rest : Outline)
  /-- A declaration of a mode, which says what the home scope of the names inside is. -/
  | under (mode : VarMode) (inside rest : Outline)
  | scope (kind : ScopeKind) (inside rest : Outline)

namespace Outline

/-- One outline after another. -/
def append : Outline → Outline → Outline
  | .done, o => o
  | .declare name rest, o => .declare name (rest.append o)
  | .bind role id rest, o => .bind role id (rest.append o)
  | .use role id rest, o => .use role id (rest.append o)
  | .idle role id rest, o => .idle role id (rest.append o)
  | .under mode inside rest, o => .under mode inside (rest.append o)
  | .scope kind inside rest, o => .scope kind inside (rest.append o)

instance : Append Outline := ⟨append⟩

theorem append_assoc (o₁ o₂ o₃ : Outline) : o₁ ++ o₂ ++ o₃ = o₁ ++ (o₂ ++ o₃) := by
  change (o₁.append o₂).append o₃ = o₁.append (o₂.append o₃)
  induction o₁ with
  | done => rfl
  | declare _ _ ih | bind _ _ _ ih | use _ _ _ ih | idle _ _ _ ih | under _ _ _ _ ih
  | scope _ _ _ _ ih => simp only [append, ih]

/-- Names that are declared without identifiers. -/
def declareAll (names : List String) : Outline := names.foldr .declare .done

/-- The name of a function or class, if it has one. -/
def ofName? : Option Ident → Outline
  | some id => .bind .own id .done
  | none => .done

/-- The identifier in a tag. -/
def ofTag? : Option JsxTag → Outline
  | some (.ident id) => .use .value id .done
  | some (.member base _) => .use .value base .done
  | _ => .done

/-- The name under which everything is exported. -/
def ofExport : ExportNames → Outline
  | .all (some id) => .idle .pattern id .done
  | _ => .done

/-- An identifier in a pattern that declares its names or not. -/
def ofBound (declares : Bool) (id : Ident) : Outline :=
  if declares then .bind .pattern id .done else .use .pattern id .done

/-- The identifier in a pattern that takes the rest. -/
def ofRest? (declares : Bool) : Option Ident → Outline
  | some id => ofBound declares id
  | none => .done

end Outline

open Outline (declareAll ofName? ofTag? ofExport ofBound ofRest?)

mutual

/-- The outline of an expression. -/
def Expr.outline : Expr → Outline
  | .ident id => .use .value id .done
  | .arrow _ f => f.outline
  | .binary _ _ l r => l.outline ++ r.outline
  | .call _ _ f args => f.outline ++ argsOutline args
  | .classExpr _ name parent members =>
    .scope .ownName (ofName? name ++ (optOutline parent ++ classOutline members)) .done
  | .index _ _ e k => e.outline ++ k.outline
  | .cond _ t c a => t.outline ++ (c.outline ++ a.outline)
  | .func _ name f => .scope .ownName (ofName? name ++ f.outline) .done
  | .importCall _ m => m.outline
  | .member _ _ e _ => e.outline
  | .construct _ f none => f.outline
  | .construct _ f (some args) => f.outline ++ argsOutline args
  | .tagged _ t ps => t.outline ++ templateOutline ps
  | .unary _ _ e => e.outline
  | .update _ _ e => e.outline
  | .yield _ _ e => optOutline e
  | .jsx _ e => e.outline
  | .array _ es => elemsOutline es
  | .object _ ms => objOutline ms
  | .template _ ps => templateOutline ps
  | .target p => p.outline false
  | .importMeta _ | .newTarget _ | .superRef _ | .this _ | .bigInt _ _ | .bool _ _ | .null _
  | .num _ _ | .regex _ _ | .str _ _ => .done

/-- The outline of an expression that may be missing. -/
def optOutline : Option Expr → Outline
  | none => .done
  | some e => e.outline

/-- The outline of a function: one scope for its parameters and its body. -/
def Func.outline : Func → Outline
  | ⟨isArrow, _, _, params, body⟩ =>
    .scope (if isArrow then .arrow else .function) (paramsOutline params ++ body.outline) .done

/-- The outline of the body of a function. -/
def FuncBody.outline : FuncBody → Outline
  | .block body => stmtsOutline body
  | .expr e => e.outline

/-- The outline of parameters. -/
def paramsOutline : List Param → Outline
  | [] => .done
  | ⟨_, ⟨target, init⟩⟩ :: ps =>
    declareAll target.names ++ (target.outline true ++ (optOutline init ++ paramsOutline ps))

/-- The outline of bindings. -/
def bindersOutline : List Binder → Outline
  | [] => .done
  | ⟨target, init⟩ :: bs =>
    declareAll target.names ++ (target.outline true ++ (optOutline init ++ bindersOutline bs))

/-- The outline of arguments. -/
def argsOutline : List Arg → Outline
  | [] => .done
  | ⟨_, e⟩ :: as => e.outline ++ argsOutline as

/-- The outline of the parts of a template. -/
def templateOutline : List TemplatePart → Outline
  | [] => .done
  | .text _ :: ps => templateOutline ps
  | .subst e :: ps => e.outline ++ templateOutline ps

/-- The outline of the elements of an array literal. -/
def elemsOutline : List ArrayElem → Outline
  | [] => .done
  | .item e :: es => e.outline ++ elemsOutline es
  | .spread e :: es => e.outline ++ elemsOutline es
  | .hole :: es => elemsOutline es

/-- The outline of a key. -/
def Key.outline : Key → Outline
  | .direct _ _ => .done
  | .computed e => e.outline

/-- The outline of what a member holds.  A static block is like the body of a function. -/
def Member.outline : Member → Outline
  | .getter f => f.outline
  | .setter f => f.outline
  | .method f => f.outline
  | .field e => optOutline e
  | .staticBlock body => .scope .function (stmtsOutline body) .done

/-- The outline of the members of an object literal. -/
def objOutline : List ObjMember → Outline
  | [] => .done
  | .valued _ key m :: ms => key.outline ++ (m.outline ++ objOutline ms)
  | .shorthand _ id :: ms => .use .value id (objOutline ms)
  | .spread _ e :: ms => e.outline ++ objOutline ms

/-- The outline of the members of a class. -/
def classOutline : List ClassMember → Outline
  | [] => .done
  | ⟨key, _, m⟩ :: ms => key.outline ++ (m.outline ++ classOutline ms)

/-- The outline of a pattern that declares its names or not. -/
def Pat.outline (declares : Bool) : Pat → Outline
  | .ident id => ofBound declares id
  | .array _ elems none => elemPatsOutline declares elems
  | .array _ elems (some rest) => elemPatsOutline declares elems ++ rest.outline declares
  | .object _ props rest => propsOutline declares props ++ ofRest? declares rest

/-- The outline of the elements of an array pattern. -/
def elemPatsOutline (declares : Bool) : List (Option Binder) → Outline
  | [] => .done
  | none :: es => elemPatsOutline declares es
  | some ⟨target, init⟩ :: es =>
    target.outline declares ++ (optOutline init ++ elemPatsOutline declares es)

/-- The outline of the properties of an object pattern. -/
def propsOutline (declares : Bool) : List PropPat → Outline
  | [] => .done
  | ⟨key, ⟨target, init⟩, _⟩ :: ps =>
    key.outline ++ (target.outline declares ++ (optOutline init ++ propsOutline declares ps))

/-- The outline of an element. -/
def JsxElem.outline : JsxElem → Outline
  | ⟨tag, attrs, children⟩ => ofTag? tag ++ (attrsOutline attrs ++ contentsOutline children)

/-- The outline of the attributes of an element. -/
def attrsOutline : List JsxAttr → Outline
  | [] => .done
  | .named _ none :: as => attrsOutline as
  | .named _ (some c) :: as => c.outline ++ attrsOutline as
  | .spread e :: as => e.outline ++ attrsOutline as

/-- The outline of the value of an attribute or of a child of an element. -/
def JsxContent.outline : JsxContent → Outline
  | .container e => optOutline e
  | .text _ => .done
  | .elem e => e.outline

/-- The outline of the children of an element. -/
def contentsOutline : List JsxContent → Outline
  | [] => .done
  | c :: cs => c.outline ++ contentsOutline cs

/-- The outline of a statement. -/
def Stmt.outline : Stmt → Outline
  | .block _ body => .scope .block (stmtsOutline body) .done
  | .doWhile _ body test => test.outline ++ body.outline
  | .exportDefault _ e => e.outline
  | .exportList _ names _ => ofExport names
  | .expr _ e => e.outline
  | .forIn _ target e body =>
    .scope .block (target.outline ++ (e.outline ++ body.outline)) .done
  | .forOf _ _ target e body =>
    .scope .block (target.outline ++ (e.outline ++ body.outline)) .done
  | .forLoop _ init test post body =>
    .scope .block (init.outline ++ (optOutline test ++ (optOutline post ++ body.outline))) .done
  | .ifElse _ test c none => test.outline ++ c.outline
  | .ifElse _ test c (some a) => test.outline ++ (c.outline ++ a.outline)
  | .importDecl _ default none _ => declaredOutline default
  | .importDecl _ default (some names) _ => declaredOutline default ++ names.outline
  | .label _ _ body => body.outline
  | .returnValue _ e => optOutline e
  | .switch _ e cases => .scope .block (e.outline ++ casesOutline cases) .done
  | .throw _ e => e.outline
  | .tryCatch _ body handler finalizer =>
    .scope .block (stmtsOutline body)
      ((match handler with
        | none => .done
        | some ⟨param, body⟩ =>
          .scope .block (declaredOutline param ++ stmtsOutline body) .done) ++
        (match finalizer with
        | none => .done
        | some last => .scope .block (stmtsOutline last) .done))
  | .while _ test body => test.outline ++ body.outline
  | .withObject _ e body => e.outline ++ body.outline
  | .classDecl _ _ _ name parent members =>
    ofName? name ++ (optOutline parent ++ classOutline members)
  | .funcDecl _ _ _ name f => ofName? name ++ f.outline
  | .varDecl _ _ mode binders => .under mode (bindersOutline binders) .done
  | .breakTo _ _ | .continueTo _ _ | .debugger _ | .empty _ => .done

/-- The outline of statements. -/
def stmtsOutline : List Stmt → Outline
  | [] => .done
  | st :: ss => st.outline ++ stmtsOutline ss

/-- The outline of the first part of the head of a loop. -/
def ForInit.outline : ForInit → Outline
  | .absent => .done
  | .expr e => e.outline
  | .decl mode binders => .under mode (bindersOutline binders) .done

/-- The outline of what a loop over an object assigns to. -/
def ForTarget.outline : ForTarget → Outline
  | .assign p => p.outline false
  | .decl mode p => .under mode (declareAll p.names ++ p.outline true) .done

/-- The outline of the branches of a switch. -/
def casesOutline : List SwitchCase → Outline
  | [] => .done
  | ⟨test, body⟩ :: cs => optOutline test ++ (stmtsOutline body ++ casesOutline cs)

/-- The outline of a pattern that declares its names in the current scope, if there is one. -/
def declaredOutline : Option Pat → Outline
  | none => .done
  | some p => declareAll p.names ++ p.outline true

/-- The outline of what an import names. -/
def ImportNames.outline : ImportNames → Outline
  | .all p => declareAll p.names ++ p.outline true
  | .specific names => specsOutline names

/-- The outline of the items of an import list. -/
def specsOutline : List ImportSpec → Outline
  | [] => .done
  | ⟨_, p⟩ :: ss => declareAll p.names ++ (p.outline true ++ specsOutline ss)

end

/-! ### Running an outline -/

/-- An identifier of a tree, with its role. -/
abbrev RoleIdent := NameRole × Ident

namespace Outline

/-- The scope in which a declaration of a mode declares its names. -/
def homeOf (t : ScopeTree) (s : ScopeId) : VarMode → ScopeId
  | .hoisted => t.closure s
  | .constant | .lexical => s

/-- The scope analysis of an outline: its identifiers, each with what it does, and the scope tree at
the end. -/
def run (home s : ScopeId) : Outline → ScopeTree → List RoleIdent × ScopeTree
  | .done, t => ([], t)
  | .declare name rest, t => rest.run home s (t.declare home name).2
  | .bind role id rest, t =>
    let after := rest.run home s (t.declare home id.name).2
    ((role, { id with mention := .declares (t.declare home id.name).1 }) :: after.1, after.2)
  | .use role id rest, t =>
    let after := rest.run home s t
    ((role, { id with mention := .usedIn s }) :: after.1, after.2)
  | .idle role id rest, t =>
    let after := rest.run home s t
    ((role, { id with mention := .unknown }) :: after.1, after.2)
  | .under mode inside rest, t =>
    let within := inside.run (homeOf t s mode) s t
    let after := rest.run home s within.2
    (within.1 ++ after.1, after.2)
  | .scope kind inside rest, t =>
    let opened := t.child s kind
    let within := inside.run opened.1 opened.1 opened.2
    let after := rest.run home s within.2
    (within.1 ++ after.1, after.2)

end Outline

/-- The identifiers among the parts of a tree. -/
def identsOf : List Part → List RoleIdent
  | [] => []
  | .name role id :: ps => (role, id) :: identsOf ps
  | _ :: ps => identsOf ps

@[simp] theorem identsOf_nil : identsOf [] = [] := rfl

@[simp] theorem identsOf_name (role : NameRole) (id : Ident) (ps : List Part) :
    identsOf (.name role id :: ps) = (role, id) :: identsOf ps := rfl

@[simp] theorem identsOf_stmt (st : Stmt) (ps : List Part) :
    identsOf (.stmt st :: ps) = identsOf ps := rfl

@[simp] theorem identsOf_expr (e : Expr) (ps : List Part) :
    identsOf (.expr e :: ps) = identsOf ps := rfl

@[simp] theorem identsOf_pat (p : Pat) (ps : List Part) :
    identsOf (.pat p :: ps) = identsOf ps := rfl

@[simp] theorem identsOf_append (ps qs : List Part) :
    identsOf (ps ++ qs) = identsOf ps ++ identsOf qs := by
  induction ps with
  | nil => rfl
  | cons p ps ih => cases p <;> simp [ih]

@[simp] theorem identsOf_innerParts (p : Pat) : identsOf p.innerParts = identsOf p.parts := by
  cases p <;> rfl

/-! ### The identifiers of an outline -/

namespace Outline

/-- The identifiers of an outline. -/
def idents : Outline → List RoleIdent
  | .done => []
  | .declare _ rest => rest.idents
  | .bind role id rest | .use role id rest | .idle role id rest => (role, id) :: rest.idents
  | .under _ inside rest | .scope _ inside rest => inside.idents ++ rest.idents

@[simp] theorem idents_append (o₁ o₂ : Outline) : (o₁ ++ o₂).idents = o₁.idents ++ o₂.idents := by
  change (o₁.append o₂).idents = _
  induction o₁ with
  | done => rfl
  | declare name rest ih => exact ih
  | bind role id rest ih | use role id rest ih | idle role id rest ih =>
    simp only [append, idents, ih, List.cons_append]
  | under mode inside rest _ ih | scope kind inside rest _ ih =>
    simp only [append, idents, ih, List.append_assoc]

/-- The identifiers of an outline are those among the parts of a tree. -/
def Lists (o : Outline) (ps : List Part) : Prop := o.idents = identsOf ps

namespace Lists

variable {o o₁ o₂ o₃ o₄ : Outline} {ps ps₁ ps₂ ps₃ ps₄ : List Part}

theorem append (h₁ : o₁.Lists ps₁) (h₂ : o₂.Lists ps₂) : (o₁ ++ o₂).Lists (ps₁ ++ ps₂) := by
  rw [Lists, idents_append, identsOf_append, h₁, h₂]

theorem append₃ (h₁ : o₁.Lists ps₁) (h₂ : o₂.Lists ps₂) (h₃ : o₃.Lists ps₃) :
    (o₁ ++ (o₂ ++ o₃)).Lists (ps₁ ++ ps₂ ++ ps₃) := by
  rw [List.append_assoc]
  exact h₁.append (h₂.append h₃)

theorem append₄ (h₁ : o₁.Lists ps₁) (h₂ : o₂.Lists ps₂) (h₃ : o₃.Lists ps₃) (h₄ : o₄.Lists ps₄) :
    (o₁ ++ (o₂ ++ (o₃ ++ o₄))).Lists (ps₁ ++ ps₂ ++ ps₃ ++ ps₄) := by
  rw [List.append_assoc, List.append_assoc]
  exact h₁.append (h₂.append (h₃.append h₄))

theorem append_nil (h : o.Lists ps) : o.Lists (ps ++ []) := by rwa [List.append_nil]

theorem scope {kind : ScopeKind} (h : o.Lists ps) : (Outline.scope kind o .done).Lists ps :=
  (List.append_nil _).trans h

/-- A scope and what follows it. -/
theorem scope₃ {kind : ScopeKind} (h₁ : o₁.Lists ps₁) (h₂ : o₂.Lists ps₂) (h₃ : o₃.Lists ps₃) :
    (Outline.scope kind o₁ (o₂ ++ o₃)).Lists (ps₁ ++ ps₂ ++ ps₃) := by
  rw [Lists, idents, idents_append, identsOf_append, identsOf_append, h₁, h₂, h₃,
    List.append_assoc]

theorem under {mode : VarMode} (h : o.Lists ps) : (Outline.under mode o .done).Lists ps :=
  (List.append_nil _).trans h

/-- Names that are declared without identifiers. -/
theorem declared {names : List String} (h : o.Lists ps) : (declareAll names ++ o).Lists ps := by
  induction names with
  | nil => exact h
  | cons name names ih => exact ih

theorem ofName? (name : Option Ident) : (ofName? name).Lists (Part.ofName? name) := by
  cases name <;> rfl

theorem ofTag? (tag : Option JsxTag) : (ofTag? tag).Lists (Part.ofTag? tag) := by
  match tag with
  | none | some (.ident _) | some (.member _ _) | some (.name _) => rfl

theorem ofExport (names : ExportNames) : (ofExport names).Lists (Part.ofExport names) := by
  match names with
  | .all none | .all (some _) | .specific _ => rfl

theorem ofBound (declares : Bool) (id : Ident) :
    (ofBound declares id).Lists (Pat.ident id).parts := by
  cases declares <;> rfl

theorem ofRest? (declares : Bool) (rest : Option Ident) :
    (ofRest? declares rest).Lists (rest.map (Part.name .pattern)).toList := by
  cases rest with
  | none => rfl
  | some id => exact ofBound declares id

end Lists

end Outline

mutual

theorem Expr.outline_lists : ∀ e : Expr, e.outline.Lists e.parts
  | .ident _ => rfl
  | .arrow _ f => f.outline_lists
  | .binary _ _ l r => l.outline_lists.append r.outline_lists
  | .call _ _ f args => f.outline_lists.append (args_outline_lists args)
  | .classExpr _ name parent members =>
    .scope (.append₃ (.ofName? name) (opt_outline_lists parent) (class_outline_lists members))
  | .index _ _ e k => e.outline_lists.append k.outline_lists
  | .cond _ t c a => .append₃ t.outline_lists c.outline_lists a.outline_lists
  | .func _ name f => .scope (.append (.ofName? name) f.outline_lists)
  | .importCall _ m => m.outline_lists
  | .member _ _ e _ => e.outline_lists
  | .construct _ f none => f.outline_lists
  | .construct _ f (some args) => f.outline_lists.append (args_outline_lists args)
  | .tagged _ t ps => t.outline_lists.append (template_outline_lists ps)
  | .unary _ _ e => e.outline_lists
  | .update _ _ e => e.outline_lists
  | .yield _ _ e => opt_outline_lists e
  | .jsx _ e => e.outline_lists
  | .array _ es => elems_outline_lists es
  | .object _ ms => obj_outline_lists ms
  | .template _ ps => template_outline_lists ps
  | .target p => (p.outline_lists false).trans (identsOf_innerParts p).symm
  | .importMeta _ | .newTarget _ | .superRef _ | .this _ | .bigInt _ _ | .bool _ _ | .null _
  | .num _ _ | .regex _ _ | .str _ _ => rfl

theorem opt_outline_lists : ∀ e : Option Expr, (optOutline e).Lists (optExprParts e)
  | none => rfl
  | some e => e.outline_lists

theorem Func.outline_lists : ∀ f : Func, f.outline.Lists f.parts
  | ⟨_, _, _, params, body⟩ => .scope (.append (params_outline_lists params) body.outline_lists)

theorem FuncBody.outline_lists : ∀ b : FuncBody, b.outline.Lists b.parts
  | .block body => stmts_outline_lists body
  | .expr e => e.outline_lists

theorem params_outline_lists : ∀ ps : List Param, (paramsOutline ps).Lists (paramsParts ps)
  | [] => rfl
  | ⟨_, ⟨target, init⟩⟩ :: ps =>
    .declared (.append₃ (target.outline_lists true) (opt_outline_lists init)
      (params_outline_lists ps))

theorem binders_outline_lists : ∀ bs : List Binder, (bindersOutline bs).Lists (bindersParts bs)
  | [] => rfl
  | ⟨target, init⟩ :: bs =>
    .declared (.append₃ (target.outline_lists true) (opt_outline_lists init)
      (binders_outline_lists bs))

theorem args_outline_lists : ∀ args : List Arg, (argsOutline args).Lists (argsParts args)
  | [] => rfl
  | ⟨_, e⟩ :: as => e.outline_lists.append (args_outline_lists as)

theorem template_outline_lists : ∀ ps : List TemplatePart,
    (templateOutline ps).Lists (templateParts ps)
  | [] => rfl
  | .text _ :: ps => template_outline_lists ps
  | .subst e :: ps => e.outline_lists.append (template_outline_lists ps)

theorem elems_outline_lists : ∀ es : List ArrayElem, (elemsOutline es).Lists (elemsParts es)
  | [] => rfl
  | .item e :: es | .spread e :: es => e.outline_lists.append (elems_outline_lists es)
  | .hole :: es => elems_outline_lists es

theorem Key.outline_lists : ∀ k : Key, k.outline.Lists k.parts
  | .direct _ _ => rfl
  | .computed e => e.outline_lists

theorem Member.outline_lists : ∀ m : Member, m.outline.Lists m.parts
  | .getter f | .setter f | .method f => f.outline_lists
  | .field e => opt_outline_lists e
  | .staticBlock body => .scope (stmts_outline_lists body)

theorem obj_outline_lists : ∀ ms : List ObjMember, (objOutline ms).Lists (objParts ms)
  | [] => rfl
  | .valued _ key m :: ms => .append₃ key.outline_lists m.outline_lists (obj_outline_lists ms)
  | .shorthand _ id :: ms => congrArg ((NameRole.value, id) :: ·) (obj_outline_lists ms)
  | .spread _ e :: ms => e.outline_lists.append (obj_outline_lists ms)

theorem class_outline_lists : ∀ ms : List ClassMember, (classOutline ms).Lists (classParts ms)
  | [] => rfl
  | ⟨key, _, m⟩ :: ms => .append₃ key.outline_lists m.outline_lists (class_outline_lists ms)

theorem Pat.outline_lists (declares : Bool) : ∀ p : Pat, (p.outline declares).Lists p.parts
  | .ident id => .ofBound declares id
  | .array _ elems none => (elemPats_outline_lists declares elems).append_nil
  | .array _ elems (some rest) =>
    (elemPats_outline_lists declares elems).append (rest.outline_lists declares)
  | .object _ props rest => (props_outline_lists declares props).append (.ofRest? declares rest)

theorem elemPats_outline_lists (declares : Bool) : ∀ es : List (Option Binder),
    (elemPatsOutline declares es).Lists (elemPatsParts es)
  | [] => rfl
  | none :: es => elemPats_outline_lists declares es
  | some ⟨target, init⟩ :: es =>
    .append₃ (target.outline_lists declares) (opt_outline_lists init)
      (elemPats_outline_lists declares es)

theorem props_outline_lists (declares : Bool) : ∀ ps : List PropPat,
    (propsOutline declares ps).Lists (propsParts ps)
  | [] => rfl
  | ⟨key, ⟨target, init⟩, _⟩ :: ps => by
    have hparts := key.outline_lists.append (.append₃ (target.outline_lists declares)
      (opt_outline_lists init) (props_outline_lists declares ps))
    rw [← List.append_assoc] at hparts
    exact hparts

theorem JsxElem.outline_lists : ∀ e : JsxElem, e.outline.Lists e.parts
  | ⟨tag, attrs, children⟩ =>
    .append₃ (.ofTag? tag) (attrs_outline_lists attrs) (contents_outline_lists children)

theorem attrs_outline_lists : ∀ as : List JsxAttr, (attrsOutline as).Lists (attrsParts as)
  | [] => rfl
  | .named _ none :: as => attrs_outline_lists as
  | .named _ (some c) :: as => c.outline_lists.append (attrs_outline_lists as)
  | .spread e :: as => e.outline_lists.append (attrs_outline_lists as)

theorem JsxContent.outline_lists : ∀ c : JsxContent, c.outline.Lists c.parts
  | .container e => opt_outline_lists e
  | .text _ => rfl
  | .elem e => e.outline_lists

theorem contents_outline_lists : ∀ cs : List JsxContent,
    (contentsOutline cs).Lists (contentsParts cs)
  | [] => rfl
  | c :: cs => c.outline_lists.append (contents_outline_lists cs)

theorem Stmt.outline_lists : ∀ st : Stmt, st.outline.Lists st.parts
  | .block _ body => .scope (stmts_outline_lists body)
  | .doWhile _ body test => test.outline_lists.append body.outline_lists
  | .exportDefault _ e => e.outline_lists
  | .exportList _ names _ => .ofExport names
  | .expr _ e => e.outline_lists
  | .forIn _ target e body | .forOf _ _ target e body =>
    .scope (.append₃ target.outline_lists e.outline_lists body.outline_lists)
  | .forLoop _ init test post body =>
    .scope (.append₄ init.outline_lists (opt_outline_lists test) (opt_outline_lists post)
      body.outline_lists)
  | .ifElse _ test c none => (test.outline_lists.append c.outline_lists).append_nil
  | .ifElse _ test c (some a) => .append₃ test.outline_lists c.outline_lists a.outline_lists
  | .importDecl _ default none _ => (declared_outline_lists default).append_nil
  | .importDecl _ default (some names) _ =>
    (declared_outline_lists default).append names.outline_lists
  | .label _ _ body => body.outline_lists
  | .returnValue _ e => opt_outline_lists e
  | .switch _ e cases => .scope (.append e.outline_lists (cases_outline_lists cases))
  | .throw _ e => e.outline_lists
  | .tryCatch _ body none none => .scope₃ (stmts_outline_lists body) rfl rfl
  | .tryCatch _ body none (some last) =>
    .scope₃ (stmts_outline_lists body) rfl (.scope (stmts_outline_lists last))
  | .tryCatch _ body (some ⟨param, handler⟩) none =>
    .scope₃ (stmts_outline_lists body)
      (.scope (.append (declared_outline_lists param) (stmts_outline_lists handler))) rfl
  | .tryCatch _ body (some ⟨param, handler⟩) (some last) =>
    .scope₃ (stmts_outline_lists body)
      (.scope (.append (declared_outline_lists param) (stmts_outline_lists handler)))
      (.scope (stmts_outline_lists last))
  | .while _ test body => test.outline_lists.append body.outline_lists
  | .withObject _ e body => e.outline_lists.append body.outline_lists
  | .classDecl _ _ _ name parent members =>
    .append₃ (.ofName? name) (opt_outline_lists parent) (class_outline_lists members)
  | .funcDecl _ _ _ name f => .append (.ofName? name) f.outline_lists
  | .varDecl _ _ _ binders => .under (binders_outline_lists binders)
  | .breakTo _ _ | .continueTo _ _ | .debugger _ | .empty _ => rfl

theorem stmts_outline_lists : ∀ ss : List Stmt, (stmtsOutline ss).Lists (stmtsParts ss)
  | [] => rfl
  | st :: ss => st.outline_lists.append (stmts_outline_lists ss)

theorem ForInit.outline_lists : ∀ i : ForInit, i.outline.Lists i.parts
  | .absent => rfl
  | .expr e => e.outline_lists
  | .decl _ binders => .under (binders_outline_lists binders)

theorem ForTarget.outline_lists : ∀ g : ForTarget, g.outline.Lists g.parts
  | .assign p => p.outline_lists false
  | .decl _ p => .under (.declared (p.outline_lists true))

theorem cases_outline_lists : ∀ cs : List SwitchCase, (casesOutline cs).Lists (casesParts cs)
  | [] => rfl
  | ⟨test, body⟩ :: cs =>
    .append₃ (opt_outline_lists test) (stmts_outline_lists body) (cases_outline_lists cs)

theorem declared_outline_lists : ∀ p : Option Pat, (declaredOutline p).Lists (optPatParts p)
  | none => rfl
  | some p => .declared (p.outline_lists true)

theorem ImportNames.outline_lists : ∀ n : ImportNames, n.outline.Lists n.parts
  | .all p => .declared (p.outline_lists true)
  | .specific names => specs_outline_lists names

theorem specs_outline_lists : ∀ ss : List ImportSpec, (specsOutline ss).Lists (specsParts ss)
  | [] => rfl
  | ⟨_, p⟩ :: ss => .declared ((p.outline_lists true).append (specs_outline_lists ss))

end

end ImportSeam
