import ImportSeam.Proofs.Scope.Outline

/-!
# The outlines of the parts of a tree

The outline of a tree is put together from the outlines of its parts.  So whatever goes over from an
outline to its pieces holds of every statement and every expression of a tree, at any depth.

## Main definitions

* `Outline.Within` — an outline that is a piece of another.
* `Outline.Covers` — an outline of which all the given parts are pieces.

## Main results

* `Expr.outline_covers`, `Stmt.outline_covers` — the outline of a tree covers its parts.
-/

namespace ImportSeam

/-- The outline of a statement or an expression. -/
def Part.outline? : Part → Option Outline
  | .stmt s => some s.outline
  | .expr e => some e.outline
  | .pat _ | .name _ _ => none

namespace Outline

/-- An outline is a piece of another. -/
inductive Within (o : Outline) : Outline → Prop
  | refl : Within o o
  | left {o₁ : Outline} (h : Within o o₁) (o₂ : Outline) : Within o (o₁ ++ o₂)
  | right (o₁ : Outline) {o₂ : Outline} (h : Within o o₂) : Within o (o₁ ++ o₂)
  | use (role : NameRole) (id : Ident) {rest : Outline} (h : Within o rest) :
      Within o (.use role id rest)
  | under (mode : VarMode) {inside : Outline} (h : Within o inside) (rest : Outline) :
      Within o (.under mode inside rest)
  | scope (kind : ScopeKind) {inside : Outline} (h : Within o inside) (rest : Outline) :
      Within o (.scope kind inside rest)
  | after (kind : ScopeKind) (inside : Outline) {rest : Outline} (h : Within o rest) :
      Within o (.scope kind inside rest)

/-- The statements and expressions among the given parts are pieces of an outline. -/
def Covers (o : Outline) (ps : List Part) : Prop :=
  ∀ q ∈ ps, ∀ o', q.outline? = some o' → Within o' o

namespace Covers

variable {o o₁ o₂ o₃ o₄ : Outline} {ps ps₁ ps₂ ps₃ ps₄ : List Part}

theorem nil : o.Covers [] := fun _ hq => nomatch hq

/-- A part comes before the parts inside it. -/
theorem self {q : Part} (hq : q.outline? = some o) (h : o.Covers ps) : o.Covers (q :: ps) := by
  intro q' hq' o' ho'
  rcases List.mem_cons.mp hq' with rfl | hmem
  · obtain rfl := Option.some.inj (hq.symm.trans ho')
    exact .refl
  · exact h q' hmem o' ho'

/-- Patterns and names have no outline of their own. -/
theorem skip {q : Part} (hq : q.outline? = none) (h : o.Covers ps) : o.Covers (q :: ps) := by
  intro q' hq' o' ho'
  rcases List.mem_cons.mp hq' with rfl | hmem
  · exact nomatch hq.symm.trans ho'
  · exact h q' hmem o' ho'

theorem single {q : Part} (hq : q.outline? = none) : o.Covers [q] := .skip hq .nil

theorem append (h₁ : o₁.Covers ps₁) (h₂ : o₂.Covers ps₂) : (o₁ ++ o₂).Covers (ps₁ ++ ps₂) := by
  intro q hq o' ho'
  rcases List.mem_append.mp hq with hq | hq
  · exact .left (h₁ q hq o' ho') o₂
  · exact .right o₁ (h₂ q hq o' ho')

theorem append₃ (h₁ : o₁.Covers ps₁) (h₂ : o₂.Covers ps₂) (h₃ : o₃.Covers ps₃) :
    (o₁ ++ (o₂ ++ o₃)).Covers (ps₁ ++ ps₂ ++ ps₃) := by
  rw [List.append_assoc]
  exact h₁.append (h₂.append h₃)

theorem append₄ (h₁ : o₁.Covers ps₁) (h₂ : o₂.Covers ps₂) (h₃ : o₃.Covers ps₃)
    (h₄ : o₄.Covers ps₄) : (o₁ ++ (o₂ ++ (o₃ ++ o₄))).Covers (ps₁ ++ ps₂ ++ ps₃ ++ ps₄) := by
  rw [List.append_assoc, List.append_assoc]
  exact h₁.append (h₂.append (h₃.append h₄))

theorem append_nil (h : o.Covers ps) : o.Covers (ps ++ []) := by rwa [List.append_nil]

theorem use {role : NameRole} {id : Ident} (h : o.Covers ps) :
    (Outline.use role id o).Covers (.name role id :: ps) :=
  .skip rfl fun q hq o' ho' => .use role id (h q hq o' ho')

theorem under {mode : VarMode} (h : o.Covers ps) : (Outline.under mode o .done).Covers ps :=
  fun q hq o' ho' => .under mode (h q hq o' ho') .done

theorem scope {kind : ScopeKind} (h : o.Covers ps) : (Outline.scope kind o .done).Covers ps :=
  fun q hq o' ho' => .scope kind (h q hq o' ho') .done

/-- A scope and what follows it. -/
theorem scope₃ {kind : ScopeKind} (h₁ : o₁.Covers ps₁) (h₂ : o₂.Covers ps₂) (h₃ : o₃.Covers ps₃) :
    (Outline.scope kind o₁ (o₂ ++ o₃)).Covers (ps₁ ++ ps₂ ++ ps₃) := by
  rw [List.append_assoc]
  intro q hq o' ho'
  rcases List.mem_append.mp hq with hq | hq
  · exact .scope kind (h₁ q hq o' ho') _
  · exact .after kind o₁ (h₂.append h₃ q hq o' ho')

/-- Names that are declared without identifiers. -/
theorem declared {names : List String} (h : o.Covers ps) : (declareAll names ++ o).Covers ps :=
  fun q hq o' ho' => .right _ (h q hq o' ho')

theorem ofName? (name : Option Ident) : o.Covers (Part.ofName? name) := by
  cases name with
  | none => exact .nil
  | some id => exact .single rfl

theorem ofTag? (tag : Option JsxTag) : o.Covers (Part.ofTag? tag) := by
  match tag with
  | none | some (.name _) => exact .nil
  | some (.ident _) | some (.member _ _) => exact .single rfl

theorem ofExport (names : ExportNames) : o.Covers (Part.ofExport names) := by
  match names with
  | .all none | .specific _ => exact .nil
  | .all (some _) => exact .single rfl

theorem ofRest? (rest : Option Ident) : o.Covers (rest.map (Part.name .pattern)).toList := by
  cases rest with
  | none => exact .nil
  | some id => exact .single rfl

/-- The parts inside a pattern. -/
theorem innerParts {p : Pat} (h : o.Covers p.parts) : o.Covers p.innerParts := by
  have hsub : ∀ q ∈ p.innerParts, q ∈ p.parts := by
    cases p <;> exact fun q hq => List.mem_cons_of_mem _ hq
  exact fun q hq => h q (hsub q hq)

end Covers

end Outline

open Outline (Covers)

mutual

theorem Expr.outline_covers : ∀ e : Expr, e.outline.Covers e.parts
  | .ident _ => .self rfl (.single rfl)
  | .arrow _ f => .self rfl f.outline_covers
  | .binary _ _ l r => .self rfl (l.outline_covers.append r.outline_covers)
  | .call _ _ f args => .self rfl (f.outline_covers.append (args_outline_covers args))
  | .classExpr _ name parent members =>
    .self rfl (.scope (.append₃ (.ofName? name) (opt_outline_covers parent)
      (class_outline_covers members)))
  | .index _ _ e k => .self rfl (e.outline_covers.append k.outline_covers)
  | .cond _ t c a => .self rfl (.append₃ t.outline_covers c.outline_covers a.outline_covers)
  | .func _ name f => .self rfl (.scope (.append (.ofName? name) f.outline_covers))
  | .importCall _ m => .self rfl m.outline_covers
  | .member _ _ e _ => .self rfl e.outline_covers
  | .construct _ f none => .self rfl f.outline_covers
  | .construct _ f (some args) =>
    .self rfl (f.outline_covers.append (args_outline_covers args))
  | .tagged _ t ps => .self rfl (t.outline_covers.append (template_outline_covers ps))
  | .unary _ _ e => .self rfl e.outline_covers
  | .update _ _ e => .self rfl e.outline_covers
  | .yield _ _ e => .self rfl (opt_outline_covers e)
  | .jsx _ e => .self rfl e.outline_covers
  | .array _ es => .self rfl (elems_outline_covers es)
  | .object _ ms => .self rfl (obj_outline_covers ms)
  | .template _ ps => .self rfl (template_outline_covers ps)
  | .target p => .self rfl (p.outline_covers false).innerParts
  | .importMeta _ | .newTarget _ | .superRef _ | .this _ | .bigInt _ _ | .bool _ _ | .null _
  | .num _ _ | .regex _ _ | .str _ _ => .self rfl .nil

theorem opt_outline_covers : ∀ e : Option Expr, (optOutline e).Covers (optExprParts e)
  | none => .nil
  | some e => e.outline_covers

theorem Func.outline_covers : ∀ f : Func, f.outline.Covers f.parts
  | ⟨_, _, _, params, body⟩ => .scope (.append (params_outline_covers params) body.outline_covers)

theorem FuncBody.outline_covers : ∀ b : FuncBody, b.outline.Covers b.parts
  | .block body => stmts_outline_covers body
  | .expr e => e.outline_covers

theorem params_outline_covers : ∀ ps : List Param, (paramsOutline ps).Covers (paramsParts ps)
  | [] => .nil
  | ⟨_, ⟨target, init⟩⟩ :: ps =>
    .declared (.append₃ (target.outline_covers true) (opt_outline_covers init)
      (params_outline_covers ps))

theorem binders_outline_covers : ∀ bs : List Binder, (bindersOutline bs).Covers (bindersParts bs)
  | [] => .nil
  | ⟨target, init⟩ :: bs =>
    .declared (.append₃ (target.outline_covers true) (opt_outline_covers init)
      (binders_outline_covers bs))

theorem args_outline_covers : ∀ args : List Arg, (argsOutline args).Covers (argsParts args)
  | [] => .nil
  | ⟨_, e⟩ :: as => e.outline_covers.append (args_outline_covers as)

theorem template_outline_covers : ∀ ps : List TemplatePart,
    (templateOutline ps).Covers (templateParts ps)
  | [] => .nil
  | .text _ :: ps => template_outline_covers ps
  | .subst e :: ps => e.outline_covers.append (template_outline_covers ps)

theorem elems_outline_covers : ∀ es : List ArrayElem, (elemsOutline es).Covers (elemsParts es)
  | [] => .nil
  | .item e :: es | .spread e :: es => e.outline_covers.append (elems_outline_covers es)
  | .hole :: es => elems_outline_covers es

theorem Key.outline_covers : ∀ k : Key, k.outline.Covers k.parts
  | .direct _ _ => .nil
  | .computed e => e.outline_covers

theorem Member.outline_covers : ∀ m : Member, m.outline.Covers m.parts
  | .getter f | .setter f | .method f => f.outline_covers
  | .field e => opt_outline_covers e
  | .staticBlock body => .scope (stmts_outline_covers body)

theorem obj_outline_covers : ∀ ms : List ObjMember, (objOutline ms).Covers (objParts ms)
  | [] => .nil
  | .valued _ key m :: ms => .append₃ key.outline_covers m.outline_covers (obj_outline_covers ms)
  | .shorthand _ _ :: ms => .use (obj_outline_covers ms)
  | .spread _ e :: ms => e.outline_covers.append (obj_outline_covers ms)

theorem class_outline_covers : ∀ ms : List ClassMember, (classOutline ms).Covers (classParts ms)
  | [] => .nil
  | ⟨key, _, m⟩ :: ms => .append₃ key.outline_covers m.outline_covers (class_outline_covers ms)

theorem Pat.outline_covers (declares : Bool) : ∀ p : Pat, (p.outline declares).Covers p.parts
  | .ident _ => .skip rfl (.single rfl)
  | .array _ elems none => .skip rfl (elemPats_outline_covers declares elems).append_nil
  | .array _ elems (some rest) =>
    .skip rfl ((elemPats_outline_covers declares elems).append (rest.outline_covers declares))
  | .object _ props rest =>
    .skip rfl ((props_outline_covers declares props).append (.ofRest? rest))

theorem elemPats_outline_covers (declares : Bool) : ∀ es : List (Option Binder),
    (elemPatsOutline declares es).Covers (elemPatsParts es)
  | [] => .nil
  | none :: es => elemPats_outline_covers declares es
  | some ⟨target, init⟩ :: es =>
    .append₃ (target.outline_covers declares) (opt_outline_covers init)
      (elemPats_outline_covers declares es)

theorem props_outline_covers (declares : Bool) : ∀ ps : List PropPat,
    (propsOutline declares ps).Covers (propsParts ps)
  | [] => .nil
  | ⟨key, ⟨target, init⟩, _⟩ :: ps => by
    rw [propsParts, List.append_assoc]
    exact key.outline_covers.append (.append₃ (target.outline_covers declares)
      (opt_outline_covers init) (props_outline_covers declares ps))

theorem JsxElem.outline_covers : ∀ e : JsxElem, e.outline.Covers e.parts
  | ⟨tag, attrs, children⟩ =>
    .append₃ (.ofTag? tag) (attrs_outline_covers attrs) (contents_outline_covers children)

theorem attrs_outline_covers : ∀ as : List JsxAttr, (attrsOutline as).Covers (attrsParts as)
  | [] => .nil
  | .named _ none :: as => attrs_outline_covers as
  | .named _ (some c) :: as => c.outline_covers.append (attrs_outline_covers as)
  | .spread e :: as => e.outline_covers.append (attrs_outline_covers as)

theorem JsxContent.outline_covers : ∀ c : JsxContent, c.outline.Covers c.parts
  | .container e => opt_outline_covers e
  | .text _ => .nil
  | .elem e => e.outline_covers

theorem contents_outline_covers : ∀ cs : List JsxContent,
    (contentsOutline cs).Covers (contentsParts cs)
  | [] => .nil
  | c :: cs => c.outline_covers.append (contents_outline_covers cs)

theorem Stmt.outline_covers : ∀ st : Stmt, st.outline.Covers st.parts
  | .block _ body => .self rfl (.scope (stmts_outline_covers body))
  | .doWhile _ body test => .self rfl (test.outline_covers.append body.outline_covers)
  | .exportDefault _ e => .self rfl e.outline_covers
  | .exportList _ names _ => .self rfl (.ofExport names)
  | .expr _ e => .self rfl e.outline_covers
  | .forIn _ target e body | .forOf _ _ target e body =>
    .self rfl (.scope (.append₃ target.outline_covers e.outline_covers body.outline_covers))
  | .forLoop _ init test post body =>
    .self rfl (.scope (.append₄ init.outline_covers (opt_outline_covers test)
      (opt_outline_covers post) body.outline_covers))
  | .ifElse _ test c none => .self rfl (test.outline_covers.append c.outline_covers).append_nil
  | .ifElse _ test c (some a) =>
    .self rfl (.append₃ test.outline_covers c.outline_covers a.outline_covers)
  | .importDecl _ default none _ => .self rfl (declared_outline_covers default).append_nil
  | .importDecl _ default (some names) _ =>
    .self rfl ((declared_outline_covers default).append names.outline_covers)
  | .label _ _ body => .self rfl body.outline_covers
  | .returnValue _ e => .self rfl (opt_outline_covers e)
  | .switch _ e cases => .self rfl (.scope (.append e.outline_covers (cases_outline_covers cases)))
  | .throw _ e => .self rfl e.outline_covers
  | .tryCatch _ body none none => .self rfl (.scope₃ (stmts_outline_covers body) .nil .nil)
  | .tryCatch _ body none (some last) =>
    .self rfl (.scope₃ (stmts_outline_covers body) .nil (.scope (stmts_outline_covers last)))
  | .tryCatch _ body (some ⟨param, handler⟩) none =>
    .self rfl (.scope₃ (stmts_outline_covers body)
      (.scope (.append (declared_outline_covers param) (stmts_outline_covers handler))) .nil)
  | .tryCatch _ body (some ⟨param, handler⟩) (some last) =>
    .self rfl (.scope₃ (stmts_outline_covers body)
      (.scope (.append (declared_outline_covers param) (stmts_outline_covers handler)))
      (.scope (stmts_outline_covers last)))
  | .while _ test body => .self rfl (test.outline_covers.append body.outline_covers)
  | .withObject _ e body => .self rfl (e.outline_covers.append body.outline_covers)
  | .classDecl _ _ _ name parent members =>
    .self rfl (.append₃ (.ofName? name) (opt_outline_covers parent) (class_outline_covers members))
  | .funcDecl _ _ _ name f => .self rfl (.append (.ofName? name) f.outline_covers)
  | .varDecl _ _ _ binders => .self rfl (.under (binders_outline_covers binders))
  | .breakTo _ _ | .continueTo _ _ | .debugger _ | .empty _ => .self rfl .nil

theorem stmts_outline_covers : ∀ ss : List Stmt, (stmtsOutline ss).Covers (stmtsParts ss)
  | [] => .nil
  | st :: ss => st.outline_covers.append (stmts_outline_covers ss)

theorem ForInit.outline_covers : ∀ i : ForInit, i.outline.Covers i.parts
  | .absent => .nil
  | .expr e => e.outline_covers
  | .decl _ binders => .under (binders_outline_covers binders)

theorem ForTarget.outline_covers : ∀ g : ForTarget, g.outline.Covers g.parts
  | .assign p => p.outline_covers false
  | .decl _ p => .under (.declared (p.outline_covers true))

theorem cases_outline_covers : ∀ cs : List SwitchCase, (casesOutline cs).Covers (casesParts cs)
  | [] => .nil
  | ⟨test, body⟩ :: cs =>
    .append₃ (opt_outline_covers test) (stmts_outline_covers body) (cases_outline_covers cs)

theorem declared_outline_covers : ∀ p : Option Pat, (declaredOutline p).Covers (optPatParts p)
  | none => .nil
  | some p => .declared (p.outline_covers true)

theorem ImportNames.outline_covers : ∀ n : ImportNames, n.outline.Covers n.parts
  | .all p => .declared (p.outline_covers true)
  | .specific names => specs_outline_covers names

theorem specs_outline_covers : ∀ ss : List ImportSpec, (specsOutline ss).Covers (specsParts ss)
  | [] => .nil
  | ⟨_, p⟩ :: ss => .declared ((p.outline_covers true).append (specs_outline_covers ss))

end

end ImportSeam
