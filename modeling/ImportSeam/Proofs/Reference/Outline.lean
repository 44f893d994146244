import ImportSeam.Instrument.Reference
import ImportSeam.Proofs.Scope.Outline
import Mathlib.Logic.Basic

/-!
# The outline of a redirected tree

Replacing the uses of some names keeps the outline of a tree but for the replaced uses: each becomes
a use of the registry at the same place.

## Main definitions

* `redirectRole` — what becomes of one identifier.
* `Outline.Redirected` — an outline with its uses replaced.

## Main results

* `Expr.outline_redirect`, `Stmt.outline_redirect` — the outline of a redirected tree.
* `stmts_identsOf_redirect` — what becomes of the identifiers of a tree.
-/

namespace ImportSeam

/-- What becomes of one identifier. -/
def redirectRole (a : Aliases) : RoleIdent → RoleIdent
  | (.value, id) => (.value, if (a id).isSome then registryIdent id.loc else id)
  | x => x

theorem redirectRole_of_ne (a : Aliases) {role : NameRole} (h : role ≠ .value) (id : Ident) :
    redirectRole a (role, id) = (role, id) := by
  cases role with
  | value => exact absurd rfl h
  | pattern | own => rfl

open Outline (declareAll ofName? ofTag? ofExport ofBound ofRest?)

/-! ### Redirected outlines -/

/-- An outline with its uses replaced.  What declares a name is never read as a value. -/
inductive Outline.Redirected (a : Aliases) : Outline → Outline → Prop
  | done : Redirected a .done .done
  | declare {name : String} {o o' : Outline} (h : Redirected a o o') :
    Redirected a (.declare name o) (.declare name o')
  | bind {role : NameRole} {id : Ident} {o o' : Outline} (hrole : role ≠ .value)
    (h : Redirected a o o') : Redirected a (.bind role id o) (.bind role id o')
  | use {role : NameRole} {id : Ident} {o o' : Outline} (h : Redirected a o o') :
    Redirected a (.use role id o) (.use role (redirectRole a (role, id)).2 o')
  | idle {role : NameRole} {id : Ident} {o o' : Outline} (hrole : role ≠ .value)
    (h : Redirected a o o') : Redirected a (.idle role id o) (.idle role id o')
  | under {mode : VarMode} {o o' u u' : Outline} (ho : Redirected a o o')
    (hu : Redirected a u u') : Redirected a (.under mode o u) (.under mode o' u')
  | scope {kind : ScopeKind} {o o' u u' : Outline} (ho : Redirected a o o')
    (hu : Redirected a u u') : Redirected a (.scope kind o u) (.scope kind o' u')

mutual

/-- Replacing the uses in a pattern keeps its names. -/
theorem Pat.names_redirect (a : Aliases) : ∀ p : Pat, (p.redirect a).names = p.names
  | .ident _ => rfl
  | .array _ elems none => elemNames_redirect a elems
  | .array _ elems (some rest) =>
    congrArg₂ (· ++ ·) (elemNames_redirect a elems) (rest.names_redirect a)
  | .object _ props _ => congrArg (· ++ _) (propNames_redirect a props)

theorem elemNames_redirect (a : Aliases) : ∀ es : List (Option Binder),
    elemNames (redirectElemPats a es) = elemNames es
  | [] => rfl
  | none :: es => elemNames_redirect a es
  | some ⟨target, _⟩ :: es =>
    congrArg₂ (· ++ ·) (target.names_redirect a) (elemNames_redirect a es)

theorem propNames_redirect (a : Aliases) : ∀ ps : List PropPat,
    propNames (redirectProps a ps) = propNames ps
  | [] => rfl
  | ⟨_, ⟨target, _⟩, _⟩ :: ps =>
    congrArg₂ (· ++ ·) (target.names_redirect a) (propNames_redirect a ps)

end

namespace Outline.Redirected

variable {a : Aliases} {o o' o₁ o₁' o₂ o₂' o₃ o₃' : Outline}

theorem append (h₁ : Redirected a o₁ o₁') (h₂ : Redirected a o₂ o₂') :
    Redirected a (o₁ ++ o₂) (o₁' ++ o₂') := by
  induction h₁ with
  | done => exact h₂
  | declare _ ih => exact .declare ih
  | bind hrole _ ih => exact .bind hrole ih
  | use _ ih => exact .use ih
  | idle hrole _ ih => exact .idle hrole ih
  | under ho _ _ ih => exact .under ho ih
  | scope ho _ _ ih => exact .scope ho ih

theorem append₃ (h₁ : Redirected a o₁ o₁') (h₂ : Redirected a o₂ o₂')
    (h₃ : Redirected a o₃ o₃') : Redirected a (o₁ ++ (o₂ ++ o₃)) (o₁' ++ (o₂' ++ o₃')) :=
  h₁.append (h₂.append h₃)

/-- Names that are declared without identifiers. -/
theorem declareAll (names : List String) (h : Redirected a o o') :
    Redirected a (Outline.declareAll names ++ o) (Outline.declareAll names ++ o') := by
  induction names with
  | nil => exact h
  | cons name names ih => exact .declare ih

/-- A pattern whose names are all declared before it is looked at. -/
theorem declared {p : Pat} (h : Redirected a (p.outline true) ((p.redirect a).outline true)) :
    Redirected a (Outline.declareAll p.names ++ p.outline true)
      (Outline.declareAll (p.redirect a).names ++ (p.redirect a).outline true) := by
  rw [p.names_redirect a]
  exact .declareAll p.names h

theorem declares {p : Pat} (hp : Redirected a (p.outline true) ((p.redirect a).outline true))
    (h : Redirected a o o') :
    Redirected a (Outline.declareAll p.names ++ (p.outline true ++ o))
      (Outline.declareAll (p.redirect a).names ++ ((p.redirect a).outline true ++ o')) := by
  rw [p.names_redirect a]
  exact .declareAll p.names (hp.append h)

theorem value_of_none {id : Ident} (hid : a id = none) (h : Redirected a o o') :
    Redirected a (.use .value id o) (.use .value id o') := by
  have huse : Redirected a (.use .value id o) (.use .value (redirectRole a (.value, id)).2 o') :=
    h.use
  rwa [redirectRole, hid] at huse

theorem value_of_some {id : Ident} {name : String} (hid : a id = some name)
    (h : Redirected a o o') :
    Redirected a (.use .value id o) (.use .value (registryIdent id.loc) o') := by
  have huse : Redirected a (.use .value id o) (.use .value (redirectRole a (.value, id)).2 o') :=
    h.use
  rwa [redirectRole, hid] at huse

variable (a)

theorem ident (id : Ident) :
    Redirected a (Expr.ident id).outline (redirectIdent a id).outline := by
  rw [redirectIdent]
  cases hid : a id with
  | none => exact value_of_none hid .done
  | some name => exact value_of_some hid .done

theorem shorthand (loc : Loc) (id : Ident) {ms ms' : List ObjMember}
    (h : Redirected a (objOutline ms) (objOutline ms')) :
    Redirected a (objOutline (.shorthand loc id :: ms))
      (objOutline (redirectShorthand a loc id :: ms')) := by
  rw [redirectShorthand]
  cases hid : a id with
  | none => exact value_of_none hid h
  | some name => exact value_of_some hid h

theorem ofTag? (tag : Option JsxTag) :
    Redirected a (Outline.ofTag? tag) (Outline.ofTag? (tag.map (redirectTag a))) := by
  match tag with
  | none | some (.name _) => exact .done
  | some (.ident id) | some (.member id _) =>
    rw [Option.map_some, redirectTag]
    cases hid : a id with
    | none => exact value_of_none hid .done
    | some name => exact value_of_some hid .done

theorem ofName? (name : Option Ident) :
    Redirected a (Outline.ofName? name) (Outline.ofName? name) := by
  cases name with
  | none => exact .done
  | some id => exact .bind nofun .done

theorem ofExport (names : ExportNames) :
    Redirected a (Outline.ofExport names) (Outline.ofExport names) := by
  match names with
  | .all (some id) => exact .idle nofun .done
  | .all none | .specific _ => exact .done

theorem ofBound (declares : Bool) (id : Ident) :
    Redirected a (Outline.ofBound declares id) (Outline.ofBound declares id) := by
  cases declares with
  | true => exact .bind nofun .done
  | false => exact .use .done

theorem ofRest? (declares : Bool) (rest : Option Ident) :
    Redirected a (Outline.ofRest? declares rest) (Outline.ofRest? declares rest) := by
  cases rest with
  | none => exact .done
  | some id => exact ofBound a declares id

end Outline.Redirected

open Outline (Redirected)

section

variable (a : Aliases)

mutual

theorem Expr.outline_redirect : ∀ e : Expr, Redirected a e.outline (e.redirect a).outline
  | .ident id => .ident a id
  | .arrow _ f => f.outline_redirect
  | .binary _ _ l r => l.outline_redirect.append r.outline_redirect
  | .call _ _ f args => f.outline_redirect.append (args_outline_redirect args)
  | .classExpr _ name parent members =>
    .scope (.append₃ (.ofName? a name) (opt_outline_redirect parent)
      (class_outline_redirect members)) .done
  | .index _ _ e k => e.outline_redirect.append k.outline_redirect
  | .cond _ t c e => .append₃ t.outline_redirect c.outline_redirect e.outline_redirect
  | .func _ name f => .scope (.append (.ofName? a name) f.outline_redirect) .done
  | .importCall _ m => m.outline_redirect
  | .member _ _ e _ => e.outline_redirect
  | .construct _ f none => f.outline_redirect
  | .construct _ f (some args) => f.outline_redirect.append (args_outline_redirect args)
  | .tagged _ t ps => t.outline_redirect.append (template_outline_redirect ps)
  | .unary _ _ e => e.outline_redirect
  | .update _ _ e => e.outline_redirect
  | .yield _ _ e => opt_outline_redirect e
  | .jsx _ e => e.outline_redirect
  | .array _ es => elems_outline_redirect es
  | .object _ ms => obj_outline_redirect ms
  | .template _ ps => template_outline_redirect ps
  | .target p => p.outline_redirect false
  | .importMeta _ | .newTarget _ | .superRef _ | .this _ | .bigInt _ _ | .bool _ _ | .null _
  | .num _ _ | .regex _ _ | .str _ _ => .done

theorem opt_outline_redirect : ∀ e : Option Expr,
    Redirected a (optOutline e) (optOutline (redirectOpt a e))
  | none => .done
  | some e => e.outline_redirect

theorem Func.outline_redirect : ∀ f : Func, Redirected a f.outline (f.redirect a).outline
  | ⟨_, _, _, params, body⟩ =>
    .scope (.append (params_outline_redirect params) body.outline_redirect) .done

theorem FuncBody.outline_redirect : ∀ b : FuncBody, Redirected a b.outline (b.redirect a).outline
  | .block body => stmts_outline_redirect body
  | .expr e => e.outline_redirect

theorem params_outline_redirect : ∀ ps : List Param,
    Redirected a (paramsOutline ps) (paramsOutline (redirectParams a ps))
  | [] => .done
  | ⟨_, ⟨target, init⟩⟩ :: ps =>
    .declares (target.outline_redirect true)
      ((opt_outline_redirect init).append (params_outline_redirect ps))

theorem binders_outline_redirect : ∀ bs : List Binder,
    Redirected a (bindersOutline bs) (bindersOutline (redirectBinders a bs))
  | [] => .done
  | ⟨target, init⟩ :: bs =>
    .declares (target.outline_redirect true)
      ((opt_outline_redirect init).append (binders_outline_redirect bs))

theorem args_outline_redirect : ∀ args : List Arg,
    Redirected a (argsOutline args) (argsOutline (redirectArgs a args))
  | [] => .done
  | ⟨_, e⟩ :: as => e.outline_redirect.append (args_outline_redirect as)

theorem template_outline_redirect : ∀ ps : List TemplatePart,
    Redirected a (templateOutline ps) (templateOutline (redirectTemplate a ps))
  | [] => .done
  | .text _ :: ps => template_outline_redirect ps
  | .subst e :: ps => e.outline_redirect.append (template_outline_redirect ps)

theorem elems_outline_redirect : ∀ es : List ArrayElem,
    Redirected a (elemsOutline es) (elemsOutline (redirectElems a es))
  | [] => .done
  | .item e :: es | .spread e :: es => e.outline_redirect.append (elems_outline_redirect es)
  | .hole :: es => elems_outline_redirect es

theorem Key.outline_redirect : ∀ k : Key, Redirected a k.outline (k.redirect a).outline
  | .direct _ _ => .done
  | .computed e => e.outline_redirect

theorem Member.outline_redirect : ∀ m : Member, Redirected a m.outline (m.redirect a).outline
  | .getter f | .setter f | .method f => f.outline_redirect
  | .field e => opt_outline_redirect e
  | .staticBlock body => .scope (stmts_outline_redirect body) .done

theorem obj_outline_redirect : ∀ ms : List ObjMember,
    Redirected a (objOutline ms) (objOutline (redirectObj a ms))
  | [] => .done
  | .valued _ key m :: ms =>
    .append₃ key.outline_redirect m.outline_redirect (obj_outline_redirect ms)
  | .shorthand loc id :: ms => .shorthand a loc id (obj_outline_redirect ms)
  | .spread _ e :: ms => e.outline_redirect.append (obj_outline_redirect ms)

theorem class_outline_redirect : ∀ ms : List ClassMember,
    Redirected a (classOutline ms) (classOutline (redirectClass a ms))
  | [] => .done
  | ⟨key, _, m⟩ :: ms =>
    .append₃ key.outline_redirect m.outline_redirect (class_outline_redirect ms)

theorem Pat.outline_redirect (declares : Bool) : ∀ p : Pat,
    Redirected a (p.outline declares) ((p.redirect a).outline declares)
  | .ident id => .ofBound a declares id
  | .array _ elems none => elemPats_outline_redirect declares elems
  | .array _ elems (some rest) =>
    (elemPats_outline_redirect declares elems).append (rest.outline_redirect declares)
  | .object _ props rest => (props_outline_redirect declares props).append (.ofRest? a declares rest)

theorem elemPats_outline_redirect (declares : Bool) : ∀ es : List (Option Binder),
    Redirected a (elemPatsOutline declares es)
      (elemPatsOutline declares (redirectElemPats a es))
  | [] => .done
  | none :: es => elemPats_outline_redirect declares es
  | some ⟨target, init⟩ :: es =>
    .append₃ (target.outline_redirect declares) (opt_outline_redirect init)
      (elemPats_outline_redirect declares es)

theorem props_outline_redirect (declares : Bool) : ∀ ps : List PropPat,
    Redirected a (propsOutline declares ps)
      (propsOutline declares (redirectProps a ps))
  | [] => .done
  | ⟨key, ⟨target, init⟩, _⟩ :: ps => key.outline_redirect.append
    (.append₃ (target.outline_redirect declares) (opt_outline_redirect init)
      (props_outline_redirect declares ps))

theorem JsxElem.outline_redirect : ∀ e : JsxElem, Redirected a e.outline (e.redirect a).outline
  | ⟨tag, attrs, children⟩ =>
    .append₃ (.ofTag? a tag) (attrs_outline_redirect attrs) (contents_outline_redirect children)

theorem attrs_outline_redirect : ∀ as : List JsxAttr,
    Redirected a (attrsOutline as) (attrsOutline (redirectAttrs a as))
  | [] => .done
  | .named _ none :: as => attrs_outline_redirect as
  | .named _ (some c) :: as => c.outline_redirect.append (attrs_outline_redirect as)
  | .spread e :: as => e.outline_redirect.append (attrs_outline_redirect as)

theorem JsxContent.outline_redirect : ∀ c : JsxContent,
    Redirected a c.outline (c.redirect a).outline
  | .container e => opt_outline_redirect e
  | .text _ => .done
  | .elem e => e.outline_redirect

theorem contents_outline_redirect : ∀ cs : List JsxContent,
    Redirected a (contentsOutline cs) (contentsOutline (redirectContents a cs))
  | [] => .done
  | c :: cs => c.outline_redirect.append (contents_outline_redirect cs)

theorem Stmt.outline_redirect : ∀ st : Stmt, Redirected a st.outline (st.redirect a).outline
  | .block _ body => .scope (stmts_outline_redirect body) .done
  | .doWhile _ body test => test.outline_redirect.append body.outline_redirect
  | .exportDefault _ e => e.outline_redirect
  | .exportList _ names _ => .ofExport a names
  | .expr _ e => e.outline_redirect
  | .forIn _ target e body | .forOf _ _ target e body =>
    .scope (.append₃ target.outline_redirect e.outline_redirect body.outline_redirect) .done
  | .forLoop _ init test post body =>
    .scope (init.outline_redirect.append (.append₃ (opt_outline_redirect test)
      (opt_outline_redirect post) body.outline_redirect)) .done
  | .ifElse _ test c none => test.outline_redirect.append c.outline_redirect
  | .ifElse _ test c (some e) =>
    .append₃ test.outline_redirect c.outline_redirect e.outline_redirect
  | .importDecl _ default none _ => declared_outline_redirect default
  | .importDecl _ default (some names) _ =>
    (declared_outline_redirect default).append names.outline_redirect
  | .label _ _ body => body.outline_redirect
  | .returnValue _ e => opt_outline_redirect e
  | .switch _ e cases => .scope (.append e.outline_redirect (cases_outline_redirect cases)) .done
  | .throw _ e => e.outline_redirect
  | .tryCatch _ body none none => .scope (stmts_outline_redirect body) .done
  | .tryCatch _ body none (some last) =>
    .scope (stmts_outline_redirect body) (.scope (stmts_outline_redirect last) .done)
  | .tryCatch _ body (some ⟨param, handler⟩) none =>
    .scope (stmts_outline_redirect body)
      (.scope (.append (declared_outline_redirect param) (stmts_outline_redirect handler)) .done)
  | .tryCatch _ body (some ⟨param, handler⟩) (some last) =>
    .scope (stmts_outline_redirect body)
      (.scope (.append (declared_outline_redirect param) (stmts_outline_redirect handler))
        (.scope (stmts_outline_redirect last) .done))
  | .while _ test body => test.outline_redirect.append body.outline_redirect
  | .withObject _ e body => e.outline_redirect.append body.outline_redirect
  | .classDecl _ _ _ name parent members =>
    .append₃ (.ofName? a name) (opt_outline_redirect parent) (class_outline_redirect members)
  | .funcDecl _ _ _ name f => .append (.ofName? a name) f.outline_redirect
  | .varDecl _ _ _ binders => .under (binders_outline_redirect binders) .done
  | .breakTo _ _ | .continueTo _ _ | .debugger _ | .empty _ => .done

theorem stmts_outline_redirect : ∀ ss : List Stmt,
    Redirected a (stmtsOutline ss) (stmtsOutline (redirectStmts a ss))
  | [] => .done
  | st :: ss => st.outline_redirect.append (stmts_outline_redirect ss)

theorem ForInit.outline_redirect : ∀ i : ForInit, Redirected a i.outline (i.redirect a).outline
  | .absent => .done
  | .expr e => e.outline_redirect
  | .decl _ binders => .under (binders_outline_redirect binders) .done

theorem ForTarget.outline_redirect : ∀ g : ForTarget, Redirected a g.outline (g.redirect a).outline
  | .assign p => p.outline_redirect false
  | .decl _ p => .under (.declared (p.outline_redirect true)) .done

theorem cases_outline_redirect : ∀ cs : List SwitchCase,
    Redirected a (casesOutline cs) (casesOutline (redirectCases a cs))
  | [] => .done
  | ⟨test, body⟩ :: cs =>
    .append₃ (opt_outline_redirect test) (stmts_outline_redirect body) (cases_outline_redirect cs)

theorem declared_outline_redirect : ∀ p : Option Pat,
    Redirected a (declaredOutline p) (declaredOutline (redirectOptPat a p))
  | none => .done
  | some p => .declared (p.outline_redirect true)

theorem ImportNames.outline_redirect : ∀ n : ImportNames,
    Redirected a n.outline (n.redirect a).outline
  | .all p => .declared (p.outline_redirect true)
  | .specific names => specs_outline_redirect names

theorem specs_outline_redirect : ∀ ss : List ImportSpec,
    Redirected a (specsOutline ss) (specsOutline (redirectSpecs a ss))
  | [] => .done
  | ⟨_, p⟩ :: ss => .declares (p.outline_redirect true) (specs_outline_redirect ss)

end

/-- The identifiers of a redirected outline. -/
theorem Outline.Redirected.idents {a : Aliases} {o o' : Outline} (h : Redirected a o o') :
    o'.idents = o.idents.map (redirectRole a) := by
  induction h with
  | done => rfl
  | declare _ ih => exact ih
  | bind hrole _ ih | idle hrole _ ih =>
    rw [Outline.idents, Outline.idents, List.map_cons, redirectRole_of_ne a hrole, ih]
  | @use role id _ _ _ ih =>
    rw [Outline.idents, Outline.idents, List.map_cons, ih]
    cases role <;> rfl
  | under _ _ iho ihu | scope _ _ iho ihu =>
    rw [Outline.idents, Outline.idents, List.map_append, iho, ihu]

/-- What becomes of the identifiers of a tree. -/
theorem stmts_identsOf_redirect (ss : List Stmt) :
    identsOf (stmtsParts (redirectStmts a ss)) =
      (identsOf (stmtsParts ss)).map (redirectRole a) := by
  rw [← stmts_outline_lists, ← stmts_outline_lists]
  exact (stmts_outline_redirect a ss).idents

end

end ImportSeam
