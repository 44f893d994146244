import ImportSeam.Proofs.Grammar.Expressions

/-!
# Trees without the marks of their source

Two ways of reading a text may give trees that differ only in what they remember of it: where each
part stands, whether a property of a pattern was written short, and what kind of token a key was.
Without these marks the trees are equal.  Turning a literal into a pattern respects this: what it
makes of equal literals are equal patterns.

## Main definitions

* `Expr.unmarked`, `Pat.unmarked`, `Stmt.unmarked` — a tree without its marks.

## Main results

* `Expr.toPat_unmarked`, `Expr.toBinder_unmarked` — literals that are equal without marks are turned
  into patterns that are equal without marks.
-/

namespace ImportSeam

/-- An identifier without its place. -/
def Ident.unmarked (id : Ident) : Ident := { id with loc := .point 0 }

/-- The name in a tag without its place. -/
def JsxTag.unmarked : JsxTag → JsxTag
  | .ident id => .ident id.unmarked
  | .member base path => .member base.unmarked path
  | .name n => .name n

/-- The names of an export list without their places. -/
def ExportNames.unmarked : ExportNames → ExportNames
  | .all name => .all (name.map Ident.unmarked)
  | .specific names => .specific names

mutual

/-- An expression without its marks. -/
def Expr.unmarked : Expr → Expr
  | .ident id => .ident id.unmarked
  | .arrow _ f => .arrow (.point 0) f.unmarked
  | .binary _ op l r => .binary (.point 0) op l.unmarked r.unmarked
  | .call _ o f args => .call (.point 0) o f.unmarked (argsUnmarked args)
  | .classExpr _ name parent members =>
    .classExpr (.point 0) (name.map Ident.unmarked) (optUnmarked parent) (classUnmarked members)
  | .index _ o e k => .index (.point 0) o e.unmarked k.unmarked
  | .cond _ t c e => .cond (.point 0) t.unmarked c.unmarked e.unmarked
  | .func _ name f => .func (.point 0) (name.map Ident.unmarked) f.unmarked
  | .importCall _ m => .importCall (.point 0) m.unmarked
  | .importMeta _ => .importMeta (.point 0)
  | .member _ o e p => .member (.point 0) o e.unmarked p
  | .construct _ f args => .construct (.point 0) f.unmarked (optArgsUnmarked args)
  | .newTarget _ => .newTarget (.point 0)
  | .superRef _ => .superRef (.point 0)
  | .tagged _ t ps => .tagged (.point 0) t.unmarked (templateUnmarked ps)
  | .this _ => .this (.point 0)
  | .unary _ op e => .unary (.point 0) op e.unmarked
  | .update _ op e => .update (.point 0) op e.unmarked
  | .yield _ d e => .yield (.point 0) d (optUnmarked e)
  | .jsx _ e => .jsx (.point 0) e.unmarked
  | .array _ es => .array (.point 0) (elemsUnmarked es)
  | .bigInt _ t => .bigInt (.point 0) t
  | .bool _ b => .bool (.point 0) b
  | .null _ => .null (.point 0)
  | .num _ n => .num (.point 0) n
  | .object _ ms => .object (.point 0) (membersUnmarked ms)
  | .regex _ t => .regex (.point 0) t
  | .str _ v => .str (.point 0) v
  | .template _ ps => .template (.point 0) (templateUnmarked ps)
  | .target p => .target p.unmarked

/-- An expression that may be missing. -/
def optUnmarked : Option Expr → Option Expr
  | none => none
  | some e => some e.unmarked

/-- A function. -/
def Func.unmarked : Func → Func
  | ⟨isArrow, isAsync, isGenerator, params, body⟩ =>
    ⟨isArrow, isAsync, isGenerator, paramsUnmarked params, body.unmarked⟩

/-- The body of a function. -/
def FuncBody.unmarked : FuncBody → FuncBody
  | .block body => .block (stmtsUnmarked body)
  | .expr e => .expr e.unmarked

/-- A parameter. -/
def Param.unmarked : Param → Param
  | ⟨isRest, b⟩ => ⟨isRest, b.unmarked⟩

/-- Parameters. -/
def paramsUnmarked : List Param → List Param
  | [] => []
  | p :: ps => p.unmarked :: paramsUnmarked ps

/-- A pattern with its value. -/
def Binder.unmarked : Binder → Binder
  | ⟨target, init⟩ => ⟨target.unmarked, optUnmarked init⟩

/-- Bindings. -/
def bindersUnmarked : List Binder → List Binder
  | [] => []
  | b :: bs => b.unmarked :: bindersUnmarked bs

/-- An argument. -/
def Arg.unmarked : Arg → Arg
  | ⟨isSpread, e⟩ => ⟨isSpread, e.unmarked⟩

/-- Arguments. -/
def argsUnmarked : List Arg → List Arg
  | [] => []
  | a :: as => a.unmarked :: argsUnmarked as

/-- Arguments that may be missing. -/
def optArgsUnmarked : Option (List Arg) → Option (List Arg)
  | none => none
  | some as => some (argsUnmarked as)

/-- A part of a template. -/
def TemplatePart.unmarked : TemplatePart → TemplatePart
  | .text raw => .text raw
  | .subst e => .subst e.unmarked

/-- The parts of a template. -/
def templateUnmarked : List TemplatePart → List TemplatePart
  | [] => []
  | p :: ps => p.unmarked :: templateUnmarked ps

/-- An element of an array literal. -/
def ArrayElem.unmarked : ArrayElem → ArrayElem
  | .item e => .item e.unmarked
  | .spread e => .spread e.unmarked
  | .hole => .hole

/-- The elements of an array literal. -/
def elemsUnmarked : List ArrayElem → List ArrayElem
  | [] => []
  | e :: es => e.unmarked :: elemsUnmarked es

/-- A key, of which only the quotes are remembered. -/
def Key.unmarked : Key → Key
  | .direct text kind => .direct text (if kind = .str then .str else .ident)
  | .computed e => .computed e.unmarked

/-- What a member holds. -/
def Member.unmarked : Member → Member
  | .getter f => .getter f.unmarked
  | .setter f => .setter f.unmarked
  | .method f => .method f.unmarked
  | .field e => .field (optUnmarked e)
  | .staticBlock body => .staticBlock (stmtsUnmarked body)

/-- A member of an object literal. -/
def ObjMember.unmarked : ObjMember → ObjMember
  | .valued _ key m => .valued (.point 0) key.unmarked m.unmarked
  | .shorthand _ id => .shorthand (.point 0) id.unmarked
  | .spread _ e => .spread (.point 0) e.unmarked

/-- The members of an object literal. -/
def membersUnmarked : List ObjMember → List ObjMember
  | [] => []
  | m :: ms => m.unmarked :: membersUnmarked ms

/-- A member of a class. -/
def ClassMember.unmarked : ClassMember → ClassMember
  | ⟨key, isStatic, m⟩ => ⟨key.unmarked, isStatic, m.unmarked⟩

/-- The members of a class. -/
def classUnmarked : List ClassMember → List ClassMember
  | [] => []
  | m :: ms => m.unmarked :: classUnmarked ms

/-- A pattern without its marks. -/
def Pat.unmarked : Pat → Pat
  | .ident id => .ident id.unmarked
  | .array _ elems rest => .array (.point 0) (elemPatsUnmarked elems) (optPatUnmarked rest)
  | .object _ props rest => .object (.point 0) (propsUnmarked props) (rest.map Ident.unmarked)

/-- A pattern that may be missing. -/
def optPatUnmarked : Option Pat → Option Pat
  | none => none
  | some p => some p.unmarked

/-- An element of an array pattern. -/
def optBinderUnmarked : Option Binder → Option Binder
  | none => none
  | some b => some b.unmarked

/-- The elements of an array pattern. -/
def elemPatsUnmarked : List (Option Binder) → List (Option Binder)
  | [] => []
  | e :: es => optBinderUnmarked e :: elemPatsUnmarked es

/-- A property of an object pattern, written in full. -/
def PropPat.unmarked : PropPat → PropPat
  | ⟨key, b, _⟩ => ⟨key.unmarked, b.unmarked, false⟩

/-- The properties of an object pattern. -/
def propsUnmarked : List PropPat → List PropPat
  | [] => []
  | p :: ps => p.unmarked :: propsUnmarked ps

/-- An element. -/
def JsxElem.unmarked : JsxElem → JsxElem
  | ⟨tag, attrs, children⟩ =>
    ⟨tag.map JsxTag.unmarked, attrsUnmarked attrs, contentsUnmarked children⟩

/-- An attribute. -/
def JsxAttr.unmarked : JsxAttr → JsxAttr
  | .named name c => .named name (optContentUnmarked c)
  | .spread e => .spread e.unmarked

/-- The attributes of an element. -/
def attrsUnmarked : List JsxAttr → List JsxAttr
  | [] => []
  | a :: as => a.unmarked :: attrsUnmarked as

/-- The value of an attribute or a child of an element. -/
def JsxContent.unmarked : JsxContent → JsxContent
  | .container e => .container (optUnmarked e)
  | .text raw => .text raw
  | .elem e => .elem e.unmarked

/-- The value of an attribute that may have none. -/
def optContentUnmarked : Option JsxContent → Option JsxContent
  | none => none
  | some c => some c.unmarked

/-- The children of an element. -/
def contentsUnmarked : List JsxContent → List JsxContent
  | [] => []
  | c :: cs => c.unmarked :: contentsUnmarked cs

/-- A statement without its marks. -/
def Stmt.unmarked : Stmt → Stmt
  | .block _ body => .block (.point 0) (stmtsUnmarked body)
  | .breakTo _ l => .breakTo (.point 0) l
  | .continueTo _ l => .continueTo (.point 0) l
  | .debugger _ => .debugger (.point 0)
  | .doWhile _ body test => .doWhile (.point 0) body.unmarked test.unmarked
  | .empty _ => .empty (.point 0)
  | .exportDefault _ e => .exportDefault (.point 0) e.unmarked
  | .exportList _ names source => .exportList (.point 0) names.unmarked source
  | .expr _ e => .expr (.point 0) e.unmarked
  | .forIn _ t e body => .forIn (.point 0) t.unmarked e.unmarked body.unmarked
  | .forOf _ w t e body => .forOf (.point 0) w t.unmarked e.unmarked body.unmarked
  | .forLoop _ init test post body =>
    .forLoop (.point 0) init.unmarked (optUnmarked test) (optUnmarked post) body.unmarked
  | .ifElse _ test c e => .ifElse (.point 0) test.unmarked c.unmarked (optStmtUnmarked e)
  | .importDecl _ d names m =>
    .importDecl (.point 0) (optPatUnmarked d) (optNamesUnmarked names) m
  | .label _ n body => .label (.point 0) n body.unmarked
  | .returnValue _ e => .returnValue (.point 0) (optUnmarked e)
  | .switch _ e cs => .switch (.point 0) e.unmarked (casesUnmarked cs)
  | .throw _ e => .throw (.point 0) e.unmarked
  | .tryCatch _ body handler finalizer =>
    .tryCatch (.point 0) (stmtsUnmarked body) (optCatchUnmarked handler)
      (optStmtsUnmarked finalizer)
  | .while _ test body => .while (.point 0) test.unmarked body.unmarked
  | .withObject _ e body => .withObject (.point 0) e.unmarked body.unmarked
  | .classDecl _ x d n p ms =>
    .classDecl (.point 0) x d (n.map Ident.unmarked) (optUnmarked p) (classUnmarked ms)
  | .funcDecl _ x d n f => .funcDecl (.point 0) x d (n.map Ident.unmarked) f.unmarked
  | .varDecl _ x m bs => .varDecl (.point 0) x m (bindersUnmarked bs)

/-- A statement that may be missing. -/
def optStmtUnmarked : Option Stmt → Option Stmt
  | none => none
  | some s => some s.unmarked

/-- Statements. -/
def stmtsUnmarked : List Stmt → List Stmt
  | [] => []
  | s :: ss => s.unmarked :: stmtsUnmarked ss

/-- Statements that may be missing. -/
def optStmtsUnmarked : Option (List Stmt) → Option (List Stmt)
  | none => none
  | some ss => some (stmtsUnmarked ss)

/-- The first part of the head of a loop. -/
def ForInit.unmarked : ForInit → ForInit
  | .absent => .absent
  | .expr e => .expr e.unmarked
  | .decl mode bs => .decl mode (bindersUnmarked bs)

/-- What a loop over an object assigns to. -/
def ForTarget.unmarked : ForTarget → ForTarget
  | .assign p => .assign p.unmarked
  | .decl mode p => .decl mode p.unmarked

/-- A branch of a switch. -/
def SwitchCase.unmarked : SwitchCase → SwitchCase
  | ⟨test, body⟩ => ⟨optUnmarked test, stmtsUnmarked body⟩

/-- The branches of a switch. -/
def casesUnmarked : List SwitchCase → List SwitchCase
  | [] => []
  | c :: cs => c.unmarked :: casesUnmarked cs

/-- The handler of a try statement. -/
def Catch.unmarked : Catch → Catch
  | ⟨param, body⟩ => ⟨optPatUnmarked param, stmtsUnmarked body⟩

/-- A handler that may be missing. -/
def optCatchUnmarked : Option Catch → Option Catch
  | none => none
  | some c => some c.unmarked

/-- What an import names. -/
def ImportNames.unmarked : ImportNames → ImportNames
  | .all p => .all p.unmarked
  | .specific names => .specific (specsUnmarked names)

/-- The names of an import that may have none. -/
def optNamesUnmarked : Option ImportNames → Option ImportNames
  | none => none
  | some names => some names.unmarked

/-- An item of an import list. -/
def ImportSpec.unmarked : ImportSpec → ImportSpec
  | ⟨imported, p⟩ => ⟨imported, p.unmarked⟩

/-- The items of an import list. -/
def specsUnmarked : List ImportSpec → List ImportSpec
  | [] => []
  | s :: ss => s.unmarked :: specsUnmarked ss

end

/-! ### Lists and options -/

/-- A function on lists that goes over the items. -/
theorem eq_map_of_cons {α β : Type} {f : α → β} {g : List α → List β} (hnil : g [] = [])
    (hcons : ∀ a as, g (a :: as) = f a :: g as) (as : List α) : g as = as.map f := by
  induction as with
  | nil => exact hnil
  | cons a as ih => rw [hcons, ih, List.map_cons]

/-- What one function does not tell apart, a function that is equal to it does not either. -/
theorem alike_of_eq {α β : Type} {f g : α → β} (hfg : ∀ a, f a = g a) {a a' : α}
    (h : g a = g a') : f a = f a' := by
  rw [hfg, hfg, h]

@[simp] theorem optUnmarked_eq (o : Option Expr) : optUnmarked o = o.map Expr.unmarked := by
  cases o <;> rfl

@[simp] theorem optArgsUnmarked_eq (o : Option (List Arg)) :
    optArgsUnmarked o = o.map argsUnmarked := by
  cases o <;> rfl

@[simp] theorem optPatUnmarked_eq (o : Option Pat) : optPatUnmarked o = o.map Pat.unmarked := by
  cases o <;> rfl

@[simp] theorem optBinderUnmarked_eq (o : Option Binder) :
    optBinderUnmarked o = o.map Binder.unmarked := by
  cases o <;> rfl

@[simp] theorem optContentUnmarked_eq (o : Option JsxContent) :
    optContentUnmarked o = o.map JsxContent.unmarked := by
  cases o <;> rfl

@[simp] theorem optStmtUnmarked_eq (o : Option Stmt) : optStmtUnmarked o = o.map Stmt.unmarked := by
  cases o <;> rfl

@[simp] theorem optStmtsUnmarked_eq (o : Option (List Stmt)) :
    optStmtsUnmarked o = o.map stmtsUnmarked := by
  cases o <;> rfl

@[simp] theorem optCatchUnmarked_eq (o : Option Catch) :
    optCatchUnmarked o = o.map Catch.unmarked := by
  cases o <;> rfl

@[simp] theorem optNamesUnmarked_eq (o : Option ImportNames) :
    optNamesUnmarked o = o.map ImportNames.unmarked := by
  cases o <;> rfl

@[simp] theorem paramsUnmarked_eq (ps : List Param) : paramsUnmarked ps = ps.map Param.unmarked :=
  eq_map_of_cons rfl (fun _ _ => rfl) ps

@[simp] theorem bindersUnmarked_eq (bs : List Binder) :
    bindersUnmarked bs = bs.map Binder.unmarked :=
  eq_map_of_cons rfl (fun _ _ => rfl) bs

@[simp] theorem argsUnmarked_eq (as : List Arg) : argsUnmarked as = as.map Arg.unmarked :=
  eq_map_of_cons rfl (fun _ _ => rfl) as

@[simp] theorem templateUnmarked_eq (ps : List TemplatePart) :
    templateUnmarked ps = ps.map TemplatePart.unmarked :=
  eq_map_of_cons rfl (fun _ _ => rfl) ps

@[simp] theorem elemsUnmarked_eq (es : List ArrayElem) :
    elemsUnmarked es = es.map ArrayElem.unmarked :=
  eq_map_of_cons rfl (fun _ _ => rfl) es

@[simp] theorem membersUnmarked_eq (ms : List ObjMember) :
    membersUnmarked ms = ms.map ObjMember.unmarked :=
  eq_map_of_cons rfl (fun _ _ => rfl) ms

@[simp] theorem classUnmarked_eq (ms : List ClassMember) :
    classUnmarked ms = ms.map ClassMember.unmarked :=
  eq_map_of_cons rfl (fun _ _ => rfl) ms

@[simp] theorem elemPatsUnmarked_eq (es : List (Option Binder)) :
    elemPatsUnmarked es = es.map (Option.map Binder.unmarked) :=
  eq_map_of_cons rfl (fun b bs => congrArg (· :: elemPatsUnmarked bs) (optBinderUnmarked_eq b)) es

@[simp] theorem propsUnmarked_eq (ps : List PropPat) : propsUnmarked ps = ps.map PropPat.unmarked :=
  eq_map_of_cons rfl (fun _ _ => rfl) ps

@[simp] theorem attrsUnmarked_eq (as : List JsxAttr) : attrsUnmarked as = as.map JsxAttr.unmarked :=
  eq_map_of_cons rfl (fun _ _ => rfl) as

@[simp] theorem contentsUnmarked_eq (cs : List JsxContent) :
    contentsUnmarked cs = cs.map JsxContent.unmarked :=
  eq_map_of_cons rfl (fun _ _ => rfl) cs

@[simp] theorem stmtsUnmarked_eq (ss : List Stmt) : stmtsUnmarked ss = ss.map Stmt.unmarked :=
  eq_map_of_cons rfl (fun _ _ => rfl) ss

@[simp] theorem casesUnmarked_eq (cs : List SwitchCase) :
    casesUnmarked cs = cs.map SwitchCase.unmarked :=
  eq_map_of_cons rfl (fun _ _ => rfl) cs

@[simp] theorem specsUnmarked_eq (ss : List ImportSpec) :
    specsUnmarked ss = ss.map ImportSpec.unmarked :=
  eq_map_of_cons rfl (fun _ _ => rfl) ss

/-- A pattern and its value are alike where both are. -/
theorem Binder.unmarked_congr {p p' : Pat} {d d' : Option Expr} (hp : p.unmarked = p'.unmarked)
    (hd : d.map Expr.unmarked = d'.map Expr.unmarked) :
    Binder.unmarked ⟨p, d⟩ = Binder.unmarked ⟨p', d'⟩ :=
  congrArg₂ Binder.mk hp (alike_of_eq optUnmarked_eq hd)

/-! ### Literals read as patterns -/

theorem Expr.eq_ident_of_unmarked {e : Expr} {id : Ident} (h : e.unmarked = .ident id) :
    ∃ id', e = .ident id' ∧ id'.unmarked = id := by
  cases e with
  | ident id' => exact ⟨id', rfl, Expr.ident.inj h⟩
  | _ => exact nomatch h

theorem Expr.eq_target_of_unmarked {e : Expr} {p : Pat} (h : e.unmarked = .target p) :
    ∃ p', e = .target p' ∧ p'.unmarked = p := by
  cases e with
  | target p' => exact ⟨p', rfl, Expr.target.inj h⟩
  | _ => exact nomatch h

theorem Expr.eq_array_of_unmarked {e : Expr} {es : List ArrayElem}
    (h : e.unmarked = .array (.point 0) es) :
    ∃ loc es', e = .array loc es' ∧ es'.map ArrayElem.unmarked = es := by
  cases e with
  | array loc es' =>
    exact ⟨loc, es', rfl, elemsUnmarked_eq es' ▸ (Expr.array.inj h).2⟩
  | _ => exact nomatch h

theorem Expr.eq_object_of_unmarked {e : Expr} {ms : List ObjMember}
    (h : e.unmarked = .object (.point 0) ms) :
    ∃ loc ms', e = .object loc ms' ∧ ms'.map ObjMember.unmarked = ms := by
  cases e with
  | object loc ms' =>
    exact ⟨loc, ms', rfl, membersUnmarked_eq ms' ▸ (Expr.object.inj h).2⟩
  | _ => exact nomatch h

theorem Expr.eq_binary_of_unmarked {e : Expr} {op : Operator} {l r : Expr}
    (h : e.unmarked = .binary (.point 0) op l r) :
    ∃ loc l' r', e = .binary loc op l' r' ∧ l'.unmarked = l ∧ r'.unmarked = r := by
  cases e with
  | binary loc op' l' r' =>
    obtain ⟨-, rfl, hl, hr⟩ := Expr.binary.inj h
    exact ⟨loc, l', r', rfl, hl, hr⟩
  | _ => exact nomatch h

/-- What is a pattern is a pattern without a default value. -/
theorem Expr.toBinder_of_toPat {e : Expr} {p : Pat} (h : e.toPat = .ok p) :
    e.toBinder = .ok ⟨p, none⟩ := by
  obtain ⟨id, rfl, rfl⟩ | rfl | ⟨loc, es, ps, rest, rfl, hes, rfl⟩ |
    ⟨loc, ms, ps, rest, rfl, hms, rfl⟩ := Expr.toPat_ok h
  · rfl
  · rfl
  · change elemsToPats loc es >>= _ = _
    rw [hes]
    rfl
  · change membersToProps loc ms >>= _ = _
    rw [hms]
    rfl

/-- An assignment to a pattern is a pattern with a default value. -/
theorem Expr.toBinder_assign {loc : Loc} {left right : Expr} {p : Pat} (h : left.toPat = .ok p) :
    (Expr.binary loc .assign left right).toBinder = .ok ⟨p, some right⟩ := by
  change left.toPat >>= _ = _
  rw [h]
  rfl

theorem elemsToPats_hole {loc : Loc} {es : List ArrayElem} {ps : List (Option Binder)}
    {rest : Option Pat} (h : elemsToPats loc es = .ok (ps, rest)) :
    elemsToPats loc (.hole :: es) = .ok (none :: ps, rest) := by
  change elemsToPats loc es >>= _ = _
  rw [h]
  rfl

theorem elemsToPats_item {loc : Loc} {e : Expr} {b : Binder} {es : List ArrayElem}
    {ps : List (Option Binder)} {rest : Option Pat} (hb : e.toBinder = .ok b)
    (h : elemsToPats loc es = .ok (ps, rest)) :
    elemsToPats loc (.item e :: es) = .ok (some b :: ps, rest) := by
  change e.toBinder >>= (fun b => elemsToPats loc es >>= _) = _
  rw [hb, h]
  rfl

theorem elemsToPats_spread {loc : Loc} {e : Expr} {p : Pat} (h : e.toPat = .ok p) :
    elemsToPats loc [.spread e] = .ok ([], some p) := by
  change e.toPat >>= _ = _
  rw [h]
  rfl

theorem membersToProps_valued {loc memberLoc : Loc} {key : Key} {e : Expr} {b : Binder}
    {ms : List ObjMember} {ps : List PropPat} {rest : Option Ident} (hb : e.toBinder = .ok b)
    (h : membersToProps loc ms = .ok (ps, rest)) :
    membersToProps loc (.valued memberLoc key (.field (some e)) :: ms) =
      .ok (⟨key, b, false⟩ :: ps, rest) := by
  change e.toBinder >>= (fun b => membersToProps loc ms >>= _) = _
  rw [hb, h]
  rfl

theorem membersToProps_shorthand {loc memberLoc : Loc} {id : Ident} {ms : List ObjMember}
    {ps : List PropPat} {rest : Option Ident} (h : membersToProps loc ms = .ok (ps, rest)) :
    membersToProps loc (.shorthand memberLoc id :: ms) =
      .ok (⟨.direct id.name .ident, ⟨.ident id, none⟩, true⟩ :: ps, rest) := by
  change membersToProps loc ms >>= _ = _
  rw [h]
  rfl

/-- Only a member with a value is equal to one. -/
theorem ObjMember.eq_field_of_unmarked {m : ObjMember} {l : Loc} {key : Key} {e : Expr}
    (h : m.unmarked = (ObjMember.valued l key (.field (some e))).unmarked) :
    ∃ l' key' e', m = .valued l' key' (.field (some e')) ∧ key'.unmarked = key.unmarked ∧
      e'.unmarked = e.unmarked := by
  cases m with
  | valued l' key' value =>
    obtain ⟨-, hkey, hvalue⟩ := ObjMember.valued.inj h
    cases value with
    | field o =>
      cases o with
      | none => exact nomatch Member.field.inj hvalue
      | some e' => exact ⟨l', key', e', rfl, hkey, Option.some.inj (Member.field.inj hvalue)⟩
    | _ => exact nomatch hvalue
  | _ => exact nomatch h

mutual

/-- Equal literals are equal patterns. -/
theorem Expr.toPat_unmarked (e : Expr) {e' : Expr} {p : Pat} (h : e'.unmarked = e.unmarked)
    (hp : e.toPat = .ok p) : ∃ p', e'.toPat = .ok p' ∧ p'.unmarked = p.unmarked := by
  match e with
  | .ident id =>
    obtain rfl := Except.ok.inj hp
    obtain ⟨id', rfl, hid⟩ := Expr.eq_ident_of_unmarked h
    exact ⟨.ident id', rfl, congrArg Pat.ident hid⟩
  | .target q =>
    obtain rfl := Except.ok.inj hp
    obtain ⟨q', rfl, hq⟩ := Expr.eq_target_of_unmarked h
    exact ⟨q', rfl, hq⟩
  | .array loc es =>
    change _ = Expr.array _ (elemsUnmarked es) at h
    rw [elemsUnmarked_eq] at h
    obtain ⟨loc', es', rfl, hes⟩ := Expr.eq_array_of_unmarked h
    obtain ⟨⟨ps, rest⟩, hconv, hp⟩ := Except.ok_of_bind (x := elemsToPats loc es) hp
    obtain rfl := Except.ok.inj hp
    obtain ⟨ps', rest', hconv', hps, hrest⟩ := elemsToPats_unmarked es hes hconv loc'
    exact ⟨.array loc' ps' rest', Expr.toPat_array hconv', congrArg₂ (Pat.array _)
      (alike_of_eq elemPatsUnmarked_eq hps) (alike_of_eq optPatUnmarked_eq hrest)⟩
  | .object loc ms =>
    change _ = Expr.object _ (membersUnmarked ms) at h
    rw [membersUnmarked_eq] at h
    obtain ⟨loc', ms', rfl, hms⟩ := Expr.eq_object_of_unmarked h
    obtain ⟨⟨ps, rest⟩, hconv, hp⟩ := Except.ok_of_bind (x := membersToProps loc ms) hp
    obtain rfl := Except.ok.inj hp
    obtain ⟨ps', rest', hconv', hps, hrest⟩ := membersToProps_unmarked ms hms hconv loc'
    exact ⟨.object loc' ps' rest', Expr.toPat_object hconv', congrArg₂ (Pat.object _)
      (alike_of_eq propsUnmarked_eq hps) hrest⟩
  | .arrow .. | .binary .. | .call .. | .classExpr .. | .index .. | .cond .. | .func ..
  | .importCall .. | .importMeta .. | .member .. | .construct .. | .newTarget .. | .superRef ..
  | .tagged .. | .this .. | .unary .. | .update .. | .yield .. | .jsx .. | .bigInt .. | .bool ..
  | .null .. | .num .. | .regex .. | .str .. | .template .. => exact nomatch hp
termination_by (sizeOf e, 0)

theorem Expr.toBinder_unmarked (e : Expr) {e' : Expr} {x : Binder} (h : e'.unmarked = e.unmarked)
    (hx : e.toBinder = .ok x) : ∃ x', e'.toBinder = .ok x' ∧ x'.unmarked = x.unmarked := by
  obtain ⟨loc, left, right, p, rfl, hp, rfl⟩ | ⟨p, hp, rfl⟩ := Expr.toBinder_ok hx
  · obtain ⟨loc', left', right', rfl, hl, hr⟩ := Expr.eq_binary_of_unmarked h
    obtain ⟨p', hp', hsame⟩ := Expr.toPat_unmarked left hl hp
    exact ⟨⟨p', some right'⟩, Expr.toBinder_assign hp',
      congrArg₂ Binder.mk hsame (congrArg some hr)⟩
  · obtain ⟨p', hp', hsame⟩ := Expr.toPat_unmarked e h hp
    exact ⟨⟨p', none⟩, Expr.toBinder_of_toPat hp', congrArg (Binder.mk · none) hsame⟩
termination_by (sizeOf e, 1)

theorem elemsToPats_unmarked (es : List ArrayElem) {es' : List ArrayElem} {loc : Loc}
    {ps : List (Option Binder)} {rest : Option Pat}
    (h : es'.map ArrayElem.unmarked = es.map ArrayElem.unmarked)
    (hconv : elemsToPats loc es = .ok (ps, rest)) (loc' : Loc) :
    ∃ ps' rest', elemsToPats loc' es' = .ok (ps', rest') ∧
      ps'.map (Option.map Binder.unmarked) = ps.map (Option.map Binder.unmarked) ∧
      rest'.map Pat.unmarked = rest.map Pat.unmarked := by
  match es with
  | [] =>
    obtain rfl := List.map_eq_nil_iff.mp h
    obtain ⟨rfl, rfl⟩ := Prod.mk.inj (Except.ok.inj hconv)
    exact ⟨[], none, rfl, rfl, rfl⟩
  | .hole :: es =>
    obtain ⟨x, es', rfl, hx, hes⟩ := List.map_eq_cons_iff.mp h
    obtain rfl : x = .hole := by
      cases x <;> first | rfl | exact nomatch hx
    obtain ⟨ps, ht, rfl⟩ := elemsToPats_hole_ok hconv
    obtain ⟨ps', rest', hps', hsame, hrest⟩ := elemsToPats_unmarked es hes ht loc'
    exact ⟨none :: ps', rest', elemsToPats_hole hps', congrArg (none :: ·) hsame, hrest⟩
  | .item e :: es =>
    obtain ⟨x, es', rfl, hx, hes⟩ := List.map_eq_cons_iff.mp h
    obtain ⟨e', rfl, he⟩ : ∃ e', x = .item e' ∧ e'.unmarked = e.unmarked := by
      cases x <;> first | exact ⟨_, rfl, ArrayElem.item.inj hx⟩ | exact nomatch hx
    obtain ⟨b, ps, hb, ht, rfl⟩ := elemsToPats_item_ok hconv
    obtain ⟨b', hb', hbsame⟩ := Expr.toBinder_unmarked e he hb
    obtain ⟨ps', rest', hps', hsame, hrest⟩ := elemsToPats_unmarked es hes ht loc'
    exact ⟨some b' :: ps', rest', elemsToPats_item hb' hps',
      congrArg₂ (some · :: ·) hbsame hsame, hrest⟩
  | .spread e :: es =>
    obtain ⟨x, es', rfl, hx, hes⟩ := List.map_eq_cons_iff.mp h
    obtain ⟨e', rfl, he⟩ : ∃ e', x = .spread e' ∧ e'.unmarked = e.unmarked := by
      cases x <;> first | exact ⟨_, rfl, ArrayElem.spread.inj hx⟩ | exact nomatch hx
    obtain ⟨p, hp, rfl, rfl, rfl⟩ := elemsToPats_spread_ok hconv
    obtain rfl := List.map_eq_nil_iff.mp hes
    obtain ⟨p', hp', hsame⟩ := Expr.toPat_unmarked e he hp
    exact ⟨[], some p', elemsToPats_spread hp', rfl, congrArg some hsame⟩
termination_by (sizeOf es, 0)

theorem membersToProps_unmarked (ms : List ObjMember) {ms' : List ObjMember} {loc : Loc}
    {ps : List PropPat} {rest : Option Ident}
    (h : ms'.map ObjMember.unmarked = ms.map ObjMember.unmarked)
    (hconv : membersToProps loc ms = .ok (ps, rest)) (loc' : Loc) :
    ∃ ps' rest', membersToProps loc' ms' = .ok (ps', rest') ∧
      ps'.map PropPat.unmarked = ps.map PropPat.unmarked ∧
      rest'.map Ident.unmarked = rest.map Ident.unmarked := by
  match ms with
  | [] =>
    obtain rfl := List.map_eq_nil_iff.mp h
    obtain ⟨rfl, rfl⟩ := Prod.mk.inj (Except.ok.inj hconv)
    exact ⟨[], none, rfl, rfl, rfl⟩
  | .valued l key m :: ms =>
    obtain ⟨x, ms', rfl, hx, hms⟩ := List.map_eq_cons_iff.mp h
    obtain ⟨e, b, ps, rfl, hb, ht, rfl⟩ := membersToProps_valued_ok hconv
    obtain ⟨l', key', e', rfl, hkey, he⟩ := ObjMember.eq_field_of_unmarked hx
    obtain ⟨b', hb', hbsame⟩ := Expr.toBinder_unmarked e he hb
    obtain ⟨ps', rest', hps', hsame, hrest⟩ := membersToProps_unmarked ms hms ht loc'
    exact ⟨⟨key', b', false⟩ :: ps', rest', membersToProps_valued hb' hps',
      congrArg₂ List.cons (congrArg₂ (PropPat.mk · · false) hkey hbsame) hsame, hrest⟩
  | .shorthand l id :: ms =>
    obtain ⟨x, ms', rfl, hx, hms⟩ := List.map_eq_cons_iff.mp h
    obtain ⟨l', id', rfl, hid⟩ : ∃ l' id', x = .shorthand l' id' ∧ id'.unmarked = id.unmarked := by
      cases x <;> first | exact ⟨_, _, rfl, (ObjMember.shorthand.inj hx).2⟩ | exact nomatch hx
    obtain ⟨ps, ht, rfl⟩ := membersToProps_shorthand_ok hconv
    obtain ⟨ps', rest', hps', hsame, hrest⟩ := membersToProps_unmarked ms hms ht loc'
    have hprop := congrArg (fun id : Ident =>
      PropPat.mk (Key.unmarked (.direct id.name .ident)) ⟨.ident id, none⟩ false) hid
    exact ⟨_, rest', membersToProps_shorthand hps', congrArg₂ List.cons hprop hsame, hrest⟩
  | .spread l e :: ms =>
    obtain ⟨x, ms', rfl, hx, hms⟩ := List.map_eq_cons_iff.mp h
    obtain ⟨l', e', rfl, he⟩ : ∃ l' e', x = .spread l' e' ∧ e'.unmarked = e.unmarked := by
      cases x <;> first | exact ⟨_, _, rfl, (ObjMember.spread.inj hx).2⟩ | exact nomatch hx
    obtain ⟨id, rfl, rfl, rfl, rfl⟩ := membersToProps_spread_ok hconv
    obtain ⟨id', rfl, hid⟩ := Expr.eq_ident_of_unmarked he
    obtain rfl := List.map_eq_nil_iff.mp hms
    exact ⟨[], some id', rfl, rfl, congrArg some hid⟩
termination_by (sizeOf ms, 0)

end

/-! ### Left sides of assignments -/

/-- A literal that is a pattern may be assigned to. -/
theorem Expr.toTarget_of_literal {e : Expr} {p : Pat} (h : e.toPat = .ok p)
    (hliteral : (∃ loc es, e = .array loc es) ∨ ∃ loc ms, e = .object loc ms) :
    e.toTarget .assign = .ok (.target p) := by
  obtain ⟨loc, es, rfl⟩ | ⟨loc, ms, rfl⟩ := hliteral
  all_goals
    simp only [Expr.toTarget, beq_self_eq_true, if_true, h]
    rfl

/-- Equal left sides of assignments come from equal expressions. -/
theorem Expr.toTarget_unmarked {op : Operator} {e e' t : Expr} (h : e'.unmarked = e.unmarked)
    (ht : e.toTarget op = .ok t) : ∃ t', e'.toTarget op = .ok t' ∧ t'.unmarked = t.unmarked := by
  obtain ⟨id, rfl, rfl⟩ | ⟨haccess, rfl⟩ | ⟨hliteral, rfl, p, hp, rfl⟩ := Expr.toTarget_ok ht
  · obtain ⟨id', rfl, hid⟩ := Expr.eq_ident_of_unmarked h
    exact ⟨.target (.ident id'), rfl, congrArg (Expr.target ∘ Pat.ident) hid⟩
  · refine ⟨e', ?_, h⟩
    obtain ⟨loc, o, f, p, rfl⟩ | ⟨loc, o, f, k, rfl⟩ := haccess
    · cases e' with
      | member loc' o' f' p' => rfl
      | _ => exact nomatch h
    · cases e' with
      | index loc' o' f' k' => rfl
      | _ => exact nomatch h
  · obtain ⟨p', hp', hsame⟩ := Expr.toPat_unmarked e h hp
    refine ⟨.target p', Expr.toTarget_of_literal hp' ?_, congrArg Expr.target hsame⟩
    obtain ⟨loc, es, rfl⟩ | ⟨loc, ms, rfl⟩ := hliteral
    · obtain ⟨loc', es', rfl, -⟩ := Expr.eq_array_of_unmarked h
      exact .inl ⟨loc', es', rfl⟩
    · obtain ⟨loc', ms', rfl, -⟩ := Expr.eq_object_of_unmarked h
      exact .inr ⟨loc', ms', rfl⟩

end ImportSeam
