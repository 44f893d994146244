import ImportSeam.Proofs.Reference.Exact
import ImportSeam.Proofs.Reference.Hygiene

/-!
# Places that are written to

An assignment and the head of a loop write to patterns, and patterns keep their names when uses are
replaced.  The operand of `++` and `--` is written to as well, but it is an expression like any
other: a registered binding that stands there becomes a property of the registry.

## Main definitions

* `Write` — a place that is written to.
* `writesOf` — the places in a tree, in the order of its parts.
* `Write.Rewritten` — what becomes of a place.

## Main results

* `stmts_writes` — what becomes of all places of a tree that was read and analysed.
* `instrumented_writes` — the places of every instrumented module.
* `steppingSource_detached` — a step that is taken on the registry.
-/

namespace ImportSeam

/-! ### Places -/

mutual

/-- The identifiers that a pattern binds or assigns to. -/
def Pat.idents : Pat → List Ident
  | .ident id => [id]
  | .array _ elems none => elemIdents elems
  | .array _ elems (some rest) => elemIdents elems ++ rest.idents
  | .object _ props rest => propIdents props ++ rest.toList

/-- The identifiers of the elements of an array pattern. -/
def elemIdents : List (Option Binder) → List Ident
  | [] => []
  | none :: es => elemIdents es
  | some ⟨target, _⟩ :: es => target.idents ++ elemIdents es

/-- The identifiers of the properties of an object pattern. -/
def propIdents : List PropPat → List Ident
  | [] => []
  | ⟨_, ⟨target, _⟩, _⟩ :: ps => target.idents ++ propIdents ps

end

/-- A place that is written to. -/
inductive Write where
  /-- The left side of an assignment, or what the head of a loop assigns to. -/
  | assigned (place : Expr)
  /-- The operand of `++` or `--`. -/
  | stepped (operand : Expr)

/-- Whether the operator adds or subtracts one in place. -/
def Operator.isStep : Operator → Bool
  | .prefixIncrement | .prefixDecrement | .postfixIncrement | .postfixDecrement => true
  | _ => false

/-- What the head of a loop assigns to, unless it declares it. -/
def ForTarget.writes : ForTarget → List Write
  | .assign p => [.assigned (.target p)]
  | .decl _ _ => []

/-- The places that a part itself writes to. -/
def Part.writes : Part → List Write
  | .expr (.binary _ op left _) => if op.isAssignment then [.assigned left] else []
  | .expr (.unary _ op operand) => if op.isStep then [.stepped operand] else []
  | .expr (.update _ _ operand) => [.stepped operand]
  | .stmt (.forIn _ target _ _) => target.writes
  | .stmt (.forOf _ _ target _ _) => target.writes
  | _ => []

/-- The places that are written to, in the order of the parts. -/
def writesOf (ps : List Part) : List Write := ps.flatMap Part.writes

/-- Whether an expression is a property of a value. -/
def Expr.isProperty : Expr → Bool
  | .member .. | .index .. => true
  | _ => false

mutual

/-- Replacing the uses in a pattern keeps its identifiers. -/
theorem Pat.idents_redirect (a : Aliases) : ∀ p : Pat, (p.redirect a).idents = p.idents
  | .ident _ => rfl
  | .array _ elems none => elemIdents_redirect a elems
  | .array _ elems (some rest) =>
    congrArg₂ (· ++ ·) (elemIdents_redirect a elems) (rest.idents_redirect a)
  | .object _ props _ => congrArg (· ++ _) (propIdents_redirect a props)

theorem elemIdents_redirect (a : Aliases) : ∀ es : List (Option Binder),
    elemIdents (redirectElemPats a es) = elemIdents es
  | [] => rfl
  | none :: es => elemIdents_redirect a es
  | some ⟨target, _⟩ :: es =>
    congrArg₂ (· ++ ·) (target.idents_redirect a) (elemIdents_redirect a es)

theorem propIdents_redirect (a : Aliases) : ∀ ps : List PropPat,
    propIdents (redirectProps a ps) = propIdents ps
  | [] => rfl
  | ⟨_, ⟨target, _⟩, _⟩ :: ps =>
    congrArg₂ (· ++ ·) (target.idents_redirect a) (propIdents_redirect a ps)

end

/-! ### What becomes of a place -/

section

variable (bs : List Binding) (resolve : Resolver)

/-- What becomes of a place when the uses of bindings are replaced.  A variable that is assigned to
stays itself; one that is stepped stays itself only if no binding has its declaration. -/
inductive Write.Rewritten : Write → Write → Prop
  | target {p p' : Pat} (h : p'.idents = p.idents) :
    Rewritten (.assigned (.target p)) (.assigned (.target p'))
  | property {e e' : Expr} (h : e.isProperty = true) (h' : e'.isProperty = true) :
    Rewritten (.assigned e) (.assigned e')
  | registered {id : Ident} {b : Binding} (hb : b ∈ bs) (h : resolve id = some b.declaration) :
    Rewritten (.stepped (.ident id)) (.stepped (registryRead id.loc b.name))
  | free {id : Ident} (h : ∀ b ∈ bs, resolve id ≠ some b.declaration) :
    Rewritten (.stepped (.ident id)) (.stepped (.ident id))
  | operand {e e' : Expr} (h : ∀ id, e ≠ .ident id) (h' : ∀ id, e' ≠ .ident id) :
    Rewritten (.stepped e) (.stepped e')

/-- The places of one list of parts became those of another. -/
def WritesTo (ps ps' : List Part) : Prop :=
  List.Forall₂ (Write.Rewritten bs resolve) (writesOf ps) (writesOf ps')

variable {bs resolve}

theorem Write.Rewritten.step (e : Expr) :
    Write.Rewritten bs resolve (.stepped e) (.stepped (e.redirect (aliasesOf bs resolve))) := by
  cases e with
  | ident id =>
    change Write.Rewritten bs resolve (.stepped (.ident id))
      (.stepped (redirectIdent (aliasesOf bs resolve) id))
    rw [redirectIdent]
    cases hid : aliasesOf bs resolve id with
    | none => exact .free (aliasesOf_eq_none hid)
    | some name =>
      obtain ⟨b, hb, hresolve, rfl⟩ := aliasesOf_eq_some hid
      exact .registered hb hresolve
  | construct loc f args =>
    cases args <;> exact .operand (fun _ => Expr.noConfusion) fun _ => Expr.noConfusion
  | _ => exact .operand (fun _ => Expr.noConfusion) fun _ => Expr.noConfusion

/-- The head of a loop keeps what it assigns to. -/
theorem ForTarget.rewritten (t : ForTarget) : List.Forall₂ (Write.Rewritten bs resolve) t.writes
    (t.redirect (aliasesOf bs resolve)).writes := by
  cases t with
  | assign p => exact .cons (.target (p.idents_redirect _)) .nil
  | decl => exact .nil

namespace WritesTo

variable {ps ps' qs qs' rs rs' : List Part}

theorem nil : WritesTo bs resolve [] [] := List.Forall₂.nil

theorem append (h : WritesTo bs resolve ps ps') (h' : WritesTo bs resolve qs qs') :
    WritesTo bs resolve (ps ++ qs) (ps' ++ qs') := by
  rw [WritesTo, writesOf, writesOf, List.flatMap_append, List.flatMap_append]
  exact List.rel_append h h'

theorem append₃ (h : WritesTo bs resolve ps ps') (h' : WritesTo bs resolve qs qs')
    (h'' : WritesTo bs resolve rs rs') :
    WritesTo bs resolve (ps ++ qs ++ rs) (ps' ++ qs' ++ rs') :=
  (h.append h').append h''

theorem cons {x x' : Part} (hx : List.Forall₂ (Write.Rewritten bs resolve) x.writes x'.writes)
    (h : WritesTo bs resolve ps ps') : WritesTo bs resolve (x :: ps) (x' :: ps') := by
  rw [WritesTo, writesOf, writesOf, List.flatMap_cons, List.flatMap_cons]
  exact List.rel_append hx h

/-- Parts that write nothing themselves. -/
theorem silent {x x' : Part} (hx : x.writes = []) (hx' : x'.writes = [])
    (h : WritesTo bs resolve ps ps') : WritesTo bs resolve (x :: ps) (x' :: ps') := by
  refine .cons ?_ h
  rw [hx, hx']
  exact .nil

/-- Parts that write to one place. -/
theorem writing {x x' : Part} {w w' : Write} (hx : x.writes = [w]) (hx' : x'.writes = [w'])
    (hw : Write.Rewritten bs resolve w w') (h : WritesTo bs resolve ps ps') :
    WritesTo bs resolve (x :: ps) (x' :: ps') := by
  refine .cons ?_ h
  rw [hx, hx']
  exact .cons hw .nil

/-- The two sides of an assignment. -/
theorem assignment {loc : Loc} {op : Operator} {l r l' r' : Expr} (hop : op.isAssignment = true)
    (hl : Write.Rewritten bs resolve (.assigned l) (.assigned l'))
    (h : WritesTo bs resolve ps ps') :
    WritesTo bs resolve (.expr (.binary loc op l r) :: ps)
      (.expr (.binary loc op l' r') :: ps') :=
  .writing (if_pos hop) (if_pos hop) hl h

/-- The two sides of an operator that does not assign. -/
theorem operation {loc : Loc} {op : Operator} {l r l' r' : Expr} (hop : op.isBinary = true)
    (h : WritesTo bs resolve ps ps') :
    WritesTo bs resolve (.expr (.binary loc op l r) :: ps)
      (.expr (.binary loc op l' r') :: ps') := by
  have hnot : ¬ op.isAssignment = true := by
    revert hop
    cases op <;> decide
  exact .silent (if_neg hnot) (if_neg hnot) h

theorem unary {loc : Loc} {op : Operator} {e : Expr} (h : WritesTo bs resolve ps ps') :
    WritesTo bs resolve (.expr (.unary loc op e) :: ps)
      (.expr (.unary loc op (e.redirect (aliasesOf bs resolve))) :: ps') := by
  by_cases hop : op.isStep = true
  · exact .writing (if_pos hop) (if_pos hop) (.step e) h
  · exact .silent (if_neg hop) (if_neg hop) h

theorem ident (id : Ident) :
    WritesTo bs resolve (Expr.ident id).parts
      ((Expr.ident id).redirect (aliasesOf bs resolve)).parts := by
  change WritesTo bs resolve _ (redirectIdent (aliasesOf bs resolve) id).parts
  rw [redirectIdent]
  cases aliasesOf bs resolve id <;> exact .nil

theorem shorthand (loc : Loc) (id : Ident) {ms ms' : List ObjMember}
    (h : WritesTo bs resolve (objParts ms) (objParts ms')) :
    WritesTo bs resolve (objParts (.shorthand loc id :: ms))
      (objParts (redirectShorthand (aliasesOf bs resolve) loc id :: ms')) := by
  rw [redirectShorthand]
  cases aliasesOf bs resolve id <;> exact h

theorem tag (t : Option JsxTag) :
    WritesTo bs resolve (Part.ofTag? t)
      (Part.ofTag? (t.map (redirectTag (aliasesOf bs resolve)))) := by
  match t with
  | none | some (.name _) => exact .nil
  | some (.ident id) | some (.member id _) =>
    rw [Option.map_some, redirectTag]
    cases aliasesOf bs resolve id <;> exact .nil

theorem name? (name : Option Ident) :
    WritesTo bs resolve (Part.ofName? name) (Part.ofName? name) := by
  cases name <;> exact .nil

theorem exported (names : ExportNames) :
    WritesTo bs resolve (Part.ofExport names) (Part.ofExport names) := by
  match names with
  | .all (some _) => exact .nil
  | .all none | .specific _ => exact .nil

theorem rest? (rest : Option Ident) :
    WritesTo bs resolve (rest.map (Part.name .pattern)).toList
      (rest.map (Part.name .pattern)).toList := by
  cases rest <;> exact .nil

end WritesTo

end

/-! ### A whole tree

The induction is on the tree that was read, since only there it is known that the left side of every
assignment is a pattern or a property.  Its analysis changes nothing in that. -/

section

variable (bs : List Binding) (resolve : Resolver)

mutual

theorem Expr.writes (ctx : Context) (s : ScopeId) : ∀ e : Expr, e.Formed ctx →
    Yields (e.inScope s) fun x =>
      WritesTo bs resolve x.parts (x.redirect (aliasesOf bs resolve)).parts
  | .ident _, _ => .pure (.ident _)
  | .arrow _ f, h => .map (f.writes ctx true s h) fun _ hf => .silent rfl rfl hf
  | .binary _ op l r, ⟨.inl ⟨hop, hl⟩, hr⟩ => .bind (l.target_writes ctx op s hl) fun _ hl =>
    .map (r.writes ctx s hr) fun _ hr => .assignment hop hl.1 (hl.2.append hr)
  | .binary _ _ l r, ⟨.inr ⟨hop, hl⟩, hr⟩ => .bind (l.writes ctx s hl) fun _ hl =>
    .map (r.writes ctx s hr) fun _ hr => .operation hop (hl.append hr)
  | .call _ _ f args, ⟨hf, hargs⟩ => .bind (f.writes ctx s hf) fun _ hf =>
    .map (args_writes ctx s args hargs) fun _ hargs => .silent rfl rfl (hf.append hargs)
  | .classExpr _ _ parent members, ⟨_, hparent, hmembers⟩ => .skip fun i => .skip fun _ =>
    .bind (opt_writes ctx i parent hparent) fun _ hparent =>
    .map (class_writes ctx i members hmembers) fun _ hmembers =>
      .silent rfl rfl (.append₃ (.name? _) hparent hmembers)
  | .index _ _ e k, ⟨he, hk⟩ => .bind (e.writes ctx s he) fun _ he =>
    .map (k.writes ctx s hk) fun _ hk => .silent rfl rfl (he.append hk)
  | .cond _ t c e, ⟨ht, hc, he⟩ => .bind (t.writes ctx s ht) fun _ ht =>
    .bind (c.writes ctx s hc) fun _ hc =>
    .map (e.writes ctx s he) fun _ he => .silent rfl rfl (.append₃ ht hc he)
  | .func _ _ f, ⟨_, hf⟩ => .skip fun i => .skip fun _ =>
    .map (f.writes ctx false i hf) fun _ hf => .silent rfl rfl (.append (.name? _) hf)
  | .importCall _ m, h => .map (m.writes ctx s h) fun _ hm => .silent rfl rfl hm
  | .member _ _ e _, ⟨he, _⟩ => .map (e.writes ctx s he) fun _ he => .silent rfl rfl he
  | .construct _ f none, ⟨hf, _⟩ => .map (f.writes ctx s hf) fun _ hf => .silent rfl rfl hf
  | .construct _ f (some args), ⟨hf, hargs⟩ => .bind (f.writes ctx s hf) fun _ hf =>
    .map (args_writes ctx s args hargs) fun _ hargs => .silent rfl rfl (hf.append hargs)
  | .tagged _ t ps, ⟨ht, hps⟩ => .bind (t.writes ctx s ht) fun _ ht =>
    .map (template_writes ctx s ps (.inl hps)) fun _ hps => .silent rfl rfl (ht.append hps)
  | .unary _ _ e, ⟨_, _, he⟩ => .map (e.writes ctx s he) fun _ he => .unary he
  | .update _ _ e, ⟨_, he⟩ => .map (e.writes ctx s he) fun x he =>
    .writing rfl rfl (.step x) he
  | .yield _ _ e, ⟨_, _, he⟩ => .map (opt_writes ctx s e he) fun _ he => .silent rfl rfl he
  | .jsx _ e, h => .map (e.writes ctx s h) fun _ he => .silent rfl rfl he
  | .array _ es, h => .map (elems_writes ctx s es h) fun _ hes => .silent rfl rfl hes
  | .object _ ms, h => .map (obj_writes ctx s ms h) fun _ hms => .silent rfl rfl hms
  | .template _ ps, h => .map (template_writes ctx s ps (.inl h)) fun _ hps => .silent rfl rfl hps
  | .importMeta _, _ | .newTarget _, _ | .superRef _, _ | .this _, _ | .bigInt _ _, _
  | .bool _ _, _ | .null _, _ | .num _ _, _ | .regex _ _, _ | .str _ _, _ => .pure .nil

theorem Expr.target_writes (ctx : Context) (op : Operator) (s : ScopeId) : ∀ e : Expr,
    e.TargetFormed ctx op → Yields (e.inScope s) fun x =>
      Write.Rewritten bs resolve (.assigned x) (.assigned (x.redirect (aliasesOf bs resolve))) ∧
        WritesTo bs resolve x.parts (x.redirect (aliasesOf bs resolve)).parts
  | .target p, ⟨hp, _⟩ => .map (p.inner_writes ctx none s hp) fun p hp =>
    ⟨.target (p.idents_redirect _), .silent rfl rfl hp⟩
  | .member _ _ e _, ⟨he, _⟩ => .map (e.writes ctx s he) fun _ he =>
    ⟨.property rfl rfl, .silent rfl rfl he⟩
  | .index _ _ e k, ⟨he, hk⟩ => .bind (e.writes ctx s he) fun _ he =>
    .map (k.writes ctx s hk) fun _ hk => ⟨.property rfl rfl, .silent rfl rfl (he.append hk)⟩

theorem opt_writes (ctx : Context) (s : ScopeId) : ∀ e : Option Expr, optFormed ctx e →
    Yields (optInScope s e) fun x => WritesTo bs resolve (optExprParts x)
      (optExprParts (redirectOpt (aliasesOf bs resolve) x))
  | none, _ => .pure .nil
  | some e, h => .map (e.writes ctx s h) fun _ he => he

theorem Func.writes (ctx : Context) (arrow : Bool) (s : ScopeId) : ∀ f : Func,
    f.Formed ctx arrow → Yields (f.inScope s) fun x =>
      WritesTo bs resolve x.parts (x.redirect (aliasesOf bs resolve)).parts
  | ⟨_, _, _, params, body⟩, ⟨_, _, _, hparams, hbody⟩ => .skip fun i =>
    .bind (params_writes _ i params hparams) fun _ hparams =>
    .map (body.writes _ i hbody) fun _ hbody => hparams.append hbody

theorem FuncBody.writes (ctx : Context) (s : ScopeId) : ∀ b : FuncBody, b.Formed ctx →
    Yields (b.inScope s) fun x =>
      WritesTo bs resolve x.parts (x.redirect (aliasesOf bs resolve)).parts
  | .block body, h => .map (stmts_writes ctx s body h) fun _ hb => hb
  | .expr e, h => .map (e.writes ctx s h) fun _ he => he

theorem params_writes (ctx : Context) (s : ScopeId) : ∀ ps : List Param, paramsFormed ctx ps →
    Yields (paramsInScope s ps) fun x => WritesTo bs resolve (paramsParts x)
      (paramsParts (redirectParams (aliasesOf bs resolve) x))
  | [], _ => .pure .nil
  | ⟨_, ⟨target, init⟩⟩ :: ps, ⟨⟨htarget, hinit⟩, hps⟩ => .skip fun _ =>
    .bind (target.writes ctx (some s) s htarget) fun _ htarget =>
    .bind (opt_writes ctx s init hinit) fun _ hinit =>
    .map (params_writes ctx s ps hps) fun _ hps => .append₃ htarget hinit hps

theorem binders_writes (ctx : Context) (home s : ScopeId) : ∀ xs : List Binder,
    bindersFormed ctx xs → Yields (bindersInScope home s xs) fun x =>
      WritesTo bs resolve (bindersParts x) (bindersParts (redirectBinders (aliasesOf bs resolve) x))
  | [], _ => .pure .nil
  | ⟨target, init⟩ :: xs, ⟨⟨htarget, hinit⟩, hxs⟩ => .skip fun _ =>
    .bind (target.writes ctx (some home) s htarget) fun _ htarget =>
    .bind (opt_writes ctx s init hinit) fun _ hinit =>
    .map (binders_writes ctx home s xs hxs) fun _ hxs => .append₃ htarget hinit hxs

theorem args_writes (ctx : Context) (s : ScopeId) : ∀ args : List Arg, argsFormed ctx args →
    Yields (argsInScope s args) fun x => WritesTo bs resolve (argsParts x)
      (argsParts (redirectArgs (aliasesOf bs resolve) x))
  | [], _ => .pure .nil
  | ⟨_, e⟩ :: as, ⟨he, has⟩ => .bind (e.writes ctx s he) fun _ he =>
    .map (args_writes ctx s as has) fun _ has => he.append has

theorem template_writes (ctx : Context) (s : ScopeId) : ∀ ps : List TemplatePart,
    partsFormed ctx ps ∨ substsFormed ctx ps →
    Yields (templateInScope s ps) fun x => WritesTo bs resolve (templateParts x)
      (templateParts (redirectTemplate (aliasesOf bs resolve) x))
  | [], _ => .pure .nil
  | .text _ :: ps, .inl ⟨_, hps⟩ => .map (template_writes ctx s ps (.inr hps)) fun _ hps => hps
  | .subst e :: ps, .inr ⟨he, hps⟩ => .bind (e.writes ctx s he) fun _ he =>
    .map (template_writes ctx s ps (.inl hps)) fun _ hps => he.append hps

theorem elems_writes (ctx : Context) (s : ScopeId) : ∀ es : List ArrayElem, elemsFormed ctx es →
    Yields (elemsInScope s es) fun x => WritesTo bs resolve (elemsParts x)
      (elemsParts (redirectElems (aliasesOf bs resolve) x))
  | [], _ => .pure .nil
  | .item e :: es, ⟨he, hes⟩ | .spread e :: es, ⟨he, hes⟩ => .bind (e.writes ctx s he) fun _ he =>
    .map (elems_writes ctx s es hes) fun _ hes => he.append hes
  | .hole :: es, h => .map (elems_writes ctx s es h) fun _ hes => hes

theorem Key.writes (ctx : Context) (allowPrivate : Bool) (s : ScopeId) : ∀ k : Key,
    k.Formed ctx allowPrivate → Yields (k.inScope s) fun x =>
      WritesTo bs resolve x.parts (x.redirect (aliasesOf bs resolve)).parts
  | .direct _ _, _ => .pure .nil
  | .computed e, h => .map (e.writes ctx s h) fun _ he => he

theorem Member.writes (ctx : Context) (s : ScopeId) : ∀ m : Member, m.Formed ctx →
    Yields (m.inScope s) fun x =>
      WritesTo bs resolve x.parts (x.redirect (aliasesOf bs resolve)).parts
  | .getter f, ⟨_, hf⟩ | .setter f, ⟨_, hf⟩ => .map (f.writes ctx false s hf) fun _ hf => hf
  | .method f, h => .map (f.writes ctx false s h) fun _ hf => hf
  | .field e, h => .map (opt_writes ctx s e h) fun _ he => he
  | .staticBlock body, h => .skip fun i => .map (stmts_writes _ i body h) fun _ hb => hb

theorem obj_writes (ctx : Context) (s : ScopeId) : ∀ ms : List ObjMember, objFormed ctx ms →
    Yields (objInScope s ms) fun x => WritesTo bs resolve (objParts x)
      (objParts (redirectObj (aliasesOf bs resolve) x))
  | [], _ => .pure .nil
  | .valued _ key m :: ms, ⟨⟨hkey, _, _, hm⟩, hms⟩ =>
    .bind (key.writes ctx false s hkey) fun _ hkey => .bind (m.writes ctx s hm) fun _ hm =>
    .map (obj_writes ctx s ms hms) fun _ hms => .append₃ hkey hm hms
  | .shorthand loc _ :: ms, ⟨_, hms⟩ => .map (obj_writes ctx s ms hms) fun _ hms =>
    .shorthand loc _ hms
  | .spread _ e :: ms, ⟨he, hms⟩ => .bind (e.writes ctx s he) fun _ he =>
    .map (obj_writes ctx s ms hms) fun _ hms => he.append hms

theorem class_writes (ctx : Context) (s : ScopeId) : ∀ ms : List ClassMember,
    classFormed ctx ms → Yields (classInScope s ms) fun x =>
      WritesTo bs resolve (classParts x) (classParts (redirectClass (aliasesOf bs resolve) x))
  | [], _ => .pure .nil
  | ⟨key, _, m⟩ :: ms, ⟨⟨hkey, _, hm⟩, hms⟩ =>
    .bind (key.writes ctx true s hkey) fun _ hkey => .bind (m.writes ctx s hm) fun _ hm =>
    .map (class_writes ctx s ms hms) fun _ hms => .append₃ hkey hm hms

theorem Pat.inner_writes (ctx : Context) (home : Option ScopeId) (s : ScopeId) : ∀ p : Pat,
    p.Formed ctx → Yields (p.inScope home s) fun x => WritesTo bs resolve x.innerParts
      (x.redirect (aliasesOf bs resolve)).innerParts
  | .ident _, _ => .skip fun _ => .pure .nil
  | .array _ elems none, ⟨helems, _⟩ => .map (elemPats_writes ctx home s elems helems)
    fun _ helems => helems.append .nil
  | .array _ elems (some rest), ⟨helems, hrest⟩ =>
    .bind (elemPats_writes ctx home s elems helems) fun _ helems =>
    .map (rest.writes ctx home s hrest) fun _ hrest => helems.append hrest
  | .object _ props _, ⟨hprops, _⟩ => .bind (props_writes ctx home s props hprops) fun _ hprops =>
    .skip fun _ => .pure (hprops.append (.rest? _))

theorem Pat.writes (ctx : Context) (home : Option ScopeId) (s : ScopeId) : ∀ p : Pat,
    p.Formed ctx → Yields (p.inScope home s) fun x =>
      WritesTo bs resolve x.parts (x.redirect (aliasesOf bs resolve)).parts
  | .ident _, _ => .skip fun _ => .pure .nil
  | .array _ elems none, ⟨helems, _⟩ => .map (elemPats_writes ctx home s elems helems)
    fun _ helems => .silent rfl rfl (helems.append .nil)
  | .array _ elems (some rest), ⟨helems, hrest⟩ =>
    .bind (elemPats_writes ctx home s elems helems) fun _ helems =>
    .map (rest.writes ctx home s hrest) fun _ hrest => .silent rfl rfl (helems.append hrest)
  | .object _ props _, ⟨hprops, _⟩ => .bind (props_writes ctx home s props hprops) fun _ hprops =>
    .skip fun _ => .pure (.silent rfl rfl (hprops.append (.rest? _)))

theorem elemPats_writes (ctx : Context) (home : Option ScopeId) (s : ScopeId) :
    ∀ es : List (Option Binder), elemPatsFormed ctx es →
    Yields (elemPatsInScope home s es) fun x => WritesTo bs resolve (elemPatsParts x)
      (elemPatsParts (redirectElemPats (aliasesOf bs resolve) x))
  | [], _ => .pure .nil
  | none :: es, h => .map (elemPats_writes ctx home s es h) fun _ hes => hes
  | some ⟨target, init⟩ :: es, ⟨⟨htarget, hinit⟩, hes⟩ =>
    .bind (target.writes ctx home s htarget) fun _ htarget =>
    .bind (opt_writes ctx s init hinit) fun _ hinit =>
    .map (elemPats_writes ctx home s es hes) fun _ hes => .append₃ htarget hinit hes

theorem props_writes (ctx : Context) (home : Option ScopeId) (s : ScopeId) :
    ∀ ps : List PropPat, propsFormed ctx ps →
    Yields (propsInScope home s ps) fun x => WritesTo bs resolve (propsParts x)
      (propsParts (redirectProps (aliasesOf bs resolve) x))
  | [], _ => .pure .nil
  | ⟨key, ⟨target, init⟩, _⟩ :: ps, ⟨⟨hkey, htarget, hinit⟩, hps⟩ =>
    .bind (key.writes ctx false s hkey) fun _ hkey =>
    .bind (target.writes ctx home s htarget) fun _ htarget =>
    .bind (opt_writes ctx s init hinit) fun _ hinit =>
    .map (props_writes ctx home s ps hps) fun _ hps =>
      .append₃ hkey (htarget.append hinit) hps

theorem JsxElem.writes (ctx : Context) (s : ScopeId) : ∀ e : JsxElem, e.Formed ctx →
    Yields (e.inScope s) fun x =>
      WritesTo bs resolve x.parts (x.redirect (aliasesOf bs resolve)).parts
  | ⟨_, attrs, children⟩, ⟨_, _, hattrs, hchildren⟩ =>
    .bind (attrs_writes ctx s attrs hattrs) fun _ hattrs =>
    .map (contents_writes ctx s children hchildren) fun _ hchildren =>
      .append₃ (.tag _) hattrs hchildren

theorem attrs_writes (ctx : Context) (s : ScopeId) : ∀ as : List JsxAttr, attrsFormed ctx as →
    Yields (attrsInScope s as) fun x => WritesTo bs resolve (attrsParts x)
      (attrsParts (redirectAttrs (aliasesOf bs resolve) x))
  | [], _ => .pure .nil
  | .named _ none :: as, ⟨_, has⟩ => .map (attrs_writes ctx s as has) fun _ has => has
  | .named _ (some c) :: as, ⟨⟨_, hc⟩, has⟩ => .bind (c.writes ctx true s hc) fun _ hc =>
    .map (attrs_writes ctx s as has) fun _ has => hc.append has
  | .spread e :: as, ⟨he, has⟩ => .bind (e.writes ctx s he) fun _ he =>
    .map (attrs_writes ctx s as has) fun _ has => he.append has

theorem JsxContent.writes (ctx : Context) (inTag : Bool) (s : ScopeId) : ∀ c : JsxContent,
    c.Formed ctx inTag → Yields (c.inScope s) fun x =>
      WritesTo bs resolve x.parts (x.redirect (aliasesOf bs resolve)).parts
  | .container e, h => .map (opt_writes ctx s e h) fun _ he => he
  | .text _, _ => .pure .nil
  | .elem e, h => .map (e.writes ctx s h) fun _ he => he

theorem contents_writes (ctx : Context) (s : ScopeId) : ∀ cs : List JsxContent,
    contentsFormed ctx cs → Yields (contentsInScope s cs) fun x =>
      WritesTo bs resolve (contentsParts x)
        (contentsParts (redirectContents (aliasesOf bs resolve) x))
  | [], _ => .pure .nil
  | c :: cs, ⟨⟨hc, _⟩, hcs⟩ => .bind (c.writes ctx false s hc) fun _ hc =>
    .map (contents_writes ctx s cs hcs) fun _ hcs => hc.append hcs

theorem Stmt.writes (ctx : Context) (s : ScopeId) : ∀ st : Stmt, st.Formed ctx →
    Yields (st.inScope s) fun x =>
      WritesTo bs resolve x.parts (x.redirect (aliasesOf bs resolve)).parts
  | .block _ body, h => .skip fun i => .map (stmts_writes ctx i body h) fun _ hb =>
    .silent rfl rfl hb
  | .doWhile _ body test, ⟨hbody, htest⟩ => .bind (test.writes ctx s htest) fun _ htest =>
    .map (body.writes ctx s hbody) fun _ hbody => .silent rfl rfl (htest.append hbody)
  | .exportDefault _ e, h => .map (e.writes ctx s h) fun _ he => .silent rfl rfl he
  | .exportList _ _ _, _ => .pure (.silent rfl rfl (.exported _))
  | .expr _ e, h => .map (e.writes ctx s h) fun _ he => .silent rfl rfl he
  | .forIn _ t e body, ⟨ht, he, hbody⟩ => .skip fun i => .bind (t.head_writes ctx i ht) fun t ht =>
    .bind (e.writes ctx i he) fun _ he => .map (body.writes ctx i hbody) fun _ hbody =>
      .cons t.rewritten (.append₃ ht he hbody)
  | .forOf _ _ t e body, ⟨ht, he, hbody⟩ => .skip fun i =>
    .bind (t.head_writes ctx i ht) fun t ht =>
    .bind (e.writes ctx i he) fun _ he => .map (body.writes ctx i hbody) fun _ hbody =>
      .cons t.rewritten (.append₃ ht he hbody)
  | .forLoop _ init test post body, ⟨hinit, htest, hpost, hbody⟩ => .skip fun i =>
    .bind (init.writes ctx i hinit) fun _ hinit =>
    .bind (opt_writes ctx i test htest) fun _ htest =>
    .bind (opt_writes ctx i post hpost) fun _ hpost =>
    .map (body.writes ctx i hbody) fun _ hbody =>
      .silent rfl rfl (.append₃ (hinit.append htest) hpost hbody)
  | .ifElse _ test c none, ⟨htest, hc, _⟩ => .bind (test.writes ctx s htest) fun _ htest =>
    .map (c.writes ctx s hc) fun _ hc => .silent rfl rfl (.append₃ htest hc .nil)
  | .ifElse _ test c (some e), ⟨htest, hc, _, he⟩ =>
    .bind (test.writes ctx s htest) fun _ htest => .bind (c.writes ctx s hc) fun _ hc =>
    .map (e.writes ctx s he) fun _ he => .silent rfl rfl (.append₃ htest hc he)
  | .importDecl _ d none _, ⟨hd, _⟩ =>
    .map (declared_writes ctx s d (optPatFormed_of_fresh hd)) fun _ hd =>
      .silent rfl rfl (hd.append .nil)
  | .importDecl _ d (some names) _, ⟨hd, hnames⟩ =>
    .bind (declared_writes ctx s d (optPatFormed_of_fresh hd)) fun _ hd =>
    .map (names.writes ctx s (hnames names rfl)) fun _ hnames =>
      .silent rfl rfl (hd.append hnames)
  | .label _ _ body, ⟨_, hbody⟩ => .map (body.writes ctx s hbody) fun _ hbody =>
    .silent rfl rfl hbody
  | .returnValue _ e, h => .map (opt_writes ctx s e h) fun _ he => .silent rfl rfl he
  | .switch _ e cs, ⟨he, hcs⟩ => .skip fun i => .bind (e.writes ctx i he) fun _ he =>
    .map (cases_writes ctx i cs hcs) fun _ hcs => .silent rfl rfl (he.append hcs)
  | .throw _ e, h => .map (e.writes ctx s h) fun _ he => .silent rfl rfl he
  | .tryCatch _ body none none, ⟨hbody, _⟩ => .skip fun i =>
    .bind (stmts_writes ctx i body hbody) fun _ hbody =>
      .pure (.silent rfl rfl (.append₃ hbody .nil .nil))
  | .tryCatch loc body none (some last), ⟨hbody, _, hlast, _⟩ => .skip fun i =>
    .bind (stmts_writes ctx i body hbody) fun body hbody => by
    change Yields (Scoping.child s .block >>= fun i => stmtsInScope i last >>= fun last =>
      pure (Stmt.tryCatch loc body none (some last))) _
    exact .skip fun i => .map (stmts_writes ctx i last hlast) fun _ hlast =>
      .silent rfl rfl (.append₃ hbody .nil hlast)
  | .tryCatch loc body (some ⟨param, handler⟩) none, ⟨hbody, ⟨hparam, hhandler⟩, _⟩ =>
    .skip fun i => .bind (stmts_writes ctx i body hbody) fun body hbody => by
    change Yields (Scoping.child s .block >>= fun i => declaredInScope i param >>= fun param =>
      stmtsInScope i handler >>= fun handler =>
        pure (Stmt.tryCatch loc body (some ⟨param, handler⟩) none)) _
    exact .skip fun i => .bind (declared_writes ctx i param hparam) fun _ hparam =>
      .map (stmts_writes ctx i handler hhandler) fun _ hhandler =>
        .silent rfl rfl (.append₃ hbody (hparam.append hhandler) .nil)
  | .tryCatch loc body (some ⟨param, handler⟩) (some last),
      ⟨hbody, ⟨hparam, hhandler⟩, hlast, _⟩ =>
    .skip fun i => .bind (stmts_writes ctx i body hbody) fun body hbody => by
    change Yields (Scoping.child s .block >>= fun i => declaredInScope i param >>= fun param =>
      stmtsInScope i handler >>= fun handler => Scoping.child s .block >>= fun i =>
        stmtsInScope i last >>= fun last =>
          pure (Stmt.tryCatch loc body (some ⟨param, handler⟩) (some last))) _
    exact .skip fun i => .bind (declared_writes ctx i param hparam) fun _ hparam =>
      .bind (stmts_writes ctx i handler hhandler) fun _ hhandler =>
      .skip fun i => .map (stmts_writes ctx i last hlast) fun _ hlast =>
        .silent rfl rfl (.append₃ hbody (hparam.append hhandler) hlast)
  | .while _ test body, ⟨htest, hbody⟩ => .bind (test.writes ctx s htest) fun _ htest =>
    .map (body.writes ctx s hbody) fun _ hbody => .silent rfl rfl (htest.append hbody)
  | .withObject _ e body, ⟨he, hbody⟩ => .bind (e.writes ctx s he) fun _ he =>
    .map (body.writes ctx s hbody) fun _ hbody => .silent rfl rfl (he.append hbody)
  | .classDecl _ _ _ _ parent members, ⟨_, _, hparent, hmembers⟩ => .skip fun _ =>
    .bind (opt_writes ctx s parent hparent) fun _ hparent =>
    .map (class_writes ctx s members hmembers) fun _ hmembers =>
      .silent rfl rfl (.append₃ (.name? _) hparent hmembers)
  | .funcDecl _ _ _ _ f, ⟨_, _, hf⟩ => .skip fun _ =>
    .map (f.writes ctx false s hf) fun _ hf => .silent rfl rfl (.append (.name? _) hf)
  | .varDecl _ _ _ xs, ⟨_, hxs⟩ => .skip fun d => .map (binders_writes ctx d s xs hxs)
    fun _ hxs => .silent rfl rfl hxs
  | .breakTo _ _, _ | .continueTo _ _, _ | .debugger _, _ | .empty _, _ =>
    .pure (.silent rfl rfl .nil)

theorem stmts_writes (ctx : Context) (s : ScopeId) : ∀ ss : List Stmt, stmtsFormed ctx ss →
    Yields (stmtsInScope s ss) fun x => WritesTo bs resolve (stmtsParts x)
      (stmtsParts (redirectStmts (aliasesOf bs resolve) x))
  | [], _ => .pure .nil
  | st :: ss, ⟨hst, hss⟩ => .bind (st.writes ctx s hst) fun _ hst =>
    .map (stmts_writes ctx s ss hss) fun _ hss => hst.append hss

theorem ForInit.writes (ctx : Context) (s : ScopeId) : ∀ i : ForInit, i.Formed ctx →
    Yields (i.inScope s) fun x =>
      WritesTo bs resolve x.parts (x.redirect (aliasesOf bs resolve)).parts
  | .absent, _ => .pure .nil
  | .expr e, h => .map (e.writes ctx s h) fun _ he => he
  | .decl _ xs, ⟨_, hxs⟩ => .skip fun d => .map (binders_writes ctx d s xs hxs) fun _ hxs => hxs

theorem ForTarget.head_writes (ctx : Context) (s : ScopeId) : ∀ t : ForTarget, t.Formed ctx →
    Yields (t.inScope s) fun x =>
      WritesTo bs resolve x.parts (x.redirect (aliasesOf bs resolve)).parts
  | .assign p, h => .map (p.writes ctx none s h) fun _ hp => hp
  | .decl _ p, h => .skip fun d => .skip fun _ => .map (p.writes ctx (some d) s h) fun _ hp => hp

theorem cases_writes (ctx : Context) (s : ScopeId) : ∀ cs : List SwitchCase, casesFormed ctx cs →
    Yields (casesInScope s cs) fun x => WritesTo bs resolve (casesParts x)
      (casesParts (redirectCases (aliasesOf bs resolve) x))
  | [], _ => .pure .nil
  | ⟨test, body⟩ :: cs, ⟨⟨htest, hbody⟩, hcs⟩ =>
    .bind (opt_writes ctx s test htest) fun _ htest =>
    .bind (stmts_writes ctx s body hbody) fun _ hbody =>
    .map (cases_writes ctx s cs hcs) fun _ hcs => .append₃ htest hbody hcs

theorem declared_writes (ctx : Context) (s : ScopeId) : ∀ p : Option Pat, optPatFormed ctx p →
    Yields (declaredInScope s p) fun x => WritesTo bs resolve (optPatParts x)
      (optPatParts (redirectOptPat (aliasesOf bs resolve) x))
  | none, _ => .pure .nil
  | some p, h => .skip fun _ => .map (p.writes ctx (some s) s h) fun _ hp => hp

theorem ImportNames.writes (ctx : Context) (s : ScopeId) : ∀ n : ImportNames, n.Formed ctx →
    Yields (n.inScope s) fun x =>
      WritesTo bs resolve x.parts (x.redirect (aliasesOf bs resolve)).parts
  | .all p, h => .skip fun _ => .map (p.writes ctx (some s) s h.formed) fun _ hp => hp
  | .specific names, h => .map (specs_writes ctx s names h) fun _ hnames => hnames

theorem specs_writes (ctx : Context) (s : ScopeId) : ∀ ss : List ImportSpec,
    (∀ x ∈ ss, x.Formed ctx) →
    Yields (specsInScope s ss) fun x => WritesTo bs resolve (specsParts x)
      (specsParts (redirectSpecs (aliasesOf bs resolve) x))
  | [], _ => .pure .nil
  | ⟨_, p⟩ :: ss, h => .skip fun _ =>
    .bind (p.writes ctx (some s) s (h _ (.head _)).2.formed) fun _ hp =>
    .map (specs_writes ctx s ss fun x hx => h x (.tail _ hx)) fun _ hss => hp.append hss

end

end

/-! ### Instrumented modules -/

/-- **Places that are written to.**  The statements of an instrumented module are inserted ones and
its own, and its own write to the places that the module wrote to, in the same order.  A variable that
is assigned to, alone, in a pattern or by the head of a loop, is still that variable.  A variable that
is the operand of `++` or `--` is that variable unless a registered binding has its declaration, and
then it is the property of the registry. -/
theorem instrumented_writes {source : String} {p q : Program} {place : Option String}
    {options : Options} {bs : List Binding} (hp : Program.parse source = .ok p)
    (h : p.analyse.1.instrument p.analyse.2.symbolOf? place options =
      .ok (.instrumented bs, q)) :
    ∃ items own,
      List.Forall₂ (Item.Stands own) items q.body ∧
      items.filterMap Item.kept? = List.range own.length ∧
      List.Forall₂ (Write.Rewritten bs p.analyse.2.symbolOf?)
        (writesOf p.analyse.1.parts) (writesOf (stmtsParts own)) := by
  obtain ⟨d, anchor, -, hitems⟩ := Program.instrument_items h
  have hwrites := stmts_writes bs p.analyse.2.symbolOf? .top Program.moduleScope p.body
    (formed_of_parse hp) (.root .module)
  refine ⟨d.items anchor p.analyse.1.body.length,
    redirectStmts (aliasesOf bs p.analyse.2.symbolOf?) p.analyse.1.body, hitems, ?_, hwrites⟩
  rw [length_redirectStmts]
  exact Discovery.filterMap_kept_items _

/-- A module that assigns to a binding in every way there is, and steps a variable of its own. -/
def writingSource : String :=
  "import a from 'm'; let b; a = 1; a += 1; [a] = [1]; (\x7ba\x7d = 1); for (a of []) b++;"

/-- All of these variables stay what they are. -/
theorem writingSource_writes :
    ∃ p q bs, Program.parse writingSource = .ok p ∧
      p.analyse.1.instrument p.analyse.2.symbolOf? none {} = .ok (.instrumented bs, q) ∧
      ∃ items own,
        List.Forall₂ (Item.Stands own) items q.body ∧
        items.filterMap Item.kept? = List.range own.length ∧
        List.Forall₂ (Write.Rewritten bs p.analyse.2.symbolOf?)
          (writesOf p.analyse.1.parts) (writesOf (stmtsParts own)) := by
  have hspelled : writingSource = String.ofList _ := rfl
  have hsource : (instrumented? writingSource).isSome := by
    rw [instrumented?_of_spelled hspelled]
    decide +kernel
  obtain ⟨⟨p, bs, q⟩, hpq⟩ := Option.isSome_iff_exists.mp hsource
  obtain ⟨hp, hq⟩ := of_instrumented? hpq
  exact ⟨p, q, bs, hp, hq, instrumented_writes hp hq⟩

/-- The variable that a place is, if it is one. -/
def Write.variable? : Write → Option Ident
  | .assigned (.target (.ident id)) | .stepped (.ident id) => some id
  | _ => none

/-- A module that steps a binding. -/
def steppingSource : String := "import \x7ba\x7d from 'm'; a++;"

/-- The binding is written to before, and no variable afterwards. -/
theorem steppingSource_detached :
    ∃ p q bs, Program.parse steppingSource = .ok p ∧
      p.analyse.1.instrument p.analyse.2.symbolOf? none {} = .ok (.instrumented bs, q) ∧
      (∃ id ∈ (writesOf p.analyse.1.parts).filterMap Write.variable?, ∃ b ∈ bs,
        p.analyse.2.symbolOf? id = some b.declaration) ∧
      (writesOf q.parts).filterMap Write.variable? = [] := by
  have hsource : (instrumented? steppingSource).any (fun (p, bs, q) =>
      decide ((∃ id ∈ (writesOf p.analyse.1.parts).filterMap Write.variable?, ∃ b ∈ bs,
        p.analyse.2.symbolOf? id = some b.declaration) ∧
          (writesOf q.parts).filterMap Write.variable? = [])) := by
    decide +kernel
  obtain ⟨⟨p, bs, q⟩, hpq, hdetached⟩ := (Option.any_eq_true _ _).mp hsource
  obtain ⟨hp, hq⟩ := of_instrumented? hpq
  exact ⟨p, q, bs, hp, hq, of_decide_eq_true hdetached⟩

end ImportSeam
