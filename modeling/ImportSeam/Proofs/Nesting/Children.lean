import ImportSeam.Tree.Part

/-!
# The parts directly inside a part

A part holds further parts, some of them directly and the others inside those.  Functions, members,
bindings and elements written as markup are no parts themselves, so what they hold counts as held
by the part around them.

## Main definitions

* `Part.loc` — where a part stands.
* `Part.children` — the parts directly inside a part, in the order of the source.
* `Program.Contains` — the statements of a module, and whatever is inside them.

## Main results

* `Part.mem_parts` — every part inside a part is in one of its children.
-/

namespace ImportSeam

/-! ### What the members of a part hold -/

/-- An expression that may be missing. -/
def Part.ofExpr? (e : Option Expr) : List Part := (e.map .expr).toList

/-- A pattern that may be missing. -/
def Part.ofPat? (p : Option Pat) : List Part := (p.map .pat).toList

/-- A pattern and its value. -/
def Binder.nodes : Binder → List Part
  | ⟨target, init⟩ => .pat target :: Part.ofExpr? init

/-- The statements of a body, or its value. -/
def FuncBody.nodes : FuncBody → List Part
  | .block body => body.map .stmt
  | .expr value => [.expr value]

/-- The parameters of a function and its body. -/
def Func.nodes : Func → List Part
  | ⟨_, _, _, params, body⟩ => params.flatMap (·.binder.nodes) ++ body.nodes

/-- The substitution, if it is one. -/
def TemplatePart.nodes : TemplatePart → List Part
  | .text _ => []
  | .subst e => [.expr e]

/-- The element of an array literal, if it is none that is left out. -/
def ArrayElem.nodes : ArrayElem → List Part
  | .item e | .spread e => [.expr e]
  | .hole => []

/-- The value of a computed key. -/
def Key.nodes : Key → List Part
  | .direct _ _ => []
  | .computed e => [.expr e]

/-- What a member holds. -/
def Member.nodes : Member → List Part
  | .getter f | .setter f | .method f => f.nodes
  | .field e => Part.ofExpr? e
  | .staticBlock body => body.map .stmt

/-- The key and the value of a member of an object literal. -/
def ObjMember.nodes : ObjMember → List Part
  | .valued _ key m => key.nodes ++ m.nodes
  | .shorthand _ id => [.name .value id]
  | .spread _ e => [.expr e]

/-- The key and the value of a member of a class. -/
def ClassMember.nodes : ClassMember → List Part
  | ⟨key, _, m⟩ => key.nodes ++ m.nodes

/-- The element of an array pattern, if it is none that is left out. -/
def Binder.nodes? : Option Binder → List Part
  | none => []
  | some b => b.nodes

/-- The key, the pattern and the value of a property. -/
def PropPat.nodes : PropPat → List Part
  | ⟨key, b, _⟩ => key.nodes ++ b.nodes

mutual

/-- The name, the attributes and the children of an element. -/
def JsxElem.nodes : JsxElem → List Part
  | ⟨tag, attrs, children⟩ => Part.ofTag? tag ++ attrsNodes attrs ++ contentsNodes children

/-- What the attributes hold. -/
def attrsNodes : List JsxAttr → List Part
  | [] => []
  | .named _ none :: as => attrsNodes as
  | .named _ (some c) :: as => c.nodes ++ attrsNodes as
  | .spread e :: as => .expr e :: attrsNodes as

/-- What a piece of content holds. -/
def JsxContent.nodes : JsxContent → List Part
  | .container e => Part.ofExpr? e
  | .text _ => []
  | .elem e => e.nodes

/-- What the children of an element hold. -/
def contentsNodes : List JsxContent → List Part
  | [] => []
  | c :: cs => c.nodes ++ contentsNodes cs

end

/-- The first part of the head of a loop. -/
def ForInit.nodes : ForInit → List Part
  | .absent => []
  | .expr e => [.expr e]
  | .decl _ bs => bs.flatMap Binder.nodes

/-- What a loop assigns to. -/
def ForTarget.nodes : ForTarget → List Part
  | .assign p | .decl _ p => [.pat p]

/-- The test of a branch and its statements. -/
def SwitchCase.nodes : SwitchCase → List Part
  | ⟨test, body⟩ => Part.ofExpr? test ++ body.map .stmt

/-- The parameter of a handler and its statements. -/
def Catch.nodes : Catch → List Part
  | ⟨param, body⟩ => Part.ofPat? param ++ body.map .stmt

/-- What an import names. -/
def ImportNames.nodes : ImportNames → List Part
  | .all p => [.pat p]
  | .specific names => names.map fun s => .pat s.target

/-! ### Children -/

/-- The parts directly inside an expression.  An expression that wraps a pattern holds it. -/
def Expr.children : Expr → List Part
  | .ident id => [.name .value id]
  | .arrow _ f => f.nodes
  | .binary _ _ l r => [.expr l, .expr r]
  | .call _ _ f args => .expr f :: args.map fun a => .expr a.value
  | .classExpr _ n p ms => Part.ofName? n ++ Part.ofExpr? p ++ ms.flatMap ClassMember.nodes
  | .index _ _ e k => [.expr e, .expr k]
  | .cond _ t c a => [.expr t, .expr c, .expr a]
  | .func _ n f => Part.ofName? n ++ f.nodes
  | .importCall _ m => [.expr m]
  | .member _ _ e _ => [.expr e]
  | .construct _ f args => .expr f :: (args.getD []).map fun a => .expr a.value
  | .tagged _ t ps => .expr t :: ps.flatMap TemplatePart.nodes
  | .unary _ _ e | .update _ _ e => [.expr e]
  | .yield _ _ e => Part.ofExpr? e
  | .jsx _ e => e.nodes
  | .array _ es => es.flatMap ArrayElem.nodes
  | .object _ ms => ms.flatMap ObjMember.nodes
  | .template _ ps => ps.flatMap TemplatePart.nodes
  | .target p => [.pat p]
  | .importMeta _ | .newTarget _ | .superRef _ | .this _ | .bigInt _ _ | .bool _ _ | .null _
  | .num _ _ | .regex _ _ | .str _ _ => []

/-- The parts directly inside a pattern. -/
def Pat.children : Pat → List Part
  | .ident id => [.name .pattern id]
  | .array _ es rest => es.flatMap Binder.nodes? ++ Part.ofPat? rest
  | .object _ ps rest => ps.flatMap PropPat.nodes ++ (rest.map (.name .pattern)).toList

/-- The parts directly inside a statement. -/
def Stmt.children : Stmt → List Part
  | .block _ body => body.map .stmt
  | .doWhile _ body test => [.stmt body, .expr test]
  | .exportDefault _ e | .expr _ e | .throw _ e => [.expr e]
  | .exportList _ names _ => Part.ofExport names
  | .forIn _ t o body | .forOf _ _ t o body => t.nodes ++ [.expr o] ++ [.stmt body]
  | .forLoop _ init test post body =>
    init.nodes ++ Part.ofExpr? test ++ Part.ofExpr? post ++ [.stmt body]
  | .ifElse _ test c a => [.expr test] ++ [.stmt c] ++ (a.map .stmt).toList
  | .importDecl _ d names _ => Part.ofPat? d ++ names.elim [] ImportNames.nodes
  | .label _ _ body => [.stmt body]
  | .returnValue _ e => Part.ofExpr? e
  | .switch _ e cs => .expr e :: cs.flatMap SwitchCase.nodes
  | .tryCatch _ body h f =>
    body.map .stmt ++ h.elim [] Catch.nodes ++ (f.getD []).map .stmt
  | .while _ e body | .withObject _ e body => [.expr e, .stmt body]
  | .classDecl _ _ _ n p ms => Part.ofName? n ++ Part.ofExpr? p ++ ms.flatMap ClassMember.nodes
  | .funcDecl _ _ _ n f => Part.ofName? n ++ f.nodes
  | .varDecl _ _ _ bs => bs.flatMap Binder.nodes
  | .breakTo _ _ | .continueTo _ _ | .debugger _ | .empty _ => []

namespace Part

/-- Where a part stands. -/
def loc : Part → Loc
  | .stmt s => s.loc
  | .expr e => e.loc
  | .pat p => p.loc
  | .name _ id => id.loc

/-- The parts directly inside a part, in the order of the source. -/
def children : Part → List Part
  | .stmt s => s.children
  | .expr e => e.children
  | .pat p => p.children
  | .name _ _ => []

/-- A part and all parts inside it. -/
def parts : Part → List Part
  | .stmt s => s.parts
  | .expr e => e.parts
  | .pat p => p.parts
  | .name role id => [.name role id]

end Part

/-- The parts of a module: its statements, and the children of its parts. -/
inductive Program.Contains (p : Program) : Part → Prop
  | stmt {s : Stmt} (mem : s ∈ p.body) : Program.Contains p (.stmt s)
  | child {x c : Part} (part : Program.Contains p x) (mem : c ∈ x.children) : Program.Contains p c

/-! ### The parts of the children -/

theorem stmtsParts_eq (ss : List Stmt) : stmtsParts ss = (ss.map Part.stmt).flatMap Part.parts := by
  induction ss with
  | nil => rfl
  | cons s ss ih => exact congrArg (s.parts ++ ·) ih

theorem optExprParts_eq (e : Option Expr) : optExprParts e = (Part.ofExpr? e).flatMap Part.parts := by
  cases e with
  | none => rfl
  | some e => exact (List.append_nil _).symm

theorem optPatParts_eq (p : Option Pat) : optPatParts p = (Part.ofPat? p).flatMap Part.parts := by
  cases p with
  | none => rfl
  | some p => exact (List.append_nil _).symm

theorem optStmtParts_eq (s : Option Stmt) :
    optStmtParts s = (s.map Part.stmt).toList.flatMap Part.parts := by
  cases s with
  | none => rfl
  | some s => exact (List.append_nil _).symm

theorem flatMap_ofName? (name : Option Ident) :
    (Part.ofName? name).flatMap Part.parts = Part.ofName? name := by
  cases name <;> rfl

theorem flatMap_ofTag? (tag : Option JsxTag) :
    (Part.ofTag? tag).flatMap Part.parts = Part.ofTag? tag := by
  rcases tag with _ | _ | _ | _ <;> rfl

theorem flatMap_ofExport (names : ExportNames) :
    (Part.ofExport names).flatMap Part.parts = Part.ofExport names := by
  rcases names with (_ | _) | _ <;> rfl

theorem Binder.parts_eq (b : Binder) : b.parts = b.nodes.flatMap Part.parts := by
  obtain ⟨target, init⟩ := b
  exact congrArg (target.parts ++ ·) (optExprParts_eq init)

theorem bindersParts_eq (bs : List Binder) :
    bindersParts bs = (bs.flatMap Binder.nodes).flatMap Part.parts := by
  induction bs with
  | nil => rfl
  | cons b bs ih =>
    change b.parts ++ bindersParts bs = _
    rw [ih, b.parts_eq, List.flatMap_cons, List.flatMap_append]

theorem paramsParts_eq (ps : List Param) :
    paramsParts ps = (ps.flatMap (·.binder.nodes)).flatMap Part.parts := by
  induction ps with
  | nil => rfl
  | cons p ps ih =>
    obtain ⟨isRest, b⟩ := p
    change b.parts ++ paramsParts ps = _
    rw [ih, b.parts_eq, List.flatMap_cons, List.flatMap_append]

theorem FuncBody.parts_eq (body : FuncBody) : body.parts = body.nodes.flatMap Part.parts := by
  cases body with
  | block ss => exact stmtsParts_eq ss
  | expr e => exact (List.append_nil _).symm

theorem Func.parts_eq (f : Func) : f.parts = f.nodes.flatMap Part.parts := by
  obtain ⟨isArrow, isAsync, isGenerator, params, body⟩ := f
  change paramsParts params ++ body.parts = _
  rw [Func.nodes, paramsParts_eq, body.parts_eq, List.flatMap_append]

theorem argsParts_eq (as : List Arg) :
    argsParts as = (as.map fun a => Part.expr a.value).flatMap Part.parts := by
  induction as with
  | nil => rfl
  | cons a as ih =>
    obtain ⟨isSpread, e⟩ := a
    exact congrArg (e.parts ++ ·) ih

theorem templateParts_eq (ps : List TemplatePart) :
    templateParts ps = (ps.flatMap TemplatePart.nodes).flatMap Part.parts := by
  induction ps with
  | nil => rfl
  | cons p ps ih =>
    cases p with
    | text raw => exact ih
    | subst e => exact congrArg (e.parts ++ ·) ih

theorem elemsParts_eq (es : List ArrayElem) :
    elemsParts es = (es.flatMap ArrayElem.nodes).flatMap Part.parts := by
  induction es with
  | nil => rfl
  | cons e es ih =>
    cases e with
    | item e | spread e => exact congrArg (e.parts ++ ·) ih
    | hole => exact ih

theorem Key.parts_eq (key : Key) : key.parts = key.nodes.flatMap Part.parts := by
  cases key with
  | direct text kind => rfl
  | computed e => exact (List.append_nil _).symm

theorem Member.parts_eq (m : Member) : m.parts = m.nodes.flatMap Part.parts := by
  cases m with
  | field e => exact optExprParts_eq e
  | staticBlock body => exact stmtsParts_eq body
  | _ f => exact f.parts_eq

theorem objParts_eq (ms : List ObjMember) :
    objParts ms = (ms.flatMap ObjMember.nodes).flatMap Part.parts := by
  induction ms with
  | nil => rfl
  | cons m ms ih =>
    cases m with
    | valued loc key m =>
      change key.parts ++ m.parts ++ objParts ms = _
      rw [ih, key.parts_eq, m.parts_eq, List.flatMap_cons, ObjMember.nodes, List.flatMap_append,
        List.flatMap_append]
    | shorthand loc id => exact congrArg (.name .value id :: ·) ih
    | spread loc e => exact congrArg (e.parts ++ ·) ih

theorem classParts_eq (ms : List ClassMember) :
    classParts ms = (ms.flatMap ClassMember.nodes).flatMap Part.parts := by
  induction ms with
  | nil => rfl
  | cons m ms ih =>
    obtain ⟨key, isStatic, m⟩ := m
    change key.parts ++ m.parts ++ classParts ms = _
    rw [ih, key.parts_eq, m.parts_eq, List.flatMap_cons, ClassMember.nodes, List.flatMap_append,
      List.flatMap_append]

theorem elemPatsParts_eq (es : List (Option Binder)) :
    elemPatsParts es = (es.flatMap Binder.nodes?).flatMap Part.parts := by
  induction es with
  | nil => rfl
  | cons e es ih =>
    cases e with
    | none => exact ih
    | some b =>
      change b.parts ++ elemPatsParts es = _
      rw [ih, b.parts_eq, List.flatMap_cons, Binder.nodes?, List.flatMap_append]

theorem propsParts_eq (ps : List PropPat) :
    propsParts ps = (ps.flatMap PropPat.nodes).flatMap Part.parts := by
  induction ps with
  | nil => rfl
  | cons p ps ih =>
    obtain ⟨key, b, isShorthand⟩ := p
    change key.parts ++ b.parts ++ propsParts ps = _
    rw [ih, key.parts_eq, b.parts_eq, List.flatMap_cons, PropPat.nodes, List.flatMap_append,
      List.flatMap_append]

mutual

theorem JsxElem.parts_eq (e : JsxElem) : e.parts = e.nodes.flatMap Part.parts := by
  match e with
  | ⟨tag, attrs, children⟩ =>
    change Part.ofTag? tag ++ attrsParts attrs ++ contentsParts children =
      (Part.ofTag? tag ++ attrsNodes attrs ++ contentsNodes children).flatMap Part.parts
    rw [attrsParts_eq, contentsParts_eq, List.flatMap_append, List.flatMap_append, flatMap_ofTag?]
termination_by sizeOf e

theorem attrsParts_eq (as : List JsxAttr) :
    attrsParts as = (attrsNodes as).flatMap Part.parts := by
  match as with
  | [] => rfl
  | .named _ none :: as => exact attrsParts_eq as
  | .named _ (some c) :: as =>
    change c.parts ++ attrsParts as = (c.nodes ++ attrsNodes as).flatMap Part.parts
    rw [c.parts_eq, attrsParts_eq as, List.flatMap_append]
  | .spread e :: as => exact congrArg (e.parts ++ ·) (attrsParts_eq as)
termination_by sizeOf as

theorem JsxContent.parts_eq (c : JsxContent) : c.parts = c.nodes.flatMap Part.parts := by
  match c with
  | .container e => exact optExprParts_eq e
  | .text _ => rfl
  | .elem e => exact e.parts_eq
termination_by sizeOf c

theorem contentsParts_eq (cs : List JsxContent) :
    contentsParts cs = (contentsNodes cs).flatMap Part.parts := by
  match cs with
  | [] => rfl
  | c :: cs =>
    change c.parts ++ contentsParts cs = (c.nodes ++ contentsNodes cs).flatMap Part.parts
    rw [c.parts_eq, contentsParts_eq cs, List.flatMap_append]
termination_by sizeOf cs

end

theorem ForInit.parts_eq (init : ForInit) : init.parts = init.nodes.flatMap Part.parts := by
  cases init with
  | absent => rfl
  | expr e => exact (List.append_nil _).symm
  | decl mode bs => exact bindersParts_eq bs

theorem ForTarget.parts_eq (t : ForTarget) : t.parts = t.nodes.flatMap Part.parts := by
  cases t <;> exact (List.append_nil _).symm

theorem casesParts_eq (cs : List SwitchCase) :
    casesParts cs = (cs.flatMap SwitchCase.nodes).flatMap Part.parts := by
  induction cs with
  | nil => rfl
  | cons c cs ih =>
    obtain ⟨test, body⟩ := c
    change optExprParts test ++ stmtsParts body ++ casesParts cs = _
    rw [ih, optExprParts_eq, stmtsParts_eq, List.flatMap_cons, SwitchCase.nodes,
      List.flatMap_append, List.flatMap_append]

theorem specsParts_eq (ss : List ImportSpec) :
    specsParts ss = (ss.map fun s => Part.pat s.target).flatMap Part.parts := by
  induction ss with
  | nil => rfl
  | cons s ss ih =>
    obtain ⟨imported, p⟩ := s
    exact congrArg (p.parts ++ ·) ih

theorem ImportNames.parts_eq (n : ImportNames) : n.parts = n.nodes.flatMap Part.parts := by
  cases n with
  | all p => exact (List.append_nil _).symm
  | specific names => exact specsParts_eq names

theorem Pat.parts_eq_cons (p : Pat) : p.parts = .pat p :: p.innerParts := by
  cases p <;> rfl

/-- The parts of an expression are itself and the parts of its children. -/
theorem Expr.parts_subset (e : Expr) : e.parts ⊆ .expr e :: e.children.flatMap Part.parts := by
  cases e with
  | target p =>
    -- the wrapped pattern is one more part of the wrapper's children
    change _ :: p.innerParts ⊆ _
    rw [Expr.children, List.flatMap_singleton, Part.parts, p.parts_eq_cons]
    exact List.cons_subset_cons _ (List.subset_cons_self _ _)
  | construct loc f args =>
    cases args <;> change _ :: _ ⊆ _ <;> simp [Expr.children, Part.parts, argsParts_eq]
  | _ =>
    change _ :: _ ⊆ _
    simp [Expr.children, Part.parts, Func.parts_eq, optExprParts_eq, flatMap_ofName?,
      argsParts_eq, classParts_eq, templateParts_eq, elemsParts_eq, objParts_eq, JsxElem.parts_eq]

theorem Pat.parts_subset (p : Pat) : p.parts ⊆ .pat p :: p.children.flatMap Part.parts := by
  cases p with
  | ident id => exact List.Subset.refl _
  | array loc es rest =>
    change _ :: (elemPatsParts es ++ optPatParts rest) ⊆ _
    simp [Pat.children, elemPatsParts_eq, optPatParts_eq]
  | object loc ps rest =>
    change _ :: (propsParts ps ++ _) ⊆ _
    cases rest <;> simp [Pat.children, Part.parts, propsParts_eq]

theorem Stmt.parts_subset (s : Stmt) : s.parts ⊆ .stmt s :: s.children.flatMap Part.parts := by
  cases s with
  | doWhile loc body test =>
    -- here the order differs: the test stands behind the body
    change _ :: (test.parts ++ body.parts) ⊆ _
    intro q hq
    simp only [Stmt.children, Part.parts, List.mem_cons, List.mem_append, List.flatMap_cons,
      List.flatMap_nil, List.append_nil] at hq ⊢
    exact hq.imp_right Or.symm
  | importDecl loc d names m =>
    cases names <;> change _ :: (optPatParts d ++ _) ⊆ _ <;>
      simp [Stmt.children, optPatParts_eq, ImportNames.parts_eq]
  | tryCatch loc body h f =>
    rcases h with _ | ⟨param, handler⟩ <;> cases f <;> change _ :: (stmtsParts body ++ _ ++ _) ⊆ _ <;>
      simp [Stmt.children, Catch.nodes, stmtsParts_eq, optPatParts_eq]
  | _ =>
    change _ :: _ ⊆ _
    simp [Stmt.children, Part.parts, Func.parts_eq, optExprParts_eq, optStmtParts_eq,
      stmtsParts_eq, flatMap_ofName?, flatMap_ofExport, bindersParts_eq, classParts_eq, casesParts_eq,
      ForInit.parts_eq, ForTarget.parts_eq]

/-- **Every part inside a part is in one of its children.** -/
theorem Part.mem_parts {x q : Part} (h : q ∈ x.parts) : q = x ∨ ∃ c ∈ x.children, q ∈ c.parts := by
  have hsub : x.parts ⊆ x :: x.children.flatMap Part.parts := by
    cases x with
    | stmt s => exact s.parts_subset
    | expr e => exact e.parts_subset
    | pat p => exact p.parts_subset
    | name role id => exact List.Subset.refl _
  rw [← List.mem_flatMap, ← List.mem_cons]
  exact hsub h

end ImportSeam
