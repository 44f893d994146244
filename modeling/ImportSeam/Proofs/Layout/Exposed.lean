import ImportSeam.Layout.Print
import ImportSeam.Proofs.Reread.Formula

/-!
# What shows outside brackets

In the head of a counting loop an `in` outside all brackets would end the first part of the head, so an
expression that writes one there has to stand in parentheses.  Seen from outside, what is written for
an expression is a row of stretches: words, signs of operators, brackets with something in them, and
what stands between the question mark and the colon of a conditional.  Every operand that is written
without parentheses shows its own stretches, down to the body of an arrow function and what a generator
yields.  The check that asks for parentheses goes down through operators only.

## Main definitions

* `Stretch` — a stretch of what is written, from outside all brackets.
* `Expr.stretches`, `ForInit.stretches` — the stretches of an expression and of the head of a loop.
* `Expr.hidesBareIn` — an `in` in a body or behind a `yield`, which the check does not find.

## Main results

* `Expr.written_stretches`, `ForInit.written_stretches` — nothing else is written.
* `Expr.showIn_of_lt` — what holds together more tightly than `in` shows none.
* `bareIn_shown` — **an `in` that shows is found by the check or hidden from it**, and the head of a
  loop shows only hidden ones.
* `hiddenIn_shown` — a loop that is printed with an `in` in its head.
-/

namespace ImportSeam

open Layout

/-! ### Layouts from outside -/

/-- The kinds of brackets. -/
inductive Brackets where
  | round
  | square
  | curly
  deriving DecidableEq, Repr

/-- A layout between the brackets. -/
def Brackets.around : Brackets → Layout → Layout
  | .round, l => parens l
  | .square, l => brackets l
  | .curly, l => braces l

/-- A stretch of what is written for an expression, as it looks from outside all brackets. -/
inductive Stretch where
  /-- A word, or a place for comments. -/
  | piece (p : Piece)
  /-- The sign of an operator between its operands. -/
  | sign (op : Operator)
  /-- Whatever stands in a pair of brackets. -/
  | group (bracket : Brackets) (inside : Layout)
  /-- What stands between the question mark and the colon of a conditional. -/
  | middle (inside : Layout)
  deriving DecidableEq, Repr

/-- What is written for a stretch. -/
def Stretch.layout : Stretch → Layout
  | .piece p => [p]
  | .sign op => binarySign op
  | .group bracket inside => bracket.around inside
  | .middle inside => word " ? " ++ inside ++ word " : "

namespace Stretch

/-- A layout of words and comments only. -/
def plain (l : Layout) : List Stretch := l.map .piece

/-- An expression in its place, given how it looks there without parentheses. -/
def operand (least depth : Nat) (e : Expr) (outside : List Stretch) : List Stretch :=
  plain (commentsBefore e.loc) ++
    if e.precedence < least then [.group .round (e.bare depth)] else outside

/-- An expression in parentheses if the flag says so, and otherwise in its place. -/
def operandOr (wrap : Bool) (least depth : Nat) (e : Expr) (outside : List Stretch) :
    List Stretch :=
  if wrap then [.group .round (Layout.operand 0 e (e.bare depth))]
  else operand least depth e outside

/-- Lines between braces. -/
def block (depth : Nat) (lines : List Layout) : Stretch :=
  .group .curly (if lines.isEmpty then []
    else lines.flatMap (.newline (depth + 1) :: ·) ++ [.newline depth])

/-- The parts of a template. -/
def templateParts (depth : Nat) : List TemplatePart → List Stretch
  | [] => []
  | .text raw :: ps => plain (word raw) ++ templateParts depth ps
  | .subst e :: ps =>
    plain (word "$") ++ .group .curly (Layout.operand 0 e (e.bare depth)) :: templateParts depth ps

/-- A template. -/
def template (depth : Nat) (parts : List TemplatePart) : List Stretch :=
  plain (word "`") ++ templateParts depth parts ++ plain (word "`")

/-- The body of a function that is not an arrow. -/
def funcBody (depth : Nat) : FuncBody → Stretch
  | .block body => block depth (stmtLayouts (depth + 1) body)
  | .expr e => .group .curly (word " return " ++ Layout.operand 0 e (e.bare depth) ++ word "; ")

/-- A function with its keyword. -/
def func (depth : Nat) (name : Option Ident) : Func → List Stretch
  | ⟨_, isAsync, isGenerator, params, body⟩ =>
    plain (funcSign isAsync isGenerator ++ ownName name) ++
      .group .round (commas (paramLayouts depth params)) :: plain (word " ") ++ [funcBody depth body]

/-- A pattern. -/
def pat (depth : Nat) : Pat → List Stretch
  | .ident id => plain (word id.name)
  | .array _ elems none =>
    [.group .square (elements (elemPatLayouts depth elems) (elems.getLast? matches some none))]
  | .array _ elems (some rest) =>
    [.group .square (withRest (elemPatLayouts depth elems) (rest.layout depth))]
  | .object _ props none => [.group .curly (commas (propLayouts depth props))]
  | .object _ props (some rest) =>
    [.group .curly (withRest (propLayouts depth props) (word rest.name))]

end Stretch

mutual

/-- An element written as markup, from outside the braces in it. -/
def JsxElem.stretches (depth : Nat) : JsxElem → List Stretch
  | ⟨tag, attrs, children⟩ =>
    Stretch.plain (word "<" ++ jsxTag? tag) ++ attrStretches depth attrs ++
      if children.isEmpty && tag.isSome then Stretch.plain (word " />")
      else Stretch.plain (word ">") ++ contentStretches depth children ++
        Stretch.plain (word "</" ++ jsxTag? tag ++ word ">")

/-- The attributes of an element. -/
def attrStretches (depth : Nat) : List JsxAttr → List Stretch
  | [] => []
  | .named name none :: as => Stretch.plain (word " " ++ jsxName name) ++ attrStretches depth as
  | .named name (some c) :: as =>
    Stretch.plain (word " " ++ jsxName name ++ word "=") ++ c.stretches depth ++
      attrStretches depth as
  | .spread e :: as =>
    Stretch.plain (word " ") ++
      .group .curly (word "..." ++ Layout.operand assignmentPrecedence e (e.bare depth)) ::
      attrStretches depth as

/-- The value of an attribute or a child of an element. -/
def JsxContent.stretches (depth : Nat) : JsxContent → List Stretch
  | .container none => [.group .curly []]
  | .container (some e) => [.group .curly (Layout.operand assignmentPrecedence e (e.bare depth))]
  | .text raw => Stretch.plain (word raw)
  | .elem e => e.stretches depth

/-- The children of an element. -/
def contentStretches (depth : Nat) : List JsxContent → List Stretch
  | [] => []
  | c :: cs => c.stretches depth ++ contentStretches depth cs

end

mutual

/-- An expression from outside all brackets, without the parentheses of its place. -/
def Expr.stretches (depth : Nat) : Expr → List Stretch
  | .ident id => Stretch.plain (word id.name)
  | .arrow _ f => f.stretches depth
  | .binary _ op l r =>
    Stretch.operandOr (l.forcesLeft op) op.leftPrecedence depth l (l.stretches depth) ++
      .sign op ::
      Stretch.operandOr (r.mixesWith op) op.rightPrecedence depth r (r.stretches depth)
  | .call _ optional f args =>
    Stretch.operand accessPrecedence depth f (f.stretches depth) ++
      Stretch.plain (Layout.when optional (word "?.")) ++
      [.group .round (commas (argLayouts depth args))]
  | .classExpr _ name parent members =>
    Stretch.plain (word "class" ++ ownName name) ++ parentStretches depth parent ++
      Stretch.plain (word " ") ++ [Stretch.block depth (classLayouts (depth + 1) members)]
  | .index _ optional e k =>
    Stretch.operand accessPrecedence depth e (e.stretches depth) ++
      Stretch.plain (Layout.when optional (word "?.")) ++
      [.group .square (Layout.operand 0 k (k.bare depth))]
  | .cond _ t c a =>
    Stretch.operand (Operator.conditional.precedence + 1) depth t (t.stretches depth) ++
      .middle (Layout.operand assignmentPrecedence c (c.bare depth)) ::
      Stretch.operand assignmentPrecedence depth a (a.stretches depth)
  | .func _ name f => Stretch.func depth name f
  | .importCall _ m =>
    Stretch.plain (word "import") ++
      [.group .round (Layout.operand assignmentPrecedence m (m.bare depth))]
  | .importMeta _ => Stretch.plain (word "import.meta")
  | .member _ false (.num _ n) p => Stretch.plain (numberBeforeDot n ++ word "." ++ word p)
  | .member _ optional e p =>
    Stretch.operand accessPrecedence depth e (e.stretches depth) ++
      Stretch.plain (word (if optional then "?." else ".") ++ word p)
  | .construct _ f args =>
    Stretch.plain (word "new ") ++
      Stretch.operandOr f.containsCall accessPrecedence depth f (f.stretches depth) ++
      match args with
      | some args => [.group .round (commas (argLayouts depth args))]
      | none => []
  | .newTarget _ => Stretch.plain (word "new.target")
  | .superRef _ => Stretch.plain (word "super")
  | .tagged _ t parts =>
    Stretch.operand accessPrecedence depth t (t.stretches depth) ++ Stretch.template depth parts
  | .this _ => Stretch.plain (word "this")
  | .unary _ op e =>
    Stretch.plain (unarySign op e) ++ Stretch.operand op.precedence depth e (e.stretches depth)
  | .update _ op e =>
    Stretch.operand op.precedence depth e (e.stretches depth) ++ Stretch.plain (updateSign op)
  | .yield _ delegate arg =>
    Stretch.plain (word "yield" ++ Layout.when delegate (word "*")) ++ argStretches depth arg
  | .jsx _ e => e.stretches depth
  | .array _ elems =>
    [.group .square (elements (elemLayouts depth elems) (endsWithHole elems))]
  | .bigInt _ text => Stretch.plain (word text)
  | .bool _ value => Stretch.plain (word (if value then "true" else "false"))
  | .null _ => Stretch.plain (word "null")
  | .num _ n => Stretch.plain (word n.text)
  | .object _ members => [.group .curly (commas (objLayouts depth members))]
  | .regex _ text => Stretch.plain (word text)
  | .str _ value => Stretch.plain (word (Text.quoted value))
  | .template _ parts => Stretch.template depth parts
  | .target p => Stretch.pat depth p

/-- An arrow function. -/
def Func.stretches (depth : Nat) : Func → List Stretch
  | ⟨_, isAsync, _, params, body⟩ =>
    Stretch.plain (Layout.when isAsync (word "async ")) ++
      .group .round (commas (paramLayouts depth params)) :: Stretch.plain (word " => ") ++
      body.stretches depth

/-- The body of an arrow function. -/
def FuncBody.stretches (depth : Nat) : FuncBody → List Stretch
  | .block body => [Stretch.block depth (stmtLayouts (depth + 1) body)]
  | .expr e => Stretch.operandOr e.startsWithBrace assignmentPrecedence depth e (e.stretches depth)

/-- What a class extends. -/
def parentStretches (depth : Nat) : Option Expr → List Stretch
  | none => []
  | some e =>
    Stretch.plain (word " extends ") ++
      Stretch.operand bareNewPrecedence depth e (e.stretches depth)

/-- What a generator yields. -/
def argStretches (depth : Nat) : Option Expr → List Stretch
  | none => []
  | some e =>
    Stretch.plain (word " ") ++
      Stretch.operand assignmentPrecedence depth e (e.stretches depth)

end

/-! ### Nothing else is written -/

namespace Stretch

/-- What is written for stretches that follow one another. -/
def written (l : List Stretch) : Layout := l.flatMap Stretch.layout

@[simp] theorem layout_sign (op : Operator) : (sign op).layout = binarySign op := rfl

@[simp] theorem layout_round (l : Layout) : (group .round l).layout = parens l := rfl

@[simp] theorem layout_square (l : Layout) : (group .square l).layout = brackets l := rfl

@[simp] theorem layout_curly (l : Layout) : (group .curly l).layout = braces l := rfl

@[simp] theorem layout_middle (l : Layout) :
    (middle l).layout = word " ? " ++ l ++ word " : " := rfl

@[simp] theorem written_nil : written [] = [] := rfl

@[simp] theorem written_cons (s : Stretch) (l : List Stretch) :
    written (s :: l) = s.layout ++ written l := rfl

@[simp] theorem written_append (l m : List Stretch) :
    written (l ++ m) = written l ++ written m := List.flatMap_append

@[simp] theorem written_plain (l : Layout) : written (plain l) = l := by
  induction l with
  | nil => rfl
  | cons p l ih => exact congrArg (p :: ·) ih

@[simp] theorem written_single (s : Stretch) : written [s] = s.layout := List.append_nil _

theorem written_beside {l m : List Stretch} {a b : Layout} (hl : written l = a)
    (hm : written m = b) : written (l ++ m) = a ++ b := by
  rw [written_append, hl, hm]

theorem written_around {l m : List Stretch} {s : Stretch} {a b : Layout} (hl : written l = a)
    (hm : written m = b) : written (l ++ s :: m) = a ++ s.layout ++ b := by
  rw [written_append, written_cons, hl, hm, List.append_assoc]

@[simp] theorem layout_block (depth : Nat) (lines : List Layout) :
    (block depth lines).layout = Layout.block depth lines := by
  unfold block Layout.block
  split <;> rfl

theorem written_operand {least depth : Nat} {e : Expr} {outside : List Stretch}
    (h : written outside = e.bare depth) :
    written (operand least depth e outside) = Layout.operand least e (e.bare depth) := by
  unfold operand Layout.operand
  split <;> simp [h]

theorem written_operandOr {wrap : Bool} {least depth : Nat} {e : Expr} {outside : List Stretch}
    (h : written outside = e.bare depth) :
    written (operandOr wrap least depth e outside) =
      Layout.operandOr wrap least e (e.bare depth) := by
  unfold operandOr Layout.operandOr
  split
  · simp [wrapped]
  · exact written_operand h

theorem written_template (depth : Nat) (parts : List TemplatePart) :
    written (template depth parts) = Layout.template (templateLayouts depth parts) := by
  have hparts : written (templateParts depth parts) = templateLayouts depth parts := by
    induction parts with
    | nil => rfl
    | cons p ps ih =>
      cases p with
      | text raw => exact written_beside (written_plain _) ih
      | subst e => exact written_around (written_plain _) ih
  exact written_beside (written_beside (written_plain _) hparts) (written_plain _)

theorem layout_funcBody (depth : Nat) (body : FuncBody) :
    (funcBody depth body).layout = body.layout depth := by
  cases body with
  | block body => exact layout_block _ _
  | expr e => rfl

theorem written_func (depth : Nat) (name : Option Ident) (f : Func) :
    written (func depth name f) = f.named depth name := by
  obtain ⟨isArrow, isAsync, isGenerator, params, body⟩ := f
  have hbody : written [funcBody depth body] = body.layout depth :=
    (written_single _).trans (layout_funcBody depth body)
  exact written_beside (written_around (written_plain _) (written_plain _)) hbody

theorem written_pat (depth : Nat) (p : Pat) : written (pat depth p) = p.layout depth := by
  cases p with
  | ident id => exact written_plain _
  | array loc elems rest => cases rest <;> exact written_single _
  | object loc props rest => cases rest <;> exact written_single _

end Stretch

open Stretch in
mutual

/-- Nothing else is written for an element. -/
theorem JsxElem.written_stretches (depth : Nat) : (e : JsxElem) →
    written (e.stretches depth) = e.layout depth
  | ⟨tag, attrs, children⟩ => by
    have hattrs := written_attrStretches depth attrs
    have hchildren := written_contentStretches depth children
    have hnone : (contentLayouts depth children).isEmpty = children.isEmpty := by
      cases children <;> rfl
    refine written_beside (written_beside (written_plain _) hattrs) ?_
    rw [hnone]
    split
    · exact written_plain _
    · simp only [written_append, written_plain, hchildren, List.append_assoc]

theorem written_attrStretches (depth : Nat) : (as : List JsxAttr) →
    written (attrStretches depth as) = attrLayouts depth as
  | [] => rfl
  | .named _ none :: as => written_beside (written_plain _) (written_attrStretches depth as)
  | .named _ (some c) :: as =>
    written_beside (written_beside (written_plain _) (c.written_stretches depth))
      (written_attrStretches depth as)
  | .spread _ :: as => written_around (written_plain _) (written_attrStretches depth as)

theorem JsxContent.written_stretches (depth : Nat) : (c : JsxContent) →
    written (c.stretches depth) = c.layout depth
  | .container none | .container (some _) => written_single _
  | .text _ => written_plain _
  | .elem e => e.written_stretches depth

theorem written_contentStretches (depth : Nat) : (cs : List JsxContent) →
    written (contentStretches depth cs) = (contentLayouts depth cs).flatten
  | [] => rfl
  | c :: cs => written_beside (c.written_stretches depth) (written_contentStretches depth cs)

end

open Stretch in
mutual

/-- **Nothing else is written** for an expression than its stretches. -/
theorem Expr.written_stretches (depth : Nat) : (e : Expr) →
    written (e.stretches depth) = e.bare depth
  | .ident _ | .importMeta _ | .newTarget _ | .superRef _ | .this _ => written_plain _
  | .bigInt _ _ | .bool _ _ | .null _ | .num _ _ | .regex _ _ | .str _ _ => written_plain _
  | .array _ _ | .object _ _ => written_single _
  | .importCall _ _ => written_beside (written_plain _) (written_single _)
  | .func _ name f => written_func depth name f
  | .template _ parts => written_template depth parts
  | .target p => written_pat depth p
  | .jsx _ e => e.written_stretches depth
  | .arrow _ f => f.written_stretches depth
  | .classExpr _ name parent members => by
    have hparent := written_parentStretches depth parent
    have hblock : written [block depth (classLayouts (depth + 1) members)] =
        Layout.block depth (classLayouts (depth + 1) members) :=
      (written_single _).trans (layout_block _ _)
    exact written_beside (written_beside (written_beside (written_plain _) hparent)
      (written_plain _)) hblock
  | .binary _ op l r =>
    written_around (written_operandOr (l.written_stretches depth))
      (written_operandOr (r.written_stretches depth))
  | .cond _ t c a => by
    refine (written_around (written_operand (t.written_stretches depth))
      (written_operand (a.written_stretches depth))).trans ?_
    rw [layout_middle, ← List.append_assoc, ← List.append_assoc]
    rfl
  | .unary _ op e => written_beside (written_plain _) (written_operand (e.written_stretches depth))
  | .update _ op e => written_beside (written_operand (e.written_stretches depth)) (written_plain _)
  | .yield _ delegate none => written_beside (written_plain _) rfl
  | .yield _ delegate (some e) =>
    written_beside (written_plain _)
      (written_beside (written_plain _) (written_operand (e.written_stretches depth)))
  | .call _ optional f args =>
    written_beside (written_beside (written_operand (f.written_stretches depth)) (written_plain _))
      (written_single _)
  | .index _ optional e k =>
    written_beside (written_beside (written_operand (e.written_stretches depth)) (written_plain _))
      (written_single _)
  | .tagged _ t parts =>
    written_beside (written_operand (t.written_stretches depth)) (written_template depth parts)
  | .member _ optional e p => by
    have he (sign : Layout) : written
        (operand accessPrecedence depth e (e.stretches depth) ++ plain (sign ++ word p)) =
          Layout.operand accessPrecedence e (e.bare depth) ++ sign ++ word p := by
      rw [List.append_assoc]
      exact written_beside (written_operand (e.written_stretches depth)) (written_plain _)
    -- a number before a point is written in a way of its own
    cases optional with
    | true => exact he _
    | false =>
      cases e with
      | num _ n => exact written_plain _
      | _ => exact he _
  | .construct _ f args => by
    have hf : written (operandOr f.containsCall accessPrecedence depth f (f.stretches depth)) =
        Layout.operandOr f.containsCall accessPrecedence f (f.bare depth) :=
      written_operandOr (f.written_stretches depth)
    cases args with
    | none => exact written_beside (written_beside (written_plain _) hf) rfl
    | some args => exact written_beside (written_beside (written_plain _) hf) (written_single _)

theorem Func.written_stretches (depth : Nat) : (f : Func) →
    written (f.stretches depth) = f.arrow depth
  | ⟨_, _, _, _, .block _⟩ =>
    written_beside (written_around (written_plain _) (written_plain _))
      ((written_single _).trans (layout_block _ _))
  | ⟨_, _, _, _, .expr e⟩ =>
    written_beside (written_around (written_plain _) (written_plain _))
      (written_operandOr (e.written_stretches depth))

theorem written_parentStretches (depth : Nat) : (parent : Option Expr) →
    written (parentStretches depth parent) = parentLayout depth parent
  | none => rfl
  | some e => written_beside (written_plain _) (written_operand (e.written_stretches depth))

end

/-! ### The operator `in` outside brackets -/

namespace Stretch

/-- Whether the operator `in` is among the stretches. -/
def showIn (l : List Stretch) : Bool := l.contains (.sign .inOp)

@[simp] theorem showIn_nil : showIn [] = false := rfl

@[simp] theorem showIn_append (l m : List Stretch) : showIn (l ++ m) = (showIn l || showIn m) :=
  List.contains_append

@[simp] theorem showIn_plain (l : Layout) : showIn (plain l) = false := by
  induction l with
  | nil => rfl
  | cons p l ih => exact ih

theorem showIn_beside {l m : List Stretch} (hl : showIn l = false) (hm : showIn m = false) :
    showIn (l ++ m) = false := by
  rw [showIn_append, hl, hm, Bool.or_false]

@[simp] theorem showIn_group (bracket : Brackets) (inside : Layout) (l : List Stretch) :
    showIn (.group bracket inside :: l) = showIn l := rfl

@[simp] theorem showIn_middle (inside : Layout) (l : List Stretch) :
    showIn (.middle inside :: l) = showIn l := rfl

@[simp] theorem showIn_sign (op : Operator) (l : List Stretch) :
    showIn (.sign op :: l) = (op == .inOp || showIn l) := by
  cases op <;> rfl

@[simp] theorem showIn_operand (least depth : Nat) (e : Expr) (outside : List Stretch) :
    showIn (operand least depth e outside) = (decide (least ≤ e.precedence) && showIn outside) := by
  unfold operand
  by_cases h : e.precedence < least
  · simp [h, Nat.not_le.mpr h]
  · simp [h, Nat.not_lt.mp h]

@[simp] theorem showIn_operandOr (wrap : Bool) (least depth : Nat) (e : Expr)
    (outside : List Stretch) : showIn (operandOr wrap least depth e outside) =
      (!wrap && (decide (least ≤ e.precedence) && showIn outside)) := by
  unfold operandOr
  cases wrap <;> simp

@[simp] theorem showIn_block (depth : Nat) (lines : List Layout) (l : List Stretch) :
    showIn (block depth lines :: l) = showIn l := rfl

@[simp] theorem showIn_funcBody (depth : Nat) (body : FuncBody) (l : List Stretch) :
    showIn (funcBody depth body :: l) = showIn l := by
  cases body <;> rfl

@[simp] theorem showIn_template (depth : Nat) (parts : List TemplatePart) :
    showIn (template depth parts) = false := by
  have hparts : showIn (templateParts depth parts) = false := by
    induction parts with
    | nil => rfl
    | cons p ps ih => cases p <;> exact showIn_beside (showIn_plain _) ih
  exact showIn_beside (showIn_beside (showIn_plain _) hparts) (showIn_plain _)

@[simp] theorem showIn_func (depth : Nat) (name : Option Ident) (f : Func) :
    showIn (func depth name f) = false := by
  obtain ⟨isArrow, isAsync, isGenerator, params, body⟩ := f
  simp [func]

@[simp] theorem showIn_pat (depth : Nat) (p : Pat) : showIn (pat depth p) = false := by
  cases p with
  | ident id => simp [pat]
  | array loc elems rest => cases rest <;> simp [pat]
  | object loc props rest => cases rest <;> simp [pat]

end Stretch

open Stretch in
mutual

/-- Markup has no operators outside its braces. -/
@[simp] theorem JsxElem.showIn_stretches (depth : Nat) : (e : JsxElem) →
    showIn (e.stretches depth) = false
  | ⟨tag, attrs, children⟩ => by
    have hattrs := showIn_attrStretches depth attrs
    have hchildren := showIn_contentStretches depth children
    refine showIn_beside (showIn_beside (showIn_plain _) hattrs) ?_
    split
    · exact showIn_plain _
    · exact showIn_beside (showIn_beside (showIn_plain _) hchildren) (showIn_plain _)

theorem showIn_attrStretches (depth : Nat) : (as : List JsxAttr) →
    showIn (attrStretches depth as) = false
  | [] => rfl
  | .named _ none :: as => showIn_beside (showIn_plain _) (showIn_attrStretches depth as)
  | .named _ (some c) :: as =>
    showIn_beside (showIn_beside (showIn_plain _) (c.showIn_stretches depth))
      (showIn_attrStretches depth as)
  | .spread _ :: as => showIn_beside (showIn_plain _) (showIn_attrStretches depth as)

theorem JsxContent.showIn_stretches (depth : Nat) : (c : JsxContent) →
    showIn (c.stretches depth) = false
  | .container none | .container (some _) => rfl
  | .text _ => showIn_plain _
  | .elem e => e.showIn_stretches depth

theorem showIn_contentStretches (depth : Nat) : (cs : List JsxContent) →
    showIn (contentStretches depth cs) = false
  | [] => rfl
  | c :: cs => showIn_beside (c.showIn_stretches depth) (showIn_contentStretches depth cs)

end

/-- Whether an `in` would stand bare in the body of an arrow function or in what a generator yields,
where the check does not look. -/
def Expr.hidesBareIn : Expr → Bool
  | .arrow _ ⟨_, _, _, _, .expr e⟩ => e.containsBareIn || e.hidesBareIn
  | .yield _ _ (some e) => e.containsBareIn || e.hidesBareIn
  | .binary _ _ l r => l.hidesBareIn || r.hidesBareIn
  | .cond _ t _ a => t.hidesBareIn || a.hidesBareIn
  | .unary _ _ e => e.hidesBareIn
  | .update _ _ e => e.hidesBareIn
  | _ => false

namespace Stretch

variable {least depth : Nat} {e : Expr} {outside : List Stretch}

/-- A place that asks for more than `in` holds together shows none. -/
theorem showIn_tight (wrap : Bool) (hleast : Operator.inOp.precedence < least)
    (h : Operator.inOp.precedence < e.precedence → showIn outside = false) :
    showIn (operandOr wrap least depth e outside) = false := by
  rw [showIn_operandOr]
  by_cases hle : least ≤ e.precedence
  · rw [h (Nat.lt_of_lt_of_le hleast hle), Bool.and_false, Bool.and_false]
  · simp [hle]

theorem showIn_access (h : Operator.inOp.precedence < e.precedence → showIn outside = false) :
    showIn (operand accessPrecedence depth e outside) = false :=
  showIn_tight false (by decide) h

/-- Only what shows an `in` itself shows one in its place. -/
theorem showIn_of_operandOr {wrap : Bool} (h : showIn (operandOr wrap least depth e outside) = true) :
    showIn outside = true := by
  simp only [showIn_operandOr, Bool.and_eq_true] at h
  exact h.2.2

theorem showIn_of_operand (h : showIn (operand least depth e outside) = true) :
    showIn outside = true := by
  have hplace : showIn (operandOr false least depth e outside) = true := h
  exact showIn_of_operandOr hplace

end Stretch

open Stretch in
/-- What holds together more tightly than `in` shows none. -/
theorem Expr.showIn_of_lt (depth : Nat) : (e : Expr) → Operator.inOp.precedence < e.precedence →
    showIn (e.stretches depth) = false
  | .arrow _ _, h | .yield _ _ _, h | .cond _ _ _ _, h => 
    absurd h (Nat.not_lt_of_le (Nat.le_of_ble_eq_true rfl))
  | .binary _ op l r, h => by
    have hop : (op == .inOp) = false := by
      rw [beq_eq_false_iff_ne]
      rintro rfl
      exact Nat.lt_irrefl _ h
    have hl := Nat.lt_of_lt_of_le h op.le_leftPrecedence
    have hr := Nat.lt_of_lt_of_le h op.le_rightPrecedence
    refine showIn_beside (showIn_tight _ hl (l.showIn_of_lt depth)) ?_
    rw [showIn_sign, hop, showIn_tight _ hr (r.showIn_of_lt depth)]
    rfl
  | .unary _ op e, h => showIn_beside (showIn_plain _) (showIn_tight false h (e.showIn_of_lt depth))
  | .update _ op e, h => showIn_beside (showIn_tight false h (e.showIn_of_lt depth)) (showIn_plain _)
  | .call _ _ f _, _ =>
    showIn_beside (showIn_beside (showIn_access (f.showIn_of_lt depth)) (showIn_plain _)) rfl
  | .index _ _ e _, _ =>
    showIn_beside (showIn_beside (showIn_access (e.showIn_of_lt depth)) (showIn_plain _)) rfl
  | .tagged _ t _, _ => showIn_beside (showIn_access (t.showIn_of_lt depth)) (showIn_template _ _)
  | .member _ optional e p, _ => by
    have he (sign : Layout) :
        showIn (operand accessPrecedence depth e (e.stretches depth) ++ plain sign) = false :=
      showIn_beside (showIn_access (e.showIn_of_lt depth)) (showIn_plain _)
    cases optional with
    | true => exact he _
    | false =>
      cases e with
      | num _ n => exact showIn_plain _
      | _ => exact he _
  | .construct _ f args, _ => by
    have hf : showIn (operandOr f.containsCall accessPrecedence depth f (f.stretches depth)) = false :=
      showIn_tight _ (by decide) (f.showIn_of_lt depth)
    cases args <;> exact showIn_beside (showIn_beside (showIn_plain _) hf) rfl
  | .classExpr _ _ none _, _ =>
    showIn_beside (showIn_beside (showIn_beside (showIn_plain _) rfl) (showIn_plain _)) rfl
  | .classExpr _ _ (some e) _, _ => by
    have he : showIn (operand bareNewPrecedence depth e (e.stretches depth)) = false :=
      showIn_tight false (by decide) (e.showIn_of_lt depth)
    exact showIn_beside (showIn_beside (showIn_beside (showIn_plain _)
      (showIn_beside (showIn_plain _) he)) (showIn_plain _)) rfl
  | .func _ name f, _ => showIn_func depth name f
  | .importCall _ _, _ => showIn_beside (showIn_plain _) rfl
  | .jsx _ e, _ => e.showIn_stretches depth
  | .template _ parts, _ => showIn_template depth parts
  | .target p, _ => showIn_pat depth p
  | .array _ _, _ | .object _ _, _ => rfl
  | .ident _, _ | .importMeta _, _ | .newTarget _, _ | .superRef _, _ | .this _, _
  | .bigInt _ _, _ | .bool _ _, _ | .null _, _ | .num _ _, _ | .regex _ _, _ | .str _ _, _ =>
    showIn_plain _

open Stretch in
/-- What shows an `in` holds together at most as tightly. -/
theorem Expr.le_of_showIn {depth : Nat} {e : Expr} (h : showIn (e.stretches depth) = true) :
    e.precedence ≤ Operator.inOp.precedence := by
  apply Nat.le_of_not_lt
  intro hlt
  rw [e.showIn_of_lt depth hlt] at h
  exact Bool.false_ne_true h

namespace Stretch

variable (loc : Loc) (depth : Nat) (e : Expr)

/-- An arrow function shows what its body shows. -/
theorem showIn_arrow (isArrow isAsync isGenerator : Bool) (params : List Param) :
    showIn ((Expr.arrow loc ⟨isArrow, isAsync, isGenerator, params, .expr e⟩).stretches depth) =
      showIn (operandOr e.startsWithBrace assignmentPrecedence depth e (e.stretches depth)) := by
  change showIn (plain _ ++ .group .round _ :: plain _ ++ operandOr _ _ _ _ _) = _
  rw [showIn_append, showIn_append, showIn_group, showIn_plain, showIn_plain, Bool.false_or,
    Bool.false_or]

theorem showIn_arrow_block (isArrow isAsync isGenerator : Bool) (params : List Param)
    (body : List Stmt) :
    showIn ((Expr.arrow loc ⟨isArrow, isAsync, isGenerator, params, .block body⟩).stretches depth) =
      false :=
  showIn_beside (showIn_beside (showIn_plain _) (showIn_plain _)) rfl

/-- A `yield` shows what is yielded. -/
theorem showIn_yield (delegate : Bool) :
    showIn ((Expr.yield loc delegate (some e)).stretches depth) =
      showIn (operand assignmentPrecedence depth e (e.stretches depth)) := by
  change showIn (plain _ ++ (plain _ ++ operand _ _ _ _)) = _
  rw [showIn_append, showIn_append, showIn_plain, showIn_plain, Bool.false_or, Bool.false_or]

theorem showIn_yield_none (delegate : Bool) :
    showIn ((Expr.yield loc delegate none).stretches depth) = false :=
  showIn_beside (showIn_plain _) rfl

end Stretch

open Stretch in
/-- **Where an `in` shows**, the check finds one, or one stands in a body or behind a `yield` where the
check does not look. -/
theorem Expr.bareIn_of_showIn (depth : Nat) : (e : Expr) → showIn (e.stretches depth) = true →
    e.containsBareIn = true ∨ e.hidesBareIn = true
  | .binary _ op l r, h => by
    change showIn (operandOr _ _ _ l _ ++ .sign op :: operandOr _ _ _ r _) = true at h
    rw [showIn_append, showIn_sign, Bool.or_eq_true, Bool.or_eq_true] at h
    change (op == .inOp || l.containsBareIn || r.containsBareIn) = true ∨
      (l.hidesBareIn || r.hidesBareIn) = true
    simp only [Bool.or_eq_true]
    rcases h with hl | hop | hr
    · exact (l.bareIn_of_showIn depth (showIn_of_operandOr hl)).imp (fun h => .inl (.inr h)) .inl
    · exact .inl (.inl (.inl hop))
    · exact (r.bareIn_of_showIn depth (showIn_of_operandOr hr)).imp .inr .inr
  | .cond _ t c a, h => by
    change showIn (operand _ _ t _ ++ .middle _ :: operand _ _ a _) = true at h
    rw [showIn_append, showIn_middle, Bool.or_eq_true] at h
    change (t.containsBareIn || c.containsBareIn || a.containsBareIn) = true ∨
      (t.hidesBareIn || a.hidesBareIn) = true
    simp only [Bool.or_eq_true]
    rcases h with ht | ha
    · exact (t.bareIn_of_showIn depth (showIn_of_operand ht)).imp (fun h => .inl (.inl h)) .inl
    · exact (a.bareIn_of_showIn depth (showIn_of_operand ha)).imp .inr .inr
  | .unary _ op e, h => by
    change showIn (plain _ ++ operand _ _ e _) = true at h
    rw [showIn_append, showIn_plain, Bool.false_or] at h
    exact e.bareIn_of_showIn depth (showIn_of_operand h)
  | .update _ op e, h => by
    change showIn (operand _ _ e _ ++ plain _) = true at h
    rw [showIn_append, showIn_plain, Bool.or_false] at h
    exact e.bareIn_of_showIn depth (showIn_of_operand h)
  -- what shows in these two is where the check does not look
  | .arrow _ ⟨_, isAsync, _, params, .expr e⟩, h => by
    rw [showIn_arrow] at h
    exact .inr (Bool.or_eq_true_iff.mpr (e.bareIn_of_showIn depth (showIn_of_operandOr h)))
  | .yield _ delegate (some e), h => by
    rw [showIn_yield] at h
    exact .inr (Bool.or_eq_true_iff.mpr (e.bareIn_of_showIn depth (showIn_of_operand h)))
  | .arrow _ ⟨_, isAsync, _, params, .block body⟩, h => by
    rw [showIn_arrow_block] at h
    exact nomatch h
  | .yield _ delegate none, h => by
    rw [showIn_yield_none] at h
    exact nomatch h
  | .call _ _ _ _, h | .classExpr _ _ _ _, h | .index _ _ _ _, h | .member _ _ _ _, h
  | .construct _ _ none, h | .construct _ _ (some _), h | .tagged _ _ _, h | .ident _, h
  | .func _ _ _, h | .importCall _ _, h | .importMeta _, h | .newTarget _, h | .superRef _, h
  | .this _, h | .jsx _ _, h | .array _ _, h | .bigInt _ _, h | .bool _ _, h | .null _, h
  | .num _ _, h | .object _ _, h | .regex _ _, h | .str _ _, h | .template _ _, h
  | .target _, h => absurd (le_of_showIn h) (Nat.not_le_of_lt (Nat.le_of_ble_eq_true rfl))

/-! ### The head of a loop -/

/-- A binding in the head of a loop from outside all brackets. -/
def Binder.headStretches (depth : Nat) : Binder → List Stretch
  | ⟨target, none⟩ => Stretch.pat depth target
  | ⟨target, some e⟩ =>
    Stretch.pat depth target ++ Stretch.plain (word " = ") ++
      Stretch.operandOr e.containsBareIn assignmentPrecedence depth e (e.stretches depth)

/-- The first part of the head of a loop from outside all brackets. -/
def ForInit.stretches (depth : Nat) : ForInit → List Stretch
  | .absent => []
  | .expr e =>
    Stretch.operandOr (e.containsBareIn || e.isAmbiguousStart) 0 depth e (e.stretches depth)
  | .decl mode binders =>
    Stretch.plain (word mode.spelling ++ word " ") ++
      List.intercalate (Stretch.plain (word ", ")) (binders.map (Binder.headStretches depth))

/-- The expressions that stand in the first part of the head of a loop as they are. -/
def ForInit.values : ForInit → List Expr
  | .absent => []
  | .expr e => [e]
  | .decl _ binders => binders.filterMap Binder.init

namespace Stretch

theorem written_intercalate (sep : List Stretch) (ls : List (List Stretch)) :
    written (List.intercalate sep ls) = List.intercalate (written sep) (ls.map written) := by
  induction ls with
  | nil => rfl
  | cons l ls ih =>
    cases ls with
    | nil => simp [List.intercalate]
    | cons m ms =>
      simp only [List.intercalate, List.intersperse_cons_cons, List.flatten_cons, written_append,
        List.map_cons] at ih ⊢
      rw [ih]

theorem showIn_intercalate {sep : List Stretch} (hsep : showIn sep = false)
    (ls : List (List Stretch)) : showIn (List.intercalate sep ls) = ls.any showIn := by
  induction ls with
  | nil => rfl
  | cons l ls ih =>
    cases ls with
    | nil => simp [List.intercalate]
    | cons m ms =>
      simp only [List.intercalate, List.intersperse_cons_cons, List.flatten_cons, showIn_append,
        List.any_cons] at ih ⊢
      rw [ih, hsep, Bool.false_or]

end Stretch

open Stretch

theorem written_headStretches (depth : Nat) (binders : List Binder) :
    (binders.map (Binder.headStretches depth)).map written = binderLayouts depth true binders := by
  induction binders with
  | nil => rfl
  | cons b bs ih =>
    obtain ⟨target, init⟩ := b
    rw [List.map_cons, List.map_cons, ih]
    cases init with
    | none => exact congrArg (· :: binderLayouts depth true bs) (written_pat depth target)
    | some e =>
      exact congrArg (· :: binderLayouts depth true bs) (written_beside
        (written_beside (written_pat depth target) (written_plain _))
        (written_operandOr (e.written_stretches depth)))

theorem ForInit.written_stretches (depth : Nat) (init : ForInit) :
    written (init.stretches depth) = init.layout depth := by
  cases init with
  | absent => rfl
  | expr e => exact written_operandOr (e.written_stretches depth)
  | decl mode binders =>
    refine written_beside (written_plain _) ?_
    rw [written_intercalate, written_plain, written_headStretches, commas]

/-- An expression that stands in parentheses where the check finds an `in` shows only a hidden one. -/
theorem Expr.hidesBareIn_of_showIn {wrap : Bool} {least depth : Nat} {e : Expr}
    (hwrap : e.containsBareIn = true → wrap = true)
    (h : showIn (operandOr wrap least depth e (e.stretches depth)) = true) :
    e.hidesBareIn = true := by
  rcases e.bareIn_of_showIn depth (showIn_of_operandOr h) with hbare | hhides
  · simp [showIn_operandOr, hwrap hbare] at h
  · exact hhides

theorem ForInit.hidesBareIn_of_showIn {depth : Nat} {init : ForInit}
    (h : showIn (init.stretches depth) = true) : ∃ e ∈ init.values, e.hidesBareIn = true := by
  cases init with
  | absent => exact nomatch h
  | expr e =>
    rw [stretches] at h
    exact ⟨e, List.mem_singleton_self e,
      e.hidesBareIn_of_showIn (fun hbare => by rw [hbare, Bool.true_or]) h⟩
  | decl mode binders =>
    rw [stretches, showIn_append, showIn_plain, Bool.false_or,
      showIn_intercalate (showIn_plain _), List.any_map, List.any_eq_true] at h
    obtain ⟨⟨target, init⟩, hb, hshows⟩ := h
    cases init with
    | none => simp [Binder.headStretches] at hshows
    | some e =>
      simp only [Function.comp_apply, Binder.headStretches, showIn_append, showIn_pat, showIn_plain,
        Bool.false_or] at hshows
      exact ⟨e, List.mem_filterMap.mpr ⟨_, hb, rfl⟩, e.hidesBareIn_of_showIn id hshows⟩

theorem showIn_of_mem {l : List Stretch} (h : .sign .inOp ∈ l) : showIn l = true :=
  List.contains_iff_mem.mpr h

/-- **What the check for a bare `in` finds.**  The stretches of an expression in its place are what is
written there.  If an `in` is among them, the check finds one, or one is hidden from it in a body or
behind a `yield`.  The first part of the head of a loop shows only an `in` that is hidden. -/
theorem bareIn_shown (depth : Nat) :
    (∀ (e : Expr) (least : Nat),
      let outside := operand least depth e (e.stretches depth)
      written outside = Layout.operand least e (e.bare depth) ∧
        (.sign .inOp ∈ outside → e.containsBareIn = true ∨ e.hidesBareIn = true)) ∧
    ∀ init : ForInit, written (init.stretches depth) = init.layout depth ∧
      (.sign .inOp ∈ init.stretches depth → ∃ e ∈ init.values, e.hidesBareIn = true) := by
  constructor
  · intro e least outside
    refine ⟨written_operand (e.written_stretches depth), fun h => ?_⟩
    exact e.bareIn_of_showIn depth (showIn_of_operand (showIn_of_mem h))
  · intro init
    exact ⟨init.written_stretches depth, fun h => init.hidesBareIn_of_showIn (showIn_of_mem h)⟩

/-- An `in` between two names shows where a value is declared, and is found. -/
theorem namedIn_shown :
    let loc := Loc.point 0
    let name := fun s => Expr.ident ⟨s, loc, .unknown⟩
    let e := Expr.binary loc .inOp (name "a") (name "b")
    .sign .inOp ∈ operand assignmentPrecedence 0 e (e.stretches 0) ∧
      (e.containsBareIn = true ∨ e.hidesBareIn = true) := by
  intro loc name e
  have hshows : .sign .inOp ∈ operand assignmentPrecedence 0 e (e.stretches 0) := by decide +kernel
  exact ⟨hshows, ((bareIn_shown 0).1 e assignmentPrecedence).2 hshows⟩

/-- The values in the head of a counting loop. -/
def Stmt.headValues : Stmt → List Expr
  | .forLoop _ init _ _ _ => init.values
  | _ => []

/-- A loop whose variable is a function that looks for a property. -/
def hiddenIn : String := "for (var x = () => (a in b);;);"

/-- The check does not look into the body, so an `in` is written that ends the head of the loop: what
is printed is not read again. -/
theorem hiddenIn_shown :
    ∃ p e, Program.parse hiddenIn = .ok p ∧ e ∈ p.body.flatMap Stmt.headValues ∧
      .sign .inOp ∈ operand assignmentPrecedence 0 e (e.stretches 0) ∧ e.containsBareIn = false ∧
      p.print = "for (var x = () => a in b;;) ;\n" ∧ (Program.parse p.print).toOption.isNone = true := by
  have hsource : (Program.parse hiddenIn).toOption.any (fun p =>
      (p.body.flatMap Stmt.headValues).any (fun e =>
        decide (.sign .inOp ∈ operand assignmentPrecedence 0 e (e.stretches 0)) && !e.containsBareIn) &&
      (p.print == "for (var x = () => a in b;;) ;\n" && (Program.parse p.print).toOption.isNone)) =
        true := by decide +kernel
  obtain ⟨p, hp, hsource⟩ := (Option.any_eq_true _ _).mp hsource
  rw [Bool.and_eq_true, List.any_eq_true, Bool.and_eq_true, beq_iff_eq] at hsource
  obtain ⟨⟨e, he, hshows⟩, hprint, hnone⟩ := hsource
  rw [Bool.and_eq_true, decide_eq_true_eq, Bool.not_eq_true'] at hshows
  exact ⟨p, e, Program.parse_of_toOption hp, he, hshows.1, hshows.2, hprint, hnone⟩

end ImportSeam
