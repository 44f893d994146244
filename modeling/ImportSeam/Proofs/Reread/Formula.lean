import ImportSeam.Layout.Print
import ImportSeam.Proofs.Grammar.Formed

/-!
# Formulas and how they are printed

A formula is an expression of names, `this`, operators, calls and member accesses.  What is printed
for it does not depend on where it stands in a source, except for parentheses, and these are decided
by two numbers: how tightly the formula holds together, and how tightly the last operand that stands
bare in it asks what follows not to hold on to it.

## Main definitions

* `Expr.IsFormula` — formulas.
* `Expr.unlocated` — a formula without its locations and what was found out about its names.
* `Expr.chars`, `Expr.placed` — what is printed for an expression, bare and in its place.
* `Expr.edge`, `TokenKind.pull` — what the last operand asks for, and what a token behind it offers.

## Main results

* `Expr.IsFormula.le_edge`, `Expr.IsFormula.lt_edge` — parentheses are missing only where the
  operand is read up to its end.
-/

namespace ImportSeam

open Layout

/-! ### Formulas -/

/-- Whether the expression is a member access. -/
def Expr.isAccess : Expr → Bool
  | .member _ _ _ _ | .index _ _ _ _ => true
  | _ => false

/-- An expression of names, `this`, operators, calls and member accesses.  The left side of an
assignment is a name or a member access. -/
inductive Expr.IsFormula : Expr → Prop
  | ident {id : Ident} (hid : IsToken .standard .ident id.name) : IsFormula (.ident id)
  | this (loc : Loc) : IsFormula (.this loc)
  | binary (loc : Loc) {op : Operator} {l r : Expr} (hop : op.isBinary = true)
      (hl : l.IsFormula) (hr : r.IsFormula) : IsFormula (.binary loc op l r)
  | assignName (loc : Loc) {op : Operator} {id : Ident} {r : Expr} (hop : op.isAssignment = true)
      (hid : IsToken .standard .ident id.name) (hr : r.IsFormula) :
      IsFormula (.binary loc op (.target (.ident id)) r)
  | assignAccess (loc : Loc) {op : Operator} {l r : Expr} (hop : op.isAssignment = true)
      (haccess : l.isAccess = true) (hl : l.IsFormula) (hr : r.IsFormula) :
      IsFormula (.binary loc op l r)
  | cond (loc : Loc) {t c a : Expr} (ht : t.IsFormula) (hc : c.IsFormula) (ha : a.IsFormula) :
      IsFormula (.cond loc t c a)
  | unary (loc : Loc) {op : Operator} {e : Expr} (hop : op.isPrefix = true) (he : e.IsFormula) :
      IsFormula (.unary loc op e)
  | update (loc : Loc) {op : Operator} {e : Expr} (hop : op.isPostfix = true) (he : e.IsFormula) :
      IsFormula (.update loc op e)
  | call (loc : Loc) (optional : Bool) {f : Expr} {args : List Arg} (hf : f.IsFormula)
      (hargs : ∀ a ∈ args, a.value.IsFormula) : IsFormula (.call loc optional f args)
  | member (loc : Loc) (optional : Bool) {e : Expr} {property : String} (he : e.IsFormula)
      (hproperty : IsMemberName property) : IsFormula (.member loc optional e property)
  | index (loc : Loc) (optional : Bool) {e k : Expr} (he : e.IsFormula) (hk : k.IsFormula) :
      IsFormula (.index loc optional e k)

/-- The name alone, without its location and what it was found to do. -/
def Ident.unlocated (id : Ident) : Ident := ⟨id.name, .point 0, .unknown⟩

mutual

/-- A formula without the locations of its parts, and without what was found out about its names.
Anything else is left as it is. -/
def Expr.unlocated : Expr → Expr
  | .ident id => .ident id.unlocated
  | .target (.ident id) => .target (.ident id.unlocated)
  | .this _ => .this (.point 0)
  | .binary _ op l r => .binary (.point 0) op l.unlocated r.unlocated
  | .cond _ t c a => .cond (.point 0) t.unlocated c.unlocated a.unlocated
  | .unary _ op e => .unary (.point 0) op e.unlocated
  | .update _ op e => .update (.point 0) op e.unlocated
  | .call _ optional f args => .call (.point 0) optional f.unlocated (argsUnlocated args)
  | .member _ optional e property => .member (.point 0) optional e.unlocated property
  | .index _ optional e k => .index (.point 0) optional e.unlocated k.unlocated
  | e => e

/-- The arguments of a call without locations. -/
def argsUnlocated : List Arg → List Arg
  | [] => []
  | ⟨isSpread, e⟩ :: as => ⟨isSpread, e.unlocated⟩ :: argsUnlocated as

end

theorem Expr.isAccess_unlocated (e : Expr) : e.unlocated.isAccess = e.isAccess := by
  cases e with
  | target p => cases p <;> rfl
  | _ => rfl

/-! ### What is printed -/

/-- The characters of a piece when no comments are pending. -/
def Piece.chars : Piece → List Char
  | .text s => s.toList
  | .newline depth => (lineBreak depth).toList
  | _ => []

namespace Layout

/-- The characters of a layout when no comments are pending. -/
def chars (l : Layout) : List Char := l.flatMap Piece.chars

theorem toList_render (l : Layout) : (l.render []).toList = l.chars := by
  have htexts : (l.texts []).flatMap String.toList = l.chars := by
    induction l with
    | nil => rfl
    | cons p ps ih =>
      simp only [chars] at ih
      cases p <;> simp [texts, chars, Piece.chars, ih]
  rw [render, String.toList_join, htexts]

@[simp] theorem chars_append (l m : Layout) : (l ++ m).chars = l.chars ++ m.chars :=
  List.flatMap_append

@[simp] theorem chars_word (s : String) : (word s).chars = s.toList := List.append_nil _

@[simp] theorem chars_parens (l : Layout) : (parens l).chars = '(' :: (l.chars ++ [')']) := by
  simp [parens]

@[simp] theorem chars_brackets (l : Layout) : (brackets l).chars = '[' :: (l.chars ++ [']']) := by
  simp [brackets]

@[simp] theorem chars_when (flag : Bool) (l : Layout) :
    (Layout.when flag l).chars = if flag then l.chars else [] := by
  cases flag <;> rfl

@[simp] theorem chars_commentsBefore (loc : Loc) : (commentsBefore loc).chars = [] := by
  rw [commentsBefore, chars_when]
  split <;> rfl

@[simp] theorem chars_commas_nil : (commas []).chars = [] := rfl

@[simp] theorem chars_commas_singleton (l : Layout) : (commas [l]).chars = l.chars := by
  simp [commas, List.intercalate]

@[simp] theorem chars_commas_cons (l m : Layout) (ls : List Layout) :
    (commas (l :: m :: ls)).chars = l.chars ++ ',' :: ' ' :: (commas (m :: ls)).chars := by
  simp [commas, List.intercalate, List.intersperse_cons_cons]

end Layout

namespace Expr

/-- What is printed for an expression, without parentheses of its place. -/
def chars (e : Expr) : List Char := (e.bare 0).chars

/-- Whether the expression stands in parentheses at a place. -/
def isWrapped (e : Expr) (wrap : Bool) (least : Nat) : Bool := wrap || e.precedence < least

/-- What is printed for an expression at a place that may ask for parentheses, and that asks it to
hold together at least as tightly as `least`. -/
def placed (e : Expr) (wrap : Bool) (least : Nat) : List Char :=
  if e.isWrapped wrap least then '(' :: (e.chars ++ [')']) else e.chars

@[simp] theorem chars_operand (least : Nat) (e : Expr) :
    (operand least e (e.bare 0)).chars = e.placed false least := by
  simp only [operand, chars_append, chars_commentsBefore, List.nil_append, placed, isWrapped,
    Bool.false_or, decide_eq_true_eq]
  split
  · exact chars_parens _
  · rfl

@[simp] theorem chars_operandOr (wrap : Bool) (least : Nat) (e : Expr) :
    (operandOr wrap least e (e.bare 0)).chars = e.placed wrap least := by
  cases wrap with
  | false => exact chars_operand least e
  | true =>
    have hzero : (operand 0 e (e.bare 0)).chars = e.chars := by
      rw [chars_operand, placed, isWrapped]
      rfl
    rw [operandOr, if_pos rfl, wrapped, chars_parens, hzero]
    rfl

theorem placed_of_not {e : Expr} {wrap : Bool} {least : Nat} (h : e.isWrapped wrap least = false) :
    e.placed wrap least = e.chars := if_neg (by rw [h]; exact Bool.false_ne_true)

theorem placed_of {e : Expr} {wrap : Bool} {least : Nat} (h : e.isWrapped wrap least = true) :
    e.placed wrap least = '(' :: (e.chars ++ [')']) := if_pos h

theorem le_precedence_of_not {e : Expr} {wrap : Bool} {least : Nat}
    (h : e.isWrapped wrap least = false) : least ≤ e.precedence := by
  simp only [isWrapped, Bool.or_eq_false_iff, decide_eq_false_iff_not] at h
  exact Nat.le_of_not_lt h.2

end Expr

/-- What is printed for an argument. -/
def Arg.chars (a : Arg) : List Char :=
  (if a.isSpread then "...".toList else []) ++ a.value.placed false assignmentPrecedence

/-- What is printed for the arguments of a call, between the parentheses. -/
def argsChars (args : List Arg) : List Char := (commas (argLayouts 0 args)).chars

theorem argLayouts_cons (a : Arg) (as : List Arg) : ∃ l : Layout,
    argLayouts 0 (a :: as) = l :: argLayouts 0 as ∧ l.chars = a.chars := by
  obtain ⟨isSpread, e⟩ := a
  refine ⟨_, rfl, ?_⟩
  rw [chars_append, chars_when, chars_word, Expr.chars_operand, Arg.chars]

@[simp] theorem argsChars_nil : argsChars [] = [] := chars_commas_nil

@[simp] theorem argsChars_singleton (a : Arg) : argsChars [a] = a.chars := by
  obtain ⟨l, hl, hchars⟩ := argLayouts_cons a []
  rw [argsChars, hl]
  exact (chars_commas_singleton l).trans hchars

@[simp] theorem argsChars_cons (a b : Arg) (as : List Arg) :
    argsChars (a :: b :: as) = a.chars ++ ',' :: ' ' :: argsChars (b :: as) := by
  obtain ⟨l, hl, hlchars⟩ := argLayouts_cons a (b :: as)
  obtain ⟨m, hm, hmchars⟩ := argLayouts_cons b as
  rw [argsChars, argsChars, hl, hm, chars_commas_cons, hlchars]

namespace Expr

variable (loc : Loc)

theorem chars_ident (id : Ident) : (Expr.ident id).chars = id.name.toList := chars_word _

theorem chars_this : (Expr.this loc).chars = "this".toList := chars_word _

theorem chars_target_ident (id : Ident) :
    (Expr.target (.ident id)).chars = id.name.toList := chars_word _

theorem chars_binary (op : Operator) (l r : Expr) : (Expr.binary loc op l r).chars =
    l.placed (l.forcesLeft op) op.leftPrecedence ++ ((binarySign op).chars ++
      r.placed (r.mixesWith op) op.rightPrecedence) := by
  change Layout.chars (operandOr _ _ l _ ++ binarySign op ++ operandOr _ _ r _) = _
  simp

theorem chars_cond (t c a : Expr) : (Expr.cond loc t c a).chars =
    t.placed false (Operator.conditional.precedence + 1) ++ (" ? ".toList ++
      (c.placed false assignmentPrecedence ++ (" : ".toList ++
        a.placed false assignmentPrecedence))) := by
  change Layout.chars (operand _ t _ ++ Layout.word _ ++ operand _ c _ ++ Layout.word _ ++
    operand _ a _) = _
  simp

theorem chars_unary (op : Operator) (e : Expr) : (Expr.unary loc op e).chars =
    (unarySign op e).chars ++ e.placed false op.precedence := by
  change Layout.chars (unarySign op e ++ operand _ e _) = _
  simp

theorem chars_update (op : Operator) (e : Expr) : (Expr.update loc op e).chars =
    e.placed false op.precedence ++ (updateSign op).chars := by
  change Layout.chars (operand _ e _ ++ updateSign op) = _
  simp

theorem chars_call (optional : Bool) (f : Expr) (args : List Arg) :
    (Expr.call loc optional f args).chars = f.placed false accessPrecedence ++
      ((if optional then "?.".toList else []) ++
        '(' :: (argsChars args ++ [')'])) := by
  change Layout.chars (operand _ f _ ++ Layout.when _ _ ++ parens (commas (argLayouts 0 args))) = _
  simp [argsChars]

theorem chars_index (optional : Bool) (e k : Expr) : (Expr.index loc optional e k).chars =
    e.placed false accessPrecedence ++ ((if optional then "?.".toList else []) ++
      '[' :: (k.placed false 0 ++ [']'])) := by
  change Layout.chars (operand _ e _ ++ Layout.when _ _ ++ brackets (operand 0 k _)) = _
  simp

/-- A point behind a number is printed in a way of its own. -/
theorem chars_member_of_ne (optional : Bool) {e : Expr} (hnum : ∀ l n, e ≠ .num l n)
    (property : String) :
    (Expr.member loc optional e property).chars = e.placed false accessPrecedence ++
      ((if optional then "?." else ".").toList ++ property.toList) := by
  have hplain : Layout.chars (operand accessPrecedence e (e.bare 0) ++
      Layout.word (if optional then "?." else ".") ++ Layout.word property) =
        e.placed false accessPrecedence ++
          ((if optional then "?." else ".").toList ++ property.toList) := by
    simp only [chars_append, chars_operand, chars_word, List.append_assoc]
  cases optional with
  | true => exact hplain
  | false =>
    cases e with
    | num l n => exact absurd rfl (hnum l n)
    | _ => exact hplain

theorem chars_member (optional : Bool) {e : Expr} (he : e.IsFormula) (property : String) :
    (Expr.member loc optional e property).chars = e.placed false accessPrecedence ++
      ((if optional then "?." else ".").toList ++ property.toList) := by
  refine chars_member_of_ne loc optional ?_ property
  rintro l n rfl
  exact nomatch he

end Expr

/-! ### How far an operand is read -/

/-- How tightly a token after an operand binds what comes before it; zero if it is no operator
there. -/
def TokenKind.pull (kind : TokenKind) : Nat :=
  match Rules.updateOperator? kind with
  | some op => op.precedence
  | none =>
    match kind.infixOperator? with
    | some op => op.precedence
    | none => 0

theorem TokenKind.pull_of_infix {kind : TokenKind} {op : Operator}
    (hu : Rules.updateOperator? kind = none) (hi : kind.infixOperator? = some op) :
    kind.pull = op.precedence := by
  simp only [TokenKind.pull, hu, hi]

theorem TokenKind.pull_of_update {kind : TokenKind} {op : Operator}
    (hu : Rules.updateOperator? kind = some op) : kind.pull = op.precedence := by
  simp only [TokenKind.pull, hu]

/-- What a token behind the expression may not reach to be left alone: what the operand that stands
last and bare was read with. -/
def Expr.edge : Expr → Nat
  | .binary _ op _ _ => op.rightPrecedence
  | .cond _ _ _ _ => assignmentPrecedence
  | .unary _ op _ => op.precedence
  | _ => primaryPrecedence

namespace Operator

/-- Operators between operands bind more loosely than any other; only the comma binds more loosely
than assignments. -/
theorem precedence_of_isBinary {op : Operator} (h : op.isBinary = true) :
    op.precedence = 1 ∨ 4 ≤ op.precedence ∧ op.precedence ≤ 14 := by
  cases op <;> first | exact absurd h Bool.false_ne_true | decide

theorem precedence_of_isAssignment {op : Operator} (h : op.isAssignment = true) :
    op.precedence = 2 := by
  cases op <;> first | exact absurd h Bool.false_ne_true | rfl

theorem precedence_of_isPrefix {op : Operator} (h : op.isPrefix = true) : op.precedence = 15 := by
  cases op <;> first | exact absurd h Bool.false_ne_true | rfl

theorem precedence_of_isPostfix {op : Operator} (h : op.isPostfix = true) :
    op.precedence = 16 := by
  cases op <;> first | exact absurd h Bool.false_ne_true | rfl

/-- Operators of one precedence group to one side. -/
theorem rightPrecedence_eq (op : Operator) : op.rightPrecedence =
    if op.precedence ∈ [2, 3, 14, 15, 17] then op.precedence else op.precedence + 1 := by
  unfold rightPrecedence associativity
  split <;> simp_all

theorem leftPrecedence_eq (op : Operator) : op.leftPrecedence =
    if op.precedence ∈ [2, 3, 14, 15, 17] then op.precedence + 1 else op.precedence := by
  unfold leftPrecedence associativity
  split <;> simp_all

theorem le_rightPrecedence (op : Operator) : op.precedence ≤ op.rightPrecedence := by
  rw [rightPrecedence_eq]
  split <;> omega

theorem le_leftPrecedence (op : Operator) : op.precedence ≤ op.leftPrecedence := by
  rw [leftPrecedence_eq]
  split <;> omega

/-- An operator takes its left operand only from an operator that has read its right operand. -/
theorem lt_rightPrecedence {op l : Operator} (h : op.leftPrecedence ≤ l.precedence) :
    op.precedence < l.rightPrecedence := by
  rw [leftPrecedence_eq] at h
  rw [rightPrecedence_eq]
  by_cases hp : op.precedence = l.precedence
  · rw [hp] at h ⊢
    split <;> split at h <;> omega
  · split <;> split at h <;> omega

end Operator

namespace Expr.IsFormula

variable {e : Expr}

/-- What kind of operation a formula is, by how tightly it holds together. -/
theorem precedence_cases (h : e.IsFormula) :
    (∃ loc op l r, e = .binary loc op l r ∧ (op.isBinary = true ∨ op.isAssignment = true)) ∨
      (∃ loc t c a, e = .cond loc t c a) ∨
      (∃ loc op arg, e = .unary loc op arg ∧ op.isPrefix = true) ∨
      (16 ≤ e.precedence ∧ e.precedence ≤ e.edge ∧ e.edge = primaryPrecedence) := by
  cases h with
  | binary loc hop => exact .inl ⟨loc, _, _, _, rfl, .inl hop⟩
  | assignName loc hop => exact .inl ⟨loc, _, _, _, rfl, .inr hop⟩
  | assignAccess loc hop => exact .inl ⟨loc, _, _, _, rfl, .inr hop⟩
  | cond loc => exact .inr (.inl ⟨loc, _, _, _, rfl⟩)
  | unary loc hop => exact .inr (.inr (.inl ⟨loc, _, _, rfl, hop⟩))
  | @update loc op arg hop =>
    have hprec : (Expr.update loc op arg).precedence = 16 := Operator.precedence_of_isPostfix hop
    rw [hprec]
    exact .inr (.inr (.inr ⟨Nat.le_refl 16, Nat.le_of_ble_eq_true rfl, rfl⟩))
  | _ => exact .inr (.inr (.inr ⟨Nat.le_of_ble_eq_true rfl, Nat.le_of_ble_eq_true rfl, rfl⟩))

theorem one_le_precedence (h : e.IsFormula) : 1 ≤ e.precedence := by
  rcases h.precedence_cases with ⟨loc, op, l, r, rfl, hop⟩ | ⟨loc, t, c, a, rfl⟩ |
    ⟨loc, op, arg, rfl, hop⟩ | ⟨hp, -⟩
  · rw [precedence]
    rcases hop with hop | hop
    · have := Operator.precedence_of_isBinary hop
      omega
    · rw [Operator.precedence_of_isAssignment hop]
      decide
  · exact Nat.le_of_ble_eq_true rfl
  · rw [precedence, Operator.precedence_of_isPrefix hop]
    decide
  · omega

/-- **A bare right operand** is read up to its end.  Nothing asks for what a conditional holds
together, which is why a conditional may end with an assignment. -/
theorem le_edge (h : e.IsFormula) {m : Nat} (hm : m ≤ e.precedence)
    (hcond : m ≠ Operator.conditional.precedence) : m ≤ e.edge := by
  rcases h.precedence_cases with ⟨loc, op, l, r, rfl, hop⟩ | ⟨loc, t, c, a, rfl⟩ |
    ⟨loc, op, arg, rfl, hop⟩ | ⟨-, hedge, -⟩
  · exact Nat.le_trans hm op.le_rightPrecedence
  · change m ≤ 3 at hm
    change m ≠ 3 at hcond
    show m ≤ 2
    omega
  · exact hm
  · exact Nat.le_trans hm hedge

/-- An operand in front of something that binds more tightly than a conditional is read whole if it
stands bare. -/
theorem lt_edge_of_lt (h : e.IsFormula) {m : Nat} (hm : m < e.precedence)
    (hcond : Operator.conditional.precedence ≤ m) : m < e.edge := by
  refine h.le_edge (m := m + 1) hm ?_
  omega

/-- **A bare left operand** ends before its operator. -/
theorem lt_edge (h : e.IsFormula) {op : Operator} (hop : op.isBinary = true)
    (hm : op.leftPrecedence ≤ e.precedence) : op.precedence < e.edge := by
  have hprec := Operator.precedence_of_isBinary hop
  rcases h.precedence_cases with ⟨loc, lop, l, r, rfl, -⟩ | ⟨loc, t, c, a, rfl⟩ |
    ⟨loc, uop, arg, rfl, huop⟩ | ⟨-, -, hedge⟩
  · exact Operator.lt_rightPrecedence hm
  · have hle := Nat.le_trans op.le_leftPrecedence hm
    change op.precedence ≤ 3 at hle
    show op.precedence < 2
    omega
  · rw [edge, Operator.precedence_of_isPrefix huop]
    omega
  · rw [hedge]
    show op.precedence < 19
    omega

/-- What holds together like an operation behind its operand is read whole. -/
theorem edge_eq (h : e.IsFormula) (hm : 16 ≤ e.precedence) : e.edge = primaryPrecedence := by
  rcases h.precedence_cases with ⟨loc, op, l, r, rfl, hop⟩ | ⟨loc, t, c, a, rfl⟩ |
    ⟨loc, op, arg, rfl, hop⟩ | ⟨-, -, hedge⟩
  · rw [precedence] at hm
    rcases hop with hop | hop
    · have := Operator.precedence_of_isBinary hop
      omega
    · rw [Operator.precedence_of_isAssignment hop] at hm
      exact absurd hm (by decide)
  · exact absurd hm (show ¬16 ≤ 3 by decide)
  · rw [precedence, Operator.precedence_of_isPrefix hop] at hm
    exact absurd hm (by decide)
  · exact hedge

end Expr.IsFormula

end ImportSeam
