import ImportSeam.Tree.Basic

/-!
# Where parentheses are needed

Parentheses are not part of a tree.  They are written where an expression binds less tightly than
its place asks for, and where its first or last words would be read as something else.

## Main definitions

* `Expr.precedence` — how tightly an expression holds together.
* `Expr.isAmbiguousStart`, `Expr.containsBareIn`, `Expr.containsCall` — expressions that would be
  misread at the start of a statement, in the head of a loop, or after `new`.
* `Stmt.endsWithOpenIf` — statements that would take a following `else`.
-/

namespace ImportSeam

/-- What an argument, an element, an initial value or a property value has to hold together. -/
def assignmentPrecedence : Nat := 2

/-- What `new` without arguments holds together. -/
def bareNewPrecedence : Nat := 17

/-- What a member access or a call holds together, and asks of its left side. -/
def accessPrecedence : Nat := 18

/-- What a single word or a bracketed expression holds together. -/
def primaryPrecedence : Nat := 19

namespace Expr

/-- How tightly an expression holds together. -/
def precedence : Expr → Nat
  | .binary _ op _ _ | .unary _ op _ | .update _ op _ => op.precedence
  | .cond _ _ _ _ => Operator.conditional.precedence
  | .yield _ _ _ | .arrow _ _ => assignmentPrecedence
  | .construct _ _ none => bareNewPrecedence
  | .construct _ _ (some _) | .call _ _ _ _ | .member _ _ _ _ | .index _ _ _ _
  | .tagged _ _ _ | .importCall _ _ => accessPrecedence
  | _ => primaryPrecedence

/-- The expression that is written first. -/
def leftmost : Expr → Expr
  | .binary _ _ l _ => l.leftmost
  | .call _ _ f _ => f.leftmost
  | .member _ _ e _ => e.leftmost
  | .index _ _ e _ => e.leftmost
  | .tagged _ t _ => t.leftmost
  | .update _ _ e => e.leftmost
  | .cond _ t _ _ => t.leftmost
  | e => e

/-- Whether the expression starts with a brace. -/
def startsWithBrace (e : Expr) : Bool :=
  match e.leftmost with
  | .object _ _ | .target (.object _ _ _) => true
  | _ => false

/-- Whether the expression would be read as a block or a declaration at the start of a
statement. -/
def isAmbiguousStart (e : Expr) : Bool :=
  match e.leftmost with
  | .object _ _ | .target (.object _ _ _) | .func _ _ _ | .classExpr _ _ _ _ => true
  | .ident id => id.name == "let"
  | _ => false

/-- Whether the expression is a `??`. -/
def isNullish : Expr → Bool
  | .binary _ .nullishCoalescing _ _ => true
  | _ => false

/-- Whether the expression is a `&&` or a `||`. -/
def isLogical : Expr → Bool
  | .binary _ .logicalAnd _ _ | .binary _ .logicalOr _ _ => true
  | _ => false

/-- Whether the expression is a unary operation before its operand. -/
def isUnary : Expr → Bool
  | .unary _ _ _ => true
  | _ => false

/-- Whether an operand stands in parentheses because `??` cannot be mixed with `&&` and `||`. -/
def mixesWith (op : Operator) (operand : Expr) : Bool :=
  match op with
  | .nullishCoalescing => operand.isLogical
  | .logicalAnd | .logicalOr => operand.isNullish
  | _ => false

/-- Whether a left operand stands in parentheses whatever it holds together. -/
def forcesLeft (op : Operator) (left : Expr) : Bool :=
  mixesWith op left || (op == .exponentiation && left.isUnary)

/-- Whether the expression contains a call whose arguments `new` would take. -/
def containsCall : Expr → Bool
  | .call _ _ _ _ => true
  | .construct _ _ args => args.isNone
  | .member _ _ e _ => e.containsCall
  | .index _ _ e _ => e.containsCall
  | .tagged _ t _ => t.containsCall
  | _ => false

/-- Whether an `in` stands outside all brackets, where it would end the first part of the head of a
loop. -/
def containsBareIn : Expr → Bool
  | .binary _ op l r => op == .inOp || l.containsBareIn || r.containsBareIn
  | .cond _ t c a => t.containsBareIn || c.containsBareIn || a.containsBareIn
  | .unary _ _ e => e.containsBareIn
  | .update _ _ e => e.containsBareIn
  | _ => false

/-- Whether two signs would be read as one: a minus or plus before an operand that starts with the
same. -/
def mergesAfter (op : Operator) : Expr → Bool
  | .unary _ inner _ =>
    (op.spelling? == some "-" && (inner == .unaryNegation || inner == .prefixDecrement)) ||
      (op.spelling? == some "+" && (inner == .unaryPlus || inner == .prefixIncrement))
  | _ => false

end Expr

/-- Whether a statement ends with an `if` without an `else`, which would take an `else` that
follows. -/
def Stmt.endsWithOpenIf : Stmt → Bool
  | .ifElse _ _ _ none => true
  | .ifElse _ _ _ (some a) => a.endsWithOpenIf
  | .forIn _ _ _ body => body.endsWithOpenIf
  | .forOf _ _ _ _ body => body.endsWithOpenIf
  | .forLoop _ _ _ _ body => body.endsWithOpenIf
  | .while _ _ body => body.endsWithOpenIf
  | .withObject _ _ body => body.endsWithOpenIf
  | .label _ _ body => body.endsWithOpenIf
  | _ => false

end ImportSeam
