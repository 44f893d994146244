import ImportSeam.Token.Basic

/-!
# Operators

One table serves the grammar and the printer: how tightly an operator binds and to which side it
groups.  Calls, member accesses and the conditional have productions of their own but stand in the
table, since they compete with the other operators for operands.

## Main definitions

* `Operator` — the operators.
* `Operator.precedence`, `Operator.associativity` — the table.
* `Operator.spelling?` — the operator as a single token.
* `TokenKind.infixOperator?`, `TokenKind.prefixOperator?` — what a token denotes after and before
  an operand.
-/

namespace ImportSeam

/-- The operators. -/
inductive Operator where
  | addition | assign | assignAddition | assignBitwiseAnd | assignBitwiseLeftShift
  | assignBitwiseOr | assignBitwiseRightShift | assignBitwiseUnsignedRightShift
  | assignBitwiseXor | assignDivision | assignExponentiation | assignLogicalAnd
  | assignLogicalOr | assignMultiplication | assignNullishCoalescing | assignRemainder
  | assignSubtraction | await | bitwiseAnd | bitwiseLeftShift | bitwiseNot | bitwiseOr
  | bitwiseRightShift | bitwiseUnsignedRightShift | bitwiseXor | call | comma
  | computedMemberAccess | conditional | delete | division | equality | exponentiation
  | greaterThan | greaterThanOrEqual | inOp | inequality | instanceof | lessThan
  | lessThanOrEqual | logicalAnd | logicalNot | logicalOr | memberAccess | multiplication | new
  | nullishCoalescing | optionalChainingMemberAccess | optionalChainingComputedMemberAccess
  | optionalChainingCall | postfixDecrement | postfixIncrement | prefixDecrement
  | prefixIncrement | remainder | strictEquality | strictInequality | subtraction | typeof
  | unaryNegation | unaryPlus | void | yield | yieldDelegated
  deriving DecidableEq, Repr, Inhabited

/-- The side to which operators of one precedence group. -/
inductive Associativity where
  | left
  | right
  deriving DecidableEq, Repr, Inhabited

namespace Operator

/-- Whether the operator assigns to its left side. -/
def isAssignment : Operator → Bool
  | .assign | .assignAddition | .assignBitwiseAnd | .assignBitwiseLeftShift
  | .assignBitwiseOr | .assignBitwiseRightShift | .assignBitwiseUnsignedRightShift
  | .assignBitwiseXor | .assignDivision | .assignExponentiation | .assignLogicalAnd
  | .assignLogicalOr | .assignMultiplication | .assignNullishCoalescing
  | .assignRemainder | .assignSubtraction => true
  | _ => false

/-- How tightly the operator binds; a greater number binds tighter. -/
def precedence : Operator → Nat
  | .comma => 1
  | .assign | .assignAddition | .assignBitwiseAnd | .assignBitwiseLeftShift
  | .assignBitwiseOr | .assignBitwiseRightShift | .assignBitwiseUnsignedRightShift
  | .assignBitwiseXor | .assignDivision | .assignExponentiation | .assignLogicalAnd
  | .assignLogicalOr | .assignMultiplication | .assignNullishCoalescing
  | .assignRemainder | .assignSubtraction | .yield | .yieldDelegated => 2
  | .conditional => 3
  | .logicalOr | .nullishCoalescing => 4
  | .logicalAnd => 5
  | .bitwiseOr => 6
  | .bitwiseXor => 7
  | .bitwiseAnd => 8
  | .equality | .inequality | .strictEquality | .strictInequality => 9
  | .greaterThan | .greaterThanOrEqual | .inOp | .instanceof | .lessThan
  | .lessThanOrEqual => 10
  | .bitwiseLeftShift | .bitwiseRightShift | .bitwiseUnsignedRightShift => 11
  | .addition | .subtraction => 12
  | .division | .multiplication | .remainder => 13
  | .exponentiation => 14
  | .await | .bitwiseNot | .delete | .logicalNot | .prefixDecrement | .prefixIncrement
  | .typeof | .unaryNegation | .unaryPlus | .void => 15
  | .postfixDecrement | .postfixIncrement => 16
  | .new => 17
  | .call | .computedMemberAccess | .memberAccess | .optionalChainingMemberAccess
  | .optionalChainingComputedMemberAccess | .optionalChainingCall => 18

/-- The side to which the operator groups: assignments, the conditional, exponentiation and
everything before its operand group to the right. -/
def associativity (op : Operator) : Associativity :=
  if op.precedence ∈ [2, 3, 14, 15, 17] then .right else .left

/-- What an operator asks of its left operand. -/
def leftPrecedence (op : Operator) : Nat :=
  match op.associativity with
  | .left => op.precedence
  | .right => op.precedence + 1

/-- What an operator asks of its right operand. -/
def rightPrecedence (op : Operator) : Nat :=
  match op.associativity with
  | .left => op.precedence + 1
  | .right => op.precedence

/-- The operator as it stands in a source, if it is a single token. -/
def spelling? : Operator → Option String
  | .addition => some "+"
  | .assign => some "="
  | .assignAddition => some "+="
  | .assignBitwiseAnd => some "&="
  | .assignBitwiseLeftShift => some "<<="
  | .assignBitwiseOr => some "|="
  | .assignBitwiseRightShift => some ">>="
  | .assignBitwiseUnsignedRightShift => some ">>>="
  | .assignBitwiseXor => some "^="
  | .assignDivision => some "/="
  | .assignExponentiation => some "**="
  | .assignLogicalAnd => some "&&="
  | .assignLogicalOr => some "||="
  | .assignMultiplication => some "*="
  | .assignNullishCoalescing => some "??="
  | .assignRemainder => some "%="
  | .assignSubtraction => some "-="
  | .await => some "await"
  | .bitwiseAnd => some "&"
  | .bitwiseLeftShift => some "<<"
  | .bitwiseNot => some "~"
  | .bitwiseOr => some "|"
  | .bitwiseRightShift => some ">>"
  | .bitwiseUnsignedRightShift => some ">>>"
  | .bitwiseXor => some "^"
  | .comma => some ","
  | .delete => some "delete"
  | .division => some "/"
  | .equality => some "=="
  | .exponentiation => some "**"
  | .greaterThan => some ">"
  | .greaterThanOrEqual => some ">="
  | .inOp => some "in"
  | .inequality => some "!="
  | .instanceof => some "instanceof"
  | .lessThan => some "<"
  | .lessThanOrEqual => some "<="
  | .logicalAnd => some "&&"
  | .logicalNot => some "!"
  | .logicalOr => some "||"
  | .multiplication => some "*"
  | .nullishCoalescing => some "??"
  | .postfixDecrement => some "--"
  | .postfixIncrement => some "++"
  | .prefixDecrement => some "--"
  | .prefixIncrement => some "++"
  | .remainder => some "%"
  | .strictEquality => some "==="
  | .strictInequality => some "!=="
  | .subtraction => some "-"
  | .typeof => some "typeof"
  | .unaryNegation => some "-"
  | .unaryPlus => some "+"
  | .void => some "void"
  | _ => none

/-- The name of the operator in a listing. -/
def name : Operator → String
  | .addition => "Addition"
  | .assign => "Assignment"
  | .assignAddition => "AssignmentAddition"
  | .assignBitwiseAnd => "AssignmentBitwiseAnd"
  | .assignBitwiseLeftShift => "AssignmentBitwiseLeftShift"
  | .assignBitwiseOr => "AssignmentBitwiseOr"
  | .assignBitwiseRightShift => "AssignmentBitwiseRightShift"
  | .assignBitwiseUnsignedRightShift => "AssignmentBitwiseUnsignedRightShift"
  | .assignBitwiseXor => "AssignmentBitwiseXor"
  | .assignDivision => "AssignmentDivision"
  | .assignExponentiation => "AssignmentExponentiation"
  | .assignLogicalAnd => "AssignmentLogicalAnd"
  | .assignLogicalOr => "AssignmentLogicalOr"
  | .assignMultiplication => "AssignmentMultiplication"
  | .assignNullishCoalescing => "AssignmentNullishCoalescing"
  | .assignRemainder => "AssignmentRemainder"
  | .assignSubtraction => "AssignmentSubtraction"
  | .await => "Await"
  | .bitwiseAnd => "BitwiseAnd"
  | .bitwiseLeftShift => "BitwiseLeftShift"
  | .bitwiseNot => "BitwiseNot"
  | .bitwiseOr => "BitwiseOr"
  | .bitwiseRightShift => "BitwiseRightShift"
  | .bitwiseUnsignedRightShift => "BitwiseUnsignedRightShift"
  | .bitwiseXor => "BitwiseXor"
  | .call => "Call"
  | .comma => "Comma"
  | .computedMemberAccess => "ComputedMemberAccess"
  | .conditional => "Conditional"
  | .delete => "Delete"
  | .division => "Division"
  | .equality => "Equality"
  | .exponentiation => "Exponentiation"
  | .greaterThan => "GreaterThan"
  | .greaterThanOrEqual => "GreaterThanOrEqual"
  | .inOp => "In"
  | .inequality => "Inequality"
  | .instanceof => "Instanceof"
  | .lessThan => "LessThan"
  | .lessThanOrEqual => "LessThanOrEqual"
  | .logicalAnd => "LogicalAnd"
  | .logicalNot => "LogicalNot"
  | .logicalOr => "LogicalOr"
  | .memberAccess => "MemberAccess"
  | .multiplication => "Multiplication"
  | .new => "New"
  | .nullishCoalescing => "NullishCoalescing"
  | .optionalChainingMemberAccess => "OptionalChainingMemberAccess"
  | .optionalChainingComputedMemberAccess => "OptionalChainingComputedMemberAccess"
  | .optionalChainingCall => "OptionalChainingCall"
  | .postfixDecrement => "PostfixDecrement"
  | .postfixIncrement => "PostfixIncrement"
  | .prefixDecrement => "PrefixDecrement"
  | .prefixIncrement => "PrefixIncrement"
  | .remainder => "Remainder"
  | .strictEquality => "StrictEquality"
  | .strictInequality => "StrictInequality"
  | .subtraction => "Subtraction"
  | .typeof => "Typeof"
  | .unaryNegation => "UnaryNegation"
  | .unaryPlus => "UnaryPlus"
  | .void => "Void"
  | .yield => "Yield"
  | .yieldDelegated => "YieldDelegated"

end Operator

namespace TokenKind

/-- The operator that a token denotes after an operand. -/
def infixOperator? : TokenKind → Option Operator
  | .punct .amp => some .bitwiseAnd
  | .punct .ampAmp => some .logicalAnd
  | .punct .ampAmpAssign => some .assignLogicalAnd
  | .punct .ampAssign => some .assignBitwiseAnd
  | .punct .assign => some .assign
  | .punct .bangEq => some .inequality
  | .punct .bangEqEq => some .strictInequality
  | .punct .caret => some .bitwiseXor
  | .punct .caretAssign => some .assignBitwiseXor
  | .punct .comma => some .comma
  | .punct .dot => some .memberAccess
  | .punct .eqEq => some .equality
  | .punct .eqEqEq => some .strictEquality
  | .punct .gt => some .greaterThan
  | .punct .gtEq => some .greaterThanOrEqual
  | .punct .gtGt => some .bitwiseRightShift
  | .punct .gtGtAssign => some .assignBitwiseRightShift
  | .punct .gtGtGt => some .bitwiseUnsignedRightShift
  | .punct .gtGtGtAssign => some .assignBitwiseUnsignedRightShift
  | .keyword .kIn => some .inOp
  | .keyword .kInstanceof => some .instanceof
  | .punct .lBracket => some .computedMemberAccess
  | .punct .lParen | .templateChunk | .templateEnd => some .call
  | .punct .lt => some .lessThan
  | .punct .ltEq => some .lessThanOrEqual
  | .punct .ltLt => some .bitwiseLeftShift
  | .punct .ltLtAssign => some .assignBitwiseLeftShift
  | .punct .minus => some .subtraction
  | .punct .minusAssign => some .assignSubtraction
  | .punct .percent => some .remainder
  | .punct .percentAssign => some .assignRemainder
  | .punct .pipe => some .bitwiseOr
  | .punct .pipeAssign => some .assignBitwiseOr
  | .punct .pipePipe => some .logicalOr
  | .punct .pipePipeAssign => some .assignLogicalOr
  | .punct .plus => some .addition
  | .punct .plusAssign => some .assignAddition
  | .punct .question => some .conditional
  | .punct .questionDot => some .optionalChainingMemberAccess
  | .punct .questionDotLBracket => some .optionalChainingComputedMemberAccess
  | .punct .questionDotLParen => some .optionalChainingCall
  | .punct .questionQuestion => some .nullishCoalescing
  | .punct .questionQuestionAssign => some .assignNullishCoalescing
  | .punct .slash => some .division
  | .punct .slashAssign => some .assignDivision
  | .punct .star => some .multiplication
  | .punct .starAssign => some .assignMultiplication
  | .punct .starStar => some .exponentiation
  | .punct .starStarAssign => some .assignExponentiation
  | _ => none

/-- The operator that a token denotes before an operand.  `new` and `yield` have productions of
their own. -/
def prefixOperator? : TokenKind → Option Operator
  | .punct .bang => some .logicalNot
  | .keyword .kAwait => some .await
  | .keyword .kDelete => some .delete
  | .keyword .kTypeof => some .typeof
  | .keyword .kVoid => some .void
  | .punct .minus => some .unaryNegation
  | .punct .minusMinus => some .prefixDecrement
  | .punct .plus => some .unaryPlus
  | .punct .plusPlus => some .prefixIncrement
  | .punct .tilde => some .bitwiseNot
  | _ => none

end TokenKind

end ImportSeam
