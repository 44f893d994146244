/-!
# Punctuators

Every punctuator and its spelling.  Where several punctuators start a text, the longest is the one
that is read, so that the four characters of an unsigned shift assignment are one token.

## Main definitions

* `Punctuator` — the punctuators.
* `Punctuator.chars` — a punctuator as it stands in a source.
* `Punctuator.longest?` — the longest punctuator that starts a text.
-/

namespace ImportSeam

/-- The punctuators of the language. -/
inductive Punctuator where
  | amp | ampAmp | ampAmpAssign | ampAssign | arrow | assign | bang | bangEq | bangEqEq | caret
  | caretAssign | colon | comma | dot | ellipsis | eqEq | eqEqEq | gt | gtEq | gtGt
  | gtGtAssign | gtGtGt | gtGtGtAssign | lBrace | lBracket | lParen | lt | ltEq | ltLt
  | ltLtAssign | minus | minusAssign | minusMinus | percent | percentAssign | pipe | pipeAssign
  | pipePipe | pipePipeAssign | plus | plusAssign | plusPlus | question | questionDot
  | questionDotLBracket | questionDotLParen | questionQuestion | questionQuestionAssign
  | rBrace | rBracket | rParen | semicolon | slash | slashAssign | star | starAssign | starStar
  | starStarAssign | tilde
  deriving DecidableEq, Repr, Inhabited

namespace Punctuator

/-- The characters of the punctuator. -/
def chars : Punctuator → List Char
  | .amp => ['&']
  | .ampAmp => ['&', '&']
  | .ampAmpAssign => ['&', '&', '=']
  | .ampAssign => ['&', '=']
  | .arrow => ['=', '>']
  | .assign => ['=']
  | .bang => ['!']
  | .bangEq => ['!', '=']
  | .bangEqEq => ['!', '=', '=']
  | .caret => ['^']
  | .caretAssign => ['^', '=']
  | .colon => [':']
  | .comma => [',']
  | .dot => ['.']
  | .ellipsis => ['.', '.', '.']
  | .eqEq => ['=', '=']
  | .eqEqEq => ['=', '=', '=']
  | .gt => ['>']
  | .gtEq => ['>', '=']
  | .gtGt => ['>', '>']
  | .gtGtAssign => ['>', '>', '=']
  | .gtGtGt => ['>', '>', '>']
  | .gtGtGtAssign => ['>', '>', '>', '=']
  | .lBrace => ['{']
  | .lBracket => ['[']
  | .lParen => ['(']
  | .lt => ['<']
  | .ltEq => ['<', '=']
  | .ltLt => ['<', '<']
  | .ltLtAssign => ['<', '<', '=']
  | .minus => ['-']
  | .minusAssign => ['-', '=']
  | .minusMinus => ['-', '-']
  | .percent => ['%']
  | .percentAssign => ['%', '=']
  | .pipe => ['|']
  | .pipeAssign => ['|', '=']
  | .pipePipe => ['|', '|']
  | .pipePipeAssign => ['|', '|', '=']
  | .plus => ['+']
  | .plusAssign => ['+', '=']
  | .plusPlus => ['+', '+']
  | .question => ['?']
  | .questionDot => ['?', '.']
  | .questionDotLBracket => ['?', '.', '[']
  | .questionDotLParen => ['?', '.', '(']
  | .questionQuestion => ['?', '?']
  | .questionQuestionAssign => ['?', '?', '=']
  | .rBrace => ['}']
  | .rBracket => [']']
  | .rParen => [')']
  | .semicolon => [';']
  | .slash => ['/']
  | .slashAssign => ['/', '=']
  | .star => ['*']
  | .starAssign => ['*', '=']
  | .starStar => ['*', '*']
  | .starStarAssign => ['*', '*', '=']
  | .tilde => ['~']

/-- Every punctuator, longer ones before shorter ones. -/
def all : List Punctuator := [
  .gtGtGtAssign, .ampAmpAssign, .bangEqEq, .ellipsis, .eqEqEq, .gtGtAssign, .gtGtGt,
  .ltLtAssign, .pipePipeAssign, .questionDotLBracket, .questionDotLParen,
  .questionQuestionAssign, .starStarAssign, .ampAmp, .ampAssign, .arrow, .bangEq, .caretAssign,
  .eqEq, .gtEq, .gtGt, .ltEq, .ltLt, .minusAssign, .minusMinus, .percentAssign, .pipeAssign,
  .pipePipe, .plusAssign, .plusPlus, .questionDot, .questionQuestion, .slashAssign,
  .starAssign, .starStar, .amp, .assign, .bang, .caret, .colon, .comma, .dot, .gt, .lBrace,
  .lBracket, .lParen, .lt, .minus, .percent, .pipe, .plus, .question, .rBrace, .rBracket,
  .rParen, .semicolon, .slash, .star, .tilde]

/-- The longest punctuator that starts a text.  The list has the longer ones first, so the first
that fits is the longest. -/
def longest? (cs : List Char) : Option Punctuator := all.find? (·.chars.isPrefixOf cs)

/-- The punctuator as a text. -/
def spelling (p : Punctuator) : String := String.ofList p.chars

/-- The name of the punctuator in a message. -/
def name : Punctuator → String
  | .amp => "Amp"
  | .ampAmp => "AmpAmp"
  | .ampAmpAssign => "AmpAmpAssign"
  | .ampAssign => "AmpAssign"
  | .arrow => "Arrow"
  | .assign => "Assign"
  | .bang => "Bang"
  | .bangEq => "BangEq"
  | .bangEqEq => "BangEqEq"
  | .caret => "Caret"
  | .caretAssign => "CaretAssign"
  | .colon => "Colon"
  | .comma => "Comma"
  | .dot => "Dot"
  | .ellipsis => "Ellipsis"
  | .eqEq => "EqEq"
  | .eqEqEq => "EqEqEq"
  | .gt => "Gt"
  | .gtEq => "GtEq"
  | .gtGt => "GtGt"
  | .gtGtAssign => "GtGtAssign"
  | .gtGtGt => "GtGtGt"
  | .gtGtGtAssign => "GtGtGtAssign"
  | .lBrace => "LBrace"
  | .lBracket => "LBracket"
  | .lParen => "LParen"
  | .lt => "Lt"
  | .ltEq => "LtEq"
  | .ltLt => "LtLt"
  | .ltLtAssign => "LtLtAssign"
  | .minus => "Minus"
  | .minusAssign => "MinusAssign"
  | .minusMinus => "MinusMinus"
  | .percent => "Percent"
  | .percentAssign => "PercentAssign"
  | .pipe => "Pipe"
  | .pipeAssign => "PipeAssign"
  | .pipePipe => "PipePipe"
  | .pipePipeAssign => "PipePipeAssign"
  | .plus => "Plus"
  | .plusAssign => "PlusAssign"
  | .plusPlus => "PlusPlus"
  | .question => "Question"
  | .questionDot => "QuestionDot"
  | .questionDotLBracket => "QuestionDotLBracket"
  | .questionDotLParen => "QuestionDotLParen"
  | .questionQuestion => "QuestionQuestion"
  | .questionQuestionAssign => "QuestionQuestionAssign"
  | .rBrace => "RBrace"
  | .rBracket => "RBracket"
  | .rParen => "RParen"
  | .semicolon => "Semicolon"
  | .slash => "Slash"
  | .slashAssign => "SlashAssign"
  | .star => "Star"
  | .starAssign => "StarAssign"
  | .starStar => "StarStar"
  | .starStarAssign => "StarStarAssign"
  | .tilde => "Tilde"

end Punctuator

end ImportSeam
