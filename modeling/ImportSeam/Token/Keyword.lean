/-!
# Keywords

The reserved words, with `await`, `let` and `yield`, which are reserved only in some places.
Words such as `as`, `from`, `of`, `get`, `set`, `static` and `async` are plain names that the
grammar recognises by their text.

## Main definitions

* `Keyword` — the keywords.
* `Keyword.spelling` — a keyword as it stands in a source.
* `Keyword.ofWord?` — the keyword with a given spelling.
-/

namespace ImportSeam

/-- The keywords of the language. -/
inductive Keyword where
  | kAwait | kBreak | kCase | kCatch | kClass | kConst | kContinue | kDebugger | kDefault
  | kDelete | kDo | kElse | kEnum | kExport | kExtends | kFalse | kFinally | kFor | kFunction
  | kIf | kImport | kIn | kInstanceof | kLet | kNew | kNull | kReturn | kSuper | kSwitch
  | kThis | kThrow | kTrue | kTry | kTypeof | kVar | kVoid | kWhile | kWith | kYield
  deriving DecidableEq, Repr, Inhabited

namespace Keyword

/-- The keyword as it stands in a source. -/
def spelling : Keyword → String
  | .kAwait => "await"
  | .kBreak => "break"
  | .kCase => "case"
  | .kCatch => "catch"
  | .kClass => "class"
  | .kConst => "const"
  | .kContinue => "continue"
  | .kDebugger => "debugger"
  | .kDefault => "default"
  | .kDelete => "delete"
  | .kDo => "do"
  | .kElse => "else"
  | .kEnum => "enum"
  | .kExport => "export"
  | .kExtends => "extends"
  | .kFalse => "false"
  | .kFinally => "finally"
  | .kFor => "for"
  | .kFunction => "function"
  | .kIf => "if"
  | .kImport => "import"
  | .kIn => "in"
  | .kInstanceof => "instanceof"
  | .kLet => "let"
  | .kNew => "new"
  | .kNull => "null"
  | .kReturn => "return"
  | .kSuper => "super"
  | .kSwitch => "switch"
  | .kThis => "this"
  | .kThrow => "throw"
  | .kTrue => "true"
  | .kTry => "try"
  | .kTypeof => "typeof"
  | .kVar => "var"
  | .kVoid => "void"
  | .kWhile => "while"
  | .kWith => "with"
  | .kYield => "yield"

/-- Every keyword, in alphabetical order. -/
def all : List Keyword := [
  .kAwait, .kBreak, .kCase, .kCatch, .kClass, .kConst, .kContinue, .kDebugger, .kDefault,
  .kDelete, .kDo, .kElse, .kEnum, .kExport, .kExtends, .kFalse, .kFinally, .kFor, .kFunction,
  .kIf, .kImport, .kIn, .kInstanceof, .kLet, .kNew, .kNull, .kReturn, .kSuper, .kSwitch,
  .kThis, .kThrow, .kTrue, .kTry, .kTypeof, .kVar, .kVoid, .kWhile, .kWith, .kYield]

/-- The keyword with a given spelling. -/
def ofWord? (word : String) : Option Keyword := all.find? (·.spelling == word)

/-- The name of the keyword in a message: its spelling with a capital. -/
def name (k : Keyword) : String := k.spelling.capitalize

end Keyword

end ImportSeam
