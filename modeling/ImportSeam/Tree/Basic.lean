import ImportSeam.Number.Basic
import ImportSeam.Token.Basic
import ImportSeam.Tree.Ident
import ImportSeam.Tree.Operator

/-!
# Syntax trees

The tree of a module.  Parentheses are not part of it: the printer finds out where they are
needed.  Statements, expressions and patterns know their location; a pattern is one type whether
it declares its names, as in a parameter, or assigns to them.

## Main definitions

* `Expr`, `Pat`, `Stmt` — expressions, patterns and statements.
* `Func`, `Binder`, `Key`, `Member` — the parts they share.
* `JsxElem` — elements written as markup.
* `Program` — a module: its statements and its comments.
-/

namespace ImportSeam

/-- The keyword of a variable declaration. -/
inductive VarMode where
  | constant
  | lexical
  | hoisted
  deriving DecidableEq, Repr, Inhabited

/-- The keyword as it stands in a source. -/
def VarMode.spelling : VarMode → String
  | .constant => "const"
  | .lexical => "let"
  | .hoisted => "var"

/-- A name in an import or export list, written bare or as a string. -/
inductive ModuleName where
  | bare (name : String)
  | quoted (name : String)
  deriving DecidableEq, Repr, Inhabited

/-- The name without regard to how it is written. -/
def ModuleName.text : ModuleName → String
  | .bare name | .quoted name => name

/-- An item of an export list: the exported thing and the name under which it is known.  For a
list without a source the first is a local name, which is not a use of the binding. -/
structure ExportSpec where
  exported : ModuleName
  publicName : ModuleName
  deriving DecidableEq, Repr, Inhabited

/-- What an export list names. -/
inductive ExportNames where
  /-- Everything, with a name for it as a whole if one is given. -/
  | all (name : Option Ident)
  | specific (names : List ExportSpec)
  deriving DecidableEq, Repr, Inhabited

/-- The name of an attribute or of an element that is not a variable. -/
structure JsxName where
  space : Option String
  name : String
  deriving DecidableEq, Repr, Inhabited

/-- The name in a tag.  A name that starts with a small letter or contains a hyphen belongs to the
markup; any other name refers to a variable. -/
inductive JsxTag where
  | ident (id : Ident)
  | member (base : Ident) (path : List String)
  | name (name : JsxName)
  deriving DecidableEq, Repr, Inhabited

mutual

/-- An expression. -/
inductive Expr where
  | ident (id : Ident)
  | arrow (loc : Loc) (func : Func)
  /-- A binary operation or an assignment.  The left side of an assignment is a target or a member
  access. -/
  | binary (loc : Loc) (op : Operator) (left right : Expr)
  | call (loc : Loc) (optional : Bool) (callee : Expr) (args : List Arg)
  | classExpr (loc : Loc) (name : Option Ident) (parent : Option Expr)
      (members : List ClassMember)
  | index (loc : Loc) (optional : Bool) (object key : Expr)
  | cond (loc : Loc) (test consequent alternate : Expr)
  | func (loc : Loc) (name : Option Ident) (func : Func)
  /-- A dynamic import. -/
  | importCall (loc : Loc) (module : Expr)
  | importMeta (loc : Loc)
  /-- A member access.  The property is a plain name, since it is no use of a variable. -/
  | member (loc : Loc) (optional : Bool) (object : Expr) (property : String)
  /-- `new`; the arguments are missing if no parentheses are written. -/
  | construct (loc : Loc) (callee : Expr) (args : Option (List Arg))
  | newTarget (loc : Loc)
  | superRef (loc : Loc)
  | tagged (loc : Loc) (tag : Expr) (parts : List TemplatePart)
  | this (loc : Loc)
  | unary (loc : Loc) (op : Operator) (arg : Expr)
  /-- An increment or decrement after its operand. -/
  | update (loc : Loc) (op : Operator) (arg : Expr)
  | yield (loc : Loc) (delegate : Bool) (arg : Option Expr)
  | jsx (loc : Loc) (elem : JsxElem)
  | array (loc : Loc) (elems : List ArrayElem)
  /-- A big integer, as its source text. -/
  | bigInt (loc : Loc) (text : String)
  | bool (loc : Loc) (value : Bool)
  | null (loc : Loc)
  | num (loc : Loc) (value : Number)
  | object (loc : Loc) (members : List ObjMember)
  /-- A regular expression, as its source text. -/
  | regex (loc : Loc) (text : String)
  | str (loc : Loc) (value : String)
  | template (loc : Loc) (parts : List TemplatePart)
  /-- A pattern that is assigned to. -/
  | target (pat : Pat)

/-- A function of any form: an arrow, a declared or an unnamed one, or a method. -/
structure Func where
  isArrow : Bool
  isAsync : Bool
  isGenerator : Bool
  params : List Param
  body : FuncBody

/-- The body of a function.  Only an arrow has an expression for its body. -/
inductive FuncBody where
  | block (body : List Stmt)
  | expr (value : Expr)

/-- A parameter. -/
structure Param where
  isRest : Bool
  binder : Binder

/-- A pattern with an optional initial or default value. -/
structure Binder where
  target : Pat
  init : Option Expr

/-- An argument of a call. -/
structure Arg where
  isSpread : Bool
  value : Expr

/-- A part of a template: raw text or a substitution. -/
inductive TemplatePart where
  | text (raw : String)
  | subst (value : Expr)

/-- An element of an array literal. -/
inductive ArrayElem where
  | item (value : Expr)
  | spread (value : Expr)
  | hole

/-- The key of a member.  A direct key keeps the kind of its token, which tells whether it has to
be quoted when written. -/
inductive Key where
  | direct (text : String) (kind : TokenKind)
  | computed (value : Expr)

/-- What a member of a class or of an object literal holds. -/
inductive Member where
  | getter (func : Func)
  | setter (func : Func)
  | method (func : Func)
  /-- A property; in an object literal its value is always there. -/
  | field (value : Option Expr)
  /-- A static block of a class. -/
  | staticBlock (body : List Stmt)

/-- A member of an object literal. -/
inductive ObjMember where
  | valued (loc : Loc) (key : Key) (value : Member)
  | shorthand (loc : Loc) (id : Ident)
  | spread (loc : Loc) (value : Expr)

/-- A member of a class. -/
structure ClassMember where
  key : Key
  isStatic : Bool
  value : Member

/-- A pattern. -/
inductive Pat where
  | ident (id : Ident)
  /-- An array pattern; a missing element is a hole. -/
  | array (loc : Loc) (elems : List (Option Binder)) (rest : Option Pat)
  | object (loc : Loc) (props : List PropPat) (rest : Option Ident)

/-- A property of an object pattern. -/
structure PropPat where
  key : Key
  binder : Binder
  isShorthand : Bool

/-- An element written as markup.  Without a tag it is a fragment. -/
structure JsxElem where
  tag : Option JsxTag
  attrs : List JsxAttr
  children : List JsxContent

/-- An attribute of an element. -/
inductive JsxAttr where
  | named (name : JsxName) (value : Option JsxContent)
  | spread (value : Expr)

/-- The value of an attribute or a child of an element: an expression in braces, which may be
missing, raw text, or an element. -/
inductive JsxContent where
  | container (value : Option Expr)
  | text (raw : String)
  | elem (elem : JsxElem)

/-- A statement. -/
inductive Stmt where
  | block (loc : Loc) (body : List Stmt)
  | breakTo (loc : Loc) (label : Option String)
  | continueTo (loc : Loc) (label : Option String)
  | debugger (loc : Loc)
  | doWhile (loc : Loc) (body : Stmt) (test : Expr)
  | empty (loc : Loc)
  | exportDefault (loc : Loc) (value : Expr)
  | exportList (loc : Loc) (names : ExportNames) (source : Option String)
  | expr (loc : Loc) (value : Expr)
  | forIn (loc : Loc) (target : ForTarget) (object : Expr) (body : Stmt)
  | forOf (loc : Loc) (isAwait : Bool) (target : ForTarget) (object : Expr) (body : Stmt)
  | forLoop (loc : Loc) (init : ForInit) (test post : Option Expr) (body : Stmt)
  | ifElse (loc : Loc) (test : Expr) (consequent : Stmt) (alternate : Option Stmt)
  | importDecl (loc : Loc) (default : Option Pat) (names : Option ImportNames) (module : String)
  | label (loc : Loc) (name : String) (body : Stmt)
  | returnValue (loc : Loc) (value : Option Expr)
  | switch (loc : Loc) (subject : Expr) (cases : List SwitchCase)
  | throw (loc : Loc) (value : Expr)
  | tryCatch (loc : Loc) (body : List Stmt) (handler : Option Catch)
      (finalizer : Option (List Stmt))
  | while (loc : Loc) (test : Expr) (body : Stmt)
  | withObject (loc : Loc) (object : Expr) (body : Stmt)
  | classDecl (loc : Loc) (isExported isDefault : Bool) (name : Option Ident)
      (parent : Option Expr) (members : List ClassMember)
  | funcDecl (loc : Loc) (isExported isDefault : Bool) (name : Option Ident) (func : Func)
  | varDecl (loc : Loc) (isExported : Bool) (mode : VarMode) (binders : List Binder)

/-- The first part of the head of a counting loop. -/
inductive ForInit where
  | absent
  | expr (value : Expr)
  | decl (mode : VarMode) (binders : List Binder)

/-- What a loop over an object assigns to: existing bindings or new ones. -/
inductive ForTarget where
  | assign (pat : Pat)
  | decl (mode : VarMode) (pat : Pat)

/-- A branch of a switch.  Without a test it is the default. -/
structure SwitchCase where
  test : Option Expr
  body : List Stmt

/-- The handler of a try statement. -/
structure Catch where
  param : Option Pat
  body : List Stmt

/-- What an import names.  In a source every target is an identifier. -/
inductive ImportNames where
  | all (target : Pat)
  | specific (names : List ImportSpec)

/-- An item of an import list. -/
structure ImportSpec where
  imported : ModuleName
  target : Pat

end

namespace Pat

/-- The location of a pattern. -/
def loc : Pat → Loc
  | .ident id => id.loc
  | .array loc _ _ | .object loc _ _ => loc

end Pat

namespace Expr

/-- The location of an expression. -/
def loc : Expr → Loc
  | .ident id => id.loc
  | .target pat => pat.loc
  | .arrow loc _ | .binary loc _ _ _ | .call loc _ _ _ | .classExpr loc _ _ _ | .index loc _ _ _
  | .cond loc _ _ _ | .func loc _ _ | .importCall loc _ | .importMeta loc | .member loc _ _ _
  | .construct loc _ _ | .newTarget loc | .superRef loc | .tagged loc _ _ | .this loc
  | .unary loc _ _ | .update loc _ _ | .yield loc _ _ | .jsx loc _ | .array loc _ | .bigInt loc _
  | .bool loc _ | .null loc | .num loc _ | .object loc _ | .regex loc _ | .str loc _
  | .template loc _ => loc

end Expr

namespace Stmt

/-- The location of a statement. -/
def loc : Stmt → Loc
  | .block loc _ | .breakTo loc _ | .continueTo loc _ | .debugger loc | .doWhile loc _ _
  | .empty loc | .exportDefault loc _ | .exportList loc _ _ | .expr loc _ | .forIn loc _ _ _
  | .forOf loc _ _ _ _ | .forLoop loc _ _ _ _ | .ifElse loc _ _ _ | .importDecl loc _ _ _
  | .label loc _ _ | .returnValue loc _ | .switch loc _ _ | .throw loc _ | .tryCatch loc _ _ _
  | .while loc _ _ | .withObject loc _ _ | .classDecl loc _ _ _ _ _ | .funcDecl loc _ _ _ _
  | .varDecl loc _ _ _ => loc

end Stmt

/-- A module. -/
structure Program where
  /-- The range of the whole source. -/
  loc : Loc
  body : List Stmt
  /-- Every comment of the source, in order. -/
  comments : List Comment

end ImportSeam
