import ImportSeam.Layout.Hazard
import ImportSeam.Layout.Piece
import ImportSeam.Number.Text
import ImportSeam.Text.Quoted

/-!
# Layouts of trees

One statement to a line, two blanks of indentation, blanks around binary operators.  The layout of
a tree without what its place adds is `bare`; the place adds the comments before it, and
parentheses around an expression.

## Main definitions

* `Layout.operand`, `Layout.wrapped` — an expression in its place.
* `Layout.line` — a statement in its place.
* `Expr.bare`, `Pat.layout`, `Stmt.bare` — the layouts of trees.
-/

namespace ImportSeam

open Layout

namespace Layout

/-- The comments before an expression.  An expression that is not from the source has an empty
location and no comments. -/
def commentsBefore (loc : Loc) : Layout := when (!loc.isEmpty) [.inlineComments loc.start]

/-- An expression in a place that asks it to hold together at least as tightly as `least`. -/
def operand (least : Nat) (e : Expr) (bare : Layout) : Layout :=
  commentsBefore e.loc ++ if e.precedence < least then parens bare else bare

/-- An expression in parentheses, needed or not. -/
def wrapped (e : Expr) (bare : Layout) : Layout := parens (operand 0 e bare)

/-- An expression in parentheses if the flag says so, and otherwise in its place. -/
def operandOr (wrap : Bool) (least : Nat) (e : Expr) (bare : Layout) : Layout :=
  if wrap then wrapped e bare else operand least e bare

/-- A statement in its place, after the comments before it. -/
def line (depth : Nat) (s : Stmt) (bare : Layout) : Layout :=
  .lineComments s.loc.start depth :: bare

/-- A statement that follows on the same line. -/
def nested (depth : Nat) (s : Stmt) (bare : Layout) : Layout := word " " ++ line depth s bare

/-- A text after a blank, if there is one. -/
def afterBlank (s : Option String) : Layout :=
  match s with
  | some s => word " " ++ word s
  | none => []

/-- The name of a function or class, if it has one. -/
def ownName (name : Option Ident) : Layout := afterBlank (name.map (·.name))

/-- The words that mark an exported declaration. -/
def exported (isExported isDefault : Bool) : Layout :=
  when isExported (word "export ") ++ when isDefault (word "default ")

/-- A number, which needs a point of its own before a member access if it is written with digits
only. -/
def numberBeforeDot (n : Number) : Layout :=
  word n.text ++ when (n.text.toList.all Char.isDigit) (word ".")

/-- The sign of a unary operation, with a blank after a word or before a sign that would merge with
it. -/
def unarySign (op : Operator) (arg : Expr) : Layout :=
  let sign := op.spelling?.getD ""
  word sign ++ when (sign.toList.all Char.isAlpha || arg.mergesAfter op) (word " ")

/-- The sign of a binary operation with the blanks around it. -/
def binarySign : Operator → Layout
  | .comma => word ", "
  | op => word " " ++ word (op.spelling?.getD "") ++ word " "

/-- The sign of an increment or decrement after its operand. -/
def updateSign : Operator → Layout
  | .postfixDecrement => word "--"
  | _ => word "++"

/-- The words before the name of a function. -/
def funcSign (isAsync isGenerator : Bool) : Layout :=
  when isAsync (word "async ") ++ word "function" ++ when isGenerator (word "*")

/-- A class from its parts. -/
def classLayout (depth : Nat) (name : Option Ident) (parent : Layout) (members : List Layout) :
    Layout :=
  word "class" ++ ownName name ++ parent ++ word " " ++ block depth members

/-- A template from its parts. -/
def template (parts : Layout) : Layout := word "`" ++ parts ++ word "`"

/-- Elements with commas between them; a hole at the end needs a comma of its own. -/
def elements (ls : List Layout) (endsWithHole : Bool) : Layout :=
  commas ls ++ when endsWithHole (word ",")

/-- Items with what takes the rest behind them. -/
def withRest (items : List Layout) (rest : Layout) : Layout :=
  commas (items ++ [word "..." ++ rest])

/-- A name in an import or export list. -/
def moduleName : ModuleName → Layout
  | .bare name => word name
  | .quoted name => word (Text.quoted name)

/-- The name of the module that is read from. -/
def fromModule (name : String) : Layout := word " from " ++ word (Text.quoted name)

/-- An item of an export list. -/
def exportSpec (s : ExportSpec) : Layout :=
  moduleName s.exported ++ when (s.publicName ≠ s.exported) (word " as " ++ moduleName s.publicName)

/-- What an export list names. -/
def exportNames : ExportNames → Layout
  | .all name => word "*" ++ (match name with
    | some id => word " as " ++ word id.name
    | none => [])
  | .specific names => braces (commas (names.map exportSpec))

/-- The name of an attribute or of an element that is not a variable. -/
def jsxName (n : JsxName) : Layout :=
  match n.space with
  | some space => word space ++ word ":" ++ word n.name
  | none => word n.name

/-- The name in a tag. -/
def jsxTag : JsxTag → Layout
  | .ident id => word id.name
  | .member base path => word base.name ++ path.flatMap fun p => word "." ++ word p
  | .name n => jsxName n

/-- The name in a tag; a fragment has none. -/
def jsxTag? (tag : Option JsxTag) : Layout := (tag.map jsxTag).getD []

/-- An element from its parts.  A named element without children closes itself. -/
def element (tag : Option JsxTag) (attrs : Layout) (children : List Layout) : Layout :=
  word "<" ++ jsxTag? tag ++ attrs ++
    if children.isEmpty && tag.isSome then word " />"
    else word ">" ++ children.flatten ++ word "</" ++ jsxTag? tag ++ word ">"

end Layout

/-- Whether an array literal ends with a hole. -/
def endsWithHole (elems : List ArrayElem) : Bool :=
  match elems.getLast? with
  | some .hole => true
  | _ => false

/-- Whether a property of a pattern is written as its name alone. -/
def PropPat.isNameOnly : PropPat → Bool
  | ⟨.direct text kind, ⟨.ident id, _⟩, _⟩ => kind != .str && text == id.name
  | _ => false

/-- Whether an item of an import list is written as its name alone. -/
def ImportSpec.isNameOnly : ImportSpec → Bool
  | ⟨.bare name, .ident id⟩ => name == id.name
  | _ => false

mutual

/-- An expression without the comments and parentheses of its place. -/
def Expr.bare (depth : Nat) : Expr → Layout
  | .ident id => word id.name
  | .arrow _ f => f.arrow depth
  | .binary _ op l r =>
    operandOr (l.forcesLeft op) op.leftPrecedence l (l.bare depth) ++ binarySign op ++
      operandOr (r.mixesWith op) op.rightPrecedence r (r.bare depth)
  | .call _ optional f args =>
    operand accessPrecedence f (f.bare depth) ++ when optional (word "?.") ++
      parens (commas (argLayouts depth args))
  | .classExpr _ name parent members =>
    classLayout depth name (parentLayout depth parent) (classLayouts (depth + 1) members)
  | .index _ optional e k =>
    operand accessPrecedence e (e.bare depth) ++ when optional (word "?.") ++
      brackets (operand 0 k (k.bare depth))
  | .cond _ t c a =>
    operand (Operator.conditional.precedence + 1) t (t.bare depth) ++ word " ? " ++
      operand assignmentPrecedence c (c.bare depth) ++ word " : " ++
      operand assignmentPrecedence a (a.bare depth)
  | .func _ name f => f.named depth name
  | .importCall _ m =>
    word "import" ++ parens (operand assignmentPrecedence m (m.bare depth))
  | .importMeta _ => word "import.meta"
  | .member _ false (.num _ n) p => numberBeforeDot n ++ word "." ++ word p
  | .member _ optional e p =>
    operand accessPrecedence e (e.bare depth) ++ word (if optional then "?." else ".") ++ word p
  | .construct _ f args =>
    word "new " ++ operandOr f.containsCall accessPrecedence f (f.bare depth) ++
      match args with
      | some args => parens (commas (argLayouts depth args))
      | none => []
  | .newTarget _ => word "new.target"
  | .superRef _ => word "super"
  | .tagged _ t parts =>
    operand accessPrecedence t (t.bare depth) ++ template (templateLayouts depth parts)
  | .this _ => word "this"
  | .unary _ op e => unarySign op e ++ operand op.precedence e (e.bare depth)
  | .update _ op e => operand op.precedence e (e.bare depth) ++ updateSign op
  | .yield _ delegate arg =>
    word "yield" ++ when delegate (word "*") ++
      match arg with
      | some e => word " " ++ operand assignmentPrecedence e (e.bare depth)
      | none => []
  | .jsx _ e => e.layout depth
  | .array _ elems => brackets (elements (elemLayouts depth elems) (endsWithHole elems))
  | .bigInt _ text => word text
  | .bool _ value => word (if value then "true" else "false")
  | .null _ => word "null"
  | .num _ n => word n.text
  | .object _ members => braces (commas (objLayouts depth members))
  | .regex _ text => word text
  | .str _ value => word (Text.quoted value)
  | .template _ parts => template (templateLayouts depth parts)
  | .target p => p.layout depth

/-- A default or initial value after its equals sign. -/
def defaultLayout (depth : Nat) : Option Expr → Layout
  | none => []
  | some e => word " = " ++ operand assignmentPrecedence e (e.bare depth)

/-- The parts of a template. -/
def templateLayouts (depth : Nat) : List TemplatePart → Layout
  | [] => []
  | .text raw :: ps => word raw ++ templateLayouts depth ps
  | .subst e :: ps =>
    word "$" ++ braces (operand 0 e (e.bare depth)) ++ templateLayouts depth ps

/-- The arguments of a call. -/
def argLayouts (depth : Nat) : List Arg → List Layout
  | [] => []
  | ⟨isSpread, e⟩ :: as =>
    (when isSpread (word "...") ++ operand assignmentPrecedence e (e.bare depth)) ::
      argLayouts depth as

/-- The elements of an array literal. -/
def elemLayouts (depth : Nat) : List ArrayElem → List Layout
  | [] => []
  | .item e :: es => operand assignmentPrecedence e (e.bare depth) :: elemLayouts depth es
  | .spread e :: es =>
    (word "..." ++ operand assignmentPrecedence e (e.bare depth)) :: elemLayouts depth es
  | .hole :: es => [] :: elemLayouts depth es

/-- An arrow function. -/
def Func.arrow (depth : Nat) : Func → Layout
  | ⟨_, isAsync, _, params, body⟩ =>
    when isAsync (word "async ") ++ parens (commas (paramLayouts depth params)) ++ word " => " ++
      match body with
      | .block body => block depth (stmtLayouts (depth + 1) body)
      | .expr e => operandOr e.startsWithBrace assignmentPrecedence e (e.bare depth)

/-- A function with its keyword. -/
def Func.named (depth : Nat) (name : Option Ident) : Func → Layout
  | ⟨_, isAsync, isGenerator, params, body⟩ =>
    funcSign isAsync isGenerator ++ ownName name ++ parens (commas (paramLayouts depth params)) ++
      word " " ++ body.layout depth

/-- A method after the words before its key. -/
def Func.method (depth : Nat) : Func → Layout
  | ⟨_, _, _, params, body⟩ =>
    parens (commas (paramLayouts depth params)) ++ word " " ++ body.layout depth

/-- The body of a function that is not an arrow.  An expression is written as the value that the
function returns. -/
def FuncBody.layout (depth : Nat) : FuncBody → Layout
  | .block body => block depth (stmtLayouts (depth + 1) body)
  | .expr e => braces (word " return " ++ operand 0 e (e.bare depth) ++ word "; ")

/-- The parameters of a function. -/
def paramLayouts (depth : Nat) : List Param → List Layout
  | [] => []
  | ⟨isRest, b⟩ :: ps => (when isRest (word "...") ++ b.layout depth) :: paramLayouts depth ps

/-- A pattern with its value. -/
def Binder.layout (depth : Nat) : Binder → Layout
  | ⟨target, init⟩ => target.layout depth ++ defaultLayout depth init

/-- A key. -/
def Key.layout (depth : Nat) : Key → Layout
  | .direct text kind => word (if kind == .str then Text.quoted text else text)
  | .computed e => brackets (operand assignmentPrecedence e (e.bare depth))

/-- A getter, setter or method with its key. -/
def Member.layout (depth : Nat) (key : Layout) : Member → Layout
  | .getter f => word "get " ++ key ++ f.method depth
  | .setter f => word "set " ++ key ++ f.method depth
  | .method f =>
    when f.isAsync (word "async ") ++ when f.isGenerator (word "*") ++ key ++ f.method depth
  | .field _ => []
  | .staticBlock _ => []

/-- The members of an object literal. -/
def objLayouts (depth : Nat) : List ObjMember → List Layout
  | [] => []
  | .valued _ key (.field none) :: ms => key.layout depth :: objLayouts depth ms
  | .valued _ key (.field (some e)) :: ms =>
    (key.layout depth ++ word ": " ++ operand assignmentPrecedence e (e.bare depth)) ::
      objLayouts depth ms
  | .valued _ key m :: ms => m.layout depth (key.layout depth) :: objLayouts depth ms
  | .shorthand _ id :: ms => word id.name :: objLayouts depth ms
  | .spread _ e :: ms =>
    (word "..." ++ operand assignmentPrecedence e (e.bare depth)) :: objLayouts depth ms

/-- What a class extends. -/
def parentLayout (depth : Nat) : Option Expr → Layout
  | none => []
  | some e => word " extends " ++ operand bareNewPrecedence e (e.bare depth)

/-- The members of a class. -/
def classLayouts (depth : Nat) : List ClassMember → List Layout
  | [] => []
  | ⟨key, isStatic, .field value⟩ :: ms =>
    (when isStatic (word "static ") ++ key.layout depth ++ defaultLayout depth value ++ word ";") ::
      classLayouts depth ms
  | ⟨_, isStatic, .staticBlock body⟩ :: ms =>
    (when isStatic (word "static ") ++ block depth (stmtLayouts (depth + 1) body)) ::
      classLayouts depth ms
  | ⟨key, isStatic, m⟩ :: ms =>
    (when isStatic (word "static ") ++ m.layout depth (key.layout depth)) :: classLayouts depth ms

/-- A pattern. -/
def Pat.layout (depth : Nat) : Pat → Layout
  | .ident id => word id.name
  | .array _ elems none =>
    brackets (elements (elemPatLayouts depth elems) (elems.getLast? matches some none))
  | .array _ elems (some rest) =>
    brackets (withRest (elemPatLayouts depth elems) (rest.layout depth))
  | .object _ props none => braces (commas (propLayouts depth props))
  | .object _ props (some rest) => braces (withRest (propLayouts depth props) (word rest.name))

/-- The elements of an array pattern. -/
def elemPatLayouts (depth : Nat) : List (Option Binder) → List Layout
  | [] => []
  | none :: es => [] :: elemPatLayouts depth es
  | some b :: es => b.layout depth :: elemPatLayouts depth es

/-- The properties of an object pattern. -/
def propLayouts (depth : Nat) : List PropPat → List Layout
  | [] => []
  | ⟨key, b, isShorthand⟩ :: ps =>
    (when (!PropPat.isNameOnly ⟨key, b, isShorthand⟩) (key.layout depth ++ word ": ") ++
      b.layout depth) :: propLayouts depth ps

/-- An element. -/
def JsxElem.layout (depth : Nat) : JsxElem → Layout
  | ⟨tag, attrs, children⟩ =>
    element tag (attrLayouts depth attrs) (contentLayouts depth children)

/-- The attributes of an element. -/
def attrLayouts (depth : Nat) : List JsxAttr → Layout
  | [] => []
  | .named name none :: as => word " " ++ jsxName name ++ attrLayouts depth as
  | .named name (some c) :: as =>
    word " " ++ jsxName name ++ word "=" ++ c.layout depth ++ attrLayouts depth as
  | .spread e :: as =>
    word " " ++ braces (word "..." ++ operand assignmentPrecedence e (e.bare depth)) ++
      attrLayouts depth as

/-- The value of an attribute or a child of an element. -/
def JsxContent.layout (depth : Nat) : JsxContent → Layout
  | .container none => braces []
  | .container (some e) => braces (operand assignmentPrecedence e (e.bare depth))
  | .text raw => word raw
  | .elem e => e.layout depth

/-- The children of an element. -/
def contentLayouts (depth : Nat) : List JsxContent → List Layout
  | [] => []
  | c :: cs => c.layout depth :: contentLayouts depth cs

/-- A statement without the comments of its place. -/
def Stmt.bare (depth : Nat) : Stmt → Layout
  | .block _ body => block depth (stmtLayouts (depth + 1) body)
  | .breakTo _ label => word "break" ++ afterBlank label ++ word ";"
  | .continueTo _ label => word "continue" ++ afterBlank label ++ word ";"
  | .debugger _ => word "debugger;"
  | .doWhile _ body test =>
    word "do" ++ nested depth body (body.bare depth) ++ word " while " ++
      parens (operand 0 test (test.bare depth)) ++ word ";"
  | .empty _ => word ";"
  | .exportDefault _ e =>
    word "export default " ++
      operandOr e.isAmbiguousStart assignmentPrecedence e (e.bare depth) ++ word ";"
  | .exportList _ names source =>
    word "export " ++ exportNames names ++ (source.map fromModule).getD [] ++ word ";"
  | .expr _ e => operandOr e.isAmbiguousStart 0 e (e.bare depth) ++ word ";"
  | .forIn _ target e body =>
    word "for " ++ parens (target.layout depth ++ word " in " ++ operand 0 e (e.bare depth)) ++
      nested depth body (body.bare depth)
  | .forOf _ isAwait target e body =>
    word (if isAwait then "for await " else "for ") ++
      parens (target.layout depth ++ word " of " ++
        operand assignmentPrecedence e (e.bare depth)) ++
      nested depth body (body.bare depth)
  | .forLoop _ init test post body =>
    word "for " ++
      parens (init.layout depth ++ word ";" ++ loopPart depth test ++ word ";" ++
        loopPart depth post) ++
      nested depth body (body.bare depth)
  | .ifElse _ test c none =>
    word "if " ++ parens (operand 0 test (test.bare depth)) ++ nested depth c (c.bare depth)
  | .ifElse _ test c (some a) =>
    word "if " ++ parens (operand 0 test (test.bare depth)) ++
      (if c.endsWithOpenIf then
        word " " ++ block depth [line (depth + 1) c (c.bare (depth + 1))]
      else nested depth c (c.bare depth)) ++
      word " else" ++ nested depth a (a.bare depth)
  | .importDecl _ none none m => word "import " ++ word (Text.quoted m) ++ word ";"
  | .importDecl _ none (some names) m =>
    word "import " ++ names.layout depth ++ fromModule m ++ word ";"
  | .importDecl _ (some d) none m =>
    word "import " ++ d.layout depth ++ fromModule m ++ word ";"
  | .importDecl _ (some d) (some names) m =>
    word "import " ++ d.layout depth ++ word ", " ++ names.layout depth ++ fromModule m ++
      word ";"
  | .label _ name body => word name ++ word ":" ++ nested depth body (body.bare depth)
  | .returnValue _ none => word "return;"
  | .returnValue _ (some e) => word "return " ++ operand 0 e (e.bare depth) ++ word ";"
  | .switch _ e cases =>
    word "switch " ++ parens (operand 0 e (e.bare depth)) ++ word " " ++
      braces (caseLayouts (depth + 1) cases ++ [.newline depth])
  | .throw _ e => word "throw " ++ operand 0 e (e.bare depth) ++ word ";"
  | .tryCatch _ body handler finalizer =>
    word "try " ++ block depth (stmtLayouts (depth + 1) body) ++
      (match handler with
        | none => []
        | some ⟨none, body⟩ => word " catch " ++ block depth (stmtLayouts (depth + 1) body)
        | some ⟨some p, body⟩ =>
          word " catch " ++ parens (p.layout depth) ++ word " " ++
            block depth (stmtLayouts (depth + 1) body)) ++
      match finalizer with
        | none => []
        | some body => word " finally " ++ block depth (stmtLayouts (depth + 1) body)
  | .while _ test body =>
    word "while " ++ parens (operand 0 test (test.bare depth)) ++
      nested depth body (body.bare depth)
  | .withObject _ e body =>
    word "with " ++ parens (operand 0 e (e.bare depth)) ++ nested depth body (body.bare depth)
  | .classDecl _ isExported isDefault name parent members =>
    exported isExported isDefault ++
      classLayout depth name (parentLayout depth parent) (classLayouts (depth + 1) members)
  | .funcDecl _ isExported isDefault name f =>
    exported isExported isDefault ++ f.named depth name
  | .varDecl _ isExported mode binders =>
    exported isExported false ++ word mode.spelling ++ word " " ++
      commas (binderLayouts depth false binders) ++ word ";"

/-- Statements, each in its place. -/
def stmtLayouts (depth : Nat) : List Stmt → List Layout
  | [] => []
  | s :: ss => line depth s (s.bare depth) :: stmtLayouts depth ss

/-- The bindings of a variable declaration.  In the head of a loop a value with a bare `in` stands
in parentheses. -/
def binderLayouts (depth : Nat) (inHead : Bool) : List Binder → List Layout
  | [] => []
  | ⟨target, none⟩ :: bs => target.layout depth :: binderLayouts depth inHead bs
  | ⟨target, some e⟩ :: bs =>
    (target.layout depth ++ word " = " ++
      operandOr (inHead && e.containsBareIn) assignmentPrecedence e (e.bare depth)) ::
      binderLayouts depth inHead bs

/-- The first part of the head of a loop. -/
def ForInit.layout (depth : Nat) : ForInit → Layout
  | .absent => []
  | .expr e => operandOr (e.containsBareIn || e.isAmbiguousStart) 0 e (e.bare depth)
  | .decl mode binders =>
    word mode.spelling ++ word " " ++ commas (binderLayouts depth true binders)

/-- The second or third part of the head of a loop, after its semicolon. -/
def loopPart (depth : Nat) : Option Expr → Layout
  | none => []
  | some e => word " " ++ operand 0 e (e.bare depth)

/-- What a loop over an object assigns to. -/
def ForTarget.layout (depth : Nat) : ForTarget → Layout
  | .assign p => p.layout depth
  | .decl mode p => word mode.spelling ++ word " " ++ p.layout depth

/-- The branches of a switch, each on a line of its own with its statements one level deeper. -/
def caseLayouts (depth : Nat) : List SwitchCase → Layout
  | [] => []
  | ⟨test, body⟩ :: cs =>
    .newline depth ::
      (match test with
        | some e => word "case " ++ operand 0 e (e.bare depth) ++ word ":"
        | none => word "default:") ++
      (stmtLayouts (depth + 1) body).flatMap (.newline (depth + 1) :: ·) ++
      caseLayouts depth cs

/-- What an import names. -/
def ImportNames.layout (depth : Nat) : ImportNames → Layout
  | .all p => word "* as " ++ p.layout depth
  | .specific names => braces (commas (specLayouts depth names))

/-- The items of an import list. -/
def specLayouts (depth : Nat) : List ImportSpec → List Layout
  | [] => []
  | ⟨imported, p⟩ :: ss =>
    (moduleName imported ++
      when (!ImportSpec.isNameOnly ⟨imported, p⟩) (word " as " ++ p.layout depth)) ::
      specLayouts depth ss

end

end ImportSeam
