import ImportSeam.Grammar.Module
import ImportSeam.Layout.Hazard
import ImportSeam.Proofs.Token.Spelling

/-!
# Trees that can be read

A tree can hold anything where the grammar only ever puts a few things: a name that is no word, an
operator before its operand that stands between two, an arrow that is a generator.  A tree is
*formed* if it holds only what the grammar puts there.  What counts depends on the place, since
`await` and `yield` are names in some functions and operators in others.

Nothing is said about how expressions are nested: parentheses make every nesting possible.

## Main definitions

* `IsToken` — a text that is read as a token of some kind.
* `Ident.Fresh` — a name that was read and not analysed.
* `Expr.Formed`, `Pat.Formed`, `Stmt.Formed` — trees that hold only what the grammar puts there.
-/

namespace ImportSeam

/-- The text is what some source is read as, at a token of the kind. -/
def IsToken (mode : LexMode) (kind : TokenKind) (text : String) : Prop :=
  ∃ cs, (scan mode cs).kind = some kind ∧ text = String.ofList (cs.take (scan mode cs).length)

/-- The text is a name of the context. -/
def Context.Names (ctx : Context) (name : String) : Prop :=
  ∃ kind, ctx.isName kind = true ∧ IsToken .standard kind name

/-- The identifier is a name of the context, and nothing is known about what it does. -/
def Ident.Fresh (ctx : Context) (id : Ident) : Prop := id.mention = .unknown ∧ ctx.Names id.name

/-- The pattern is a single name. -/
def Pat.IsFresh (ctx : Context) : Pat → Prop
  | .ident id => id.Fresh ctx
  | _ => False

/-- The text names a member after a point. -/
def IsMemberName (text : String) : Prop :=
  ∃ kind, isMemberName kind = true ∧ IsToken .standard kind text

/-- The text is the raw text of a template. -/
def IsTemplateText (raw : String) : Prop := Scan.Raw raw.toList

/-- The text is a regular expression, and no comment. -/
def IsRegexText (text : String) : Prop :=
  IsToken .operand .regex text ∧ commentAt? text.toList = none

/-- A direct key.  The recorded kind tells only whether the key is quoted: a quoted key can be any
text, any other one is a word or a number. -/
def IsKey (allowPrivate : Bool) (text : String) (kind : TokenKind) : Prop :=
  kind = .str ∨ ∃ k, startsKey allowPrivate k = true ∧ k ≠ .str ∧ k ≠ .punct .lBracket ∧
    IsToken .standard k text

namespace Operator

/-- Whether the operator stands between two operands and does not assign. -/
def isBinary : Operator → Bool
  | .addition | .bitwiseAnd | .bitwiseLeftShift | .bitwiseOr | .bitwiseRightShift
  | .bitwiseUnsignedRightShift | .bitwiseXor | .comma | .division | .equality | .exponentiation
  | .greaterThan | .greaterThanOrEqual | .inOp | .inequality | .instanceof | .lessThan
  | .lessThanOrEqual | .logicalAnd | .logicalOr | .multiplication | .nullishCoalescing
  | .remainder | .strictEquality | .strictInequality | .subtraction => true
  | _ => false

/-- Whether the operator stands before its operand. -/
def isPrefix : Operator → Bool
  | .await | .bitwiseNot | .delete | .logicalNot | .prefixDecrement | .prefixIncrement
  | .typeof | .unaryNegation | .unaryPlus | .void => true
  | _ => false

/-- Whether the operator stands after its operand. -/
def isPostfix : Operator → Bool
  | .postfixDecrement | .postfixIncrement => true
  | _ => false

end Operator

/-! ### Names in lists and tags -/

/-- A name in an import or export list. -/
def ModuleName.Formed : ModuleName → Prop
  | .bare name => ∃ kind : TokenKind, (kind = .ident ∨ kind.isKeyword = true) ∧
      IsToken .standard kind name
  | .quoted _ => True

/-- What an export list names.  Everything is only exported from another module. -/
def ExportNames.Formed (ctx : Context) (source : Option String) : ExportNames → Prop
  | .all name => source.isSome = true ∧ ∀ id ∈ name, id.Fresh ctx
  | .specific names => ∀ s ∈ names, s.exported.Formed ∧ s.publicName.Formed

/-- An item of an import list.  A string needs a name of its own. -/
def ImportSpec.Formed (ctx : Context) : ImportSpec → Prop
  | ⟨imported, target⟩ => imported.Formed ∧ target.IsFresh ctx

/-- What an import names. -/
def ImportNames.Formed (ctx : Context) : ImportNames → Prop
  | .all target => target.IsFresh ctx
  | .specific names => ∀ s ∈ names, s.Formed ctx

/-- A single name inside a tag. -/
def IsTagWord (name : String) : Prop := IsToken .jsxTag .ident name

/-- The name of an attribute or of an element that is not a variable. -/
def JsxName.Formed (n : JsxName) : Prop := IsTagWord n.name ∧ ∀ s ∈ n.space, IsTagWord s

/-- The name in a tag. -/
def JsxTag.Formed : JsxTag → Prop
  | .ident id => id.mention = .unknown ∧ IsTagWord id.name ∧ isMarkupName id.name = false
  | .member base path =>
    base.mention = .unknown ∧ IsTagWord base.name ∧ path ≠ [] ∧ ∀ p ∈ path, IsTagWord p
  | .name n => n.Formed ∧ (n.space = none → isMarkupName n.name = true)

/-- Whether a child is raw text. -/
def JsxContent.isText : JsxContent → Bool
  | .text _ => true
  | _ => false

/-- Whether a child is an element. -/
def JsxContent.isElem : JsxContent → Bool
  | .elem _ => true
  | _ => false

/-- Whether the first of the children is raw text. -/
def startsWithText : List JsxContent → Bool
  | c :: _ => c.isText
  | [] => false

/-- Whether the children can stand right behind a tag.  A text that starts with one of two characters
would make the end of the tag another sign. -/
def standBehindTag : List JsxContent → Bool
  | .text raw :: _ => raw.toList.head? != some '=' && raw.toList.head? != some '>'
  | _ => true

/-! ### Members -/

/-- A property whose value is a name has the name behind the offset. -/
def Member.NameAfter (offset : Nat) : Member → Prop
  | .field (some (.ident id)) => offset < id.loc.start
  | _ => True

/-- Whether an object literal can hold the member. -/
def Member.fitsObject : Member → Bool
  | .field none | .staticBlock _ => false
  | _ => true

/-- A static block stands under the word that introduces it. -/
def Member.FitsKey (key : Key) (isStatic : Bool) : Member → Prop
  | .staticBlock _ => isStatic = true ∧ key = .direct "static" .ident
  | _ => True

/-- Whether the function is a plain one, as getters and setters are. -/
def Func.isPlain (f : Func) : Bool := !f.isAsync && !f.isGenerator

/-- Whether the body is a block. -/
def FuncBody.isBlock : FuncBody → Bool
  | .block _ => true
  | .expr _ => false

/-- The context inside a function. -/
def Context.inside (ctx : Context) (isArrow isAsync isGenerator : Bool) : Context :=
  if isArrow then ctx.ofArrow isAsync else .ofFunction isAsync isGenerator

/-- Whether the pattern is a single name. -/
def Pat.isIdent : Pat → Bool
  | .ident _ => true
  | _ => false

mutual

/-- An expression that holds only what the grammar puts there.  A target stands only on the left
side of an assignment. -/
def Expr.Formed (ctx : Context) : Expr → Prop
  | .ident id => id.Fresh ctx
  | .arrow _ f => f.Formed ctx true
  | .binary _ op l r =>
    ((op.isAssignment = true ∧ l.TargetFormed ctx op) ∨ (op.isBinary = true ∧ l.Formed ctx)) ∧
      r.Formed ctx
  | .call _ _ f args => f.Formed ctx ∧ argsFormed ctx args
  | .classExpr _ name parent members =>
    (∀ id ∈ name, id.Fresh ctx) ∧ optFormed ctx parent ∧ classFormed ctx members
  | .index _ _ e k => e.Formed ctx ∧ k.Formed ctx
  | .cond _ t c a => t.Formed ctx ∧ c.Formed ctx ∧ a.Formed ctx
  | .func _ name f => (∀ id ∈ name, id.Fresh ctx) ∧ f.Formed ctx false
  | .importCall _ m => m.Formed ctx
  | .importMeta _ | .newTarget _ | .superRef _ | .this _ => True
  | .member _ _ e p => e.Formed ctx ∧ IsMemberName p
  | .construct _ f args => f.Formed ctx ∧ optArgsFormed ctx args
  | .tagged _ t ps => t.Formed ctx ∧ partsFormed ctx ps
  | .unary _ op e =>
    op.isPrefix = true ∧ (op = .await → ctx.awaitIsName = false) ∧ e.Formed ctx
  | .update _ op e => op.isPostfix = true ∧ e.Formed ctx
  | .yield _ delegate e =>
    ctx.yieldIsName = false ∧ (delegate = true → e.isSome = true) ∧ optFormed ctx e
  | .jsx _ e => e.Formed ctx
  | .array _ es => elemsFormed ctx es
  | .bigInt _ t => IsToken .standard .bigInt t
  | .bool _ _ | .null _ | .str _ _ => True
  | .num _ n => ∃ t, IsToken .standard .num t ∧ Number.ofLiteral? t = some n
  | .object _ ms => objFormed ctx ms
  | .regex _ t => IsRegexText t
  | .template _ ps => partsFormed ctx ps
  | .target _ => False

/-- The left side of an assignment.  Only a plain assignment takes a pattern apart. -/
def Expr.TargetFormed (ctx : Context) (op : Operator) : Expr → Prop
  | .target p => p.Formed ctx ∧ (op = .assign ∨ p.isIdent = true)
  | .member _ _ e p => e.Formed ctx ∧ IsMemberName p
  | .index _ _ e k => e.Formed ctx ∧ k.Formed ctx
  | _ => False

/-- An expression that may be missing. -/
def optFormed (ctx : Context) : Option Expr → Prop
  | none => True
  | some e => e.Formed ctx

/-- A function, which is an arrow or not. -/
def Func.Formed (ctx : Context) (arrow : Bool) : Func → Prop
  | ⟨isArrow, isAsync, isGenerator, params, body⟩ =>
    isArrow = arrow ∧ (arrow = true → isGenerator = false) ∧
      (arrow = false → body.isBlock = true) ∧
      paramsFormed (ctx.inside arrow isAsync isGenerator) params ∧
      body.Formed (ctx.inside arrow isAsync isGenerator)

/-- The body of a function. -/
def FuncBody.Formed (ctx : Context) : FuncBody → Prop
  | .block body => stmtsFormed ctx body
  | .expr e => e.Formed ctx

/-- Parameters. -/
def paramsFormed (ctx : Context) : List Param → Prop
  | [] => True
  | ⟨_, b⟩ :: ps => b.Formed ctx ∧ paramsFormed ctx ps

/-- A pattern with its value. -/
def Binder.Formed (ctx : Context) : Binder → Prop
  | ⟨target, init⟩ => target.Formed ctx ∧ optFormed ctx init

/-- Bindings. -/
def bindersFormed (ctx : Context) : List Binder → Prop
  | [] => True
  | b :: bs => b.Formed ctx ∧ bindersFormed ctx bs

/-- Arguments. -/
def argsFormed (ctx : Context) : List Arg → Prop
  | [] => True
  | ⟨_, e⟩ :: as => e.Formed ctx ∧ argsFormed ctx as

/-- Arguments that may be missing. -/
def optArgsFormed (ctx : Context) : Option (List Arg) → Prop
  | none => True
  | some as => argsFormed ctx as

/-- The parts of a template from a text on. -/
def partsFormed (ctx : Context) : List TemplatePart → Prop
  | .text raw :: ps => IsTemplateText raw ∧ substsFormed ctx ps
  | _ => False

/-- The parts of a template from a substitution on, if one is left. -/
def substsFormed (ctx : Context) : List TemplatePart → Prop
  | [] => True
  | .subst e :: ps => e.Formed ctx ∧ partsFormed ctx ps
  | .text _ :: _ => False

/-- The elements of an array literal. -/
def elemsFormed (ctx : Context) : List ArrayElem → Prop
  | [] => True
  | .item e :: es => e.Formed ctx ∧ elemsFormed ctx es
  | .spread e :: es => e.Formed ctx ∧ elemsFormed ctx es
  | .hole :: es => elemsFormed ctx es

/-- A key. -/
def Key.Formed (ctx : Context) (allowPrivate : Bool) : Key → Prop
  | .direct text kind => IsKey allowPrivate text kind
  | .computed e => e.Formed ctx

/-- What a member holds. -/
def Member.Formed (ctx : Context) : Member → Prop
  | .getter f => f.isPlain = true ∧ f.Formed ctx false
  | .setter f => f.isPlain = true ∧ f.Formed ctx false
  | .method f => f.Formed ctx false
  | .field e => optFormed ctx e
  | .staticBlock body => stmtsFormed (.ofFunction false false) body

/-- The members of an object literal.  A shorthand starts with its name, while a value stands
behind its key. -/
def objFormed (ctx : Context) : List ObjMember → Prop
  | [] => True
  | .valued loc key m :: ms =>
    (key.Formed ctx false ∧ m.fitsObject = true ∧ m.NameAfter loc.start ∧ m.Formed ctx) ∧
      objFormed ctx ms
  | .shorthand loc id :: ms => (id.Fresh ctx ∧ loc.start = id.loc.start) ∧ objFormed ctx ms
  | .spread _ e :: ms => e.Formed ctx ∧ objFormed ctx ms

/-- The members of a class. -/
def classFormed (ctx : Context) : List ClassMember → Prop
  | [] => True
  | ⟨key, isStatic, m⟩ :: ms =>
    (key.Formed ctx true ∧ m.FitsKey key isStatic ∧ m.Formed ctx) ∧ classFormed ctx ms

/-- A pattern. -/
def Pat.Formed (ctx : Context) : Pat → Prop
  | .ident id => id.Fresh ctx
  | .array _ elems rest => elemPatsFormed ctx elems ∧ optPatFormed ctx rest
  | .object _ props rest => propsFormed ctx props ∧ ∀ id ∈ rest, id.Fresh ctx

/-- A pattern that may be missing. -/
def optPatFormed (ctx : Context) : Option Pat → Prop
  | none => True
  | some p => p.Formed ctx

/-- The elements of an array pattern. -/
def elemPatsFormed (ctx : Context) : List (Option Binder) → Prop
  | [] => True
  | none :: es => elemPatsFormed ctx es
  | some b :: es => b.Formed ctx ∧ elemPatsFormed ctx es

/-- The properties of an object pattern. -/
def propsFormed (ctx : Context) : List PropPat → Prop
  | [] => True
  | ⟨key, b, _⟩ :: ps => (key.Formed ctx false ∧ b.Formed ctx) ∧ propsFormed ctx ps

/-- An element.  A fragment has no attributes. -/
def JsxElem.Formed (ctx : Context) : JsxElem → Prop
  | ⟨tag, attrs, children⟩ =>
    (∀ t ∈ tag, t.Formed) ∧
      ((tag = none → attrs.isEmpty = true) ∧ standBehindTag children = true) ∧
      attrsFormed ctx attrs ∧ contentsFormed ctx children

/-- The attributes of an element. -/
def attrsFormed (ctx : Context) : List JsxAttr → Prop
  | [] => True
  | .named name c :: as => (name.Formed ∧ optContentFormed ctx c) ∧ attrsFormed ctx as
  | .spread e :: as => e.Formed ctx ∧ attrsFormed ctx as

/-- The value of an attribute or a child of an element. -/
def JsxContent.Formed (ctx : Context) (inTag : Bool) : JsxContent → Prop
  | .container e => optFormed ctx e
  | .text raw => if inTag then IsToken .jsxTag .str raw else IsToken .jsxText .jsxText raw
  | .elem e => e.Formed ctx

/-- The value of an attribute, which may be missing. -/
def optContentFormed (ctx : Context) : Option JsxContent → Prop
  | none => True
  | some c => c.Formed ctx true

/-- The children of an element.  No text stands beside another, and none makes the end of a tag
another sign. -/
def contentsFormed (ctx : Context) : List JsxContent → Prop
  | [] => True
  | c :: cs =>
    (c.Formed ctx false ∧ (c.isText = true → startsWithText cs = false) ∧
      (c.isElem = true → standBehindTag cs = true)) ∧ contentsFormed ctx cs

/-- A statement that holds only what the grammar puts there. -/
def Stmt.Formed (ctx : Context) : Stmt → Prop
  | .block _ body => stmtsFormed ctx body
  | .breakTo _ l | .continueTo _ l => ∀ t ∈ l, IsToken .standard .ident t
  | .debugger _ | .empty _ => True
  | .doWhile _ body test => body.Formed ctx ∧ test.Formed ctx
  | .exportDefault _ e => e.Formed ctx
  | .exportList _ names source => names.Formed ctx source
  | .expr _ e => e.Formed ctx
  | .forIn _ t e body => t.Formed ctx ∧ e.Formed ctx ∧ body.Formed ctx
  | .forOf _ _ t e body => t.Formed ctx ∧ e.Formed ctx ∧ body.Formed ctx
  | .forLoop _ init test post body =>
    init.Formed ctx ∧ optFormed ctx test ∧ optFormed ctx post ∧ body.Formed ctx
  | .ifElse _ test c a =>
    test.Formed ctx ∧ c.Formed ctx ∧ (a.isSome = true → c.endsWithOpenIf = false) ∧
      optStmtFormed ctx a
  | .importDecl _ d names _ =>
    (∀ p ∈ d, p.IsFresh ctx) ∧ ∀ n ∈ names, n.Formed ctx
  | .label _ name body => ctx.Names name ∧ body.Formed ctx
  | .returnValue _ e => optFormed ctx e
  | .switch _ e cs => e.Formed ctx ∧ casesFormed ctx cs
  | .throw _ e => e.Formed ctx
  | .tryCatch _ body handler finalizer =>
    stmtsFormed ctx body ∧ optCatchFormed ctx handler ∧ optBlockFormed ctx finalizer ∧
      (handler.isSome = true ∨ finalizer.isSome = true)
  | .while _ test body => test.Formed ctx ∧ body.Formed ctx
  | .withObject _ e body => e.Formed ctx ∧ body.Formed ctx
  | .classDecl _ isExported isDefault name parent members =>
    ((isDefault = true → isExported = true) ∧ (name = none → isDefault = true)) ∧
      (∀ id ∈ name, id.Fresh ctx) ∧ optFormed ctx parent ∧ classFormed ctx members
  | .funcDecl _ isExported isDefault name f =>
    ((isDefault = true → isExported = true) ∧ (name = none → isDefault = true)) ∧
      (∀ id ∈ name, id.Fresh ctx) ∧ f.Formed ctx false
  | .varDecl _ _ _ bs => bs.isEmpty = false ∧ bindersFormed ctx bs

/-- A statement that may be missing. -/
def optStmtFormed (ctx : Context) : Option Stmt → Prop
  | none => True
  | some s => s.Formed ctx

/-- Statements. -/
def stmtsFormed (ctx : Context) : List Stmt → Prop
  | [] => True
  | s :: ss => s.Formed ctx ∧ stmtsFormed ctx ss

/-- Statements that may be missing. -/
def optBlockFormed (ctx : Context) : Option (List Stmt) → Prop
  | none => True
  | some ss => stmtsFormed ctx ss

/-- The handler of a try statement, if it has one. -/
def optCatchFormed (ctx : Context) : Option Catch → Prop
  | none => True
  | some ⟨param, body⟩ => optPatFormed ctx param ∧ stmtsFormed ctx body

/-- The first part of the head of a loop. -/
def ForInit.Formed (ctx : Context) : ForInit → Prop
  | .absent => True
  | .expr e => e.Formed ctx
  | .decl _ bs => bs.isEmpty = false ∧ bindersFormed ctx bs

/-- What a loop over an object assigns to. -/
def ForTarget.Formed (ctx : Context) : ForTarget → Prop
  | .assign p => p.Formed ctx
  | .decl _ p => p.Formed ctx

/-- The branches of a switch. -/
def casesFormed (ctx : Context) : List SwitchCase → Prop
  | [] => True
  | ⟨test, body⟩ :: cs => (optFormed ctx test ∧ stmtsFormed ctx body) ∧ casesFormed ctx cs

end

end ImportSeam
