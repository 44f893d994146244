import ImportSeam.Registry.Export
import ImportSeam.Tree.Basic

/-!
# References through the registry

Every use of a registered binding becomes a read of the registry: `x` becomes `$imports.x`, `{x}`
becomes `{x: $imports.x}`, and the name in a tag gets the registry before it.  Patterns and export
lists name the binding itself and stay as they are; so does the name of a declaration.

## Main definitions

* `registryRead` — the read that stands for a use.
* `Expr.redirect`, `Stmt.redirect` — a tree with its uses replaced.
-/

namespace ImportSeam

/-- Tells which alias of the registry stands for a use of an identifier, if one does. -/
abbrev Aliases := Ident → Option String

/-- The registry as an identifier. -/
def registryIdent (loc : Loc) : Ident := ⟨registryName, loc, .unknown⟩

/-- A read of the registry. -/
def registryRead (loc : Loc) (name : String) : Expr :=
  .member loc false (.ident (registryIdent loc)) name

/-- A use of an identifier. -/
def redirectIdent (aliases : Aliases) (id : Ident) : Expr :=
  match aliases id with
  | some name => registryRead id.loc name
  | none => .ident id

/-- A name that is a member of an object literal. -/
def redirectShorthand (aliases : Aliases) (loc : Loc) (id : Ident) : ObjMember :=
  match aliases id with
  | some name => .valued loc (.direct id.name .ident) (.field (some (registryRead id.loc name)))
  | none => .shorthand loc id

/-- The name in a tag. -/
def redirectTag (aliases : Aliases) : JsxTag → JsxTag
  | .ident id =>
    match aliases id with
    | some name => .member (registryIdent id.loc) [name]
    | none => .ident id
  | .member base path =>
    match aliases base with
    | some name => .member (registryIdent base.loc) (name :: path)
    | none => .member base path
  | .name n => .name n

mutual

/-- An expression with its uses replaced. -/
def Expr.redirect (a : Aliases) : Expr → Expr
  | .ident id => redirectIdent a id
  | .arrow loc f => .arrow loc (f.redirect a)
  | .binary loc op l r => .binary loc op (l.redirect a) (r.redirect a)
  | .call loc o f args => .call loc o (f.redirect a) (redirectArgs a args)
  | .classExpr loc name parent members =>
    .classExpr loc name (redirectOpt a parent) (redirectClass a members)
  | .index loc o e k => .index loc o (e.redirect a) (k.redirect a)
  | .cond loc t c e => .cond loc (t.redirect a) (c.redirect a) (e.redirect a)
  | .func loc name f => .func loc name (f.redirect a)
  | .importCall loc m => .importCall loc (m.redirect a)
  | .importMeta loc => .importMeta loc
  | .member loc o e p => .member loc o (e.redirect a) p
  | .construct loc f none => .construct loc (f.redirect a) none
  | .construct loc f (some args) => .construct loc (f.redirect a) (some (redirectArgs a args))
  | .newTarget loc => .newTarget loc
  | .superRef loc => .superRef loc
  | .tagged loc t ps => .tagged loc (t.redirect a) (redirectTemplate a ps)
  | .this loc => .this loc
  | .unary loc op e => .unary loc op (e.redirect a)
  | .update loc op e => .update loc op (e.redirect a)
  | .yield loc d e => .yield loc d (redirectOpt a e)
  | .jsx loc e => .jsx loc (e.redirect a)
  | .array loc es => .array loc (redirectElems a es)
  | .bigInt loc t => .bigInt loc t
  | .bool loc b => .bool loc b
  | .null loc => .null loc
  | .num loc n => .num loc n
  | .object loc ms => .object loc (redirectObj a ms)
  | .regex loc t => .regex loc t
  | .str loc v => .str loc v
  | .template loc ps => .template loc (redirectTemplate a ps)
  | .target p => .target (p.redirect a)

/-- An expression that may be missing. -/
def redirectOpt (a : Aliases) : Option Expr → Option Expr
  | none => none
  | some e => some (e.redirect a)

/-- A function. -/
def Func.redirect (a : Aliases) : Func → Func
  | ⟨isArrow, isAsync, isGenerator, params, body⟩ =>
    ⟨isArrow, isAsync, isGenerator, redirectParams a params, body.redirect a⟩

/-- The body of a function. -/
def FuncBody.redirect (a : Aliases) : FuncBody → FuncBody
  | .block body => .block (redirectStmts a body)
  | .expr e => .expr (e.redirect a)

/-- Parameters. -/
def redirectParams (a : Aliases) : List Param → List Param
  | [] => []
  | ⟨isRest, b⟩ :: ps => ⟨isRest, b.redirect a⟩ :: redirectParams a ps

/-- A pattern with its value. -/
def Binder.redirect (a : Aliases) : Binder → Binder
  | ⟨target, init⟩ => ⟨target.redirect a, redirectOpt a init⟩

/-- Bindings. -/
def redirectBinders (a : Aliases) : List Binder → List Binder
  | [] => []
  | b :: bs => b.redirect a :: redirectBinders a bs

/-- Arguments. -/
def redirectArgs (a : Aliases) : List Arg → List Arg
  | [] => []
  | ⟨isSpread, e⟩ :: as => ⟨isSpread, e.redirect a⟩ :: redirectArgs a as

/-- The parts of a template. -/
def redirectTemplate (a : Aliases) : List TemplatePart → List TemplatePart
  | [] => []
  | .text raw :: ps => .text raw :: redirectTemplate a ps
  | .subst e :: ps => .subst (e.redirect a) :: redirectTemplate a ps

/-- The elements of an array literal. -/
def redirectElems (a : Aliases) : List ArrayElem → List ArrayElem
  | [] => []
  | .item e :: es => .item (e.redirect a) :: redirectElems a es
  | .spread e :: es => .spread (e.redirect a) :: redirectElems a es
  | .hole :: es => .hole :: redirectElems a es

/-- A key. -/
def Key.redirect (a : Aliases) : Key → Key
  | .direct text kind => .direct text kind
  | .computed e => .computed (e.redirect a)

/-- What a member holds. -/
def Member.redirect (a : Aliases) : Member → Member
  | .getter f => .getter (f.redirect a)
  | .setter f => .setter (f.redirect a)
  | .method f => .method (f.redirect a)
  | .field e => .field (redirectOpt a e)
  | .staticBlock body => .staticBlock (redirectStmts a body)

/-- The members of an object literal. -/
def redirectObj (a : Aliases) : List ObjMember → List ObjMember
  | [] => []
  | .valued loc key m :: ms => .valued loc (key.redirect a) (m.redirect a) :: redirectObj a ms
  | .shorthand loc id :: ms => redirectShorthand a loc id :: redirectObj a ms
  | .spread loc e :: ms => .spread loc (e.redirect a) :: redirectObj a ms

/-- The members of a class. -/
def redirectClass (a : Aliases) : List ClassMember → List ClassMember
  | [] => []
  | ⟨key, isStatic, m⟩ :: ms => ⟨key.redirect a, isStatic, m.redirect a⟩ :: redirectClass a ms

/-- A pattern.  Its own names stay; the keys and values inside it are expressions. -/
def Pat.redirect (a : Aliases) : Pat → Pat
  | .ident id => .ident id
  | .array loc elems none => .array loc (redirectElemPats a elems) none
  | .array loc elems (some rest) =>
    .array loc (redirectElemPats a elems) (some (rest.redirect a))
  | .object loc props rest => .object loc (redirectProps a props) rest

/-- The elements of an array pattern. -/
def redirectElemPats (a : Aliases) : List (Option Binder) → List (Option Binder)
  | [] => []
  | none :: es => none :: redirectElemPats a es
  | some b :: es => some (b.redirect a) :: redirectElemPats a es

/-- The properties of an object pattern. -/
def redirectProps (a : Aliases) : List PropPat → List PropPat
  | [] => []
  | ⟨key, b, isShorthand⟩ :: ps =>
    ⟨key.redirect a, b.redirect a, isShorthand⟩ :: redirectProps a ps

/-- An element. -/
def JsxElem.redirect (a : Aliases) : JsxElem → JsxElem
  | ⟨tag, attrs, children⟩ =>
    ⟨tag.map (redirectTag a), redirectAttrs a attrs, redirectContents a children⟩

/-- The attributes of an element. -/
def redirectAttrs (a : Aliases) : List JsxAttr → List JsxAttr
  | [] => []
  | .named name none :: as => .named name none :: redirectAttrs a as
  | .named name (some c) :: as => .named name (some (c.redirect a)) :: redirectAttrs a as
  | .spread e :: as => .spread (e.redirect a) :: redirectAttrs a as

/-- The value of an attribute or a child of an element. -/
def JsxContent.redirect (a : Aliases) : JsxContent → JsxContent
  | .container e => .container (redirectOpt a e)
  | .text raw => .text raw
  | .elem e => .elem (e.redirect a)

/-- The children of an element. -/
def redirectContents (a : Aliases) : List JsxContent → List JsxContent
  | [] => []
  | c :: cs => c.redirect a :: redirectContents a cs

/-- A statement with its uses replaced. -/
def Stmt.redirect (a : Aliases) : Stmt → Stmt
  | .block loc body => .block loc (redirectStmts a body)
  | .breakTo loc l => .breakTo loc l
  | .continueTo loc l => .continueTo loc l
  | .debugger loc => .debugger loc
  | .doWhile loc body test => .doWhile loc (body.redirect a) (test.redirect a)
  | .empty loc => .empty loc
  | .exportDefault loc e => .exportDefault loc (e.redirect a)
  | .exportList loc names source => .exportList loc names source
  | .expr loc e => .expr loc (e.redirect a)
  | .forIn loc t e body => .forIn loc (t.redirect a) (e.redirect a) (body.redirect a)
  | .forOf loc w t e body => .forOf loc w (t.redirect a) (e.redirect a) (body.redirect a)
  | .forLoop loc init test post body =>
    .forLoop loc (init.redirect a) (redirectOpt a test) (redirectOpt a post) (body.redirect a)
  | .ifElse loc test c none => .ifElse loc (test.redirect a) (c.redirect a) none
  | .ifElse loc test c (some e) =>
    .ifElse loc (test.redirect a) (c.redirect a) (some (e.redirect a))
  | .importDecl loc d names m =>
    .importDecl loc (redirectOptPat a d)
      (match names with
        | none => none
        | some names => some (names.redirect a)) m
  | .label loc n body => .label loc n (body.redirect a)
  | .returnValue loc e => .returnValue loc (redirectOpt a e)
  | .switch loc e cs => .switch loc (e.redirect a) (redirectCases a cs)
  | .throw loc e => .throw loc (e.redirect a)
  | .tryCatch loc body handler finalizer =>
    .tryCatch loc (redirectStmts a body)
      (match handler with
        | none => none
        | some ⟨param, body⟩ => some ⟨redirectOptPat a param, redirectStmts a body⟩)
      (match finalizer with
        | none => none
        | some body => some (redirectStmts a body))
  | .while loc test body => .while loc (test.redirect a) (body.redirect a)
  | .withObject loc e body => .withObject loc (e.redirect a) (body.redirect a)
  | .classDecl loc x d n p ms => .classDecl loc x d n (redirectOpt a p) (redirectClass a ms)
  | .funcDecl loc x d n f => .funcDecl loc x d n (f.redirect a)
  | .varDecl loc x m bs => .varDecl loc x m (redirectBinders a bs)

/-- Statements. -/
def redirectStmts (a : Aliases) : List Stmt → List Stmt
  | [] => []
  | s :: ss => s.redirect a :: redirectStmts a ss

/-- A pattern that may be missing. -/
def redirectOptPat (a : Aliases) : Option Pat → Option Pat
  | none => none
  | some p => some (p.redirect a)

/-- The first part of the head of a loop. -/
def ForInit.redirect (a : Aliases) : ForInit → ForInit
  | .absent => .absent
  | .expr e => .expr (e.redirect a)
  | .decl mode bs => .decl mode (redirectBinders a bs)

/-- What a loop over an object assigns to. -/
def ForTarget.redirect (a : Aliases) : ForTarget → ForTarget
  | .assign p => .assign (p.redirect a)
  | .decl mode p => .decl mode (p.redirect a)

/-- The branches of a switch. -/
def redirectCases (a : Aliases) : List SwitchCase → List SwitchCase
  | [] => []
  | ⟨test, body⟩ :: cs => ⟨redirectOpt a test, redirectStmts a body⟩ :: redirectCases a cs

/-- What an import names. -/
def ImportNames.redirect (a : Aliases) : ImportNames → ImportNames
  | .all p => .all (p.redirect a)
  | .specific names => .specific (redirectSpecs a names)

/-- The items of an import list. -/
def redirectSpecs (a : Aliases) : List ImportSpec → List ImportSpec
  | [] => []
  | ⟨imported, p⟩ :: ss => ⟨imported, p.redirect a⟩ :: redirectSpecs a ss

end

end ImportSeam
