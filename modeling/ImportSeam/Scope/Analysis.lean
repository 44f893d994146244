import ImportSeam.Scope.Tree
import ImportSeam.Tree.Names

/-!
# Scope analysis

The analysis walks a tree once.  It opens the scopes, declares every name, and records with each
identifier either the symbol it declares or the scope it is used in.  What a use refers to is read
off the finished scope tree, so it does not matter whether the declaration stands before or after
it.

A scope spans the whole construct that opens it: the parameters and the body of a function share
one, a handler is one with its parameter, and a loop or a switch has one for its head and its body.
All names of a pattern are declared before the values inside it are looked at.

## Main definitions

* `Scoping` — a computation that extends a scope tree.
* `Expr.inScope`, `Pat.inScope`, `Stmt.inScope` — the analysis of a tree in a scope.
* `Program.analyse` — the analysis of a module.
-/

namespace ImportSeam

/-- A computation that extends a scope tree. -/
abbrev Scoping := StateM ScopeTree

namespace Scoping

/-- Opens a scope. -/
def child (parent : ScopeId) (kind : ScopeKind) : Scoping ScopeId :=
  modifyGet (·.child parent kind)

/-- Declares the name of an identifier and records its symbol. -/
def declare (scope : ScopeId) (id : Ident) : Scoping Ident := do
  let s ← modifyGet (·.declare scope id.name)
  return { id with mention := .declares s }

/-- Declares the name of an identifier, if there is one. -/
def declare? (scope : ScopeId) (id : Option Ident) : Scoping (Option Ident) :=
  match id with
  | some id => some <$> declare scope id
  | none => return none

/-- Declares names in order. -/
def declareAll (scope : ScopeId) (names : List String) : Scoping Unit :=
  names.forM fun name => discard (modifyGet (·.declare scope name))

/-- Records where an identifier is used. -/
def use (scope : ScopeId) (id : Ident) : Ident := { id with mention := .usedIn scope }

/-- The scope in which a declaration of a mode declares its names. -/
def home (scope : ScopeId) : VarMode → Scoping ScopeId
  | .hoisted => return (← get).closure scope
  | .constant | .lexical => return scope

/-- An identifier in a pattern: declared in the home scope, or used if there is none. -/
def bind (home : Option ScopeId) (scope : ScopeId) (id : Ident) : Scoping Ident :=
  match home with
  | some d => declare d id
  | none => return use scope id

/-- The identifier in a pattern that takes the rest. -/
def bind? (home : Option ScopeId) (scope : ScopeId) (id : Option Ident) :
    Scoping (Option Ident) :=
  match id with
  | some id => some <$> bind home scope id
  | none => return none

/-- The identifier in a tag. -/
def useTag (scope : ScopeId) : Option JsxTag → Option JsxTag
  | some (.ident id) => some (.ident (use scope id))
  | some (.member base path) => some (.member (use scope base) path)
  | tag => tag

/-- What an export list names.  The name under which another module is exported whole is no binding,
whatever the scopes make of it. -/
def unbound : ExportNames → ExportNames
  | .all (some id) => .all (some { id with mention := .unknown })
  | names => names

end Scoping

open Scoping

mutual

/-- An expression in a scope. -/
def Expr.inScope (s : ScopeId) : Expr → Scoping Expr
  | .ident id => return .ident (use s id)
  | .arrow loc f => return .arrow loc (← f.inScope s)
  | .binary loc op l r => return .binary loc op (← l.inScope s) (← r.inScope s)
  | .call loc o f args => return .call loc o (← f.inScope s) (← argsInScope s args)
  | .classExpr loc name parent members => do
    let s ← child s .ownName
    let name ← declare? s name
    let parent ← optInScope s parent
    return .classExpr loc name parent (← classInScope s members)
  | .index loc o e k => return .index loc o (← e.inScope s) (← k.inScope s)
  | .cond loc t c a => return .cond loc (← t.inScope s) (← c.inScope s) (← a.inScope s)
  | .func loc name f => do
    let s ← child s .ownName
    let name ← declare? s name
    return .func loc name (← f.inScope s)
  | .importCall loc m => return .importCall loc (← m.inScope s)
  | .importMeta loc => return .importMeta loc
  | .member loc o e p => return .member loc o (← e.inScope s) p
  | .construct loc f none => return .construct loc (← f.inScope s) none
  | .construct loc f (some args) =>
    return .construct loc (← f.inScope s) (some (← argsInScope s args))
  | .newTarget loc => return .newTarget loc
  | .superRef loc => return .superRef loc
  | .tagged loc t ps => return .tagged loc (← t.inScope s) (← templateInScope s ps)
  | .this loc => return .this loc
  | .unary loc op e => return .unary loc op (← e.inScope s)
  | .update loc op e => return .update loc op (← e.inScope s)
  | .yield loc d e => return .yield loc d (← optInScope s e)
  | .jsx loc e => return .jsx loc (← e.inScope s)
  | .array loc es => return .array loc (← elemsInScope s es)
  | .bigInt loc t => return .bigInt loc t
  | .bool loc b => return .bool loc b
  | .null loc => return .null loc
  | .num loc n => return .num loc n
  | .object loc ms => return .object loc (← objInScope s ms)
  | .regex loc t => return .regex loc t
  | .str loc v => return .str loc v
  | .template loc ps => return .template loc (← templateInScope s ps)
  | .target p => return .target (← p.inScope none s)

/-- An expression that may be missing. -/
def optInScope (s : ScopeId) : Option Expr → Scoping (Option Expr)
  | none => return none
  | some e => return some (← e.inScope s)

/-- A function.  Its parameters and its body share one scope. -/
def Func.inScope (s : ScopeId) : Func → Scoping Func
  | ⟨isArrow, isAsync, isGenerator, params, body⟩ => do
    let s ← child s (if isArrow then .arrow else .function)
    let params ← paramsInScope s params
    return ⟨isArrow, isAsync, isGenerator, params, ← body.inScope s⟩

/-- The body of a function. -/
def FuncBody.inScope (s : ScopeId) : FuncBody → Scoping FuncBody
  | .block body => return .block (← stmtsInScope s body)
  | .expr e => return .expr (← e.inScope s)

/-- Parameters, which are declared in the scope of their function. -/
def paramsInScope (s : ScopeId) : List Param → Scoping (List Param)
  | [] => return []
  | ⟨isRest, ⟨target, init⟩⟩ :: ps => do
    declareAll s target.names
    let target ← target.inScope (some s) s
    let init ← optInScope s init
    return ⟨isRest, ⟨target, init⟩⟩ :: (← paramsInScope s ps)

/-- Bindings, declared in their home scope. -/
def bindersInScope (home s : ScopeId) : List Binder → Scoping (List Binder)
  | [] => return []
  | ⟨target, init⟩ :: bs => do
    declareAll home target.names
    let target ← target.inScope (some home) s
    let init ← optInScope s init
    return ⟨target, init⟩ :: (← bindersInScope home s bs)

/-- Arguments. -/
def argsInScope (s : ScopeId) : List Arg → Scoping (List Arg)
  | [] => return []
  | ⟨isSpread, e⟩ :: as => do
    let e ← e.inScope s
    return ⟨isSpread, e⟩ :: (← argsInScope s as)

/-- The parts of a template. -/
def templateInScope (s : ScopeId) : List TemplatePart → Scoping (List TemplatePart)
  | [] => return []
  | .text raw :: ps => return .text raw :: (← templateInScope s ps)
  | .subst e :: ps => do
    let e ← e.inScope s
    return .subst e :: (← templateInScope s ps)

/-- The elements of an array literal. -/
def elemsInScope (s : ScopeId) : List ArrayElem → Scoping (List ArrayElem)
  | [] => return []
  | .item e :: es => do
    let e ← e.inScope s
    return .item e :: (← elemsInScope s es)
  | .spread e :: es => do
    let e ← e.inScope s
    return .spread e :: (← elemsInScope s es)
  | .hole :: es => return .hole :: (← elemsInScope s es)

/-- A key. -/
def Key.inScope (s : ScopeId) : Key → Scoping Key
  | .direct text kind => return .direct text kind
  | .computed e => return .computed (← e.inScope s)

/-- What a member holds.  A static block is a scope of its own, also for hoisted declarations. -/
def Member.inScope (s : ScopeId) : Member → Scoping Member
  | .getter f => return .getter (← f.inScope s)
  | .setter f => return .setter (← f.inScope s)
  | .method f => return .method (← f.inScope s)
  | .field e => return .field (← optInScope s e)
  | .staticBlock body => do
    let s ← child s .function
    return .staticBlock (← stmtsInScope s body)

/-- The members of an object literal. -/
def objInScope (s : ScopeId) : List ObjMember → Scoping (List ObjMember)
  | [] => return []
  | .valued loc key m :: ms => do
    let key ← key.inScope s
    let m ← m.inScope s
    return .valued loc key m :: (← objInScope s ms)
  | .shorthand loc id :: ms => return .shorthand loc (use s id) :: (← objInScope s ms)
  | .spread loc e :: ms => do
    let e ← e.inScope s
    return .spread loc e :: (← objInScope s ms)

/-- The members of a class. -/
def classInScope (s : ScopeId) : List ClassMember → Scoping (List ClassMember)
  | [] => return []
  | ⟨key, isStatic, m⟩ :: ms => do
    let key ← key.inScope s
    let m ← m.inScope s
    return ⟨key, isStatic, m⟩ :: (← classInScope s ms)

/-- A pattern whose names are declared in the home scope, or used if there is none. -/
def Pat.inScope (home : Option ScopeId) (s : ScopeId) : Pat → Scoping Pat
  | .ident id => return .ident (← bind home s id)
  | .array loc elems none => return .array loc (← elemPatsInScope home s elems) none
  | .array loc elems (some rest) => do
    let elems ← elemPatsInScope home s elems
    return .array loc elems (some (← rest.inScope home s))
  | .object loc props rest => do
    let props ← propsInScope home s props
    return .object loc props (← bind? home s rest)

/-- The elements of an array pattern. -/
def elemPatsInScope (home : Option ScopeId) (s : ScopeId) :
    List (Option Binder) → Scoping (List (Option Binder))
  | [] => return []
  | none :: es => return none :: (← elemPatsInScope home s es)
  | some ⟨target, init⟩ :: es => do
    let target ← target.inScope home s
    let init ← optInScope s init
    return some ⟨target, init⟩ :: (← elemPatsInScope home s es)

/-- The properties of an object pattern. -/
def propsInScope (home : Option ScopeId) (s : ScopeId) : List PropPat → Scoping (List PropPat)
  | [] => return []
  | ⟨key, ⟨target, init⟩, isShorthand⟩ :: ps => do
    let key ← key.inScope s
    let target ← target.inScope home s
    let init ← optInScope s init
    return ⟨key, ⟨target, init⟩, isShorthand⟩ :: (← propsInScope home s ps)

/-- An element. -/
def JsxElem.inScope (s : ScopeId) : JsxElem → Scoping JsxElem
  | ⟨tag, attrs, children⟩ => do
    let attrs ← attrsInScope s attrs
    return ⟨useTag s tag, attrs, ← contentsInScope s children⟩

/-- The attributes of an element. -/
def attrsInScope (s : ScopeId) : List JsxAttr → Scoping (List JsxAttr)
  | [] => return []
  | .named name none :: as => return .named name none :: (← attrsInScope s as)
  | .named name (some c) :: as => do
    let c ← c.inScope s
    return .named name (some c) :: (← attrsInScope s as)
  | .spread e :: as => do
    let e ← e.inScope s
    return .spread e :: (← attrsInScope s as)

/-- The value of an attribute or a child of an element. -/
def JsxContent.inScope (s : ScopeId) : JsxContent → Scoping JsxContent
  | .container e => return .container (← optInScope s e)
  | .text raw => return .text raw
  | .elem e => return .elem (← e.inScope s)

/-- The children of an element. -/
def contentsInScope (s : ScopeId) : List JsxContent → Scoping (List JsxContent)
  | [] => return []
  | c :: cs => do
    let c ← c.inScope s
    return c :: (← contentsInScope s cs)

/-- A statement in a scope. -/
def Stmt.inScope (s : ScopeId) : Stmt → Scoping Stmt
  | .block loc body => do
    let s ← child s .block
    return .block loc (← stmtsInScope s body)
  | .breakTo loc l => return .breakTo loc l
  | .continueTo loc l => return .continueTo loc l
  | .debugger loc => return .debugger loc
  | .doWhile loc body test => do
    let test ← test.inScope s
    return .doWhile loc (← body.inScope s) test
  | .empty loc => return .empty loc
  | .exportDefault loc e => return .exportDefault loc (← e.inScope s)
  | .exportList loc names source => return .exportList loc (unbound names) source
  | .expr loc e => return .expr loc (← e.inScope s)
  | .forIn loc target e body => do
    let s ← child s .block
    let target ← target.inScope s
    let e ← e.inScope s
    return .forIn loc target e (← body.inScope s)
  | .forOf loc isAwait target e body => do
    let s ← child s .block
    let target ← target.inScope s
    let e ← e.inScope s
    return .forOf loc isAwait target e (← body.inScope s)
  | .forLoop loc init test post body => do
    let s ← child s .block
    let init ← init.inScope s
    let test ← optInScope s test
    let post ← optInScope s post
    return .forLoop loc init test post (← body.inScope s)
  | .ifElse loc test c none => do
    let test ← test.inScope s
    return .ifElse loc test (← c.inScope s) none
  | .ifElse loc test c (some a) => do
    let test ← test.inScope s
    let c ← c.inScope s
    return .ifElse loc test c (some (← a.inScope s))
  | .importDecl loc default names m => do
    let default ← declaredInScope s default
    match names with
    | none => return .importDecl loc default none m
    | some names => return .importDecl loc default (some (← names.inScope s)) m
  | .label loc name body => return .label loc name (← body.inScope s)
  | .returnValue loc e => return .returnValue loc (← optInScope s e)
  | .switch loc e cases => do
    let s ← child s .block
    let e ← e.inScope s
    return .switch loc e (← casesInScope s cases)
  | .throw loc e => return .throw loc (← e.inScope s)
  | .tryCatch loc body handler finalizer => do
    let inner ← child s .block
    let body ← stmtsInScope inner body
    let handler ← match handler with
      | none => pure none
      | some ⟨param, body⟩ => do
        let inner ← child s .block
        let param ← declaredInScope inner param
        pure (some ⟨param, ← stmtsInScope inner body⟩)
    match finalizer with
    | none => return .tryCatch loc body handler none
    | some last => do
      let inner ← child s .block
      return .tryCatch loc body handler (some (← stmtsInScope inner last))
  | .while loc test body => do
    let test ← test.inScope s
    return .while loc test (← body.inScope s)
  | .withObject loc e body => do
    let e ← e.inScope s
    return .withObject loc e (← body.inScope s)
  | .classDecl loc isExported isDefault name parent members => do
    let name ← declare? s name
    let parent ← optInScope s parent
    return .classDecl loc isExported isDefault name parent (← classInScope s members)
  | .funcDecl loc isExported isDefault name f => do
    let name ← declare? s name
    return .funcDecl loc isExported isDefault name (← f.inScope s)
  | .varDecl loc isExported mode binders => do
    let d ← home s mode
    return .varDecl loc isExported mode (← bindersInScope d s binders)

/-- Statements in a scope. -/
def stmtsInScope (s : ScopeId) : List Stmt → Scoping (List Stmt)
  | [] => return []
  | st :: ss => do
    let st ← st.inScope s
    return st :: (← stmtsInScope s ss)

/-- The first part of the head of a loop. -/
def ForInit.inScope (s : ScopeId) : ForInit → Scoping ForInit
  | .absent => return .absent
  | .expr e => return .expr (← e.inScope s)
  | .decl mode binders => do
    let d ← home s mode
    return .decl mode (← bindersInScope d s binders)

/-- What a loop over an object assigns to. -/
def ForTarget.inScope (s : ScopeId) : ForTarget → Scoping ForTarget
  | .assign p => return .assign (← p.inScope none s)
  | .decl mode p => do
    let d ← home s mode
    declareAll d p.names
    return .decl mode (← p.inScope (some d) s)

/-- The branches of a switch, which share one scope. -/
def casesInScope (s : ScopeId) : List SwitchCase → Scoping (List SwitchCase)
  | [] => return []
  | ⟨test, body⟩ :: cs => do
    let test ← optInScope s test
    let body ← stmtsInScope s body
    return ⟨test, body⟩ :: (← casesInScope s cs)

/-- A pattern that declares its names in the current scope, if there is one: the parameter of a
handler or the default of an import. -/
def declaredInScope (s : ScopeId) : Option Pat → Scoping (Option Pat)
  | none => return none
  | some p => do
    declareAll s p.names
    return some (← p.inScope (some s) s)

/-- What an import names. -/
def ImportNames.inScope (s : ScopeId) : ImportNames → Scoping ImportNames
  | .all p => do
    declareAll s p.names
    return .all (← p.inScope (some s) s)
  | .specific names => return .specific (← specsInScope s names)

/-- The items of an import list. -/
def specsInScope (s : ScopeId) : List ImportSpec → Scoping (List ImportSpec)
  | [] => return []
  | ⟨imported, p⟩ :: ss => do
    declareAll s p.names
    let p ← p.inScope (some s) s
    return ⟨imported, p⟩ :: (← specsInScope s ss)

end

namespace Program

/-- The index of the module's own scope. -/
def moduleScope : ScopeId := 0

/-- A module with every identifier annotated, and its scopes. -/
def analyse (p : Program) : Program × ScopeTree :=
  let (body, scopes) := (stmtsInScope moduleScope p.body).run (.root .module)
  ({ p with body }, scopes)

end Program

end ImportSeam
