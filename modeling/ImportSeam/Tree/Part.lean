import ImportSeam.Tree.Basic

/-!
# The parts of a tree

Everything that a tree contains, as a flat list: its statements, expressions and patterns, and the
identifiers among them.  A part stands before the parts inside it, and those stand in the order in
which scope analysis meets them.

## Main definitions

* `NameRole` — what kind of identifier a name is.
* `Part` — a statement, an expression, a pattern or an identifier.
* `Stmt.parts`, `Program.parts` — the parts of a tree.
-/

namespace ImportSeam

/-- What kind of identifier a name is. -/
inductive NameRole where
  /-- A value that is read. -/
  | value
  /-- A name in a pattern, declared or assigned to. -/
  | pattern
  /-- The name of a function or class. -/
  | own
  deriving DecidableEq, Repr, Inhabited

/-- Something that a tree contains. -/
inductive Part where
  | stmt (s : Stmt)
  | expr (e : Expr)
  | pat (p : Pat)
  | name (role : NameRole) (id : Ident)

namespace Part

/-- The name of a function or class, if it has one. -/
def ofName? (name : Option Ident) : List Part := (name.map (.name .own)).toList

/-- The identifier in a tag. -/
def ofTag? : Option JsxTag → List Part
  | some (.ident id) => [.name .value id]
  | some (.member base _) => [.name .value base]
  | _ => []

/-- The name under which everything is exported. -/
def ofExport : ExportNames → List Part
  | .all (some id) => [.name .pattern id]
  | _ => []

end Part

mutual

/-- The parts of an expression, itself included. -/
def Expr.parts : Expr → List Part
  | .ident id => [.expr (.ident id), .name .value id]
  | .arrow loc f => .expr (.arrow loc f) :: f.parts
  | .binary loc op l r => .expr (.binary loc op l r) :: (l.parts ++ r.parts)
  | .call loc o f args => .expr (.call loc o f args) :: (f.parts ++ argsParts args)
  | .classExpr loc n p ms =>
    .expr (.classExpr loc n p ms) :: (Part.ofName? n ++ optExprParts p ++ classParts ms)
  | .index loc o e k => .expr (.index loc o e k) :: (e.parts ++ k.parts)
  | .cond loc t c a => .expr (.cond loc t c a) :: (t.parts ++ c.parts ++ a.parts)
  | .func loc n f => .expr (.func loc n f) :: (Part.ofName? n ++ f.parts)
  | .importCall loc m => .expr (.importCall loc m) :: m.parts
  | .importMeta loc => [.expr (.importMeta loc)]
  | .member loc o e p => .expr (.member loc o e p) :: e.parts
  | .construct loc f none => .expr (.construct loc f none) :: f.parts
  | .construct loc f (some args) =>
    .expr (.construct loc f (some args)) :: (f.parts ++ argsParts args)
  | .newTarget loc => [.expr (.newTarget loc)]
  | .superRef loc => [.expr (.superRef loc)]
  | .tagged loc t ps => .expr (.tagged loc t ps) :: (t.parts ++ templateParts ps)
  | .this loc => [.expr (.this loc)]
  | .unary loc op e => .expr (.unary loc op e) :: e.parts
  | .update loc op e => .expr (.update loc op e) :: e.parts
  | .yield loc d e => .expr (.yield loc d e) :: optExprParts e
  | .jsx loc e => .expr (.jsx loc e) :: e.parts
  | .array loc es => .expr (.array loc es) :: elemsParts es
  | .bigInt loc t => [.expr (.bigInt loc t)]
  | .bool loc b => [.expr (.bool loc b)]
  | .null loc => [.expr (.null loc)]
  | .num loc n => [.expr (.num loc n)]
  | .object loc ms => .expr (.object loc ms) :: objParts ms
  | .regex loc t => [.expr (.regex loc t)]
  | .str loc v => [.expr (.str loc v)]
  | .template loc ps => .expr (.template loc ps) :: templateParts ps
  | .target p => .expr (.target p) :: p.innerParts

/-- The parts of an expression that may be missing. -/
def optExprParts : Option Expr → List Part
  | none => []
  | some e => e.parts

/-- The parts of a function. -/
def Func.parts : Func → List Part
  | ⟨_, _, _, params, body⟩ => paramsParts params ++ body.parts

/-- The parts of the body of a function. -/
def FuncBody.parts : FuncBody → List Part
  | .block body => stmtsParts body
  | .expr value => value.parts

/-- The parts of parameters. -/
def paramsParts : List Param → List Part
  | [] => []
  | ⟨_, b⟩ :: ps => b.parts ++ paramsParts ps

/-- The parts of a pattern with its value. -/
def Binder.parts : Binder → List Part
  | ⟨target, init⟩ => target.parts ++ optExprParts init

/-- The parts of bindings. -/
def bindersParts : List Binder → List Part
  | [] => []
  | b :: bs => b.parts ++ bindersParts bs

/-- The parts of arguments. -/
def argsParts : List Arg → List Part
  | [] => []
  | ⟨_, e⟩ :: as => e.parts ++ argsParts as

/-- The parts of the parts of a template. -/
def templateParts : List TemplatePart → List Part
  | [] => []
  | .text _ :: ps => templateParts ps
  | .subst e :: ps => e.parts ++ templateParts ps

/-- The parts of the elements of an array literal. -/
def elemsParts : List ArrayElem → List Part
  | [] => []
  | .item e :: es => e.parts ++ elemsParts es
  | .spread e :: es => e.parts ++ elemsParts es
  | .hole :: es => elemsParts es

/-- The parts of a key. -/
def Key.parts : Key → List Part
  | .direct _ _ => []
  | .computed e => e.parts

/-- The parts of what a member holds. -/
def Member.parts : Member → List Part
  | .getter f => f.parts
  | .setter f => f.parts
  | .method f => f.parts
  | .field e => optExprParts e
  | .staticBlock body => stmtsParts body

/-- The parts of the members of an object literal. -/
def objParts : List ObjMember → List Part
  | [] => []
  | .valued _ key m :: ms => key.parts ++ m.parts ++ objParts ms
  | .shorthand _ id :: ms => .name .value id :: objParts ms
  | .spread _ e :: ms => e.parts ++ objParts ms

/-- The parts of the members of a class. -/
def classParts : List ClassMember → List Part
  | [] => []
  | ⟨key, _, m⟩ :: ms => key.parts ++ m.parts ++ classParts ms

/-- The parts of a pattern, itself included. -/
def Pat.parts : Pat → List Part
  | .ident id => [.pat (.ident id), .name .pattern id]
  | .array loc es rest => .pat (.array loc es rest) :: (elemPatsParts es ++ optPatParts rest)
  | .object loc ps rest =>
    .pat (.object loc ps rest) :: (propsParts ps ++ (rest.map (.name .pattern)).toList)

/-- The parts inside a pattern. -/
def Pat.innerParts : Pat → List Part
  | .ident id => [.name .pattern id]
  | .array _ es rest => elemPatsParts es ++ optPatParts rest
  | .object _ ps rest => propsParts ps ++ (rest.map (.name .pattern)).toList

/-- The parts of a pattern that may be missing. -/
def optPatParts : Option Pat → List Part
  | none => []
  | some p => p.parts

/-- The parts of the elements of an array pattern. -/
def elemPatsParts : List (Option Binder) → List Part
  | [] => []
  | none :: es => elemPatsParts es
  | some b :: es => b.parts ++ elemPatsParts es

/-- The parts of the properties of an object pattern. -/
def propsParts : List PropPat → List Part
  | [] => []
  | ⟨key, b, _⟩ :: ps => key.parts ++ b.parts ++ propsParts ps

/-- The parts of an element. -/
def JsxElem.parts : JsxElem → List Part
  | ⟨tag, attrs, children⟩ => Part.ofTag? tag ++ attrsParts attrs ++ contentsParts children

/-- The parts of the attributes of an element. -/
def attrsParts : List JsxAttr → List Part
  | [] => []
  | .named _ none :: as => attrsParts as
  | .named _ (some c) :: as => c.parts ++ attrsParts as
  | .spread e :: as => e.parts ++ attrsParts as

/-- The parts of a piece of content. -/
def JsxContent.parts : JsxContent → List Part
  | .container e => optExprParts e
  | .text _ => []
  | .elem e => e.parts

/-- The parts of the children of an element. -/
def contentsParts : List JsxContent → List Part
  | [] => []
  | c :: cs => c.parts ++ contentsParts cs

/-- The parts of a statement, itself included. -/
def Stmt.parts : Stmt → List Part
  | .block loc body => .stmt (.block loc body) :: stmtsParts body
  | .breakTo loc l => [.stmt (.breakTo loc l)]
  | .continueTo loc l => [.stmt (.continueTo loc l)]
  | .debugger loc => [.stmt (.debugger loc)]
  | .doWhile loc body test => .stmt (.doWhile loc body test) :: (test.parts ++ body.parts)
  | .empty loc => [.stmt (.empty loc)]
  | .exportDefault loc e => .stmt (.exportDefault loc e) :: e.parts
  | .exportList loc names source => .stmt (.exportList loc names source) :: Part.ofExport names
  | .expr loc e => .stmt (.expr loc e) :: e.parts
  | .forIn loc t o body => .stmt (.forIn loc t o body) :: (t.parts ++ o.parts ++ body.parts)
  | .forOf loc a t o body => .stmt (.forOf loc a t o body) :: (t.parts ++ o.parts ++ body.parts)
  | .forLoop loc init test post body =>
    .stmt (.forLoop loc init test post body) ::
      (init.parts ++ optExprParts test ++ optExprParts post ++ body.parts)
  | .ifElse loc test c a =>
    .stmt (.ifElse loc test c a) :: (test.parts ++ c.parts ++ optStmtParts a)
  | .importDecl loc d names m =>
    .stmt (.importDecl loc d names m) ::
      (optPatParts d ++ match names with
        | none => []
        | some names => names.parts)
  | .label loc n body => .stmt (.label loc n body) :: body.parts
  | .returnValue loc e => .stmt (.returnValue loc e) :: optExprParts e
  | .switch loc e cs => .stmt (.switch loc e cs) :: (e.parts ++ casesParts cs)
  | .throw loc e => .stmt (.throw loc e) :: e.parts
  | .tryCatch loc body h f =>
    .stmt (.tryCatch loc body h f) ::
      (stmtsParts body ++
        (match h with
          | none => []
          | some ⟨param, body⟩ => optPatParts param ++ stmtsParts body) ++
        match f with
          | none => []
          | some body => stmtsParts body)
  | .while loc test body => .stmt (.while loc test body) :: (test.parts ++ body.parts)
  | .withObject loc o body => .stmt (.withObject loc o body) :: (o.parts ++ body.parts)
  | .classDecl loc x d n p ms =>
    .stmt (.classDecl loc x d n p ms) :: (Part.ofName? n ++ optExprParts p ++ classParts ms)
  | .funcDecl loc x d n f => .stmt (.funcDecl loc x d n f) :: (Part.ofName? n ++ f.parts)
  | .varDecl loc x m bs => .stmt (.varDecl loc x m bs) :: bindersParts bs

/-- The parts of a statement that may be missing. -/
def optStmtParts : Option Stmt → List Part
  | none => []
  | some s => s.parts

/-- The parts of statements. -/
def stmtsParts : List Stmt → List Part
  | [] => []
  | s :: ss => s.parts ++ stmtsParts ss

/-- The parts of the first part of the head of a loop. -/
def ForInit.parts : ForInit → List Part
  | .absent => []
  | .expr e => e.parts
  | .decl _ bs => bindersParts bs

/-- The parts of what a loop assigns to. -/
def ForTarget.parts : ForTarget → List Part
  | .assign p => p.parts
  | .decl _ p => p.parts

/-- The parts of the branches of a switch. -/
def casesParts : List SwitchCase → List Part
  | [] => []
  | ⟨test, body⟩ :: cs => optExprParts test ++ stmtsParts body ++ casesParts cs

/-- The parts of what an import names. -/
def ImportNames.parts : ImportNames → List Part
  | .all p => p.parts
  | .specific names => specsParts names

/-- The parts of the items of an import list. -/
def specsParts : List ImportSpec → List Part
  | [] => []
  | ⟨_, p⟩ :: ss => p.parts ++ specsParts ss

end

/-- The parts of a module. -/
def Program.parts (p : Program) : List Part := stmtsParts p.body

end ImportSeam
