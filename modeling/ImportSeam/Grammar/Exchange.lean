import ImportSeam.Grammar.Statement

/-!
# Imports and exports

## Main definitions

* `Rules.importStmt` — an import declaration.
* `Rules.exportStmt` — an export, whose location includes the keyword.
-/

namespace ImportSeam

open TokenParser

/-- A name in an import or export list: any word, or a string. -/
def exchangedName : TokenParser ModuleName := do
  let t ← peek
  if t.kind == .str then
    let (_, name) ← stringValue
    return .quoted name
  if t.kind == .ident || t.kind.isKeyword then
    discard consume
    return .bare t.text
  throw (t.error (.expected "exported or imported name"))

/-- An item of an import list.  Without an alias the imported name has to be one that can be
bound. -/
def importSpec (ctx : Context) : TokenParser ImportSpec := do
  let t ← peek
  let imported ← exchangedName
  if ← acceptWord "as" then return ⟨imported, .ident (← bindingName ctx)⟩
  match imported with
  | .bare name =>
    if ctx.isName t.kind then return ⟨imported, .ident ⟨name, t.loc, .unknown⟩⟩
    throw (t.error (.expected "as"))
  | .quoted _ => throw (t.error (.expected "as"))

/-- An item of an export list. -/
def exportSpec : TokenParser ExportSpec := do
  let exported ← exchangedName
  if ← acceptWord "as" then return ⟨exported, ← exchangedName⟩
  return ⟨exported, exported⟩

namespace Rules

/-- What an import names besides its default. -/
def importNames (r : Rules) (ctx : Context) : TokenParser ImportNames := do
  if ← acceptPunct .star then
    discard (expectWord "as")
    return .all (.ident (← bindingName ctx))
  expectPunct .lBrace
  return .specific (← separated r.depth .rBrace (importSpec ctx))

/-- Import attributes, which are read and dropped. -/
def skipAttributes (r : Rules) (ctx : Context) : TokenParser Unit := do
  let t ← peek
  if t.kind == .keyword .kWith || (t.isWord "assert" && !t.newlineBefore) then
    discard consume
    discard (r.objMembers ctx)

/-- The module that an import or export reads from, to the end of the statement. -/
def moduleSource (r : Rules) (ctx : Context) : TokenParser String := do
  let (_, name) ← stringValue
  r.skipAttributes ctx
  return name

/-- An import declaration. -/
def importStmt (r : Rules) (ctx : Context) : TokenParser Stmt := spanning do
  expectKeyword .kImport
  if (← peekKind) == .str then
    let module ← r.moduleSource ctx
    semicolon
    return fun loc => .importDecl loc none none module
  let kind ← peekKind
  let default ← optionally (kind != .punct .star && kind != .punct .lBrace) (bindingName ctx)
  let hasNames ← if default.isNone then pure true else acceptPunct .comma
  let names ← optionally hasNames (r.importNames ctx)
  discard (expectWord "from")
  let module ← r.moduleSource ctx
  semicolon
  return fun loc => .importDecl loc (default.map .ident) names module

/-- What an export list names. -/
def exportNames (r : Rules) (ctx : Context) : TokenParser ExportNames := do
  if ← acceptPunct .star then
    return .all (← optionally (← acceptWord "as") (bindingName ctx))
  expectPunct .lBrace
  return .specific (← separated r.depth .rBrace exportSpec)

/-- An export list.  Everything can only be exported from another module. -/
def exportList (r : Rules) (ctx : Context) : TokenParser (Loc → Stmt) := do
  let names ← r.exportNames ctx
  let source ← optionally (← acceptWord "from") (r.moduleSource ctx)
  match names, source with
  | .all _, none => throw ((← peek).error (.expected "from"))
  | _, _ =>
    semicolon
    return fun loc => .exportList loc names source

/-- A default export after its keyword. -/
def exportDefault (r : Rules) (ctx : Context) : TokenParser (Loc → Stmt) := do
  let (t, next) ← peekTwo
  if startsFunc t next then r.funcDecl ctx true true
  else if t.kind == .keyword .kClass then r.classDecl ctx true true
  else
    let value ← r.assignment ctx []
    semicolon
    return fun loc => .exportDefault loc value

/-- A declaration that is exported under its own names. -/
def exportDecl (r : Rules) (ctx : Context) (t next : Token) : TokenParser (Loc → Stmt) := do
  if startsFunc t next then return ← r.funcDecl ctx true false
  match t.kind with
  | .keyword .kVar | .keyword .kLet | .keyword .kConst =>
    let decl ← r.varDecl ctx true
    semicolon
    return decl
  | .keyword .kClass => r.classDecl ctx true false
  | _ => throw (t.error (.expected "exportable"))

/-- An export of any kind. -/
def exportStmt (r : Rules) (ctx : Context) : TokenParser Stmt := spanning do
  expectKeyword .kExport
  let (t, next) ← peekTwo
  match t.kind with
  | .keyword .kDefault =>
    discard consume
    r.exportDefault ctx
  | .punct .star | .punct .lBrace => r.exportList ctx
  | _ => r.exportDecl ctx t next

/-- A statement of any kind. -/
def statement (r : Rules) (ctx : Context) : TokenParser Stmt := do
  let (t, next) ← peekTwo
  match t.kind with
  | .keyword .kImport =>
    if next.kind == .punct .lParen || next.kind == .punct .dot then r.exprStmt ctx
    else r.importStmt ctx
  | .keyword .kExport => r.exportStmt ctx
  | _ => r.plainStmt ctx t next

end Rules

end ImportSeam
