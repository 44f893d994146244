import ImportSeam.Proofs.Grammar.Formed
import ImportSeam.Instrument.Reference
import ImportSeam.Scope.Analysis
import Mathlib.Logic.Basic

/-!
# Reads of the registry, turned back

A read that stands for a use of a binding names the binding, so the use can be had back from it.
Such a read is told from one that the module contains itself by the registry's identifier, which no
scope analysis has seen.

Turning back also forgets what the analysis found, so that the result can be compared with the tree
that was read from the source.

## Main definitions

* `Expr.read?` — the use that an inserted read stands for.
* `Expr.restore`, `Stmt.restore` — a tree with its inserted reads turned back.

## Main results

* `stmts_restore` — a formed tree is what its analysis, with the uses replaced, turns back to.
-/

namespace ImportSeam

/-- An identifier without what the analysis found about it. -/
def Ident.forget (id : Ident) : Ident := { id with mention := .unknown }

/-- Whether the identifier is the registry, put there after the analysis. -/
def Ident.isInserted (id : Ident) : Bool := id.name == registryName && id.mention == .unknown

/-- Whether the expression is the registry, put there after the analysis. -/
def Expr.isInserted : Expr → Bool
  | .ident id => id.isInserted
  | _ => false

/-- The use that an inserted read stands for. -/
def Expr.read? : Expr → Option Ident
  | .member loc false e p => if e.isInserted then some ⟨p, loc, .unknown⟩ else none
  | _ => none

/-- The use that the value of a property stands for. -/
def Member.read? : Member → Option Ident
  | .field (some e) => e.read?
  | _ => none

/-- The name in a tag. -/
def JsxTag.restore : JsxTag → JsxTag
  | .ident id => .ident id.forget
  | .member base path =>
    match base.isInserted, path with
    | true, [word] => .ident ⟨word, base.loc, .unknown⟩
    | true, word :: path => .member ⟨word, base.loc, .unknown⟩ path
    | _, _ => .member base.forget path
  | .name n => .name n

/-- What an export list names. -/
def ExportNames.restore : ExportNames → ExportNames
  | .all name => .all (name.map Ident.forget)
  | .specific names => .specific names

mutual

/-- An expression with its inserted reads turned back. -/
def Expr.restore : Expr → Expr
  | .ident id => .ident id.forget
  | .arrow loc f => .arrow loc f.restore
  | .binary loc op l r => .binary loc op l.restore r.restore
  | .call loc o f args => .call loc o f.restore (restoreArgs args)
  | .classExpr loc name parent members =>
    .classExpr loc (name.map Ident.forget) (restoreOpt parent) (restoreClass members)
  | .index loc o e k => .index loc o e.restore k.restore
  | .cond loc t c e => .cond loc t.restore c.restore e.restore
  | .func loc name f => .func loc (name.map Ident.forget) f.restore
  | .importCall loc m => .importCall loc m.restore
  | .importMeta loc => .importMeta loc
  | .member loc o e p =>
    match (Expr.member loc o e p).read? with
    | some id => .ident id
    | none => .member loc o e.restore p
  | .construct loc f none => .construct loc f.restore none
  | .construct loc f (some args) => .construct loc f.restore (some (restoreArgs args))
  | .newTarget loc => .newTarget loc
  | .superRef loc => .superRef loc
  | .tagged loc t ps => .tagged loc t.restore (restoreTemplate ps)
  | .this loc => .this loc
  | .unary loc op e => .unary loc op e.restore
  | .update loc op e => .update loc op e.restore
  | .yield loc d e => .yield loc d (restoreOpt e)
  | .jsx loc e => .jsx loc e.restore
  | .array loc es => .array loc (restoreElems es)
  | .bigInt loc t => .bigInt loc t
  | .bool loc b => .bool loc b
  | .null loc => .null loc
  | .num loc n => .num loc n
  | .object loc ms => .object loc (restoreObj ms)
  | .regex loc t => .regex loc t
  | .str loc v => .str loc v
  | .template loc ps => .template loc (restoreTemplate ps)
  | .target p => .target p.restore

/-- An expression that may be missing. -/
def restoreOpt : Option Expr → Option Expr
  | none => none
  | some e => some e.restore

/-- A function. -/
def Func.restore : Func → Func
  | ⟨isArrow, isAsync, isGenerator, params, body⟩ =>
    ⟨isArrow, isAsync, isGenerator, restoreParams params, body.restore⟩

/-- The body of a function. -/
def FuncBody.restore : FuncBody → FuncBody
  | .block body => .block (restoreStmts body)
  | .expr e => .expr e.restore

/-- Parameters. -/
def restoreParams : List Param → List Param
  | [] => []
  | ⟨isRest, b⟩ :: ps => ⟨isRest, b.restore⟩ :: restoreParams ps

/-- A pattern with its value. -/
def Binder.restore : Binder → Binder
  | ⟨target, init⟩ => ⟨target.restore, restoreOpt init⟩

/-- Bindings. -/
def restoreBinders : List Binder → List Binder
  | [] => []
  | b :: bs => b.restore :: restoreBinders bs

/-- Arguments. -/
def restoreArgs : List Arg → List Arg
  | [] => []
  | ⟨isSpread, e⟩ :: as => ⟨isSpread, e.restore⟩ :: restoreArgs as

/-- The parts of a template. -/
def restoreTemplate : List TemplatePart → List TemplatePart
  | [] => []
  | .text raw :: ps => .text raw :: restoreTemplate ps
  | .subst e :: ps => .subst e.restore :: restoreTemplate ps

/-- The elements of an array literal. -/
def restoreElems : List ArrayElem → List ArrayElem
  | [] => []
  | .item e :: es => .item e.restore :: restoreElems es
  | .spread e :: es => .spread e.restore :: restoreElems es
  | .hole :: es => .hole :: restoreElems es

/-- A key. -/
def Key.restore : Key → Key
  | .direct text kind => .direct text kind
  | .computed e => .computed e.restore

/-- What a member holds. -/
def Member.restore : Member → Member
  | .getter f => .getter f.restore
  | .setter f => .setter f.restore
  | .method f => .method f.restore
  | .field e => .field (restoreOpt e)
  | .staticBlock body => .staticBlock (restoreStmts body)

/-- The members of an object literal.  A shorthand has its name where the member starts, and so has
the read that was made from it; any other value stands behind a key. -/
def restoreObj : List ObjMember → List ObjMember
  | [] => []
  | .valued loc key m :: ms =>
    (match m.read? with
      | some id =>
        if loc.start = id.loc.start then .shorthand loc id else .valued loc key.restore m.restore
      | none => .valued loc key.restore m.restore) :: restoreObj ms
  | .shorthand loc id :: ms => .shorthand loc id.forget :: restoreObj ms
  | .spread loc e :: ms => .spread loc e.restore :: restoreObj ms

/-- The members of a class. -/
def restoreClass : List ClassMember → List ClassMember
  | [] => []
  | ⟨key, isStatic, m⟩ :: ms => ⟨key.restore, isStatic, m.restore⟩ :: restoreClass ms

/-- A pattern. -/
def Pat.restore : Pat → Pat
  | .ident id => .ident id.forget
  | .array loc elems none => .array loc (restoreElemPats elems) none
  | .array loc elems (some rest) => .array loc (restoreElemPats elems) (some rest.restore)
  | .object loc props rest => .object loc (restoreProps props) (rest.map Ident.forget)

/-- The elements of an array pattern. -/
def restoreElemPats : List (Option Binder) → List (Option Binder)
  | [] => []
  | none :: es => none :: restoreElemPats es
  | some b :: es => some b.restore :: restoreElemPats es

/-- The properties of an object pattern. -/
def restoreProps : List PropPat → List PropPat
  | [] => []
  | ⟨key, b, isShorthand⟩ :: ps => ⟨key.restore, b.restore, isShorthand⟩ :: restoreProps ps

/-- An element. -/
def JsxElem.restore : JsxElem → JsxElem
  | ⟨tag, attrs, children⟩ =>
    ⟨tag.map JsxTag.restore, restoreAttrs attrs, restoreContents children⟩

/-- The attributes of an element. -/
def restoreAttrs : List JsxAttr → List JsxAttr
  | [] => []
  | .named name none :: as => .named name none :: restoreAttrs as
  | .named name (some c) :: as => .named name (some c.restore) :: restoreAttrs as
  | .spread e :: as => .spread e.restore :: restoreAttrs as

/-- The value of an attribute or a child of an element. -/
def JsxContent.restore : JsxContent → JsxContent
  | .container e => .container (restoreOpt e)
  | .text raw => .text raw
  | .elem e => .elem e.restore

/-- The children of an element. -/
def restoreContents : List JsxContent → List JsxContent
  | [] => []
  | c :: cs => c.restore :: restoreContents cs

/-- A statement with its inserted reads turned back. -/
def Stmt.restore : Stmt → Stmt
  | .block loc body => .block loc (restoreStmts body)
  | .breakTo loc l => .breakTo loc l
  | .continueTo loc l => .continueTo loc l
  | .debugger loc => .debugger loc
  | .doWhile loc body test => .doWhile loc body.restore test.restore
  | .empty loc => .empty loc
  | .exportDefault loc e => .exportDefault loc e.restore
  | .exportList loc names source => .exportList loc names.restore source
  | .expr loc e => .expr loc e.restore
  | .forIn loc t e body => .forIn loc t.restore e.restore body.restore
  | .forOf loc w t e body => .forOf loc w t.restore e.restore body.restore
  | .forLoop loc init test post body =>
    .forLoop loc init.restore (restoreOpt test) (restoreOpt post) body.restore
  | .ifElse loc test c none => .ifElse loc test.restore c.restore none
  | .ifElse loc test c (some e) => .ifElse loc test.restore c.restore (some e.restore)
  | .importDecl loc d none m => .importDecl loc (restoreOptPat d) none m
  | .importDecl loc d (some names) m => .importDecl loc (restoreOptPat d) (some names.restore) m
  | .label loc n body => .label loc n body.restore
  | .returnValue loc e => .returnValue loc (restoreOpt e)
  | .switch loc e cs => .switch loc e.restore (restoreCases cs)
  | .throw loc e => .throw loc e.restore
  | .tryCatch loc body handler finalizer =>
    .tryCatch loc (restoreStmts body) (restoreCatch handler) (restoreBlock finalizer)
  | .while loc test body => .while loc test.restore body.restore
  | .withObject loc e body => .withObject loc e.restore body.restore
  | .classDecl loc x d n p ms =>
    .classDecl loc x d (n.map Ident.forget) (restoreOpt p) (restoreClass ms)
  | .funcDecl loc x d n f => .funcDecl loc x d (n.map Ident.forget) f.restore
  | .varDecl loc x m bs => .varDecl loc x m (restoreBinders bs)

/-- Statements. -/
def restoreStmts : List Stmt → List Stmt
  | [] => []
  | s :: ss => s.restore :: restoreStmts ss

/-- Statements that may be missing. -/
def restoreBlock : Option (List Stmt) → Option (List Stmt)
  | none => none
  | some ss => some (restoreStmts ss)

/-- The handler of a try statement, if it has one. -/
def restoreCatch : Option Catch → Option Catch
  | none => none
  | some ⟨param, body⟩ => some ⟨restoreOptPat param, restoreStmts body⟩

/-- A pattern that may be missing. -/
def restoreOptPat : Option Pat → Option Pat
  | none => none
  | some p => some p.restore

/-- The first part of the head of a loop. -/
def ForInit.restore : ForInit → ForInit
  | .absent => .absent
  | .expr e => .expr e.restore
  | .decl mode bs => .decl mode (restoreBinders bs)

/-- What a loop over an object assigns to. -/
def ForTarget.restore : ForTarget → ForTarget
  | .assign p => .assign p.restore
  | .decl mode p => .decl mode p.restore

/-- The branches of a switch. -/
def restoreCases : List SwitchCase → List SwitchCase
  | [] => []
  | ⟨test, body⟩ :: cs => ⟨restoreOpt test, restoreStmts body⟩ :: restoreCases cs

/-- What an import names. -/
def ImportNames.restore : ImportNames → ImportNames
  | .all p => .all p.restore
  | .specific names => .specific (restoreSpecs names)

/-- The items of an import list. -/
def restoreSpecs : List ImportSpec → List ImportSpec
  | [] => []
  | ⟨imported, p⟩ :: ss => ⟨imported, p.restore⟩ :: restoreSpecs ss

end

/-! ### Results of the analysis -/

/-- Every result of the computation has the property. -/
def Yields {α : Type} (m : Scoping α) (P : α → Prop) : Prop := ∀ t, P (m t).1

namespace Yields

variable {α β : Type} {m : Scoping α} {P : α → Prop} {Q : β → Prop}

theorem pure {a : α} (h : P a) : Yields (Pure.pure a) P := fun _ => h

theorem bind {k : α → Scoping β} (hm : Yields m P) (hk : ∀ a, P a → Yields (k a) Q) :
    Yields (m >>= k) Q :=
  fun t => hk (m t).1 (hm t) (m t).2

/-- The last part of a computation, which only builds the result. -/
theorem map {k : α → β} (hm : Yields m P) (hk : ∀ a, P a → Q (k a)) :
    Yields (m >>= fun a => Pure.pure (k a)) Q :=
  hm.bind fun a ha => .pure (hk a ha)

theorem both {P' : α → Prop} (h : Yields m P) (h' : Yields m P') :
    Yields m fun a => P a ∧ P' a :=
  fun t => ⟨h t, h' t⟩

/-- A computation whose first result does not matter. -/
theorem skip {k : α → Scoping β} (hk : ∀ a, Yields (k a) Q) : Yields (m >>= k) Q :=
  fun t => hk (m t).1 (m t).2

theorem declare (s : ScopeId) {id : Ident} (h : id.mention = .unknown) :
    Yields (Scoping.declare s id) fun x => x.forget = id := by
  intro t
  change Ident.mk id.name id.loc .unknown = id
  rw [← h]

theorem declare? (s : ScopeId) {name : Option Ident} (h : ∀ id ∈ name, id.mention = .unknown) :
    Yields (Scoping.declare? s name) fun x => x.map Ident.forget = name := by
  cases name with
  | none => exact .pure rfl
  | some id =>
    refine .map (declare s (h id rfl)) fun x hx => ?_
    rw [Option.map_some, hx]

theorem bound (home : Option ScopeId) (s : ScopeId) {id : Ident} (h : id.mention = .unknown) :
    Yields (Scoping.bind home s id) fun x => x.forget = id := by
  cases home with
  | none =>
    refine .pure ?_
    change Ident.mk id.name id.loc .unknown = id
    rw [← h]
  | some d => exact declare d h

theorem rest? (home : Option ScopeId) (s : ScopeId) {rest : Option Ident}
    (h : ∀ id ∈ rest, id.mention = .unknown) :
    Yields (Scoping.bind? home s rest) fun x => x.map Ident.forget = rest := by
  cases rest with
  | none => exact .pure rfl
  | some id =>
    refine .map (bound home s (h id rfl)) fun x hx => ?_
    rw [Option.map_some, hx]

/-- The analysis makes no registry. -/
theorem not_inserted (s : ScopeId) (e : Expr) :
    Yields (e.inScope s) fun x => x.isInserted = false := by
  intro t
  cases e with
  | ident id => exact Bool.and_false (id.name == registryName)
  | construct loc f args => cases args <;> rfl
  | _ => rfl

end Yields

/-! ### One use -/

/-- Aliases under which every use is registered by its own name. -/
def Aliases.KeepNames (a : Aliases) : Prop :=
  ∀ (s : ScopeId) (id : Ident) (n : String), a (Scoping.use s id) = some n → n = id.name

section

variable {a : Aliases} {id : Ident}

theorem forget_use (s : ScopeId) (h : id.mention = .unknown) : (Scoping.use s id).forget = id := by
  change Ident.mk id.name id.loc .unknown = id
  rw [← h]

theorem isInserted_use (s : ScopeId) (id : Ident) : (Scoping.use s id).isInserted = false :=
  Bool.and_false (id.name == registryName)

theorem eq_of_alias (ha : a.KeepNames) {s : ScopeId} {n : String}
    (hn : a (Scoping.use s id) = some n) (h : id.mention = .unknown) :
    Ident.mk n id.loc .unknown = id := by
  rw [ha s id n hn, ← h]

theorem read?_registryRead (loc : Loc) (n : String) :
    (registryRead loc n).read? = some ⟨n, loc, .unknown⟩ := rfl

theorem restore_of_read? {e : Expr} (h : e.read? = some id) : e.restore = .ident id := by
  cases e with
  | member loc o e p =>
    change (match (Expr.member loc o e p).read? with
      | some id => Expr.ident id
      | none => .member loc o e.restore p) = _
    rw [h]
  | _ => exact nomatch h

theorem restore_redirectIdent (ha : a.KeepNames) (s : ScopeId) (h : id.mention = .unknown) :
    (redirectIdent a (Scoping.use s id)).restore = .ident id := by
  rw [redirectIdent]
  split
  · rename_i n hn
    rw [restore_of_read? (read?_registryRead _ n)]
    exact congrArg Expr.ident (eq_of_alias ha hn h)
  · exact congrArg Expr.ident (forget_use s h)

/-- A value that reads the registry is a shorthand again if it stands where the member starts. -/
theorem restoreObj_read {m : Member} (h : m.read? = some id) {loc : Loc} {key : Key}
    {ms : List ObjMember} : restoreObj (.valued loc key m :: ms) =
      (if loc.start = id.loc.start then .shorthand loc id
        else .valued loc key.restore m.restore) :: restoreObj ms := by
  change (match m.read? with
    | some id =>
      if loc.start = id.loc.start then ObjMember.shorthand loc id
      else .valued loc key.restore m.restore
    | none => .valued loc key.restore m.restore) :: restoreObj ms = _
  rw [h]

theorem restoreObj_redirectShorthand (ha : a.KeepNames) (s : ScopeId) {loc : Loc}
    (h : id.mention = .unknown) (hloc : loc.start = id.loc.start) (ms : List ObjMember) :
    restoreObj (redirectShorthand a loc (Scoping.use s id) :: ms) =
      .shorthand loc id :: restoreObj ms := by
  rw [redirectShorthand]
  split
  · rename_i n hn
    have hread : (Member.field (some (registryRead (Scoping.use s id).loc n))).read? = some id :=
      (read?_registryRead _ n).trans (congrArg some (eq_of_alias ha hn h))
    rw [restoreObj_read hread, if_pos hloc]
  · exact congrArg (fun id => ObjMember.shorthand loc id :: restoreObj ms) (forget_use s h)

theorem restore_tag_member {base : Ident} {path : List String} (h : base.isInserted = false) :
    (JsxTag.member base path).restore = .member base.forget path := by
  simp only [JsxTag.restore, h]

theorem restore_redirectTag (ha : a.KeepNames) (s : ScopeId) {tag : Option JsxTag}
    (h : ∀ t ∈ tag, t.Formed) :
    ((Scoping.useTag s tag).map (redirectTag a)).map JsxTag.restore = tag := by
  match tag with
  | none => rfl
  | some (.name n) => rfl
  | some (.ident id) =>
    have hid := (h _ rfl).1
    rw [Scoping.useTag, Option.map_some, redirectTag]
    split
    · rename_i n hn
      exact congrArg (some ∘ JsxTag.ident) (eq_of_alias ha hn hid)
    · exact congrArg (some ∘ JsxTag.ident) (forget_use s hid)
  | some (.member base []) => exact absurd rfl (h _ rfl).2.2.1
  | some (.member base (p :: path)) =>
    have hid := (h _ rfl).1
    rw [Scoping.useTag, Option.map_some, redirectTag]
    split
    · rename_i n hn
      exact congrArg (fun b => some (JsxTag.member b (p :: path))) (eq_of_alias ha hn hid)
    · rw [Option.map_some, restore_tag_member (isInserted_use s base), forget_use s hid]

/-- Replacing uses makes no registry out of an expression: a read of the registry is a member. -/
theorem isInserted_redirect {e : Expr} (h : e.isInserted = false) :
    (e.redirect a).isInserted = false := by
  cases e with
  | ident id =>
    change (redirectIdent a id).isInserted = false
    rw [redirectIdent]
    split
    · rfl
    · exact h
  | construct loc f args => cases args <;> rfl
  | _ => rfl

theorem restore_redirect_member {e : Expr} (h : e.isInserted = false) (loc : Loc) (o : Bool)
    (p : String) :
    ((Expr.member loc o e p).redirect a).restore = .member loc o (e.redirect a).restore p := by
  have hread : (Expr.member loc o (e.redirect a) p).read? = none := by
    cases o with
    | true => rfl
    | false => rw [Expr.read?, isInserted_redirect h]; rfl
  change (match (Expr.member loc o (e.redirect a) p).read? with
    | some id => Expr.ident id
    | none => .member loc o (e.redirect a).restore p) = _
  rw [hread]

/-- A property whose value stands behind its key is no shorthand. -/
theorem restoreObj_valued {loc : Loc} {key : Key} {m : Member} (ms : List ObjMember)
    (h : m.restore.NameAfter loc.start) :
    restoreObj (.valued loc key m :: ms) =
      .valued loc key.restore m.restore :: restoreObj ms := by
  cases hread : m.read? with
  | some id =>
    rw [restoreObj_read hread, if_neg]
    intro heq
    have hname : m.restore = .field (some (.ident id)) := by
      match m, hread with
      | .field (some e), hid => exact congrArg (Member.field ∘ some) (restore_of_read? hid)
    rw [hname] at h
    exact absurd h (by simp [Member.NameAfter, heq])
  | none =>
    change (match m.read? with
      | some id =>
        if loc.start = id.loc.start then ObjMember.shorthand loc id
        else .valued loc key.restore m.restore
      | none => .valued loc key.restore m.restore) :: restoreObj ms = _
    rw [hread]

end

theorem Pat.IsFresh.formed {ctx : Context} {p : Pat} (h : p.IsFresh ctx) : p.Formed ctx := by
  cases p with
  | ident id => exact h
  | _ => exact nomatch h

theorem optPatFormed_of_fresh {ctx : Context} {d : Option Pat} (h : ∀ p ∈ d, p.IsFresh ctx) :
    optPatFormed ctx d := by
  cases d with
  | none => trivial
  | some p => exact (h p rfl).formed

theorem restore_unbound {ctx : Context} {source : Option String} {names : ExportNames}
    (h : names.Formed ctx source) : (Scoping.unbound names).restore = names := by
  match names, h with
  | .specific _, _ => rfl
  | .all none, _ => rfl
  | .all (some id), h =>
    have hid : id.mention = .unknown := (h.2 id rfl).1
    change ExportNames.all (some ⟨id.name, id.loc, .unknown⟩) = .all (some id)
    rw [← hid]

/-! ### A whole tree

The induction is on the tree that was read.  Its analysis is known only up to what `Yields` tells:
that replacing the uses in it and turning the reads back gives the tree again. -/

section

variable {a : Aliases} (ha : a.KeepNames)

include ha

set_option linter.unusedSectionVars false

mutual

theorem Expr.restores (ctx : Context) (s : ScopeId) : ∀ e : Expr, e.Formed ctx →
    Yields (e.inScope s) fun x => (x.redirect a).restore = e
  | .ident _, h => .pure (restore_redirectIdent ha s h.1)
  | .arrow loc f, h => .map (f.restores ctx true s h) fun _ hf => congrArg (Expr.arrow loc) hf
  | .binary loc op l r, ⟨.inl ⟨_, hl⟩, hr⟩ => .bind (l.target_restores ctx op s hl) fun _ hl =>
    .map (r.restores ctx s hr) fun _ hr => congrArg₂ (Expr.binary loc op) hl hr
  | .binary loc op l r, ⟨.inr ⟨_, hl⟩, hr⟩ => .bind (l.restores ctx s hl) fun _ hl =>
    .map (r.restores ctx s hr) fun _ hr => congrArg₂ (Expr.binary loc op) hl hr
  | .call loc o f args, ⟨hf, hargs⟩ => .bind (f.restores ctx s hf) fun _ hf =>
    .map (args_restore ctx s args hargs) fun _ hargs => congrArg₂ (Expr.call loc o) hf hargs
  | .classExpr loc name parent members, ⟨hname, hparent, hmembers⟩ => .skip fun i =>
    .bind (.declare? i fun id hid => (hname id hid).1) fun _ hname =>
    .bind (opt_restores ctx i parent hparent) fun _ hparent =>
    .map (class_restores ctx i members hmembers) fun _ hmembers => by
      change Expr.classExpr loc _ _ _ = _
      rw [hname, hparent, hmembers]
  | .index loc o e k, ⟨he, hk⟩ => .bind (e.restores ctx s he) fun _ he =>
    .map (k.restores ctx s hk) fun _ hk => congrArg₂ (Expr.index loc o) he hk
  | .cond loc t c e, ⟨ht, hc, he⟩ => .bind (t.restores ctx s ht) fun _ ht =>
    .bind (c.restores ctx s hc) fun _ hc =>
    .map (e.restores ctx s he) fun _ he => by
      change Expr.cond loc _ _ _ = _
      rw [ht, hc, he]
  | .func loc name f, ⟨hname, hf⟩ => .skip fun i =>
    .bind (.declare? i fun id hid => (hname id hid).1) fun _ hname =>
    .map (f.restores ctx false i hf) fun _ hf => congrArg₂ (Expr.func loc) hname hf
  | .importCall loc m, h => .map (m.restores ctx s h) fun _ hm => congrArg (Expr.importCall loc) hm
  | .member loc o e p, ⟨he, _⟩ => .map (.both (e.restores ctx s he) (.not_inserted s e))
    fun _ he => (restore_redirect_member he.2 loc o p).trans
      (congrArg (fun e => Expr.member loc o e p) he.1)
  | .construct loc f none, ⟨hf, _⟩ => .map (f.restores ctx s hf) fun _ hf =>
    congrArg (fun f => Expr.construct loc f none) hf
  | .construct loc f (some args), ⟨hf, hargs⟩ => .bind (f.restores ctx s hf) fun _ hf =>
    .map (args_restore ctx s args hargs) fun _ hargs =>
      congrArg₂ (fun f args => Expr.construct loc f (some args)) hf hargs
  | .tagged loc t ps, ⟨ht, hps⟩ => .bind (t.restores ctx s ht) fun _ ht =>
    .map (template_restores ctx s ps (.inl hps)) fun _ hps => congrArg₂ (Expr.tagged loc) ht hps
  | .unary loc op e, ⟨_, _, he⟩ => .map (e.restores ctx s he) fun _ he =>
    congrArg (Expr.unary loc op) he
  | .update loc op e, ⟨_, he⟩ => .map (e.restores ctx s he) fun _ he =>
    congrArg (Expr.update loc op) he
  | .yield loc d e, ⟨_, _, he⟩ => .map (opt_restores ctx s e he) fun _ he =>
    congrArg (Expr.yield loc d) he
  | .jsx loc e, h => .map (e.restores ctx s h) fun _ he => congrArg (Expr.jsx loc) he
  | .array loc es, h => .map (elems_restore ctx s es h) fun _ hes => congrArg (Expr.array loc) hes
  | .object loc ms, h => .map (obj_restores ctx s ms h) fun _ hms => congrArg (Expr.object loc) hms
  | .template loc ps, h => .map (template_restores ctx s ps (.inl h)) fun _ hps =>
    congrArg (Expr.template loc) hps
  | .importMeta _, _ | .newTarget _, _ | .superRef _, _ | .this _, _ | .bigInt _ _, _
  | .bool _ _, _ | .null _, _ | .num _ _, _ | .regex _ _, _ | .str _ _, _ => .pure rfl

theorem Expr.target_restores (ctx : Context) (op : Operator) (s : ScopeId) : ∀ e : Expr,
    e.TargetFormed ctx op → Yields (e.inScope s) fun x => (x.redirect a).restore = e
  | .target p, ⟨hp, _⟩ => .map (p.restores ctx none s hp) fun _ hp => congrArg Expr.target hp
  | .member loc o e p, ⟨he, _⟩ => .map (.both (e.restores ctx s he) (.not_inserted s e))
    fun _ he => (restore_redirect_member he.2 loc o p).trans
      (congrArg (fun e => Expr.member loc o e p) he.1)
  | .index loc o e k, ⟨he, hk⟩ => .bind (e.restores ctx s he) fun _ he =>
    .map (k.restores ctx s hk) fun _ hk => congrArg₂ (Expr.index loc o) he hk

theorem opt_restores (ctx : Context) (s : ScopeId) : ∀ e : Option Expr, optFormed ctx e →
    Yields (optInScope s e) fun x => restoreOpt (redirectOpt a x) = e
  | none, _ => .pure rfl
  | some e, h => .map (e.restores ctx s h) fun _ he => congrArg some he

theorem Func.restores (ctx : Context) (arrow : Bool) (s : ScopeId) : ∀ f : Func,
    f.Formed ctx arrow → Yields (f.inScope s) fun x => (x.redirect a).restore = f
  | ⟨isArrow, isAsync, isGenerator, params, body⟩, ⟨_, _, _, hparams, hbody⟩ => .skip fun i =>
    .bind (params_restore _ i params hparams) fun _ hparams =>
    .map (body.restores _ i hbody) fun _ hbody =>
      congrArg₂ (Func.mk isArrow isAsync isGenerator) hparams hbody

theorem FuncBody.restores (ctx : Context) (s : ScopeId) : ∀ b : FuncBody, b.Formed ctx →
    Yields (b.inScope s) fun x => (x.redirect a).restore = b
  | .block body, h => .map (stmts_restore ctx s body h) fun _ hb => congrArg FuncBody.block hb
  | .expr e, h => .map (e.restores ctx s h) fun _ he => congrArg FuncBody.expr he

theorem params_restore (ctx : Context) (s : ScopeId) : ∀ ps : List Param, paramsFormed ctx ps →
    Yields (paramsInScope s ps) fun x => restoreParams (redirectParams a x) = ps
  | [], _ => .pure rfl
  | ⟨isRest, ⟨target, init⟩⟩ :: ps, ⟨⟨htarget, hinit⟩, hps⟩ => .skip fun _ =>
    .bind (target.restores ctx (some s) s htarget) fun _ htarget =>
    .bind (opt_restores ctx s init hinit) fun _ hinit =>
    .map (params_restore ctx s ps hps) fun _ hps =>
      congrArg₂ (fun b ps => Param.mk isRest b :: ps) (congrArg₂ Binder.mk htarget hinit) hps

theorem binders_restore (ctx : Context) (home s : ScopeId) : ∀ bs : List Binder,
    bindersFormed ctx bs →
    Yields (bindersInScope home s bs) fun x => restoreBinders (redirectBinders a x) = bs
  | [], _ => .pure rfl
  | ⟨target, init⟩ :: bs, ⟨⟨htarget, hinit⟩, hbs⟩ => .skip fun _ =>
    .bind (target.restores ctx (some home) s htarget) fun _ htarget =>
    .bind (opt_restores ctx s init hinit) fun _ hinit =>
    .map (binders_restore ctx home s bs hbs) fun _ hbs =>
      congrArg₂ List.cons (congrArg₂ Binder.mk htarget hinit) hbs

theorem args_restore (ctx : Context) (s : ScopeId) : ∀ args : List Arg, argsFormed ctx args →
    Yields (argsInScope s args) fun x => restoreArgs (redirectArgs a x) = args
  | [], _ => .pure rfl
  | ⟨isSpread, e⟩ :: as, ⟨he, has⟩ => .bind (e.restores ctx s he) fun _ he =>
    .map (args_restore ctx s as has) fun _ has =>
      congrArg₂ (fun e as => Arg.mk isSpread e :: as) he has

theorem template_restores (ctx : Context) (s : ScopeId) : ∀ ps : List TemplatePart,
    partsFormed ctx ps ∨ substsFormed ctx ps →
    Yields (templateInScope s ps) fun x => restoreTemplate (redirectTemplate a x) = ps
  | [], _ => .pure rfl
  | .text raw :: ps, .inl ⟨_, hps⟩ => .map (template_restores ctx s ps (.inr hps)) fun _ hps =>
    congrArg (List.cons (TemplatePart.text raw)) hps
  | .subst e :: ps, .inr ⟨he, hps⟩ => .bind (e.restores ctx s he) fun _ he =>
    .map (template_restores ctx s ps (.inl hps)) fun _ hps =>
      congrArg₂ (fun e ps => TemplatePart.subst e :: ps) he hps

theorem elems_restore (ctx : Context) (s : ScopeId) : ∀ es : List ArrayElem, elemsFormed ctx es →
    Yields (elemsInScope s es) fun x => restoreElems (redirectElems a x) = es
  | [], _ => .pure rfl
  | .item e :: es, ⟨he, hes⟩ => .bind (e.restores ctx s he) fun _ he =>
    .map (elems_restore ctx s es hes) fun _ hes =>
      congrArg₂ (fun e es => ArrayElem.item e :: es) he hes
  | .spread e :: es, ⟨he, hes⟩ => .bind (e.restores ctx s he) fun _ he =>
    .map (elems_restore ctx s es hes) fun _ hes =>
      congrArg₂ (fun e es => ArrayElem.spread e :: es) he hes
  | .hole :: es, h => .map (elems_restore ctx s es h) fun _ hes =>
    congrArg (List.cons ArrayElem.hole) hes

theorem Key.restores (ctx : Context) (allowPrivate : Bool) (s : ScopeId) : ∀ k : Key,
    k.Formed ctx allowPrivate → Yields (k.inScope s) fun x => (x.redirect a).restore = k
  | .direct _ _, _ => .pure rfl
  | .computed e, h => .map (e.restores ctx s h) fun _ he => congrArg Key.computed he

theorem Member.restores (ctx : Context) (s : ScopeId) : ∀ m : Member, m.Formed ctx →
    Yields (m.inScope s) fun x => (x.redirect a).restore = m
  | .getter f, ⟨_, hf⟩ => .map (f.restores ctx false s hf) fun _ hf => congrArg Member.getter hf
  | .setter f, ⟨_, hf⟩ => .map (f.restores ctx false s hf) fun _ hf => congrArg Member.setter hf
  | .method f, h => .map (f.restores ctx false s h) fun _ hf => congrArg Member.method hf
  | .field e, h => .map (opt_restores ctx s e h) fun _ he => congrArg Member.field he
  | .staticBlock body, h => .skip fun i => .map (stmts_restore _ i body h) fun _ hb =>
    congrArg Member.staticBlock hb

theorem obj_restores (ctx : Context) (s : ScopeId) : ∀ ms : List ObjMember, objFormed ctx ms →
    Yields (objInScope s ms) fun x => restoreObj (redirectObj a x) = ms
  | [], _ => .pure rfl
  | .valued loc key m :: ms, ⟨⟨hkey, _, hafter, hm⟩, hms⟩ =>
    .bind (key.restores ctx false s hkey) fun _ hkey => .bind (m.restores ctx s hm) fun _ hm =>
    .map (obj_restores ctx s ms hms) fun _ hms => by
      refine (restoreObj_valued _ (hm ▸ hafter)).trans ?_
      rw [hkey, hm, hms]
  | .shorthand loc id :: ms, ⟨⟨hid, hloc⟩, hms⟩ => .map (obj_restores ctx s ms hms) fun _ hms => by
    refine (restoreObj_redirectShorthand ha s hid.1 hloc _).trans ?_
    rw [hms]
  | .spread loc e :: ms, ⟨he, hms⟩ => .bind (e.restores ctx s he) fun _ he =>
    .map (obj_restores ctx s ms hms) fun _ hms =>
      congrArg₂ (fun e ms => ObjMember.spread loc e :: ms) he hms

theorem class_restores (ctx : Context) (s : ScopeId) : ∀ ms : List ClassMember,
    classFormed ctx ms → Yields (classInScope s ms) fun x => restoreClass (redirectClass a x) = ms
  | [], _ => .pure rfl
  | ⟨key, isStatic, m⟩ :: ms, ⟨⟨hkey, _, hm⟩, hms⟩ =>
    .bind (key.restores ctx true s hkey) fun _ hkey => .bind (m.restores ctx s hm) fun _ hm =>
    .map (class_restores ctx s ms hms) fun _ hms =>
      congrArg₂ List.cons (congrArg₂ (ClassMember.mk · isStatic ·) hkey hm) hms

theorem Pat.restores (ctx : Context) (home : Option ScopeId) (s : ScopeId) : ∀ p : Pat,
    p.Formed ctx → Yields (p.inScope home s) fun x => (x.redirect a).restore = p
  | .ident _, h => .map (.bound home s h.1) fun _ hid => congrArg Pat.ident hid
  | .array loc elems none, ⟨helems, _⟩ => .map (elemPats_restore ctx home s elems helems)
    fun _ helems => congrArg (fun es => Pat.array loc es none) helems
  | .array loc elems (some rest), ⟨helems, hrest⟩ =>
    .bind (elemPats_restore ctx home s elems helems) fun _ helems =>
    .map (rest.restores ctx home s hrest) fun _ hrest =>
      congrArg₂ (fun es r => Pat.array loc es (some r)) helems hrest
  | .object loc props _, ⟨hprops, hrest⟩ =>
    .bind (props_restore ctx home s props hprops) fun _ hprops =>
    .map (.rest? home s fun id hid => (hrest id hid).1) fun _ hrest =>
      congrArg₂ (Pat.object loc) hprops hrest

theorem elemPats_restore (ctx : Context) (home : Option ScopeId) (s : ScopeId) :
    ∀ es : List (Option Binder), elemPatsFormed ctx es →
    Yields (elemPatsInScope home s es) fun x => restoreElemPats (redirectElemPats a x) = es
  | [], _ => .pure rfl
  | none :: es, h => .map (elemPats_restore ctx home s es h) fun _ hes =>
    congrArg (List.cons none) hes
  | some ⟨target, init⟩ :: es, ⟨⟨htarget, hinit⟩, hes⟩ =>
    .bind (target.restores ctx home s htarget) fun _ htarget =>
    .bind (opt_restores ctx s init hinit) fun _ hinit =>
    .map (elemPats_restore ctx home s es hes) fun _ hes =>
      congrArg₂ (fun b es => some b :: es) (congrArg₂ Binder.mk htarget hinit) hes

theorem props_restore (ctx : Context) (home : Option ScopeId) (s : ScopeId) :
    ∀ ps : List PropPat, propsFormed ctx ps →
    Yields (propsInScope home s ps) fun x => restoreProps (redirectProps a x) = ps
  | [], _ => .pure rfl
  | ⟨key, ⟨target, init⟩, isShorthand⟩ :: ps, ⟨⟨hkey, htarget, hinit⟩, hps⟩ =>
    .bind (key.restores ctx false s hkey) fun _ hkey =>
    .bind (target.restores ctx home s htarget) fun _ htarget =>
    .bind (opt_restores ctx s init hinit) fun _ hinit =>
    .map (props_restore ctx home s ps hps) fun _ hps => by
      change PropPat.mk _ ⟨_, _⟩ isShorthand :: _ = _
      rw [hkey, htarget, hinit, hps]

theorem JsxElem.restores (ctx : Context) (s : ScopeId) : ∀ e : JsxElem, e.Formed ctx →
    Yields (e.inScope s) fun x => (x.redirect a).restore = e
  | ⟨tag, attrs, children⟩, ⟨htag, _, hattrs, hchildren⟩ =>
    .bind (attrs_restore ctx s attrs hattrs) fun _ hattrs =>
    .map (contents_restore ctx s children hchildren) fun _ hchildren => by
      change JsxElem.mk (((Scoping.useTag s tag).map (redirectTag a)).map JsxTag.restore) _ _ = _
      rw [restore_redirectTag ha s htag, hattrs, hchildren]

theorem attrs_restore (ctx : Context) (s : ScopeId) : ∀ as : List JsxAttr, attrsFormed ctx as →
    Yields (attrsInScope s as) fun x => restoreAttrs (redirectAttrs a x) = as
  | [], _ => .pure rfl
  | .named name none :: as, ⟨_, has⟩ => .map (attrs_restore ctx s as has) fun _ has =>
    congrArg (List.cons (JsxAttr.named name none)) has
  | .named name (some c) :: as, ⟨⟨_, hc⟩, has⟩ => .bind (c.restores ctx true s hc) fun _ hc =>
    .map (attrs_restore ctx s as has) fun _ has =>
      congrArg₂ (fun c as => JsxAttr.named name (some c) :: as) hc has
  | .spread e :: as, ⟨he, has⟩ => .bind (e.restores ctx s he) fun _ he =>
    .map (attrs_restore ctx s as has) fun _ has =>
      congrArg₂ (fun e as => JsxAttr.spread e :: as) he has

theorem JsxContent.restores (ctx : Context) (inTag : Bool) (s : ScopeId) : ∀ c : JsxContent,
    c.Formed ctx inTag → Yields (c.inScope s) fun x => (x.redirect a).restore = c
  | .container e, h => .map (opt_restores ctx s e h) fun _ he => congrArg JsxContent.container he
  | .text _, _ => .pure rfl
  | .elem e, h => .map (e.restores ctx s h) fun _ he => congrArg JsxContent.elem he

theorem contents_restore (ctx : Context) (s : ScopeId) : ∀ cs : List JsxContent,
    contentsFormed ctx cs →
    Yields (contentsInScope s cs) fun x => restoreContents (redirectContents a x) = cs
  | [], _ => .pure rfl
  | c :: cs, ⟨⟨hc, _⟩, hcs⟩ => .bind (c.restores ctx false s hc) fun _ hc =>
    .map (contents_restore ctx s cs hcs) fun _ hcs => congrArg₂ List.cons hc hcs

theorem Stmt.restores (ctx : Context) (s : ScopeId) : ∀ st : Stmt, st.Formed ctx →
    Yields (st.inScope s) fun x => (x.redirect a).restore = st
  | .block loc body, h => .skip fun i => .map (stmts_restore ctx i body h) fun _ hb =>
    congrArg (Stmt.block loc) hb
  | .doWhile loc body test, ⟨hbody, htest⟩ => .bind (test.restores ctx s htest) fun _ htest =>
    .map (body.restores ctx s hbody) fun _ hbody => congrArg₂ (Stmt.doWhile loc) hbody htest
  | .exportDefault loc e, h => .map (e.restores ctx s h) fun _ he =>
    congrArg (Stmt.exportDefault loc) he
  | .exportList loc names source, h => .pure
    (congrArg (fun names => Stmt.exportList loc names source) (restore_unbound h))
  | .expr loc e, h => .map (e.restores ctx s h) fun _ he => congrArg (Stmt.expr loc) he
  | .forIn loc t e body, ⟨ht, he, hbody⟩ => .skip fun i => .bind (t.restores ctx i ht) fun _ ht =>
    .bind (e.restores ctx i he) fun _ he => .map (body.restores ctx i hbody) fun _ hbody => by
      change Stmt.forIn loc _ _ _ = _
      rw [ht, he, hbody]
  | .forOf loc w t e body, ⟨ht, he, hbody⟩ => .skip fun i =>
    .bind (t.restores ctx i ht) fun _ ht => .bind (e.restores ctx i he) fun _ he =>
    .map (body.restores ctx i hbody) fun _ hbody => by
      change Stmt.forOf loc w _ _ _ = _
      rw [ht, he, hbody]
  | .forLoop loc init test post body, ⟨hinit, htest, hpost, hbody⟩ => .skip fun i =>
    .bind (init.restores ctx i hinit) fun _ hinit =>
    .bind (opt_restores ctx i test htest) fun _ htest =>
    .bind (opt_restores ctx i post hpost) fun _ hpost =>
    .map (body.restores ctx i hbody) fun _ hbody => by
      change Stmt.forLoop loc _ _ _ _ = _
      rw [hinit, htest, hpost, hbody]
  | .ifElse loc test c none, ⟨htest, hc, _⟩ => .bind (test.restores ctx s htest) fun _ htest =>
    .map (c.restores ctx s hc) fun _ hc =>
      congrArg₂ (fun test c => Stmt.ifElse loc test c none) htest hc
  | .ifElse loc test c (some e), ⟨htest, hc, _, he⟩ =>
    .bind (test.restores ctx s htest) fun _ htest => .bind (c.restores ctx s hc) fun _ hc =>
    .map (e.restores ctx s he) fun _ he => by
      change Stmt.ifElse loc _ _ (some _) = _
      rw [htest, hc, he]
  | .importDecl loc d none m, ⟨hd, _⟩ => .map (declared_restores ctx s d (optPatFormed_of_fresh hd))
    fun _ hd => congrArg (fun d => Stmt.importDecl loc d none m) hd
  | .importDecl loc d (some names) m, ⟨hd, hnames⟩ =>
    .bind (declared_restores ctx s d (optPatFormed_of_fresh hd)) fun _ hd =>
    .map (names.restores ctx s (hnames names rfl)) fun _ hnames =>
      congrArg₂ (fun d names => Stmt.importDecl loc d (some names) m) hd hnames
  | .label loc n body, ⟨_, hbody⟩ => .map (body.restores ctx s hbody) fun _ hbody =>
    congrArg (Stmt.label loc n) hbody
  | .returnValue loc e, h => .map (opt_restores ctx s e h) fun _ he =>
    congrArg (Stmt.returnValue loc) he
  | .switch loc e cs, ⟨he, hcs⟩ => .skip fun i => .bind (e.restores ctx i he) fun _ he =>
    .map (cases_restore ctx i cs hcs) fun _ hcs => congrArg₂ (Stmt.switch loc) he hcs
  | .throw loc e, h => .map (e.restores ctx s h) fun _ he => congrArg (Stmt.throw loc) he
  | .tryCatch loc body none none, ⟨hbody, _⟩ => .skip fun i =>
    .bind (stmts_restore ctx i body hbody) fun _ hbody => .pure
      (congrArg (fun body => Stmt.tryCatch loc body none none) hbody)
  | .tryCatch loc body none (some last), ⟨hbody, _, hlast, _⟩ => .skip fun i =>
    .bind (stmts_restore ctx i body hbody) fun body hbody => by
    change Yields (Scoping.child s .block >>= fun i => stmtsInScope i last >>= fun last =>
      pure (Stmt.tryCatch loc body none (some last))) _
    exact .skip fun i => .map (stmts_restore ctx i last hlast) fun _ hlast =>
      congrArg₂ (fun body last => Stmt.tryCatch loc body none (some last)) hbody hlast
  | .tryCatch loc body (some ⟨param, handler⟩) none, ⟨hbody, ⟨hparam, hhandler⟩, _⟩ =>
    .skip fun i => .bind (stmts_restore ctx i body hbody) fun body hbody => by
    change Yields (Scoping.child s .block >>= fun i => declaredInScope i param >>= fun param =>
      stmtsInScope i handler >>= fun handler =>
        pure (Stmt.tryCatch loc body (some ⟨param, handler⟩) none)) _
    exact .skip fun i => .bind (declared_restores ctx i param hparam) fun _ hparam =>
      .map (stmts_restore ctx i handler hhandler) fun _ hhandler => by
      change Stmt.tryCatch loc _ (some ⟨_, _⟩) none = _
      rw [hbody, hparam, hhandler]
  | .tryCatch loc body (some ⟨param, handler⟩) (some last),
      ⟨hbody, ⟨hparam, hhandler⟩, hlast, _⟩ =>
    .skip fun i => .bind (stmts_restore ctx i body hbody) fun body hbody => by
    change Yields (Scoping.child s .block >>= fun i => declaredInScope i param >>= fun param =>
      stmtsInScope i handler >>= fun handler => Scoping.child s .block >>= fun i =>
        stmtsInScope i last >>= fun last =>
          pure (Stmt.tryCatch loc body (some ⟨param, handler⟩) (some last))) _
    exact .skip fun i => .bind (declared_restores ctx i param hparam) fun _ hparam =>
      .bind (stmts_restore ctx i handler hhandler) fun _ hhandler =>
      .skip fun i => .map (stmts_restore ctx i last hlast) fun _ hlast => by
      change Stmt.tryCatch loc _ (some ⟨_, _⟩) (some _) = _
      rw [hbody, hparam, hhandler, hlast]
  | .while loc test body, ⟨htest, hbody⟩ => .bind (test.restores ctx s htest) fun _ htest =>
    .map (body.restores ctx s hbody) fun _ hbody => congrArg₂ (Stmt.while loc) htest hbody
  | .withObject loc e body, ⟨he, hbody⟩ => .bind (e.restores ctx s he) fun _ he =>
    .map (body.restores ctx s hbody) fun _ hbody => congrArg₂ (Stmt.withObject loc) he hbody
  | .classDecl loc x d name parent members, ⟨_, hname, hparent, hmembers⟩ =>
    .bind (.declare? s fun id hid => (hname id hid).1) fun _ hname =>
    .bind (opt_restores ctx s parent hparent) fun _ hparent =>
    .map (class_restores ctx s members hmembers) fun _ hmembers => by
      change Stmt.classDecl loc x d _ _ _ = _
      rw [hname, hparent, hmembers]
  | .funcDecl loc x d name f, ⟨_, hname, hf⟩ =>
    .bind (.declare? s fun id hid => (hname id hid).1) fun _ hname =>
    .map (f.restores ctx false s hf) fun _ hf => congrArg₂ (Stmt.funcDecl loc x d) hname hf
  | .varDecl loc x m bs, ⟨_, hbs⟩ => .skip fun d => .map (binders_restore ctx d s bs hbs)
    fun _ hbs => congrArg (Stmt.varDecl loc x m) hbs
  | .breakTo _ _, _ | .continueTo _ _, _ | .debugger _, _ | .empty _, _ => .pure rfl

theorem stmts_restore (ctx : Context) (s : ScopeId) : ∀ ss : List Stmt, stmtsFormed ctx ss →
    Yields (stmtsInScope s ss) fun x => restoreStmts (redirectStmts a x) = ss
  | [], _ => .pure rfl
  | st :: ss, ⟨hst, hss⟩ => .bind (st.restores ctx s hst) fun _ hst =>
    .map (stmts_restore ctx s ss hss) fun _ hss => congrArg₂ List.cons hst hss

theorem ForInit.restores (ctx : Context) (s : ScopeId) : ∀ i : ForInit, i.Formed ctx →
    Yields (i.inScope s) fun x => (x.redirect a).restore = i
  | .absent, _ => .pure rfl
  | .expr e, h => .map (e.restores ctx s h) fun _ he => congrArg ForInit.expr he
  | .decl mode bs, ⟨_, hbs⟩ => .skip fun d => .map (binders_restore ctx d s bs hbs) fun _ hbs =>
    congrArg (ForInit.decl mode) hbs

theorem ForTarget.restores (ctx : Context) (s : ScopeId) : ∀ t : ForTarget, t.Formed ctx →
    Yields (t.inScope s) fun x => (x.redirect a).restore = t
  | .assign p, h => .map (p.restores ctx none s h) fun _ hp => congrArg ForTarget.assign hp
  | .decl mode p, h => .skip fun d => .skip fun _ => .map (p.restores ctx (some d) s h) fun _ hp =>
    congrArg (ForTarget.decl mode) hp

theorem cases_restore (ctx : Context) (s : ScopeId) : ∀ cs : List SwitchCase, casesFormed ctx cs →
    Yields (casesInScope s cs) fun x => restoreCases (redirectCases a x) = cs
  | [], _ => .pure rfl
  | ⟨test, body⟩ :: cs, ⟨⟨htest, hbody⟩, hcs⟩ =>
    .bind (opt_restores ctx s test htest) fun _ htest =>
    .bind (stmts_restore ctx s body hbody) fun _ hbody =>
    .map (cases_restore ctx s cs hcs) fun _ hcs =>
      congrArg₂ List.cons (congrArg₂ SwitchCase.mk htest hbody) hcs

theorem declared_restores (ctx : Context) (s : ScopeId) : ∀ p : Option Pat, optPatFormed ctx p →
    Yields (declaredInScope s p) fun x => restoreOptPat (redirectOptPat a x) = p
  | none, _ => .pure rfl
  | some p, h => .skip fun _ => .map (p.restores ctx (some s) s h) fun _ hp => congrArg some hp

theorem ImportNames.restores (ctx : Context) (s : ScopeId) : ∀ n : ImportNames, n.Formed ctx →
    Yields (n.inScope s) fun x => (x.redirect a).restore = n
  | .all p, h => .skip fun _ => .map (p.restores ctx (some s) s h.formed) fun _ hp =>
    congrArg ImportNames.all hp
  | .specific names, h => .map (specs_restore ctx s names h) fun _ hnames =>
    congrArg ImportNames.specific hnames

theorem specs_restore (ctx : Context) (s : ScopeId) : ∀ ss : List ImportSpec,
    (∀ x ∈ ss, x.Formed ctx) →
    Yields (specsInScope s ss) fun x => restoreSpecs (redirectSpecs a x) = ss
  | [], _ => .pure rfl
  | ⟨imported, p⟩ :: ss, h => .skip fun _ =>
    .bind (p.restores ctx (some s) s (h _ (.head _)).2.formed) fun _ hp =>
    .map (specs_restore ctx s ss fun x hx => h x (.tail _ hx)) fun _ hss =>
      congrArg₂ (fun p ss => ImportSpec.mk imported p :: ss) hp hss

end

end

end ImportSeam
