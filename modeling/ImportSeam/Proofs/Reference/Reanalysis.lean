import ImportSeam.Proofs.Reference.Exact
import ImportSeam.Proofs.Scope.Widened
import Mathlib.Data.List.ReduceOption

/-!
# Analysing an instrumented module anew

An instrumented module has the statements of the module, with uses replaced, and inserted ones.  Its
analysis opens the scopes that the analysis of the module opened, since no inserted statement opens
one, and declares the same names in them; the module's own scope gets the names of the inserted
declarations as well.  Identifier by identifier the two analyses are compared here.

## Main definitions

* `insertedNames` — the names that an instrumented module declares for itself.
* `Carried` — what becomes of an identifier that is the module's own.
* `Outline.Inserted` — an outline that opens no scope and declares inserted names only.
* `Interleaved` — statements with inserted ones between and after them.
* `Stems` — where an identifier of an instrumented module comes from.

## Main results

* `Outline.alike_annotate` — a redirected outline, analysed anew.
* `Interleaved.grown` — the statements of an instrumented module, analysed anew.
* `Program.isSome_get?_inserted` — both inserted names are in the module's own scope.
* `instrumented_grown` — an instrumented module, analysed anew.
-/

namespace ImportSeam

open Program (moduleScope)
open Outline (Redirected)

/-- The names that an instrumented module declares for itself. -/
def insertedNames : List String := [registryClass, registryName]

/-! ### Identifiers that stay -/

/-- What becomes of an identifier of an analysed module when the uses are replaced and the module is
analysed anew. -/
inductive Carried (a : Aliases) (t t' : ScopeTree) : RoleIdent → RoleIdent → Prop
  | bind {role : NameRole} {id : Ident} {home : ScopeId} {x x' : Symbol} (hrole : role ≠ .value)
    (hx : t.get? home id.name = some x) (hx' : t'.get? home id.name = some x') :
    Carried a t t' (role, { id with mention := .declares x })
      (role, { id with mention := .declares x' })
  | use {role : NameRole} {id : Ident} {s : ScopeId} (hs : t.Rooted s)
    (hid : id.mention = .usedIn s) :
    Carried a t t' (role, id)
      (role, { (redirectRole a (role, id)).2 with mention := .usedIn s })
  | idle {role : NameRole} {id : Ident} (hrole : role ≠ .value) (hid : id.mention = .unknown) :
    Carried a t t' (role, id) (role, id)

/-- What analysing a redirected outline anew gives, beside the analysis of the outline. -/
structure Alike (a : Aliases) (t t' : ScopeTree) (ids ids' : List RoleIdent) : Prop where
  widens : t.Widens insertedNames t'
  carried : ∀ T T', t.Extends T → t'.Extends T' → List.Forall₂ (Carried a T T') ids ids'

theorem Alike.append {a : Aliases} {t u t' u' : ScopeTree} {ids₁ ids₁' ids₂ ids₂' : List RoleIdent}
    (h₁ : Alike a t t' ids₁ ids₁') (h₂ : Alike a u u' ids₂ ids₂') (h : t.Extends u)
    (h' : t'.Extends u') : Alike a u u' (ids₁ ++ ids₂) (ids₁' ++ ids₂') :=
  ⟨h₂.widens, fun T T' hT hT' =>
    List.rel_append (h₁.carried T T' (h.trans hT) (h'.trans hT')) (h₂.carried T T' hT hT')⟩

/-- **Analysing a redirected outline anew** finds the same scopes and, identifier by identifier, the
same as before. -/
theorem Outline.alike_annotate {a : Aliases} (o : Outline) {o' : Outline} {env : Env}
    {t t' : ScopeTree} {home s : ScopeId} (hm : env.Matches t s) (hhome : home < t.size)
    (hs : t.Rooted s) (hw : t.Widens insertedNames t')
    (h : Redirected a (o.annotate home s t).1 o') :
    Alike a (o.annotate home s t).2 (o'.annotate home s t').2 (o.annotate home s t).1.idents
      (o'.annotate home s t').1.idents := by
  -- On the outline that both analyses started from: they open scopes of the same numbers, and what
  -- one declares the other declares too.
  induction o generalizing o' env t t' home s with
  | done =>
    cases h
    exact ⟨hw, fun T T' _ _ => .nil⟩
  | declare name rest ih =>
    rw [annotate] at h
    cases h with
    | declare h =>
      have hstep := t.extends_declare hhome name
      have hrest := ih (hm.extend hstep) (Nat.lt_of_lt_of_le hhome hstep.size_le)
        (hs.extend hm.lt hstep) (hw.declare hhome name) h
      exact hrest
  | bind role id rest ih =>
    rw [annotate] at h
    cases h with
    | @bind _ _ _ o' hrole h =>
      have hstep := t.extends_declare hhome id.name
      have hhome' : home < t'.size := hw.size ▸ hhome
      have hstep' := t'.extends_declare hhome' id.name
      have hm' := hw.matches_env hm
      have hrest := ih (hm.extend hstep) (Nat.lt_of_lt_of_le hhome hstep.size_le)
        (hs.extend hm.lt hstep) (hw.declare hhome id.name) h
      refine ⟨hrest.widens, fun T T' hT hT' => ?_⟩
      have hget : (t.declare home id.name).2.get? home id.name =
          some (t.declare home id.name).1 := by
        rw [ScopeTree.get?_declare hhome, if_pos ⟨rfl, rfl⟩]
      have hget' : (t'.declare home id.name).2.get? home id.name =
          some (t'.declare home id.name).1 := by
        rw [ScopeTree.get?_declare hhome', if_pos ⟨rfl, rfl⟩]
      have hgrown := rest.extends_annotate (hm.extend hstep)
        (Nat.lt_of_lt_of_le hhome hstep.size_le)
      have hgrown' := o'.extends_annotate (hm'.extend hstep')
        (Nat.lt_of_lt_of_le hhome' hstep'.size_le)
      -- Both symbols are still there at the end of their analysis.
      exact .cons (.bind hrole ((hgrown.trans hT).get? _ _ _ hget)
        ((hgrown'.trans hT').get? _ _ _ hget')) (hrest.carried T T' hT hT')
  | use role id rest ih =>
    rw [annotate] at h
    cases h with
    | use h =>
      have hrest := ih hm hhome hs hw h
      refine ⟨hrest.widens, fun T T' hT hT' => ?_⟩
      have hgrown := (rest.extends_annotate hm hhome).trans hT
      exact .cons (.use (hs.extend hm.lt hgrown) rfl) (hrest.carried T T' hT hT')
  | idle role id rest ih =>
    rw [annotate] at h
    cases h with
    | idle hrole h =>
      have hrest := ih hm hhome hs hw h
      exact ⟨hrest.widens, fun T T' hT hT' =>
        .cons (.idle hrole rfl) (hrest.carried T T' hT hT')⟩
  | under mode inside rest ihInside ihRest =>
    rw [annotate] at h
    cases h with
    | @under _ _ oi _ ou hi hu =>
      have hsame := hw.homeOf s mode
      have hlt := hm.homeOf_lt mode
      have hm' := hw.matches_env hm
      have hhome' : home < t'.size := hw.size ▸ hhome
      have hinside := ihInside hm hlt hs hw hi
      have hstep := inside.extends_annotate hm hlt
      have hstep' := oi.extends_annotate hm' (hsame ▸ hm'.homeOf_lt mode)
      have hrest := ihRest (hm.extend hstep) (Nat.lt_of_lt_of_le hhome hstep.size_le)
        (hs.extend hm.lt hstep) hinside.widens hu
      have hafter := rest.extends_annotate (hm.extend hstep)
        (Nat.lt_of_lt_of_le hhome hstep.size_le)
      have hafter' := ou.extends_annotate (hm'.extend hstep')
        (Nat.lt_of_lt_of_le hhome' hstep'.size_le)
      simp only [annotate, hsame]
      exact hinside.append hrest hafter hafter'
  | scope kind inside rest ihInside ihRest =>
    rw [annotate] at h
    cases h with
    | @scope _ _ oi _ ou hi hu =>
      have hm' := hw.matches_env hm
      have hhome' : home < t'.size := hw.size ▸ hhome
      have hchild := hm.child kind []
      have hinside := ihInside hchild hchild.lt (hs.child hm.lt kind) (hw.child s kind) hi
      have hchild' := (hw.child s kind).matches_env hchild
      have hstep := (t.extends_child s kind).trans (inside.extends_annotate hchild hchild.lt)
      have hstep' := (t'.extends_child s kind).trans (oi.extends_annotate hchild' hchild'.lt)
      have hrest := ihRest (hm.extend hstep) (Nat.lt_of_lt_of_le hhome hstep.size_le)
        (hs.extend hm.lt hstep) hinside.widens hu
      have hafter := rest.extends_annotate (hm.extend hstep)
        (Nat.lt_of_lt_of_le hhome hstep.size_le)
      have hafter' := ou.extends_annotate (hm'.extend hstep')
        (Nat.lt_of_lt_of_le hhome' hstep'.size_le)
      -- The scope has the same number in both trees, since they are of the same size.
      simp only [annotate, ScopeTree.child_fst, hw.size]
      exact hinside.append hrest hafter hafter'

/-! ### Inserted statements -/

/-- An outline that opens no scope and declares inserted names only. -/
inductive Outline.Inserted : Outline → Prop
  | done : Inserted .done
  | declare {name : String} {o : Outline} (hname : name ∈ insertedNames) (h : Inserted o) :
    Inserted (.declare name o)
  | bind {role : NameRole} {id : Ident} {o : Outline} (hname : id.name ∈ insertedNames)
    (h : Inserted o) : Inserted (.bind role id o)
  | use {role : NameRole} {id : Ident} {o : Outline} (h : Inserted o) : Inserted (.use role id o)
  | under {mode : VarMode} {o u : Outline} (ho : Inserted o) (hu : Inserted u) :
    Inserted (.under mode o u)

namespace Outline.Inserted

variable {o o' : Outline}

theorem append (h : Inserted o) (h' : Inserted o') : Inserted (o ++ o') := by
  induction h with
  | done => exact h'
  | declare hname _ ih => exact .declare hname ih
  | bind hname _ ih => exact .bind hname ih
  | use _ ih => exact .use ih
  | under ho _ _ ih => exact .under ho ih

variable {f : Frame} {t t' T : ScopeTree} {s : ScopeId}

/-- Only the module's own scope gets names from what is inserted at the top level. -/
theorem widens (h : Inserted o) (hm : Env.Matches [f] t' moduleScope)
    (hw : t.Widens insertedNames t') :
    t.Widens insertedNames (o.annotate moduleScope moduleScope t').2 := by
  induction h generalizing t' with
  | done => exact hw
  | declare hname _ ih =>
    exact ih (hm.extend (t'.extends_declare hm.lt _)) (hw.declare_right hm.lt hname)
  | bind hname _ ih =>
    exact ih (hm.extend (t'.extends_declare hm.lt _)) (hw.declare_right hm.lt hname)
  | use _ ih => exact ih hm hw
  | @under mode o u _ _ ihInside ihRest =>
    simp only [annotate, homeOf_of_single hm]
    exact ihRest (hm.extend (o.extends_annotate hm hm.lt)) (ihInside hm hw)

/-- What is inserted stands on the surface, and nothing of it is left without a meaning. -/
theorem mem_surface (h : Inserted o) (home : ScopeId) {x : RoleIdent}
    (hx : x ∈ (o.annotate home s t).1.idents) :
    x ∈ (o.annotate home s t).1.surface ∧ x.2.mention ≠ .unknown := by
  induction h generalizing home t with
  | done => exact nomatch hx
  | declare _ _ ih => exact ih home hx
  | bind _ _ ih | use _ ih =>
    obtain rfl | hx := List.mem_cons.mp hx
    · exact ⟨List.mem_cons_self, nofun⟩
    · exact (ih home hx).imp_left (List.mem_cons_of_mem _)
  | under _ _ ihInside ihRest =>
    obtain hx | hx := List.mem_append.mp hx
    · exact (ihInside _ hx).imp_left (List.mem_append_left _)
    · exact (ihRest home hx).imp_left (List.mem_append_right _)

theorem isLocal (h : Inserted o) (hm : Env.Matches [f] t s)
    (hT : (o.annotate s s t).2.Extends T) {x : RoleIdent}
    (hx : x ∈ (o.annotate s s t).1.idents) : T.Local s x.2 := by
  obtain ⟨hsurface, hknown⟩ := h.mem_surface s hx
  exact (o.local_of_mem_surface hm hT hsurface).resolve_left hknown

end Outline.Inserted

theorem inserted_registration (loc : Loc) (b : Binding) :
    (registration loc b).outline.Inserted :=
  .use .done

theorem inserted_importRegistryClass (loc : Loc) : (importRegistryClass loc).outline.Inserted := by
  have hname : registryClass ∈ insertedNames := by decide
  exact .declare hname (.bind hname .done)

theorem inserted_constructRegistry (loc : Loc) (bs : List Binding) :
    (constructRegistry loc bs).outline.Inserted := by
  have hname : registryName ∈ insertedNames := by decide
  have hmembers : (registrations loc bs).outline.Inserted := by
    change (objOutline (bs.map _)).Inserted
    induction bs with
    | nil => exact .done
    | cons b bs ih => exact .append .done (.append (inserted_registration loc b) ih)
  have hvalue : ∀ args, (argsOutline args).Inserted →
      (Expr.construct loc (nameRead loc registryClass) (some args)).outline.Inserted :=
    fun _ hargs => .use hargs
  refine .under (.declare hname (.bind hname ((hvalue _ ?_).append .done))) .done
  split
  · exact .done
  · exact hmembers.append .done

theorem inserted_registerBinding (loc : Loc) (b : Binding) :
    (registerBinding loc b).outline.Inserted :=
  .use (.use .done)

theorem inserted_republishRegistry (loc : Loc) : (republishRegistry loc).outline.Inserted :=
  .use (.use .done)

namespace Discovery

variable (d : Discovery)

theorem inserted_insertedAfter {anchor index stop : Nat} {s : Stmt}
    (hs : s ∈ d.insertedAfter anchor index stop) : s.outline.Inserted := by
  obtain hs | hs := List.mem_append.mp hs
  · split at hs
    · obtain rfl | hs := List.mem_cons.mp hs
      · exact inserted_importRegistryClass _
      · rw [List.mem_singleton.mp hs]
        exact inserted_constructRegistry _ _
    · exact nomatch hs
  · obtain ⟨f, -, rfl⟩ := List.mem_map.mp hs
    exact inserted_registerBinding _ _

theorem inserted_insertedLast {stop : Nat} {s : Stmt} (hs : s ∈ d.insertedLast stop) :
    s.outline.Inserted := by
  obtain rfl | hs := List.mem_cons.mp hs
  · exact .done
  · split at hs
    · rw [List.mem_singleton.mp hs]
      exact inserted_republishRegistry _
    · exact nomatch hs

end Discovery

/-! ### The body of an instrumented module -/

/-- Statements with inserted ones between and after them. -/
inductive Interleaved : List Stmt → List Stmt → Prop
  | nil : Interleaved [] []
  | own {s : Stmt} {ss body : List Stmt} (h : Interleaved ss body) :
    Interleaved (s :: ss) (s :: body)
  | inserted {s : Stmt} {ss body : List Stmt} (hs : s.outline.Inserted)
    (h : Interleaved ss body) : Interleaved ss (s :: body)

namespace Interleaved

theorem inserts {new ss body : List Stmt} (hnew : ∀ s ∈ new, s.outline.Inserted)
    (h : Interleaved ss body) : Interleaved ss (new ++ body) := by
  induction new with
  | nil => exact h
  | cons s new ih =>
    exact .inserted (hnew s List.mem_cons_self)
      (ih fun s hs => hnew s (List.mem_cons_of_mem _ hs))

theorem splice {d : Discovery} {anchor : Nat} (hanchor : d.anchor = some anchor) (stop : Nat)
    (ss : List Stmt) : Interleaved ss (d.splice stop ss) := by
  have hlast : Interleaved [] (d.insertedLast stop) := by
    rw [← List.append_nil (d.insertedLast stop)]
    exact .inserts (fun s hs => d.inserted_insertedLast hs) .nil
  rw [Discovery.splice, hanchor]
  dsimp only
  generalize 0 = k
  induction ss generalizing k with
  | nil => exact hlast
  | cons s ss ih =>
    rw [List.zipIdx_cons, List.flatMap_cons, List.cons_append, List.cons_append,
      List.append_assoc]
    exact .own (.inserts (fun s hs => d.inserted_insertedAfter hs) (ih (k + 1)))

end Interleaved

/-- Where an identifier of an instrumented module comes from. -/
inductive Stems (a : Aliases) (t t' : ScopeTree) : Option RoleIdent → RoleIdent → Prop
  | own {x y : RoleIdent} (h : Carried a t t' x y) : Stems a t t' (some x) y
  | inserted {y : RoleIdent} (h : t'.Local moduleScope y.2) : Stems a t t' none y

/-- What analysing the statements of an instrumented module gives, beside the analysis of its own
statements. -/
structure Grown (a : Aliases) (t t' : ScopeTree) (origins : List (Option RoleIdent))
    (ids' : List RoleIdent) : Prop where
  widens : t.Widens insertedNames t'
  stems : ∀ T T', t.Extends T → t'.Extends T' → List.Forall₂ (Stems a T T') origins ids'

theorem Grown.append {a : Aliases} {t u t' u' : ScopeTree}
    {origins₁ origins₂ : List (Option RoleIdent)} {ids₁ ids₂ : List RoleIdent}
    (h₁ : Grown a t t' origins₁ ids₁) (h₂ : Grown a u u' origins₂ ids₂) (h : t.Extends u)
    (h' : t'.Extends u') : Grown a u u' (origins₁ ++ origins₂) (ids₁ ++ ids₂) :=
  ⟨h₂.widens, fun T T' hT hT' =>
    List.rel_append (h₁.stems T T' (h.trans hT) (h'.trans hT')) (h₂.stems T T' hT hT')⟩

theorem Alike.grown {a : Aliases} {t t' : ScopeTree} {ids ids' : List RoleIdent}
    (h : Alike a t t' ids ids') : Grown a t t' (ids.map some) ids' := by
  refine ⟨h.widens, fun T T' hT hT' => ?_⟩
  rw [List.forall₂_map_left_iff]
  exact (h.carried T T' hT hT').imp fun _ _ => .own

theorem Outline.Inserted.grown {o : Outline} (h : o.Inserted) (a : Aliases) {f : Frame}
    {t t' : ScopeTree} (hm : Env.Matches [f] t' moduleScope) (hw : t.Widens insertedNames t') :
    Grown a t (o.annotate moduleScope moduleScope t').2
      ((o.annotate moduleScope moduleScope t').1.idents.map fun _ => none)
      (o.annotate moduleScope moduleScope t').1.idents := by
  refine ⟨h.widens hm hw, fun T T' _ hT' => ?_⟩
  rw [List.forall₂_map_left_iff]
  exact List.forall₂_same.mpr fun x hx => .inserted (h.isLocal hm hT' hx)

/-- **Analysing the statements of an instrumented module** finds the identifiers of its own
statements again, and those that are inserted stand at the top level. -/
theorem Interleaved.grown {a : Aliases} {own body : List Stmt} (h : Interleaved own body)
    {ss : List Stmt} {f : Frame} {t t' : ScopeTree} (hm : Env.Matches [f] t moduleScope)
    (hw : t.Widens insertedNames t')
    (hown : own = redirectStmts a (stmtsInScope moduleScope ss t).1) :
    ∃ origins : List (Option RoleIdent),
      origins.reduceOption = (stmtsOutline (stmtsInScope moduleScope ss t).1).idents ∧
      Grown a (stmtsInScope moduleScope ss t).2
        ((stmtsOutline body).annotate moduleScope moduleScope t').2 origins
        ((stmtsOutline body).annotate moduleScope moduleScope t').1.idents := by
  -- On how the statements are interleaved.  The first tree only grows with the module's own
  -- statements, the second one with the inserted ones as well.
  induction h generalizing ss t t' with
  | nil =>
    cases ss with
    | nil => exact ⟨[], rfl, hw, fun T T' _ _ => .nil⟩
    | cons st ss => exact nomatch hown
  | @own s own body h ih =>
    cases ss with
    | nil => exact nomatch hown
    | cons st ss =>
      obtain ⟨rfl, hrest⟩ := List.cons.inj hown
      obtain ⟨hout, htree⟩ := st.annotates_outline moduleScope t
      have hroot : t.Rooted moduleScope := ⟨[], Outline.chain_of_single hm, nofun⟩
      have hredirected := (st.inScope moduleScope t).1.outline_redirect a
      rw [hout] at hredirected
      have halike := st.outline.alike_annotate hm hm.lt hroot hw hredirected
      have hstep := st.outline.extends_annotate hm hm.lt
      have hm' := hw.matches_env hm
      have hstep' := ((st.inScope moduleScope t).1.redirect a).outline.extends_annotate hm' hm'.lt
      change _ = (st.outline.annotate moduleScope moduleScope t).1 at hout
      rw [← htree, ← hout] at halike
      rw [← htree] at hstep
      obtain ⟨origins, horigins, hgrown⟩ := ih (hm.extend hstep) halike.widens hrest
      refine ⟨(st.inScope moduleScope t).1.outline.idents.map some ++ origins, ?_, ?_⟩
      · rw [List.reduceOption_append, horigins, List.reduceOption, List.filterMap_map]
        change List.filterMap some _ ++ _ = _
        rw [List.filterMap_some, ← Outline.idents_append]
        rfl
      · rw [stmtsOutline, Outline.annotate_append, Outline.idents_append]
        have hafter := (stmtsOutline ss).extends_annotate (hm.extend hstep) (hm.extend hstep).lt
        rw [← (stmts_annotate_outline moduleScope ss _).2] at hafter
        exact halike.grown.append hgrown hafter
          ((stmtsOutline body).extends_annotate (hm'.extend hstep') (hm'.extend hstep').lt)
  | @inserted s own body hs h ih =>
    have hm' := hw.matches_env hm
    have hstep' := s.outline.extends_annotate hm' hm'.lt
    obtain ⟨origins, horigins, hgrown⟩ := ih hm (hs.widens hm' hw) hown
    refine ⟨(s.outline.annotate moduleScope moduleScope t').1.idents.map (fun _ => none) ++ origins,
      ?_, ?_⟩
    · rw [List.reduceOption_append, horigins, List.map_const', List.reduceOption_replicate_none]
      rfl
    · rw [stmtsOutline, Outline.annotate_append, Outline.idents_append]
      have hafter := (stmts_annotate_outline moduleScope ss t).2
      have hbefore := (stmtsOutline ss).extends_annotate hm hm.lt
      rw [← hafter] at hbefore
      exact (hs.grown a hm' hw).append hgrown hbefore
        ((stmtsOutline body).extends_annotate (hm'.extend hstep') (hm'.extend hstep').lt)

/-! ### The names of an instrumented module -/

theorem Discovery.mem_splice {d : Discovery} {anchor : Nat} (hanchor : d.anchor = some anchor)
    (stop : Nat) {body : List Stmt} (hlt : anchor < body.length) :
    ∃ loc, importRegistryClass loc ∈ d.splice stop body ∧
      constructRegistry loc (d.initial anchor) ∈ d.splice stop body := by
  have hafter : ∀ s ∈ d.insertedAfter anchor anchor body[anchor].loc.stop,
      s ∈ d.splice stop body := by
    intro s hs
    rw [splice, hanchor]
    refine List.mem_append_left _ (List.mem_flatMap.mpr ⟨(body[anchor], anchor), ?_, ?_⟩)
    · exact List.mem_zipIdx_iff_getElem?.mpr (List.getElem?_eq_getElem hlt)
    · exact List.mem_cons_of_mem _ hs
  refine ⟨Loc.point body[anchor].loc.stop, hafter _ ?_, hafter _ ?_⟩
  all_goals simp [insertedAfter]

theorem lexical_of_mem {body : List Stmt} {s : Stmt} (hs : s ∈ body) {name : String}
    (h : name ∈ s.outline.lexical .lexical) : name ∈ (stmtsOutline body).lexical .lexical := by
  induction body with
  | nil => exact nomatch hs
  | cons s' body ih =>
    rw [stmtsOutline, Outline.lexical_append]
    obtain rfl | hs := List.mem_cons.mp hs
    · exact List.mem_append_left _ h
    · exact List.mem_append_right _ (ih hs)

/-- Both names are in the module's own scope. -/
theorem Program.isSome_get?_inserted {p q : Program} {resolve : Resolver} {place : Option String}
    {options : Options} {bs : List Binding}
    (h : p.instrument resolve place options = .ok (.instrumented bs, q)) :
    ∀ name ∈ insertedNames, (q.analyse.2.get? moduleScope name).isSome := by
  obtain ⟨d, hd, hne, -, rfl⟩ := Program.instrument_eq h
  obtain ⟨anchor, hanchor, hlt, -⟩ :=
    Discovery.exists_isAnchor (Discovery.describes_ofBody hd) hne
  obtain ⟨loc, hclass, hregistry⟩ := Discovery.mem_splice hanchor p.loc.stop
    ((length_redirectStmts (d.aliases resolve) p.body).symm ▸ hlt)
  intro name hname
  refine ((p.withRegistry resolve d).has_moduleFrame.names name).mpr (List.mem_append_left _ ?_)
  obtain rfl | hname := List.mem_cons.mp hname
  · exact lexical_of_mem hclass List.mem_cons_self
  · rw [List.mem_singleton.mp hname]
    exact lexical_of_mem hregistry List.mem_cons_self

/-- **Analysing an instrumented module** finds the scopes of the module and its identifiers again. -/
theorem instrumented_grown {p q : Program} {place : Option String} {options : Options}
    {bs : List Binding}
    (h : p.analyse.1.instrument p.analyse.2.symbolOf? place options =
      .ok (.instrumented bs, q)) :
    ∃ origins : List (Option RoleIdent),
      origins.reduceOption = identsOf p.analyse.1.parts ∧
      Grown (aliasesOf bs p.analyse.2.symbolOf?) p.analyse.2 q.analyse.2 origins
        (identsOf q.analyse.1.parts) := by
  obtain ⟨d, hd, hne, rfl, hq⟩ := Program.instrument_eq h
  obtain ⟨anchor, hanchor, -, -⟩ :=
    Discovery.exists_isAnchor (Discovery.describes_ofBody hd) hne
  have hinter := Interleaved.splice hanchor p.analyse.1.loc.stop
    (redirectStmts (d.aliases p.analyse.2.symbolOf?) p.analyse.1.body)
  rw [d.aliases_eq] at hinter
  obtain ⟨origins, horigins, hgrown⟩ :=
    hinter.grown p.matches_root (.refl insertedNames (.root .module)) rfl
  refine ⟨origins, horigins.trans (stmts_outline_lists _), ?_⟩
  have hidents : identsOf q.analyse.1.parts =
      ((stmtsOutline q.body).annotate moduleScope moduleScope (.root .module)).1.idents := by
    rw [← q.outline_analyse.1]
    exact (stmts_outline_lists _).symm
  rw [hidents, q.outline_analyse.2, hq, Program.withRegistry, d.aliases_eq]
  exact hgrown

end ImportSeam
