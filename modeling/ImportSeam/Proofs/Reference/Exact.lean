import ImportSeam.Proofs.Grammar.Spelled
import ImportSeam.Proofs.Grammar.Statements
import ImportSeam.Proofs.Placement
import ImportSeam.Proofs.Reference.Outline
import ImportSeam.Proofs.Reference.Restore
import ImportSeam.Proofs.Reference.TopLevel

/-!
# Exactly the uses of registered bindings

Instrumenting replaces the uses of the bindings that it registers, all of them and nothing else.
Both halves are read off the identifiers of a tree, which keep their order: the value that an
identifier reads becomes the registry where the identifier has an alias, and every other identifier
stays as it is.

## Main results

* `Program.keepNames` — every use is registered by its own name.
* `instrumented_exact` — what is left of an instrumented module, and what it was.
-/

namespace ImportSeam

theorem aliasesOf_eq_some {bs : List Binding} {resolve : Resolver} {id : Ident} {n : String}
    (h : aliasesOf bs resolve id = some n) :
    ∃ b ∈ bs, resolve id = some b.declaration ∧ b.name = n := by
  obtain ⟨x, hx, h⟩ := Option.bind_eq_some_iff.mp h
  obtain ⟨b, hb, rfl⟩ := Option.map_eq_some_iff.mp h
  have heq : b.declaration = x := by simpa using List.find?_some hb
  exact ⟨b, List.mem_of_find?_eq_some hb, hx.trans (congrArg some heq.symm), rfl⟩

theorem aliasesOf_eq_none {bs : List Binding} {resolve : Resolver} {id : Ident}
    (h : aliasesOf bs resolve id = none) : ∀ b ∈ bs, resolve id ≠ some b.declaration := by
  intro b hb hid
  rw [aliasesOf, hid, Option.bind_some, Option.map_eq_none_iff, List.find?_eq_none] at h
  exact h b hb (decide_eq_true rfl)

/-- **Every use is registered by its own name**, since a symbol determines its name. -/
theorem Program.keepNames (p : Program) {bs : List Binding}
    (h : ∀ b ∈ bs, p.analyse.2.get? moduleScope b.name = some b.declaration) :
    (aliasesOf bs p.analyse.2.symbolOf?).KeepNames := by
  intro s id n hn
  obtain ⟨b, hb, huse, rfl⟩ := aliasesOf_eq_some hn
  obtain ⟨⟨i, x⟩, hfind, rfl⟩ := Option.map_eq_some_iff.mp huse
  obtain ⟨i, -, hi⟩ := List.exists_of_findSome?_eq_some hfind
  obtain ⟨y, hy, heq⟩ := Option.map_eq_some_iff.mp hi
  cases heq
  exact (p.numbered_analyse.unique _ i _ _ _ (h b hb) hy).2

/-- No value that is read has the declaration of a binding, once the uses are replaced. -/
theorem symbolOf?_ne_of_mem_redirected {t : ScopeTree} {bs : List Binding} {ids : List RoleIdent}
    {id : Ident} (h : (.value, id) ∈ ids.map (redirectRole (aliasesOf bs t.symbolOf?))) :
    ∀ b ∈ bs, t.symbolOf? id ≠ some b.declaration := by
  obtain ⟨⟨role, id'⟩, -, heq⟩ := List.mem_map.mp h
  cases role with
  | pattern | own => exact nomatch heq
  | value =>
    obtain rfl := (Prod.mk.inj heq).2
    split
    · exact fun b _ hb => nomatch hb
    · rename_i hnone
      exact aliasesOf_eq_none (Option.not_isSome_iff_eq_none.mp hnone)

/-- **Exactly the uses of registered bindings are replaced.**  The statements of an instrumented
module are inserted ones and its own.  In its own, the identifiers that are read as values and have
the declaration of a binding became the registry, and all other identifiers are what they were; so
no use of a binding is left.  Turning the inserted reads back gives the module as it was read. -/
theorem instrumented_exact {source : String} {p q : Program} {place : Option String}
    {options : Options} {bs : List Binding} (hp : Program.parse source = .ok p)
    (h : p.analyse.1.instrument p.analyse.2.symbolOf? place options =
      .ok (.instrumented bs, q)) :
    ∃ items own,
      List.Forall₂ (Item.Stands own) items q.body ∧
      items.filterMap Item.kept? = List.range own.length ∧
      identsOf (stmtsParts own) = (identsOf p.analyse.1.parts).map
        (redirectRole (aliasesOf bs p.analyse.2.symbolOf?)) ∧
      (∀ id, (.value, id) ∈ identsOf (stmtsParts own) →
        ∀ b ∈ bs, p.analyse.2.symbolOf? id ≠ some b.declaration) ∧
      restoreStmts own = p.body := by
  obtain ⟨d, hd, hne, rfl, rfl⟩ := Program.instrument_eq h
  have hdesc := Discovery.describes_ofBody hd
  obtain ⟨anchor, hanchor, -, -⟩ := Discovery.exists_isAnchor hdesc hne
  have hkeep := p.keepNames fun b hb => hdesc.get?_declaration hb
  have hidents := stmts_identsOf_redirect (aliasesOf d.bindings p.analyse.2.symbolOf?)
    p.analyse.1.body
  refine ⟨d.items anchor _, _, ?_, Discovery.filterMap_kept_items _, hidents, ?_, ?_⟩
  · have hitems := Discovery.forall₂_items hanchor p.analyse.1.loc.stop
      (redirectStmts (d.aliases p.analyse.2.symbolOf?) p.analyse.1.body)
    rw [d.aliases_eq] at hitems
    rw [Program.withRegistry, d.aliases_eq]
    exact hitems
  · intro id hid
    rw [hidents] at hid
    exact symbolOf?_ne_of_mem_redirected hid
  · exact stmts_restore hkeep .top Program.moduleScope p.body (formed_of_parse hp) (.root .module)

/-- A module that uses a binding in every role a value can have, next to a local variable of the same
name. -/
def roleSource : String :=
  "import A from 'm'; f(A, {A, B: A}, <A x={A}/>, <A.p/>); { let A; A; } A = 1; export {A};"

/-- The names of the bindings under which a source is instrumented. -/
def registeredNames (source : String) : Option (List String) :=
  match Program.parse source with
  | .error _ => none
  | .ok p =>
    match p.analyse.1.instrument p.analyse.2.symbolOf? none {} with
    | .ok (.instrumented bs, _) => some (bs.map (·.name))
    | _ => none

theorem exists_of_registeredNames {source : String} {names : List String}
    (h : registeredNames source = some names) :
    ∃ p q bs, Program.parse source = .ok p ∧
      p.analyse.1.instrument p.analyse.2.symbolOf? none {} = .ok (.instrumented bs, q) ∧
      bs.map (·.name) = names := by
  unfold registeredNames at h
  split at h
  · exact nomatch h
  · rename_i p hp
    split at h
    · rename_i bs q hq
      exact ⟨p, q, bs, hp, hq, Option.some.inj h⟩
    · exact nomatch h

theorem registeredNames_of_spelled {source : String} {cs : List Char}
    (h : source = String.ofList cs) :
    registeredNames source =
      match Program.ofChars cs with
      | .error _ => none
      | .ok p =>
        match p.analyse.1.instrument p.analyse.2.symbolOf? none {} with
        | .ok (.instrumented bs, _) => some (bs.map (·.name))
        | _ => none := by
  rw [registeredNames, Program.parse_of_spelled h]

theorem roleSource_exact :
    ∃ p q bs, Program.parse roleSource = .ok p ∧
      p.analyse.1.instrument p.analyse.2.symbolOf? none {} = .ok (.instrumented bs, q) ∧
      bs.map (·.name) = ["A"] ∧ ∃ items own,
        List.Forall₂ (Item.Stands own) items q.body ∧
        items.filterMap Item.kept? = List.range own.length ∧
        identsOf (stmtsParts own) = (identsOf p.analyse.1.parts).map
          (redirectRole (aliasesOf bs p.analyse.2.symbolOf?)) ∧
        (∀ id, (.value, id) ∈ identsOf (stmtsParts own) →
          ∀ b ∈ bs, p.analyse.2.symbolOf? id ≠ some b.declaration) ∧
        restoreStmts own = p.body := by
  have hspelled : roleSource = String.ofList _ := rfl
  have hnames : registeredNames roleSource = some ["A"] := by
    rw [registeredNames_of_spelled hspelled]
    decide +kernel
  obtain ⟨p, q, bs, hp, hq, hbs⟩ := exists_of_registeredNames hnames
  exact ⟨p, q, bs, hp, hq, hbs, instrumented_exact hp hq⟩

end ImportSeam
