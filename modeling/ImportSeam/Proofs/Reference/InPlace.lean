import ImportSeam.Proofs.Reference.Reserved

/-!
# Instrumenting in place

A program that instruments a module writes into the tree that it was given: it reads the tree to
decide what to do, then replaces the uses, then inserts the registry.  An error can only come up
while the tree is read, and the registry always finds its place once there is something to register;
so the tree is written completely or not at all.

A tree that was written declares the name of the registry, and is not written again.

## Main definitions

* `InPlace` — computations that write into a module and may fail.
* `instrumentInPlace` — instruments a module in place.
* `Program.settle` — what a tree is after an attempt to instrument it.

## Main results

* `run_instrumentInPlace` — in place, the outcome and the tree are those of `Program.instrument`.
* `Program.declaresTopLevel_of_instrumented` — an instrumented module has the name of the registry.
* `instrumentInPlace_twice` — what instrumenting in place leaves, and what a second time does.
-/

namespace ImportSeam

/-- Computations that write into a module and may fail.  What was written before a failure stays. -/
abbrev InPlace := ExceptT InstrumentError (StateM Program)

/-- Replaces the uses of the found bindings. -/
def Discovery.redirectInPlace (d : Discovery) (resolve : Resolver) : InPlace Unit :=
  modify fun p => { p with body := redirectStmts (d.aliases resolve) p.body }

/-- Inserts the registry after its anchor.  Nothing is inserted if there is no anchor. -/
def Discovery.insertInPlace (d : Discovery) : InPlace Unit := do
  match d.anchor with
  | none => return
  | some anchor =>
    modify fun p => { p with
      body := p.body.zipIdx.flatMap (fun (s, i) => s :: d.insertedAfter anchor i s.loc.stop) ++
        d.insertedLast p.loc.stop }

/-- Instruments a module in place. -/
def instrumentInPlace (resolve : Resolver) (place : Option String) (options : Options) :
    InPlace Outcome := do
  if options.excludesFile place then return .excluded
  if declaresTopLevel (← get).body registryName then return .reservedNameConflict
  let d ← liftExcept (Discovery.ofBody ⟨resolve, options.excludesImport⟩ (← get).body)
  if d.found.isEmpty then return .unchanged
  d.redirectInPlace resolve
  d.insertInPlace
  return .instrumented d.bindings

/-- What an attempt to instrument a module leaves: a failed one leaves the module as it was. -/
def Program.settle (p : Program) :
    Except InstrumentError (Outcome × Program) → Except InstrumentError Outcome × Program
  | .ok (outcome, q) => (.ok outcome, q)
  | .error e => (.error e, p)

/-! ### Reading and writing a tree -/

namespace InPlace

variable {α β : Type}

theorem run_get (next : Program → InPlace α) (p : Program) :
    (get >>= next).run.run p = (next p).run.run p := rfl

/-- What fails while the tree is read leaves the tree. -/
theorem run_liftExcept_error (e : InstrumentError) (next : β → InPlace α) (p : Program) :
    (liftExcept (.error e) >>= next).run.run p = (.error e, p) := rfl

theorem run_liftExcept_ok (b : β) (next : β → InPlace α) (p : Program) :
    (liftExcept (.ok b : Except InstrumentError β) >>= next).run.run p = (next b).run.run p := rfl

theorem run_redirectInPlace (d : Discovery) (resolve : Resolver) (next : InPlace α) (p : Program) :
    (d.redirectInPlace resolve >>= fun _ => next).run.run p =
      next.run.run { p with body := redirectStmts (d.aliases resolve) p.body } := rfl

theorem run_insertInPlace {d : Discovery} {anchor : Nat} (h : d.anchor = some anchor)
    (next : InPlace α) (p : Program) :
    (d.insertInPlace >>= fun _ => next).run.run p =
      next.run.run { p with body := d.splice p.loc.stop p.body } := by
  rw [Discovery.insertInPlace, Discovery.splice, h]
  rfl

end InPlace

/-- **In place, the outcome and the tree are the same.**  The registry finds its anchor, since there
is something to register. -/
theorem run_instrumentInPlace (resolve : Resolver) (place : Option String) (options : Options)
    (p : Program) :
    (instrumentInPlace resolve place options).run.run p =
      p.settle (p.instrument resolve place options) := by
  unfold instrumentInPlace Program.instrument Program.instrumentIncluded
  by_cases hplace : options.excludesFile place
  · rw [if_pos hplace, if_pos hplace]
    rfl
  · rw [if_neg hplace, if_neg hplace, InPlace.run_get]
    by_cases hname : declaresTopLevel p.body registryName
    · rw [if_pos hname, if_pos hname]
      rfl
    · rw [if_neg hname, if_neg hname, InPlace.run_get]
      cases hd : Discovery.ofBody ⟨resolve, options.excludesImport⟩ p.body with
      | error e =>
        rw [InPlace.run_liftExcept_error]
        rfl
      | ok d =>
        rw [InPlace.run_liftExcept_ok]
        change _ = p.settle (if d.found.isEmpty then .ok (.unchanged, p)
          else .ok (.instrumented d.bindings, p.withRegistry resolve d))
        by_cases hempty : d.found.isEmpty
        · rw [if_pos hempty, if_pos hempty]
          rfl
        · obtain ⟨anchor, hanchor, -, -⟩ :=
            Discovery.exists_isAnchor (Discovery.describes_ofBody hd) (by simpa using hempty)
          rw [if_neg hempty, if_neg hempty, InPlace.run_redirectInPlace,
            InPlace.run_insertInPlace hanchor]
          rfl

/-! ### A second time -/

/-- **An instrumented module has the name of the registry** at its top level. -/
theorem Program.declaresTopLevel_of_instrumented {p q : Program} {resolve : Resolver}
    {place : Option String} {options : Options} {bs : List Binding}
    (h : p.instrument resolve place options = .ok (.instrumented bs, q)) :
    declaresTopLevel q.body registryName = true := by
  obtain ⟨d, hd, hne, -, rfl⟩ := Program.instrument_eq h
  obtain ⟨anchor, hanchor, hlt, -⟩ :=
    Discovery.exists_isAnchor (Discovery.describes_ofBody hd) hne
  obtain ⟨loc, -, hregistry⟩ := Discovery.mem_splice hanchor p.loc.stop
    ((length_redirectStmts (d.aliases resolve) p.body).symm ▸ hlt)
  refine List.any_eq_true.mpr ⟨_, hregistry, ?_⟩
  rfl

/-- A module that is not instrumented stays as it was. -/
theorem Program.eq_of_not_instrumented {p q : Program} {resolve : Resolver}
    {place : Option String} {options : Options} {outcome : Outcome}
    (h : p.instrument resolve place options = .ok (outcome, q))
    (hnot : ∀ bs, outcome ≠ .instrumented bs) : q = p := by
  unfold instrument at h
  split at h
  · exact (Prod.mk.inj (Except.ok.inj h)).2.symm
  · unfold instrumentIncluded at h
    split at h
    · exact (Prod.mk.inj (Except.ok.inj h)).2.symm
    · cases hd : Discovery.ofBody ⟨resolve, options.excludesImport⟩ p.body with
      | error e =>
        rw [hd] at h
        exact nomatch h
      | ok d =>
        simp only [hd, bind, Except.bind] at h
        split at h
        · exact (Prod.mk.inj (Except.ok.inj h)).2.symm
        · exact absurd (Prod.mk.inj (Except.ok.inj h)).1.symm (hnot _)

/-- **Instrumenting in place writes a tree once.**  The outcome and the tree that is left are those of
`Program.instrument`.  If the module was instrumented, a second attempt with any resolver, place and
options finds the place excluded or the name of the registry taken, and leaves the tree.  If it was
not, by an error or otherwise, the tree is what it was. -/
theorem instrumentInPlace_twice (p : Program) (resolve : Resolver) (place : Option String)
    (options : Options) :
    let first := (instrumentInPlace resolve place options).run.run p
    first = p.settle (p.instrument resolve place options) ∧
    (∀ bs, first.1 = .ok (.instrumented bs) → ∀ resolve' place' options',
      (instrumentInPlace resolve' place' options').run.run first.2 =
        (.ok (if Options.excludesFile options' place' then .excluded else .reservedNameConflict),
          first.2)) ∧
    ((∀ bs, first.1 ≠ .ok (.instrumented bs)) → first.2 = p) := by
  intro first
  have hfirst : first = p.settle (p.instrument resolve place options) :=
    run_instrumentInPlace resolve place options p
  refine ⟨hfirst, ?_, ?_⟩
  · intro bs hbs resolve' place' options'
    cases hp : p.instrument resolve place options with
    | error e =>
      rw [hfirst, hp] at hbs
      exact nomatch hbs
    | ok result =>
      obtain ⟨outcome, q⟩ := result
      rw [hfirst, hp] at hbs ⊢
      obtain rfl : outcome = .instrumented bs := Except.ok.inj hbs
      have hname := Program.declaresTopLevel_of_instrumented hp
      rw [run_instrumentInPlace, Program.settle,
        Program.instrument_of_declaresTopLevel hname resolve' place' options']
      rfl
  · intro hnot
    cases hp : p.instrument resolve place options with
    | error e => rw [hfirst, hp, Program.settle]
    | ok result =>
      obtain ⟨outcome, q⟩ := result
      rw [hfirst, hp] at hnot ⊢
      exact Program.eq_of_not_instrumented hp fun bs hbs => hnot bs (congrArg Except.ok hbs)

/-- The module `import a from 'n'; import {b as []} from 'm';`, where the second import fails after
the first one was found. -/
def faultyModule : Program where
  loc := ⟨0, 2⟩
  body := [.importDecl ⟨0, 1⟩ (some (.ident ⟨"a", ⟨0, 1⟩, .unknown⟩)) none "n",
    .importDecl ⟨1, 2⟩ none (some (.specific [⟨.bare "b", .array ⟨1, 2⟩ [] none⟩])) "m"]
  comments := []

/-- One module is instrumented and not a second time, the other fails and stays. -/
theorem mixedModule_faultyModule_in_place :
    (∃ q, (instrumentInPlace mixedResolver none {}).run.run mixedModule =
        (.ok (.instrumented mixedBindings), q) ∧
      (instrumentInPlace mixedResolver none {}).run.run q = (.ok .reservedNameConflict, q)) ∧
    (instrumentInPlace mixedResolver none {}).run.run faultyModule =
      (.error (.unsupportedSpecifier "m" ⟨1, 2⟩), faultyModule) := by
  have hmixed := instrumentInPlace_twice mixedModule mixedResolver none {}
  have hfaulty := instrumentInPlace_twice faultyModule mixedResolver none {}
  have hfirst : ((instrumentInPlace mixedResolver none {}).run.run mixedModule).1 =
      .ok (.instrumented mixedBindings) := rfl
  have herror : ((instrumentInPlace mixedResolver none {}).run.run faultyModule).1 =
      .error (.unsupportedSpecifier "m" ⟨1, 2⟩) := rfl
  refine ⟨⟨_, Prod.ext hfirst rfl, hmixed.2.1 _ hfirst mixedResolver none {}⟩, ?_⟩
  refine Prod.ext herror (hfaulty.2.2 fun bs h => ?_)
  rw [herror] at h
  exact nomatch h

end ImportSeam
