import ImportSeam.Proofs.Registry.Mocking

/-!
# What a selector is asked

A selector may keep a state of its own, fail or do anything else that its monad allows.  Whatever it
does, a mock asks it about every alias once, in the order of registration and before any value
changes, and everything after that depends on the answers alone.  The answers are regrouped by module
and export and then go through the same checks as any mock; these find nothing to object to, since
every export that an answer is kept under is that of the alias it was about.

## Main definitions

* `Question` — what a selector is asked about an alias.
* `Registry.collected` — the replacements that answers are regrouped into.
* `Registry.answeredBy` — a registry after answers.
* `Selector.recorded` — a selector that writes down what it is asked.

## Main results

* `Registry.selected_eq` — asking comes first, regrouping afterwards.
* `Registry.known_collected` — answers name no unknown export.
* `mock_select_asks` — what a selector is asked, and that the mock succeeds.
-/

namespace ImportSeam

variable {α σ : Type} {m : Type → Type}

/-- What a selector is asked about an alias. -/
structure Question (α : Type) where
  path : String
  symbol : Export
  current : α
  deriving DecidableEq, Repr

/-- The question about an alias. -/
def RegistryEntry.question (e : RegistryEntry α) : Question α :=
  ⟨e.record.path, e.record.symbol, e.current⟩

/-- Asks a selector. -/
def Selector.ask (selector : Selector m α) (q : Question α) : m (Option α) :=
  selector q.path q.symbol q.current

/-- A selector that also writes down what it is asked. -/
def Selector.recorded (selector : Selector (StateM σ) α) :
    Selector (StateM (σ × List (Question α))) α := fun path symbol current x =>
  let (answer, s) := (selector path symbol current).run x.1
  (answer, (s, x.2 ++ [⟨path, symbol, current⟩]))

namespace Replacements

/-- Replacements with the answer about an alias, if there is one. -/
def addReply (ms : Replacements α) (e : RegistryEntry α) : Option α → Replacements α
  | some v => ms.addExport e.record.path e.record.symbol.text v
  | none => ms

/-- Every export that is named is that of an alias. -/
def Known (ms : Replacements α) (r : Registry α) : Prop :=
  ∀ path name, ¬ ms.Unknown r path name

theorem known_addReply {ms : Replacements α} {r : Registry α} (h : ms.Known r) {e : RegistryEntry α}
    (he : e ∈ r.entries) (answer : Option α) : (ms.addReply e answer).Known r := by
  cases answer with
  | none => exact h
  | some v =>
    rintro path name ⟨⟨m, w, hm, hw⟩, hunknown⟩
    simp only [addReply, addExport, Std.TreeMap.getElem?_insert] at hm
    split at hm
    · next hpath =>
      -- the export is the new one, or stood under the module before
      have hpath : e.record.path = path := by simpa using hpath
      obtain rfl := Option.some.inj hm
      simp only [Replacement.value?, Std.TreeMap.getElem?_insert] at hw
      split at hw
      · next hname =>
        exact hunknown ⟨e, he, hpath, .inl (by simpa using hname)⟩
      · cases hold : ms.get? e.record.path with
        | none =>
          rw [hold] at hw
          simp at hw
        | some old =>
          rw [hold] at hw
          rw [Option.elim_some, Replacement.getElem?_toExports] at hw
          refine h path name ⟨⟨old, w, ?_, hw⟩, hunknown⟩
          rw [← hpath, ← hold, Std.TreeMap.get?_eq_getElem?]
    · exact h path name ⟨⟨m, w, hm, hw⟩, hunknown⟩

end Replacements

namespace Registry

/-- The replacements that the answers about the aliases are regrouped into. -/
def collected (r : Registry α) (answers : List (Option α)) : Replacements α :=
  (r.entries.zip answers).foldl (fun ms x => ms.addReply x.1 x.2) ∅

/-- The registry after answers about its aliases. -/
def answeredBy [ModuleValue α] (r : Registry α) (answers : List (Option α)) : Registry α :=
  ⟨r.entries.map fun e => { e with current := (r.collected answers).newValue e }⟩

theorem records_answeredBy [ModuleValue α] (r : Registry α) (answers : List (Option α)) :
    (r.answeredBy answers).records = r.records := by
  simp only [answeredBy, records, List.map_map]
  rfl

/-- **Asking comes first**: a selector is asked about every alias in order, and what is collected
depends on the answers only. -/
theorem selected_eq [Monad m] [LawfulMonad m] (r : Registry α) (selector : Selector m α) :
    r.selected selector = r.collected <$> r.entries.mapM (selector.ask ·.question) := by
  have hfrom : ∀ (es : List (RegistryEntry α)) (ms : Replacements α),
      es.foldlM (fun ms e => ms.addReply e <$> selector.ask e.question) ms =
        (fun answers => (es.zip answers).foldl (fun ms x => ms.addReply x.1 x.2) ms) <$>
          es.mapM (selector.ask ·.question) := by
    intro es
    induction es with
    | nil => intro ms; simp
    | cons e es ih =>
      intro ms
      simp [ih, map_bind]
  have hstep : ∀ (ms : Replacements α) (e : RegistryEntry α),
      (selector e.record.path e.record.symbol e.current >>= fun answer =>
        match answer with
        | some value => pure (ms.addExport e.record.path e.record.symbol.text value)
        | none => pure ms) = ms.addReply e <$> selector.ask e.question := by
    intro ms e
    rw [map_eq_pure_bind]
    refine bind_congr fun answer => ?_
    cases answer <;> rfl
  have hsteps := funext fun ms => funext fun e => hstep ms e
  exact (congrArg (List.foldlM · ∅ r.entries) hsteps).trans (hfrom r.entries ∅)

/-- Answers name no export that is unknown. -/
theorem known_collected (r : Registry α) (answers : List (Option α)) :
    (r.collected answers).Known r := by
  have hfrom : ∀ (xs : List (RegistryEntry α × Option α)) (ms : Replacements α),
      (∀ x ∈ xs, x.1 ∈ r.entries) → ms.Known r →
        (xs.foldl (fun ms x => ms.addReply x.1 x.2) ms).Known r := by
    intro xs
    induction xs with
    | nil => exact fun ms _ h => h
    | cons x xs ih =>
      intro ms hxs h
      have hx := Replacements.known_addReply h (hxs x List.mem_cons_self) x.2
      exact ih _ (fun y hy => hxs y (List.mem_cons_of_mem x hy)) hx
  refine hfrom _ ∅ (fun x hx => (List.of_mem_zip hx).1) ?_
  rintro path name ⟨⟨m, v, hm, -⟩, -⟩
  simp at hm

theorem run_mapM_cons {β γ : Type} (f : β → StateM σ γ) (b : β) (bs : List β) (s : σ) :
    ((b :: bs).mapM f).run s =
      (((f b).run s).1 :: ((bs.mapM f).run ((f b).run s).2).1,
        ((bs.mapM f).run ((f b).run s).2).2) := by
  rw [List.mapM_cons]
  rfl

/-- A selector that records is asked the same questions, which it writes down, and answers the
same. -/
theorem run_mapM_recorded (selector : Selector (StateM σ) α) (es : List (RegistryEntry α)) (s : σ)
    (asked : List (Question α)) :
    (es.mapM (selector.recorded.ask ·.question)).run (s, asked) =
      (((es.mapM (selector.ask ·.question)).run s).1,
        (((es.mapM (selector.ask ·.question)).run s).2, asked ++ es.map (·.question))) := by
  induction es generalizing s asked with
  | nil => simp; rfl
  | cons e es ih =>
    have hask : (selector.recorded.ask e.question).run (s, asked) =
        (((selector.ask e.question).run s).1,
          (((selector.ask e.question).run s).2, asked ++ [e.question])) := rfl
    rw [run_mapM_cons, run_mapM_cons, hask, ih]
    simp

end Registry

/-- **A mock with a selector asks once about every alias and succeeds.**  Whatever the selector
does, it is asked about every alias once, in the order of registration, with the alias's module, its
export and the value that it had before; the mock then succeeds with a registry that depends on the
answers alone.  In particular a selector with a state is asked these questions and no others, and
ends in the state that they lead to. -/
theorem mock_select_asks [ModuleValue α] {r : Registry α} (hr : r.Reachable) :
    (∀ {m : Type → Type} [Monad m] [LawfulMonad m] (selector : Selector m α),
      r.mock (.select selector) =
        (fun answers => .ok (r.answeredBy answers)) <$>
          r.entries.mapM (selector.ask ·.question)) ∧
      ∀ {σ : Type} (selector : Selector (StateM σ) α) (s : σ), ∃ r' s',
        (r.mock (.select selector)).run s = (.ok r', s') ∧
          (r.mock (.select selector.recorded)).run (s, []) =
            (.ok r', (s', r.entries.map (·.question))) ∧
          r'.records = r.records := by
  have hmock : ∀ {m : Type → Type} [Monad m] [LawfulMonad m] (selector : Selector m α),
      r.mock (.select selector) = (fun answers => .ok (r.answeredBy answers)) <$>
        r.entries.mapM (selector.ask ·.question) := by
    intro m _ _ selector
    have hok : ∀ answers, r.replace (r.collected answers) = .ok (r.answeredBy answers) :=
      fun answers => Registry.replace_eq_ok hr.nodup (r.known_collected answers)
    rw [Registry.mock, Registry.selected_eq]
    simp [hok]
  refine ⟨hmock, fun {σ} selector s => ?_⟩
  have hrun : ∀ {τ : Type} (sel : Selector (StateM τ) α) (x : τ),
      (r.mock (.select sel)).run x =
        (.ok (r.answeredBy ((r.entries.mapM (sel.ask ·.question)).run x).1),
          ((r.entries.mapM (sel.ask ·.question)).run x).2) := by
    intro τ sel x
    rw [hmock]
    rfl
  refine ⟨_, _, hrun selector s, ?_, r.records_answeredBy _⟩
  rw [hrun, Registry.run_mapM_recorded, List.nil_append]

/-- A registry in which two aliases were imported as the same export, beside one for the whole
module. -/
def sharedRegistry : Registry JsonValue :=
  starRegistry.register "y" ⟨"./a", .named "x", .int 1⟩

/-- A selector that answers with the number of its calls, and skips the first. -/
def countingSelector : Selector (StateM Nat) JsonValue := fun _ _ _ n =>
  (if n = 0 then none else some (.int n), n + 1)

theorem sharedRegistry_select_asks :
    sharedRegistry.Reachable ∧ ∃ r' s',
      (sharedRegistry.mock (.select countingSelector)).run 0 = (.ok r', s') ∧
        (sharedRegistry.mock (.select countingSelector.recorded)).run (0, []) =
          (.ok r', (s', [⟨"./a", .star, .int 0⟩, ⟨"./a", .named "x", .int 0⟩,
            ⟨"./a", .named "x", .int 1⟩])) := by
  have hr : sharedRegistry.Reachable :=
    ((Registry.Reachable.empty.register _ _).register _ _).register _ _
  obtain ⟨r', s', hrun, hrecorded, -⟩ := (mock_select_asks hr).2 countingSelector 0
  exact ⟨hr, r', s', hrun, hrecorded⟩

end ImportSeam
