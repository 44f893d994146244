import ImportSeam.Proofs.Registry.Tables

/-!
# Runs of a registry

A registry is used in any order: aliases are registered, also again and also after a mock, overlays
are mocked, and mocks fail and are undone.  Only registrations have a lasting effect on what the
registry knows.  A mock or a restore changes present values and nothing else.

A selector may keep a state of its own, which is threaded through the run.

## Main definitions

* `Operation` — what can be done with a registry.
* `Registry.run`, `RegistryTables.run` — one operation after the other.
* `accepted` — the registrations of a run that are not refused.
* `Registered` — a registry that knows what was registered.

## Main results

* `Registry.records_perform` — only a registration changes what the registry knows.
* `RegistryTables.holds_perform` — the tables stay in step with the registry.
* `run_registered` — what a registry and its tables are after any run.
-/

namespace ImportSeam

variable {σ α : Type}

/-- What can be done with a registry. -/
inductive Operation (σ α : Type) where
  | register (name : String) (record : ImportRecord α)
  | mock (overlay : Overlay (StateM σ) α)
  | restore (selection : RestoreSelection)
  | restoreAll

/-- The registration that an operation is, unless it is refused. -/
def Operation.accepted? : Operation σ α → Option (String × ImportRecord α)
  | .register name record => if isReservedAlias name then none else some (name, record)
  | .mock _ | .restore _ | .restoreAll => none

/-- Whether an operation is a registration, accepted or not. -/
def Operation.isRegistration : Operation σ α → Bool
  | .register _ _ => true
  | .mock _ | .restore _ | .restoreAll => false

/-- The registrations of a list and of the run that follows, without those that are refused. -/
def accepted (xs : List (String × ImportRecord α)) (ops : List (Operation σ α)) :
    List (String × ImportRecord α) :=
  xs.filter (!isReservedAlias ·.1) ++ ops.filterMap (·.accepted?)

/-- A registry that knows what was registered: the names in the order in which they came first, each
with the record that came last. -/
structure Registered (r : Registry α) (xs : List (String × ImportRecord α)) : Prop where
  aliases : r.aliases = (xs.map (·.1)).eraseDups
  record? : ∀ name, r.record? name = xs.reverse.lookup name

/-! ### Operations on a registry -/

namespace Registry

/-- An operation on a registry, with the state of the selectors.  A mock that fails leaves the
registry as it was. -/
def perform [ModuleValue α] (x : Registry α × σ) : Operation σ α → Registry α × σ
  | .register name record => (x.1.register name record, x.2)
  | .mock o => ((x.1.after ((x.1.mock o).run x.2).1), ((x.1.mock o).run x.2).2)
  | .restore selection => (x.1.restore selection, x.2)
  | .restoreAll => (x.1.restoreAll, x.2)

/-- Operations on a registry, one after the other. -/
def run [ModuleValue α] (x : Registry α × σ) (ops : List (Operation σ α)) : Registry α × σ :=
  ops.foldl perform x

theorem aliases_eq (r : Registry α) : r.aliases = r.records.map (·.1) := by
  simp only [aliases, records, List.map_map, Function.comp_def]

theorem record?_eq_lookup (r : Registry α) (name : String) :
    r.record? name = r.records.lookup name := by
  obtain ⟨es⟩ := r
  rw [record?_eq, held?, records]
  induction es with
  | nil => rfl
  | cons e es ih =>
    rw [List.find?_cons, List.map_cons, List.lookup_cons, BEq.comm (a := name)]
    cases e.name == name with
    | true => rfl
    | false => exact ih

/-- Entries that keep their names and records. -/
theorem records_map (es : List (RegistryEntry α)) {f : RegistryEntry α → RegistryEntry α}
    (hf : ∀ e, (f e).name = e.name ∧ (f e).record = e.record) :
    (⟨es.map f⟩ : Registry α).records = (⟨es⟩ : Registry α).records := by
  simp only [records, List.map_map]
  exact List.map_congr_left fun e _ => Prod.ext (hf e).1 (hf e).2

/-- A mock changes values only, and a mock that fails not even these. -/
theorem records_after_replace [ModuleValue α] (r : Registry α) (ms : Replacements α) :
    (r.after (r.replace ms)).records = r.records := by
  rw [replace_eq]
  cases r.assignments ms with
  | error e => rfl
  | ok as =>
    have hafter : r.after (.ok (r.assignAll as)) = r.assignAll as := rfl
    rw [Except.map, hafter, assignAll_eq]
    exact records_map r.entries fun _ => ⟨rfl, rfl⟩

/-- **Only a registration changes what the registry knows**: the aliases, their order and their
records. -/
theorem records_perform [ModuleValue α] (x : Registry α × σ) {op : Operation σ α}
    (hop : op.isRegistration = false) : (perform x op).1.records = x.1.records := by
  cases op with
  | register name record => exact nomatch hop
  | mock o =>
    cases o with
    | modules ms => exact x.1.records_after_replace ms
    | select selector => exact x.1.records_after_replace _
  | restore selection =>
    exact records_map x.1.entries fun e => by split <;> exact ⟨rfl, rfl⟩
  | restoreAll => exact records_map x.1.entries fun _ => ⟨rfl, rfl⟩

end Registry

/-! ### What the registry knows -/

namespace Registered

theorem empty : Registered ({} : Registry α) [] := ⟨rfl, fun _ => rfl⟩

/-- What is known is the records. -/
theorem of_records_eq {r r' : Registry α} {xs : List (String × ImportRecord α)}
    (h : Registered r xs) (hr : r'.records = r.records) : Registered r' xs := by
  refine ⟨?_, fun name => ?_⟩
  · rw [r'.aliases_eq, hr, ← r.aliases_eq, h.aliases]
  · rw [r'.record?_eq_lookup, hr, ← r.record?_eq_lookup, h.record?]

/-- A registration comes last, unless it is refused. -/
theorem register {r : Registry α} {xs : List (String × ImportRecord α)} (h : Registered r xs)
    (name : String) (record : ImportRecord α) :
    Registered (r.register name record)
      (xs ++ [(name, record)].filter (!isReservedAlias ·.1)) := by
  cases hname : isReservedAlias name with
  | true =>
    have hsame : r.register name record = r := by
      rw [Registry.register, Registry.register?, hname]
      rfl
    simpa [hsame, hname] using h
  | false =>
    have hput : r.register name record = r.put (.fresh name record) := by
      rw [Registry.register, Registry.register?, hname]
      rfl
    have hfresh : (RegistryEntry.fresh name record).name = name := rfl
    have hone : [(name, record)].filter (!isReservedAlias ·.1) = [(name, record)] := by simp [hname]
    rw [hput, hone]
    refine ⟨?_, fun name' => ?_⟩
    · rw [Registry.aliases_put, hfresh, h.aliases, List.map_append, List.eraseDups_append]
      by_cases hmem : name ∈ xs.map (·.1)
      · have hnone : ([name].removeAll (xs.map (·.1))).eraseDups = [] := by
          simp [List.removeAll, hmem]
        rw [if_pos (List.mem_eraseDups.mpr hmem)]
        exact (hnone ▸ List.append_nil _).symm
      · have hnew : ([name].removeAll (xs.map (·.1))).eraseDups = [name] := by
          simp [List.removeAll, hmem, List.eraseDups_cons]
        rw [if_neg (mt List.mem_eraseDups.mp hmem)]
        exact congrArg (_ ++ ·) hnew.symm
    · rw [Registry.record?_eq, Registry.held?_put, hfresh, List.reverse_append,
        List.reverse_singleton, List.singleton_append, List.lookup_cons]
      by_cases heq : name = name'
      · simp [heq, RegistryEntry.fresh]
      · rw [if_neg heq, beq_false_of_ne (Ne.symm heq), ← h.record? name']
        rfl

theorem perform [ModuleValue α] {x : Registry α × σ} {xs : List (String × ImportRecord α)}
    (h : Registered x.1 xs) (op : Operation σ α) :
    Registered (Registry.perform x op).1 (xs ++ op.accepted?.toList) := by
  cases hop : op.isRegistration with
  | false =>
    have hnone : op.accepted?.toList = [] := by cases op <;> first | rfl | exact nomatch hop
    rw [hnone, List.append_nil]
    exact h.of_records_eq (Registry.records_perform x hop)
  | true =>
    cases op with
    | register name record =>
      have hlist : (Operation.register name record : Operation σ α).accepted?.toList =
          [(name, record)].filter (!isReservedAlias ·.1) := by
        rw [Operation.accepted?]
        cases hname : isReservedAlias name <;> simp [hname]
      rw [hlist]
      exact h.register name record
    | mock o => exact nomatch hop
    | restore selection => exact nomatch hop
    | restoreAll => exact nomatch hop

theorem run [ModuleValue α] {x : Registry α × σ} {xs : List (String × ImportRecord α)}
    (h : Registered x.1 xs) (ops : List (Operation σ α)) :
    Registered (Registry.run x ops).1 (xs ++ ops.filterMap (·.accepted?)) := by
  induction ops generalizing x xs with
  | nil => exact (List.append_nil xs).symm ▸ h
  | cons op ops ih =>
    have hsplit : xs ++ (op :: ops).filterMap (·.accepted?) =
        (xs ++ op.accepted?.toList) ++ ops.filterMap (·.accepted?) := by
      cases hop : op.accepted? <;> simp [hop]
    rw [hsplit]
    exact ih (h.perform op)

theorem ofList (xs : List (String × ImportRecord α)) :
    Registered (Registry.ofList xs) (xs.filter (!isReservedAlias ·.1)) := by
  have hfrom : ∀ (r : Registry α) (ys : List (String × ImportRecord α)), Registered r ys →
      Registered (xs.foldl (fun r x => r.register x.1 x.2) r)
        (ys ++ xs.filter (!isReservedAlias ·.1)) := by
    induction xs with
    | nil => exact fun r ys h => (List.append_nil ys).symm ▸ h
    | cons x xs ih =>
      intro r ys h
      have hsplit : ys ++ (x :: xs).filter (!isReservedAlias ·.1) =
          (ys ++ [x].filter (!isReservedAlias ·.1)) ++ xs.filter (!isReservedAlias ·.1) := by
        rw [List.append_assoc, ← List.filter_append, List.singleton_append]
      rw [hsplit]
      exact ih _ _ (h.register x.1 x.2)
  exact hfrom {} [] empty

/-- Names that would hide an operation of the registry are not registered. -/
theorem not_mem_of_reserved {r : Registry α} {xs : List (String × ImportRecord α)}
    (h : Registered r xs) (hxs : ∀ x ∈ xs, isReservedAlias x.1 = false) {name : String}
    (hname : name ∈ reservedAliases) : name ∉ r.aliases := by
  rw [h.aliases, List.mem_eraseDups, List.mem_map]
  rintro ⟨x, hx, rfl⟩
  have hfree := hxs x hx
  rw [isReservedAlias, List.contains_iff_mem.mpr hname] at hfree
  exact nomatch hfree

end Registered

/-! ### The tables -/

namespace RegistryTables

/-- The tables that stand after an attempt to mock: a failed one leaves them as they were. -/
def after (t : RegistryTables α) (outcome : Except UnknownImport (RegistryTables α)) :
    RegistryTables α :=
  outcome.toOption.getD t

/-- An operation on the tables, with the state of the selectors. -/
def perform [ModuleValue α] (x : RegistryTables α × σ) : Operation σ α → RegistryTables α × σ
  | .register name record => (x.1.register name record, x.2)
  | .mock o => ((x.1.after ((x.1.mock o).run x.2).1), ((x.1.mock o).run x.2).2)
  | .restore selection => (x.1.restore selection, x.2)
  | .restoreAll => (x.1.restoreAll, x.2)

/-- Operations on the tables, one after the other. -/
def run [ModuleValue α] (x : RegistryTables α × σ) (ops : List (Operation σ α)) :
    RegistryTables α × σ :=
  ops.foldl perform x

theorem Alike.after {t : RegistryTables α} {r : Registry α} (h : t.Holds r)
    {a : Except UnknownImport (RegistryTables α)} {b : Except UnknownImport (Registry α)}
    (hab : Alike a b) : (t.after a).Holds (r.after b) := by
  cases hab with
  | error e => exact h
  | ok h' => exact h'

/-- **The tables stay in step with the registry** in every operation. -/
theorem holds_perform [ModuleValue α] {x : RegistryTables α × σ} {y : Registry α × σ}
    (h : x.1.Holds y.1) (hs : x.2 = y.2) (op : Operation σ α) :
    (perform x op).1.Holds (Registry.perform y op).1 ∧
      (perform x op).2 = (Registry.perform y op).2 := by
  obtain ⟨t, s⟩ := x
  obtain ⟨r, s'⟩ := y
  obtain rfl : s = s' := hs
  cases op with
  | register name record => exact ⟨h.register name record, rfl⟩
  | mock o =>
    obtain ⟨hstate, halike⟩ := h.mock o s
    exact ⟨halike.after h, hstate⟩
  | restore selection => exact ⟨h.restore selection, rfl⟩
  | restoreAll => exact ⟨h.restoreAll, rfl⟩

theorem holds_run [ModuleValue α] {x : RegistryTables α × σ} {y : Registry α × σ}
    (h : x.1.Holds y.1) (hs : x.2 = y.2) (ops : List (Operation σ α)) :
    (run x ops).1.Holds (Registry.run y ops).1 ∧ (run x ops).2 = (Registry.run y ops).2 := by
  induction ops generalizing x y with
  | nil => exact ⟨h, hs⟩
  | cons op ops ih =>
    obtain ⟨hop, hsop⟩ := holds_perform h hs op
    exact ih hop hsop

/-- Only a registration writes the list of names or the table of records. -/
theorem perform_names_records [ModuleValue α] (x : RegistryTables α × σ) {op : Operation σ α}
    (hop : op.isRegistration = false) :
    (perform x op).1.names = x.1.names ∧ (perform x op).1.records = x.1.records := by
  cases op with
  | register name record => exact nomatch hop
  | mock o =>
    have hafter : ∀ ms : Replacements α, (x.1.after (x.1.replace ms)).names = x.1.names ∧
        (x.1.after (x.1.replace ms)).records = x.1.records := by
      intro ms
      rw [replace]
      cases x.1.registry.assignments ms <;> exact ⟨rfl, rfl⟩
    cases o with
    | modules ms => exact hafter ms
    | select selector => exact hafter _
  | restore selection => exact ⟨rfl, rfl⟩
  | restoreAll => exact ⟨rfl, rfl⟩

end RegistryTables

/-- What is accepted does not hide an operation of the registry. -/
theorem not_reserved_of_mem_accepted {xs : List (String × ImportRecord α)}
    {ops : List (Operation σ α)} {x : String × ImportRecord α} (hx : x ∈ accepted xs ops) :
    isReservedAlias x.1 = false := by
  rcases List.mem_append.mp hx with hx | hx
  · simpa using (List.mem_filter.mp hx).2
  · obtain ⟨op, -, hop⟩ := List.mem_filterMap.mp hx
    cases op with
    | register name record =>
      rw [Operation.accepted?] at hop
      split at hop
      · exact nomatch hop
      · next hname =>
        obtain rfl := Option.some.inj hop
        exact (Bool.not_eq_true _).mp hname
    | mock o => exact nomatch hop
    | restore selection => exact nomatch hop
    | restoreAll => exact nomatch hop

/-- The tables of a registry are in step with it, with each other and with what was accepted. -/
structure InStep (t : RegistryTables α) (r : Registry α) (xs : List (String × ImportRecord α)) :
    Prop where
  /-- The list and the tables say what the registry says. -/
  holds : t.Holds r
  /-- No name stands twice. -/
  nodup : t.names.Nodup
  /-- The names stand in the order in which they were registered first. -/
  names : t.names = (xs.map (·.1)).eraseDups
  /-- The names are the keys of the records. -/
  mem_records : ∀ name, name ∈ t.records ↔ name ∈ t.names
  /-- The names are the keys of the present values. -/
  mem_values : ∀ name, name ∈ t.values ↔ name ∈ t.names
  /-- No name hides an operation. -/
  free : ∀ name ∈ reservedAliases, name ∉ t.names
  /-- A name has the record that was accepted last for it. -/
  records : ∀ name, t.records[name]? = xs.reverse.lookup name

/-- **A registry stays in step with itself in every run.**  From any list of records and with any
operations, in every state of the selectors: the names have no repetition and stand in the order in
which they were accepted first, they are the keys of the records and of the present values, none of
them hides an operation, and each has the record that was accepted last.  Whatever is done next and
is not a registration keeps the names, their order and the records. -/
theorem run_in_step [ModuleValue α] (xs : List (String × ImportRecord α))
    (ops : List (Operation σ α)) (s : σ) :
    let x := RegistryTables.run (RegistryTables.ofList xs, s) ops
    let y := Registry.run (Registry.ofList xs, s) ops
    InStep x.1 y.1 (accepted xs ops) ∧ x.2 = y.2 ∧
      ∀ op : Operation σ α, op.isRegistration = false →
        (Registry.perform y op).1.records = y.1.records ∧
          (RegistryTables.perform x op).1.names = x.1.names ∧
          (RegistryTables.perform x op).1.records = x.1.records := by
  intro x y
  obtain ⟨hholds, hstate⟩ : x.1.Holds y.1 ∧ x.2 = y.2 :=
    RegistryTables.holds_run (RegistryTables.Holds.ofList xs) rfl ops
  have hregistered : Registered y.1 (accepted xs ops) :=
    Registered.run (x := (Registry.ofList xs, s)) (Registered.ofList xs) ops
  have hfree := fun name (hname : name ∈ reservedAliases) =>
    hregistered.not_mem_of_reserved (fun _ hx => not_reserved_of_mem_accepted hx) hname
  refine ⟨⟨hholds, ?_, ?_, fun name => (hholds.mem_iff name).1, fun name => (hholds.mem_iff name).2,
    ?_, fun name => (hholds.records name).trans (hregistered.record? name)⟩, hstate,
    fun op hop => ⟨Registry.records_perform y hop, RegistryTables.perform_names_records x hop⟩⟩
  · exact hholds.names ▸ hholds.nodup
  · exact hholds.names.trans hregistered.aliases
  · exact hholds.names ▸ hfree

end ImportSeam
