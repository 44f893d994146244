import ImportSeam.Proofs.Registry.Lookup
import Std.Data.HashMap.Lemmas

/-!
# A registry in tables

A registry that is asked for an alias again and again keeps the names in a list, which has their
order, and the records and the present values in a table each.  The three are written separately:
registering an alias writes all of them, a mock and a restore write the present values only.  They
stay in step nevertheless, since a mock writes under names that are registered and a restore goes
through the table of records.

## Main definitions

* `RegistryTables` — a list of names, a table of records and a table of values.
* `RegistryTables.Holds` — the three agree with a registry.

## Main results

* `RegistryTables.Holds.register`, `.mock`, `.restoreAll`, `.restore` — every operation on the tables
  does what it does on the registry.
-/

namespace ImportSeam

variable {α : Type}

/-! ### The tables -/

/-- The names of a registry in order, and their records and present values in tables. -/
structure RegistryTables (α : Type) where
  names : List String := []
  records : Std.HashMap String (ImportRecord α) := ∅
  values : Std.HashMap String α := ∅

namespace RegistryTables

/-- Writes an alias into all three, unless it would hide an operation of the registry.  Only a name
that had no record goes into the list. -/
def register (t : RegistryTables α) (name : String) (record : ImportRecord α) : RegistryTables α :=
  if isReservedAlias name then t
  else {
    names := if t.records.contains name then t.names else t.names ++ [name]
    records := t.records.insert name record
    values := t.values.insert name record.value }

/-- The tables of a list of records. -/
def ofList (records : List (String × ImportRecord α)) : RegistryTables α :=
  records.foldl (fun t (name, record) => t.register name record) {}

/-- The names with what the tables have for them. -/
def registry (t : RegistryTables α) : Registry α :=
  ⟨t.names.filterMap fun name => do
    let record ← t.records[name]?
    let current ← t.values[name]?
    return ⟨name, record, current⟩⟩

/-- Writes values, one after the other. -/
def assignAll (t : RegistryTables α) (assignments : List (String × α)) : RegistryTables α :=
  { t with values := assignments.foldl (fun values (name, v) => values.insert name v) t.values }

/-- Writes the values that replacements give, once all of them are known. -/
def replace [ModuleValue α] (t : RegistryTables α) (ms : Replacements α) :
    Except UnknownImport (RegistryTables α) :=
  (t.registry.assignments ms).map t.assignAll

/-- Replaces the values of the aliases that an overlay names. -/
def mock {m : Type → Type} [Monad m] [ModuleValue α] (t : RegistryTables α) :
    Overlay m α → m (Except UnknownImport (RegistryTables α))
  | .modules ms => return t.replace ms
  | .select selector => return t.replace (← t.registry.selected selector)

/-- Goes through the table of records, in whatever order it has, and writes the registered values of
those that are chosen. -/
def restoreWhere (t : RegistryTables α) (chosen : ImportRecord α → Bool) : RegistryTables α :=
  { t with values := t.records.fold (fun values name record =>
      if chosen record then values.insert name record.value else values) t.values }

/-- Writes all registered values. -/
def restoreAll (t : RegistryTables α) : RegistryTables α := t.restoreWhere fun _ => true

/-- Writes the registered values of the selected aliases. -/
def restore (t : RegistryTables α) (s : RestoreSelection) : RegistryTables α :=
  t.restoreWhere fun record => s.selects record.path record.symbol

/-- The list and both tables agree with a registry. -/
structure Holds (t : RegistryTables α) (r : Registry α) : Prop where
  names : t.names = r.aliases
  nodup : r.aliases.Nodup
  records : ∀ name, t.records[name]? = r.record? name
  values : ∀ name, t.values[name]? = r.get? name

theorem Holds.empty : ({} : RegistryTables α).Holds {} :=
  ⟨rfl, List.nodup_nil, fun _ => Std.HashMap.getElem?_empty, fun _ => Std.HashMap.getElem?_empty⟩

/-- What tables hold can be read back from them. -/
theorem Holds.registry_eq {t : RegistryTables α} {r : Registry α} (h : t.Holds r) :
    t.registry = r := by
  have hread : ∀ e ∈ r.entries, (do
      let record ← t.records[e.name]?
      let current ← t.values[e.name]?
      return (⟨e.name, record, current⟩ : RegistryEntry α)) = some e := by
    intro e he
    rw [h.records, h.values, Registry.record?_eq, Registry.get?_eq,
      Registry.held?_of_mem h.nodup he]
    rfl
  rw [registry, h.names, Registry.aliases, List.filterMap_map]
  exact congrArg Registry.mk ((List.filterMap_congr hread).trans List.filterMap_some)

/-- The tables have the same keys, and these are the names. -/
theorem Holds.mem_iff {t : RegistryTables α} {r : Registry α} (h : t.Holds r) (name : String) :
    (name ∈ t.records ↔ name ∈ t.names) ∧ (name ∈ t.values ↔ name ∈ t.names) := by
  rw [Std.HashMap.mem_iff_isSome_getElem?, Std.HashMap.mem_iff_isSome_getElem?, h.records, h.values,
    h.names, Registry.record?_eq, Registry.get?_eq, Option.isSome_map, Option.isSome_map,
    Registry.held?_isSome]
  exact ⟨Iff.rfl, Iff.rfl⟩

/-! ### Every operation keeps them in step -/

theorem Holds.register {t : RegistryTables α} {r : Registry α} (h : t.Holds r) (name : String)
    (record : ImportRecord α) : (t.register name record).Holds (r.register name record) := by
  by_cases hres : isReservedAlias name
  · rw [RegistryTables.register, if_pos hres, Registry.register, Registry.register?, if_pos hres]
    exact h
  · rw [RegistryTables.register, if_neg hres, Registry.register, Registry.register?, if_neg hres]
    have hknown : t.records.contains name = true ↔ name ∈ r.aliases := by
      rw [Std.HashMap.contains_iff_mem, (h.mem_iff name).1, h.names]
    refine ⟨?_, Registry.nodup_put h.nodup _, fun name' => ?_, fun name' => ?_⟩
    · rw [Option.getD_some, Registry.aliases_put, h.names]
      by_cases hmem : name ∈ r.aliases
      · simp only [hknown.mpr hmem, RegistryEntry.fresh, hmem, if_true]
      · simp only [mt hknown.mp hmem, RegistryEntry.fresh, hmem, if_false, Bool.false_eq_true]
    · rw [Option.getD_some, Registry.record?_eq, Registry.held?_put,
        Std.HashMap.getElem?_insert, h.records]
      by_cases hname : name = name' <;> simp [RegistryEntry.fresh, hname, Registry.record?_eq]
    · rw [Option.getD_some, Registry.get?_eq, Registry.held?_put,
        Std.HashMap.getElem?_insert, h.values]
      by_cases hname : name = name' <;> simp [RegistryEntry.fresh, hname, Registry.get?_eq]

theorem Holds.ofList (records : List (String × ImportRecord α)) :
    (RegistryTables.ofList records).Holds (Registry.ofList records) := by
  have hfrom : ∀ (t : RegistryTables α) (r : Registry α), t.Holds r →
      (records.foldl (fun t (name, record) => t.register name record) t).Holds
        (records.foldl (fun r (name, record) => r.register name record) r) := by
    induction records with
    | nil => exact fun t r h => h
    | cons x records ih => exact fun t r h => ih _ _ (h.register x.1 x.2)
  exact hfrom {} {} .empty

/-- One value is written under a name that is registered. -/
theorem Holds.assign {t : RegistryTables α} {r : Registry α} (h : t.Holds r) {name : String}
    (hname : name ∈ r.aliases) (v : α) :
    ({ t with values := t.values.insert name v } : RegistryTables α).Holds (r.assign name v) := by
  have hsame : (r.assign name v).aliases = r.aliases :=
    Registry.aliases_map r.entries fun e => by split <;> rfl
  refine ⟨h.names.trans hsame.symm, hsame ▸ h.nodup, fun name' => ?_, fun name' => ?_⟩
  · rw [h.records, Registry.record?_eq, Registry.record?_eq, Registry.held?_assign, Option.map_map]
    refine congrArg (Option.map · _) (funext fun e => ?_)
    dsimp only [Function.comp_apply]
    split <;> rfl
  · rw [Std.HashMap.getElem?_insert, h.values, Registry.get?_eq, Registry.get?_eq,
      Registry.held?_assign, Option.map_map]
    by_cases heq : name = name'
    · obtain ⟨e, he⟩ := Option.isSome_iff_exists.mp (Registry.held?_isSome.mpr hname)
      have hnamed : e.name = name := by simpa using List.find?_some he
      simp [← heq, he, hnamed]
    · cases he : r.held? name' with
      | none => simp [heq]
      | some e =>
        have hnamed : e.name = name' := by simpa using List.find?_some he
        simp [heq, hnamed, Ne.symm heq]

theorem Holds.assignAll {t : RegistryTables α} {r : Registry α} (h : t.Holds r)
    {as : List (String × α)} (has : ∀ a ∈ as, a.1 ∈ r.aliases) :
    (t.assignAll as).Holds (r.assignAll as) := by
  induction as generalizing t r with
  | nil => exact h
  | cons a as ih =>
    have hsame : (r.assign a.1 a.2).aliases = r.aliases := Registry.aliases_assignAll [a] r
    refine ih (h.assign (has a List.mem_cons_self) a.2) fun b hb => ?_
    rw [hsame]
    exact has b (List.mem_cons_of_mem a hb)

/-- Two attempts to mock: both fail with the same mistake, or what is left holds what is left. -/
inductive Alike : Except UnknownImport (RegistryTables α) → Except UnknownImport (Registry α) → Prop
  | error (e : UnknownImport) : Alike (.error e) (.error e)
  | ok {t : RegistryTables α} {r : Registry α} (h : t.Holds r) : Alike (.ok t) (.ok r)

theorem Holds.replace [ModuleValue α] {t : RegistryTables α} {r : Registry α} (h : t.Holds r)
    (ms : Replacements α) : Alike (t.replace ms) (r.replace ms) := by
  rw [RegistryTables.replace, Registry.replace_eq, h.registry_eq]
  cases has : r.assignments ms with
  | error e => exact .error e
  | ok as => exact .ok (h.assignAll fun a ha => Registry.mem_aliases_of_mem_assignments has ha)

/-- A mock of the tables asks a selector the same questions, and leaves it in the same state. -/
theorem Holds.mock [ModuleValue α] {σ : Type} {t : RegistryTables α} {r : Registry α}
    (h : t.Holds r) (o : Overlay (StateM σ) α) (s : σ) :
    ((t.mock o).run s).2 = ((r.mock o).run s).2 ∧
      Alike ((t.mock o).run s).1 ((r.mock o).run s).1 := by
  cases o with
  | modules ms => exact ⟨rfl, h.replace ms⟩
  | select selector =>
    have hmock : (t.mock (.select selector)).run s =
        (t.replace ((r.selected selector).run s).1, ((r.selected selector).run s).2) := by
      rw [RegistryTables.mock, h.registry_eq]
      rfl
    rw [hmock]
    exact ⟨rfl, h.replace _⟩

/-- Going through records writes the values of those that are chosen. -/
theorem getElem?_foldl_restored {r : Registry α} (chosen : ImportRecord α → Bool)
    {xs : List (String × ImportRecord α)} (hxs : ∀ x ∈ xs, r.record? x.1 = some x.2)
    (values : Std.HashMap String α) (name : String) :
    (xs.foldl (fun values x => if chosen x.2 then values.insert x.1 x.2.value else values)
      values)[name]? =
      if xs.any fun x => x.1 == name && chosen x.2 then (r.record? name).map (·.value)
      else values[name]? := by
  induction xs generalizing values with
  | nil => rfl
  | cons x xs ih =>
    obtain ⟨name', record⟩ := x
    have hrecord : r.record? name' = some record := hxs _ List.mem_cons_self
    rw [List.foldl_cons, ih fun x hx => hxs x (List.mem_cons_of_mem _ hx), List.any_cons]
    by_cases hx : (name' == name && chosen record) = true
    · -- What the rest writes under this name is the same value.
      rw [hx, Bool.true_or, if_pos rfl]
      obtain ⟨rfl, hchosen⟩ : name' = name ∧ chosen record = true := by simpa using hx
      rw [if_pos hchosen, Std.HashMap.getElem?_insert_self, hrecord]
      exact ite_self _
    · have hskip : (if chosen record then values.insert name' record.value else values)[name]? =
          values[name]? := by
        split
        · next hchosen =>
          rw [Std.HashMap.getElem?_insert, if_neg fun h => hx (by rw [h, hchosen]; rfl)]
        · rfl
      rw [(Bool.not_eq_true _).mp hx, Bool.false_or, hskip]

theorem Holds.restoreWhere {t : RegistryTables α} {r : Registry α} (h : t.Holds r)
    (chosen : ImportRecord α → Bool) :
    (t.restoreWhere chosen).Holds
      ⟨r.entries.map fun e => if chosen e.record then e.restored else e⟩ := by
  have hkeep : ∀ e : RegistryEntry α,
      (if chosen e.record then e.restored else e).name = e.name := fun e => by split <;> rfl
  have hsame := Registry.aliases_map r.entries hkeep
  have hlisted : ∀ x ∈ t.records.toList, r.record? x.1 = some x.2 := fun x hx => by
    rw [← h.records]
    exact Std.HashMap.mem_toList_iff_getElem?_eq_some.mp hx
  refine ⟨h.names.trans hsame.symm, hsame ▸ h.nodup, fun name => ?_, fun name => ?_⟩
  · rw [Registry.record?_eq, Registry.held?_map r hkeep, Option.map_map]
    refine (h.records name).trans (congrArg (Option.map · _) (funext fun e => ?_))
    dsimp only [Function.comp_apply]
    split <;> rfl
  · have hvalues : (t.restoreWhere chosen).values[name]? = _ :=
      (congrArg (·[name]?) Std.HashMap.fold_eq_foldl_toList).trans
        (getElem?_foldl_restored chosen hlisted t.values name)
    rw [hvalues, Registry.get?_eq, Registry.held?_map r hkeep, h.values, Registry.get?_eq,
      Registry.record?_eq]
    have hany : (t.records.toList.any fun x => x.1 == name && chosen x.2) =
        ((r.record? name).any chosen) := by
      rw [← h.records, Bool.eq_iff_iff, List.any_eq_true, Option.any_eq_true]
      constructor
      · rintro ⟨x, hx, hchosen⟩
        obtain ⟨hname, hchosen⟩ : x.1 = name ∧ chosen x.2 := by simpa using hchosen
        exact ⟨x.2, hname ▸ Std.HashMap.mem_toList_iff_getElem?_eq_some.mp hx, hchosen⟩
      · rintro ⟨record, hrecord, hchosen⟩
        exact ⟨(name, record), Std.HashMap.mem_toList_iff_getElem?_eq_some.mpr hrecord,
          by simp [hchosen]⟩
    rw [hany, Registry.record?_eq]
    cases r.held? name with
    | none => rfl
    | some e =>
      dsimp only [Option.map_some, Option.any_some]
      split <;> rfl

theorem Holds.restoreAll {t : RegistryTables α} {r : Registry α} (h : t.Holds r) :
    t.restoreAll.Holds r.restoreAll := h.restoreWhere fun _ => true

theorem Holds.restore {t : RegistryTables α} {r : Registry α} (h : t.Holds r)
    (s : RestoreSelection) : (t.restore s).Holds (r.restore s) :=
  h.restoreWhere fun record => s.selects record.path record.symbol

end RegistryTables

end ImportSeam
