import ImportSeam.Proofs.Registry.Run

/-!
# What a restore does

A restore writes registered values over present ones.  Which value an alias gets does not depend on
what the alias had before, so restores can be repeated and exchanged, and what was mocked before all
aliases are restored is forgotten.

A restore of the tables goes through the records in the order of the hash table, which may be any.
Every alias has one record, so the order does not matter either.

## Main definitions

* `Restoring` — the two ways to restore.
* `RegistryTables.restoreInOrder` — a restore that goes through the records in a given order.
* `Restores` — what restoring means for a registry and its tables.

## Main results

* `Registry.restoring_comm`, `Registry.restoring_idem` — restores can be exchanged and repeated.
* `Registry.restoreAll_after_mock` — restoring all aliases forgets a mock.
* `RegistryTables.Holds.restoreInOrder` — the order of the records does not matter.
* `run_restores` — all of this after every run.
-/

namespace ImportSeam

variable {σ α : Type}

/-- The two ways to restore. -/
inductive Restoring where
  | all
  | selected (selection : RestoreSelection)

/-- Whether the alias of a record is to be restored. -/
def Restoring.chooses : Restoring → ImportRecord α → Bool
  | .all, _ => true
  | .selected selection, record => selection.selects record.path record.symbol

/-! ### Restoring a registry -/

namespace Registry

/-- Restores in one of the two ways. -/
def restoring (r : Registry α) : Restoring → Registry α
  | .all => r.restoreAll
  | .selected selection => r.restore selection

/-- An entry after a restore. -/
def restoredBy (how : Restoring) (e : RegistryEntry α) : RegistryEntry α :=
  if how.chooses e.record then e.restored else e

theorem restoring_eq (r : Registry α) (how : Restoring) :
    r.restoring how = ⟨r.entries.map (restoredBy how)⟩ := by
  cases how with
  | all => rfl
  | selected selection => rfl

@[simp] theorem restoredBy_name (how : Restoring) (e : RegistryEntry α) :
    (restoredBy how e).name = e.name := by
  unfold restoredBy
  split <;> rfl

@[simp] theorem restoredBy_record (how : Restoring) (e : RegistryEntry α) :
    (restoredBy how e).record = e.record := by
  unfold restoredBy
  split <;> rfl

theorem restoredBy_current (how : Restoring) (e : RegistryEntry α) :
    (restoredBy how e).current = if how.chooses e.record then e.record.value else e.current := by
  unfold restoredBy
  split <;> rfl

/-- The value that an entry gets does not depend on the value that it has. -/
theorem restoredBy_comm (a b : Restoring) (e : RegistryEntry α) :
    restoredBy b (restoredBy a e) = restoredBy a (restoredBy b e) := by
  unfold restoredBy RegistryEntry.restored
  by_cases ha : a.chooses e.record
  · by_cases hb : b.chooses e.record <;> simp [ha, hb]
  · by_cases hb : b.chooses e.record <;> simp [ha, hb]

theorem restoredBy_idem (how : Restoring) (e : RegistryEntry α) :
    restoredBy how (restoredBy how e) = restoredBy how e := by
  unfold restoredBy RegistryEntry.restored
  by_cases h : how.chooses e.record <;> simp [h]

/-- **Restores can be exchanged.** -/
theorem restoring_comm (r : Registry α) (a b : Restoring) :
    (r.restoring a).restoring b = (r.restoring b).restoring a := by
  simp only [restoring_eq, List.map_map]
  exact congrArg mk (List.map_congr_left fun e _ => restoredBy_comm a b e)

/-- **Restores can be repeated.** -/
theorem restoring_idem (r : Registry α) (how : Restoring) :
    (r.restoring how).restoring how = r.restoring how := by
  simp only [restoring_eq, List.map_map]
  exact congrArg mk (List.map_congr_left fun e _ => restoredBy_idem how e)

/-- A restore changes values only. -/
theorem records_restoring (r : Registry α) (how : Restoring) :
    (r.restoring how).records = r.records := by
  rw [restoring_eq]
  exact records_map r.entries fun e => ⟨restoredBy_name how e, restoredBy_record how e⟩

/-- The value of an alias after a restore. -/
theorem get?_restoring (r : Registry α) (how : Restoring) (name : String) :
    (r.restoring how).get? name =
      (r.held? name).map fun e =>
        if how.chooses e.record then e.record.value else e.current := by
  rw [restoring_eq, get?_eq, held?_map r (restoredBy_name how), Option.map_map]
  exact congrArg (Option.map · _) (funext (restoredBy_current how))

/-- Only the records decide what is there when all aliases are restored. -/
theorem restoreAll_eq (r : Registry α) :
    r.restoreAll = ⟨r.records.map fun x => RegistryEntry.fresh x.1 x.2⟩ := by
  rw [restoreAll, records, List.map_map]
  rfl

/-- **Restoring all aliases forgets a mock**, whether it succeeded or not. -/
theorem restoreAll_after_mock [ModuleValue α] (r : Registry α) (o : Overlay (StateM σ) α)
    (s : σ) : (r.after ((r.mock o).run s).1).restoreAll = r.restoreAll := by
  have hstep : (perform (r, s) (.mock o)).1.records = r.records := records_perform (r, s) rfl
  have hrecords : (r.after ((r.mock o).run s).1).records = r.records := hstep
  rw [restoreAll_eq, hrecords, ← restoreAll_eq]

end Registry

/-! ### Restoring the tables -/

namespace RegistryTables

/-- Goes through records in a given order and writes the registered values of those that are
chosen. -/
def restoreInOrder (t : RegistryTables α) (order : List (String × ImportRecord α))
    (how : Restoring) : RegistryTables α :=
  { t with values := order.foldl (fun values x =>
      if how.chooses x.2 then values.insert x.1 x.2.value else values) t.values }

/-- **The order of the records does not matter** for what the tables hold after a restore. -/
theorem Holds.restoreInOrder {t : RegistryTables α} {r : Registry α} (h : t.Holds r)
    {order : List (String × ImportRecord α)} (horder : order.Perm t.records.toList)
    (how : Restoring) : (t.restoreInOrder order how).Holds (r.restoring how) := by
  have hlisted : ∀ x ∈ t.records.toList, r.record? x.1 = some x.2 := by
    intro x hx
    rw [← h.records]
    exact Std.HashMap.mem_toList_iff_getElem?_eq_some.mp hx
  have hwhere := h.restoreWhere how.chooses
  have hvalues : ∀ name : String, (t.restoreInOrder order how).values[name]? =
      (t.restoreWhere how.chooses).values[name]? := by
    intro name
    have hany : (order.any fun x => x.1 == name && how.chooses x.2) =
        t.records.toList.any fun x => x.1 == name && how.chooses x.2 := horder.any_eq
    rw [RegistryTables.restoreWhere, Std.HashMap.fold_eq_foldl_toList,
      getElem?_foldl_restored how.chooses hlisted, ← hany]
    exact getElem?_foldl_restored how.chooses (fun x hx => hlisted x (horder.mem_iff.mp hx))
      t.values name
  rw [Registry.restoring_eq]
  exact ⟨hwhere.names, hwhere.nodup, hwhere.records, fun name =>
    (hvalues name).trans (hwhere.values name)⟩

end RegistryTables

/-! ### Restoring after a run -/

/-- What restoring means for a registry and the tables that hold it. -/
structure Restores [ModuleValue α] (σ : Type) (t : RegistryTables α) (r : Registry α) : Prop where
  /-- Restoring all aliases gives each the value that it was registered with. -/
  all : ∀ name, r.restoreAll.get? name = (r.record? name).map (·.value)
  /-- A selection reaches the aliases that it selects. -/
  selected : ∀ (selection : RestoreSelection) name record, r.record? name = some record →
    selection.selects record.path record.symbol = true →
      (r.restore selection).get? name = some record.value
  /-- All others stay as they are. -/
  others : ∀ (selection : RestoreSelection) name,
    (∀ record, r.record? name = some record →
      selection.selects record.path record.symbol = false) →
        (r.restore selection).get? name = r.get? name
  /-- The aliases, their order and their records stay. -/
  records : ∀ how, (r.restoring how).records = r.records
  comm : ∀ a b, (r.restoring a).restoring b = (r.restoring b).restoring a
  idem : ∀ how, (r.restoring how).restoring how = r.restoring how
  /-- A mock is forgotten when all aliases are restored, and a mock that failed as well. -/
  forgets : ∀ (o : Overlay (StateM σ) α) (s : σ),
    (r.after ((r.mock o).run s).1).restoreAll = r.restoreAll
  /-- The tables come to the same, in whatever order the records are gone through. -/
  tables : ∀ how order, order.Perm t.records.toList →
    (t.restoreInOrder order how).Holds (r.restoring how)
  /-- The tables forget a mock as well. -/
  tables_forget : ∀ (o : Overlay (StateM σ) α) (s : σ) order,
    order.Perm (t.after ((t.mock o).run s).1).records.toList →
      ((t.after ((t.mock o).run s).1).restoreInOrder order .all).Holds r.restoreAll

/-- Restoring means this for every registry and the tables that hold it. -/
theorem RegistryTables.Holds.restores [ModuleValue α] {t : RegistryTables α} {r : Registry α}
    (h : t.Holds r) : Restores σ t r := by
  constructor
  case all =>
    intro name
    have hget := r.get?_restoring .all name
    rw [Registry.record?_eq, Option.map_map]
    exact hget
  case selected =>
    intro selection name record hrecord hsel
    have hget := r.get?_restoring (.selected selection) name
    obtain ⟨e, he, rfl⟩ := Option.map_eq_some_iff.mp hrecord
    have hheld : r.held? name = some e := he
    rw [hheld, Option.map_some, Restoring.chooses, if_pos hsel] at hget
    exact hget
  case others =>
    intro selection name hother
    have hget := r.get?_restoring (.selected selection) name
    rw [r.get?_eq name]
    cases hheld : r.held? name with
    | none =>
      rw [hheld] at hget
      exact hget
    | some e =>
      have hrecord : r.record? name = some e.record := by
        rw [Registry.record?_eq, hheld]
        rfl
      have hsel := hother e.record hrecord
      rw [hheld, Option.map_some, Restoring.chooses, hsel] at hget
      exact hget
  case records => exact r.records_restoring
  case comm => exact r.restoring_comm
  case idem => exact r.restoring_idem
  case forgets => exact r.restoreAll_after_mock
  case tables =>
    intro how order horder
    exact h.restoreInOrder horder how
  case tables_forget =>
    intro o s order horder
    have hmocked := (h.mock o s).2.after h
    rw [← r.restoreAll_after_mock o s]
    exact hmocked.restoreInOrder horder .all

/-- **Restoring is exact, can be repeated and exchanged, and forgets mocks**, after every run: from any
list of records, with any registrations, mocks and restores, in every state of the selectors. -/
theorem run_restores [ModuleValue α] (xs : List (String × ImportRecord α))
    (ops : List (Operation σ α)) (s : σ) :
    Restores σ (RegistryTables.run (RegistryTables.ofList xs, s) ops).1
      (Registry.run (Registry.ofList xs, s) ops).1 := by
  have hrun := RegistryTables.holds_run (x := (RegistryTables.ofList xs, s))
    (y := (Registry.ofList xs, s)) (RegistryTables.Holds.ofList xs) rfl ops
  exact hrun.1.restores

end ImportSeam
