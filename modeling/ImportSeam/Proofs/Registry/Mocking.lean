import ImportSeam.Proofs.Text.ByteOrder
import ImportSeam.Registry.Json
import ImportSeam.Registry.Mock
import ImportSeam.Registry.Restore
import Mathlib.Data.List.Nodup
import Mathlib.Data.List.Pairwise
import Std.Data.TreeMap.Lemmas

/-!
# What a mock does

A mock collects the new values of all aliases before it changes any.  One alias may be given several
values, by the whole replacement of its module and by an export of the same name, and then the last
one counts.  Since every alias stands in a registry once, this comes to a single rule: an alias
takes the value under its own export, failing that the whole replacement if it stands for the whole
module, and else keeps what it has.

## Main definitions

* `Registry.Reachable` — the registries that registering, mocking and restoring lead to.
* `Replacements.Unknown` — an export that is named and that no alias was imported as.
* `Replacements.newValue` — the value that an alias has after a mock.

## Main results

* `Registry.Reachable.nodup` — every alias stands in a registry once.
* `Registry.assignments_eq` — the collected values, or the first export that is unknown.
* `mock_modules_exact` — what a mock does, for all registries and replacements.
-/

namespace ImportSeam

open Text

variable {α : Type}

/-! ### Registries that can arise -/

namespace Registry

/-- The registries that registering, mocking and restoring lead to.  Whatever decides about a mock,
it ends in replacements. -/
inductive Reachable [ModuleValue α] : Registry α → Prop
  | empty : Reachable {}
  | register {r : Registry α} (h : Reachable r) (name : String) (record : ImportRecord α) :
      Reachable (r.register name record)
  | replace {r r' : Registry α} (h : Reachable r) (ms : Replacements α)
      (hr : r.replace ms = .ok r') : Reachable r'
  | restoreAll {r : Registry α} (h : Reachable r) : Reachable r.restoreAll
  | restore {r : Registry α} (h : Reachable r) (s : RestoreSelection) : Reachable (r.restore s)

/-- Entries that keep their aliases. -/
theorem aliases_map (es : List (RegistryEntry α)) {f : RegistryEntry α → RegistryEntry α}
    (hf : ∀ e, (f e).name = e.name) : (⟨es.map f⟩ : Registry α).aliases = es.map (·.name) := by
  simp only [aliases, List.map_map]
  exact List.map_congr_left fun e _ => hf e

theorem aliases_put (r : Registry α) (e : RegistryEntry α) :
    (r.put e).aliases = if e.name ∈ r.aliases then r.aliases else r.aliases ++ [e.name] := by
  simp only [put, contains, List.contains_iff_mem]
  split
  · refine aliases_map r.entries fun old => ?_
    split
    · next h => exact h.symm
    · rfl
  · simp [aliases]

theorem nodup_put {r : Registry α} (h : r.aliases.Nodup) (e : RegistryEntry α) :
    (r.put e).aliases.Nodup := by
  rw [aliases_put]
  split
  · exact h
  · next hmem => exact List.nodup_append.mpr ⟨h, by simp, by rintro a ha b hb rfl; simp_all⟩

/-! ### The last value counts -/

/-- The value that assignments leave an alias with. -/
def lastValue (as : List (String × α)) (name : String) (v : α) : α :=
  as.foldl (fun v (n, w) => if n = name then w else v) v

theorem lastValue_append (as bs : List (String × α)) (name : String) (v : α) :
    lastValue (as ++ bs) name v = lastValue bs name (lastValue as name v) := List.foldl_append

theorem assignAll_eq (as : List (String × α)) (r : Registry α) :
    r.assignAll as =
      ⟨r.entries.map fun e => { e with current := lastValue as e.name e.current }⟩ := by
  induction as generalizing r with
  | nil => simp [assignAll, lastValue]
  | cons a as ih =>
    obtain ⟨name, v⟩ := a
    have hstep : r.assignAll ((name, v) :: as) = (r.assign name v).assignAll as := rfl
    rw [hstep, ih, assign, List.map_map]
    congr 1
    refine List.map_congr_left fun e _ => ?_
    by_cases h : e.name = name
    · subst h
      simp [lastValue]
    · simp [lastValue, h, Ne.symm h]

theorem aliases_assignAll (as : List (String × α)) (r : Registry α) :
    (r.assignAll as).aliases = r.aliases := by
  rw [assignAll_eq]
  exact aliases_map r.entries fun _ => rfl

theorem replace_eq [ModuleValue α] (r : Registry α) (ms : Replacements α) :
    r.replace ms = (r.assignments ms).map r.assignAll := by
  simp only [replace]
  cases r.assignments ms <;> rfl

/-- Every alias stands in a registry once. -/
theorem Reachable.nodup [ModuleValue α] {r : Registry α} (h : r.Reachable) : r.aliases.Nodup := by
  induction h with
  | empty => exact List.nodup_nil
  | register h name record ih =>
    simp only [Registry.register, register?]
    split
    · exact ih
    · exact nodup_put ih _
  | @replace r r' h ms hr ih =>
    rw [replace_eq] at hr
    cases has : r.assignments ms with
    | error e => rw [has] at hr; exact nomatch hr
    | ok as =>
      rw [has] at hr
      obtain rfl := Except.ok.inj hr
      rw [aliases_assignAll]
      exact ih
  | @restoreAll r h ih =>
    have hsame : r.restoreAll.aliases = r.aliases := aliases_map r.entries fun _ => rfl
    rwa [hsame]
  | @restore r h s ih =>
    have hsame : (r.restore s).aliases = r.aliases :=
      aliases_map r.entries fun e => by split <;> rfl
    rwa [hsame]

/-- Assignments of one value to some of the aliases reach an alias if it is among them. -/
theorem lastValue_filter {es : List (RegistryEntry α)} (hes : (es.map (·.name)).Nodup)
    {e : RegistryEntry α} (he : e ∈ es) (p : RegistryEntry α → Bool) (w v : α) :
    lastValue ((es.filter p).map fun e => (e.name, w)) e.name v = if p e then w else v := by
  have hconst : ∀ (ns : List String) (v : α),
      lastValue (ns.map fun n => (n, w)) e.name v = if e.name ∈ ns then w else v := by
    intro ns
    induction ns with
    | nil => intro v; simp [lastValue]
    | cons n ns ih =>
      intro v
      have hstep : lastValue ((n :: ns).map fun n => (n, w)) e.name v =
        lastValue (ns.map fun n => (n, w)) e.name (if n = e.name then w else v) := rfl
      rw [hstep, ih]
      by_cases hn : n = e.name <;> simp [hn, eq_comm]
  have hmem : e.name ∈ (es.filter p).map (·.name) ↔ p e = true := by
    constructor
    · intro h
      obtain ⟨e', he', hname⟩ := List.mem_map.mp h
      obtain ⟨hmem, hp⟩ := List.mem_filter.mp he'
      rwa [← List.inj_on_of_nodup_map hes hmem he hname]
    · exact fun h => List.mem_map.mpr ⟨e, List.mem_filter.mpr ⟨he, h⟩, rfl⟩
  have := hconst ((es.filter p).map (·.name)) v
  rw [List.map_map] at this
  exact this.trans (by simp only [hmem])

end Registry

/-! ### What replacements name -/

/-- The value that a replacement gives an export.  A function is the default export. -/
def Replacement.value? (m : Replacement α) (name : String) : Option α :=
  match m with
  | .function f => if name = "default" then some f else none
  | .exports values => values[name]?

theorem Replacement.getElem?_toExports (m : Replacement α) (name : String) :
    m.toExports[name]? = m.value? name := by
  cases m with
  | function f =>
    simp only [toExports, value?, Std.TreeMap.getElem?_insert, Export.text, Std.compare_eq_iff_eq]
    by_cases h : name = "default"
    · simp [h]
    · simp [h, Ne.symm h]
  | exports values => rfl

/-- Whether an alias of the module was imported as the export, or stands for the whole module. -/
def Registry.Knows (r : Registry α) (path name : String) : Prop :=
  ∃ e ∈ r.entries, e.record.path = path ∧
    (e.record.symbol.text = name ∨ e.record.symbol.isWholeModule = true)

namespace Replacements

/-- The replacements name an export of a module that no alias was imported as. -/
def Unknown (ms : Replacements α) (r : Registry α) (path name : String) : Prop :=
  (∃ m value, ms[path]? = some m ∧ m.value? name = some value) ∧ ¬ r.Knows path name

/-- The value that an alias has after a mock. -/
def newValue [ModuleValue α] (ms : Replacements α) (e : RegistryEntry α) : α :=
  match ms[e.record.path]? with
  | none => e.current
  | some m =>
    match m.value? e.record.symbol.text with
    | some v => v
    | none =>
      if e.record.symbol.isWholeModule then ModuleValue.ofExports m.toExports else e.current

end Replacements

/-- An unknown import stands before another or is the same, in the byte order of the modules and
then of the exports. -/
def UnknownImport.Precedes (e : UnknownImport) (path name : String) : Prop :=
  bytes e.path < bytes path ∨
    e.path = path ∧ (bytes e.symbol < bytes name ∨ e.symbol = name)

/-! ### Collecting values -/

/-- A traversal fails with the first failure. -/
theorem mapM_eq_findSome? {β γ ε : Type} {f : β → Except ε γ} {fault? : β → Option ε} {g : β → γ}
    (hf : ∀ b, f b = (fault? b).elim (.ok (g b)) .error) (bs : List β) :
    bs.mapM f = (bs.findSome? fault?).elim (.ok (bs.map g)) .error := by
  induction bs with
  | nil => rfl
  | cons b bs ih =>
    rw [List.mapM_cons, ih, hf, List.findSome?_cons]
    cases fault? b with
    | some e => rfl
    | none => cases bs.findSome? fault? <;> rfl

namespace Registry

/-- The fault of naming an export, if it is one. -/
def fault? (r : Registry α) (path name : String) : Option UnknownImport :=
  if r.entries.any (fun e => e.isExport path name || e.isWhole path) then none
  else some ⟨path, name⟩

theorem fault?_eq_some {r : Registry α} {path name : String} {e : UnknownImport} :
    r.fault? path name = some e ↔ ¬ r.Knows path name ∧ e = ⟨path, name⟩ := by
  have hany : r.entries.any (fun e => e.isExport path name || e.isWhole path) = true ↔
      r.Knows path name := by
    simp only [List.any_eq_true, Knows, RegistryEntry.isExport, RegistryEntry.isWhole,
      Bool.or_eq_true, Bool.and_eq_true, beq_iff_eq, ← and_or_left]
  rw [fault?, ← hany]
  split
  · next h => simp [h]
  · next h => simp [h, eq_comm]

theorem exportAssignments_eq (r : Registry α) (path name : String) (value : α) :
    r.exportAssignments path name value = (r.fault? path name).elim
      (.ok ((r.entries.filter (·.isExport path name)).map fun e => (e.name, value))) .error := by
  have hcond : ((r.entries.filter (·.isExport path name)).isEmpty &&
      !r.entries.any (·.isWhole path)) =
        !r.entries.any (fun e => e.isExport path name || e.isWhole path) := by
    rw [Bool.eq_iff_iff]
    simp [List.filter_eq_nil_iff, not_or, forall_and]
  simp only [exportAssignments, hcond, fault?]
  cases r.entries.any (fun e => e.isExport path name || e.isWhole path) <;> rfl

/-- The first fault in the replacement of a module. -/
def moduleFault? (r : Registry α) (path : String) (m : Replacement α) : Option UnknownImport :=
  m.toExports.toList.findSome? fun (name, _) => r.fault? path name

/-- The values that the replacement of a module gives, if there is no fault in it. -/
def moduleValues [ModuleValue α] (r : Registry α) (path : String) (m : Replacement α) :
    List (String × α) :=
  (r.entries.filter (·.isWhole path)).map (fun e => (e.name, ModuleValue.ofExports m.toExports)) ++
    (m.toExports.toList.map fun (name, value) =>
      (r.entries.filter (·.isExport path name)).map fun e => (e.name, value)).flatten

theorem moduleAssignments_eq [ModuleValue α] (r : Registry α) (path : String)
    (m : Replacement α) :
    r.moduleAssignments path m =
      (r.moduleFault? path m).elim (.ok (r.moduleValues path m)) .error := by
  have hmap := mapM_eq_findSome? (fun (nv : String × α) => r.exportAssignments_eq path nv.1 nv.2)
    m.toExports.toList
  simp only [moduleAssignments, hmap, moduleFault?, moduleValues]
  cases m.toExports.toList.findSome? fun (name, _) => r.fault? path name <;> rfl

/-- The first fault in replacements. -/
def firstFault? (r : Registry α) (ms : Replacements α) : Option UnknownImport :=
  ms.toList.findSome? fun (path, m) => r.moduleFault? path m

/-- The collected values, or the first export that is unknown. -/
theorem assignments_eq [ModuleValue α] (r : Registry α) (ms : Replacements α) :
    r.assignments ms = (r.firstFault? ms).elim
      (.ok (ms.toList.flatMap fun (path, m) => r.moduleValues path m)) .error := by
  have hmap := mapM_eq_findSome? (fun (pm : String × Replacement α) =>
    r.moduleAssignments_eq pm.1 pm.2) ms.toList
  simp only [assignments, hmap, firstFault?, List.flatMap]
  cases ms.toList.findSome? fun (path, m) => r.moduleFault? path m <;> rfl

/-! ### The first fault -/

/-- What a search in an ordered list finds stands at or before everything it could have found. -/
theorem exists_first_of_findSome? {β ε : Type} {R : β → β → Prop} {fault? : β → Option ε} {e : ε}
    {bs : List β} (hbs : bs.Pairwise R) (h : bs.findSome? fault? = some e) :
    ∃ b ∈ bs, fault? b = some e ∧ ∀ c ∈ bs, (fault? c).isSome → R b c ∨ b = c := by
  induction bs with
  | nil => exact nomatch h
  | cons b bs ih =>
    obtain ⟨hb, hbs⟩ := List.pairwise_cons.mp hbs
    rw [List.findSome?_cons] at h
    cases hfb : fault? b with
    | some e' =>
      rw [hfb] at h
      obtain rfl := Option.some.inj h
      refine ⟨b, List.mem_cons_self, hfb, fun c hc _ => ?_⟩
      rcases List.mem_cons.mp hc with rfl | hc
      · exact .inr rfl
      · exact .inl (hb c hc)
    | none =>
      rw [hfb] at h
      obtain ⟨d, hd, hfd, hfirst⟩ := ih hbs h
      refine ⟨d, List.mem_cons_of_mem b hd, hfd, fun c hc hfc => ?_⟩
      rcases List.mem_cons.mp hc with rfl | hc
      · rw [hfb] at hfc
        exact nomatch hfc
      · exact hfirst c hc hfc

theorem lt_of_compare {s t : String} (h : compare s t = .lt) : s < t := by
  have h : compareOfLessAndEq s t = .lt := h
  unfold compareOfLessAndEq at h
  split at h
  · assumption
  · split at h <;> exact nomatch h

/-- Members of a map, in the byte order of their keys. -/
theorem pairwise_bytes_lt {β : Type} (t : Std.TreeMap String β) :
    t.toList.Pairwise fun a b => bytes a.1 < bytes b.1 :=
  t.ordered_keys_toList.imp fun h => bytes_lt_of_lt (lt_of_compare h)

theorem moduleFault?_eq_some {r : Registry α} {path : String} {m : Replacement α}
    {e : UnknownImport} (h : r.moduleFault? path m = some e) :
    e.path = path ∧ (∃ v, m.value? e.symbol = some v) ∧ ¬ r.Knows path e.symbol ∧
      ∀ name v, m.value? name = some v → ¬ r.Knows path name →
        bytes e.symbol < bytes name ∨ e.symbol = name := by
  obtain ⟨⟨name, v⟩, hmem, hfault, hfirst⟩ :=
    exists_first_of_findSome? (pairwise_bytes_lt m.toExports) h
  obtain ⟨hunknown, rfl⟩ := fault?_eq_some.mp hfault
  rw [Std.TreeMap.mem_toList_iff_getElem?_eq_some, Replacement.getElem?_toExports] at hmem
  refine ⟨rfl, ⟨v, hmem⟩, hunknown, fun name' v' hv' hunknown' => ?_⟩
  have hmem' : (name', v') ∈ m.toExports.toList := by
    rwa [Std.TreeMap.mem_toList_iff_getElem?_eq_some, Replacement.getElem?_toExports]
  have hsome : (r.fault? path name').isSome :=
    Option.isSome_iff_exists.mpr ⟨_, fault?_eq_some.mpr ⟨hunknown', rfl⟩⟩
  exact (hfirst _ hmem' hsome).imp_right (congrArg Prod.fst)

theorem moduleFault?_eq_none {r : Registry α} {path : String} {m : Replacement α}
    (h : r.moduleFault? path m = none) {name : String} {v : α} (hv : m.value? name = some v) :
    r.Knows path name := by
  have hmem : (name, v) ∈ m.toExports.toList := by
    rwa [Std.TreeMap.mem_toList_iff_getElem?_eq_some, Replacement.getElem?_toExports]
  have hnone := List.findSome?_eq_none_iff.mp h _ hmem
  by_contra hunknown
  have hsome := fault?_eq_some.mpr ⟨hunknown, rfl⟩
  exact nomatch hnone.symm.trans hsome

/-- A fault that is found is the first unknown export. -/
theorem firstFault?_eq_some {r : Registry α} {ms : Replacements α} {e : UnknownImport}
    (h : r.firstFault? ms = some e) :
    ms.Unknown r e.path e.symbol ∧ ∀ path name, ms.Unknown r path name → e.Precedes path name := by
  obtain ⟨⟨path, m⟩, hmem, hfault, hfirst⟩ := exists_first_of_findSome? (pairwise_bytes_lt ms) h
  obtain ⟨rfl, ⟨v, hv⟩, hunknown, hleast⟩ := moduleFault?_eq_some hfault
  have hm := Std.TreeMap.mem_toList_iff_getElem?_eq_some.mp hmem
  refine ⟨⟨⟨m, v, hm, hv⟩, hunknown⟩, ?_⟩
  rintro path name ⟨⟨m', v', hm', hv'⟩, hunknown'⟩
  have hmem' := Std.TreeMap.mem_toList_iff_getElem?_eq_some.mpr hm'
  have hsome : (r.moduleFault? path m').isSome := by
    rw [Option.isSome_iff_ne_none]
    exact fun hnone => hunknown' (moduleFault?_eq_none hnone hv')
  rcases hfirst _ hmem' hsome with hlt | heq
  · exact .inl hlt
  · obtain ⟨rfl, rfl⟩ := Prod.mk.inj heq
    exact .inr ⟨rfl, hleast name v' hv' hunknown'⟩

theorem firstFault?_eq_none {r : Registry α} {ms : Replacements α} (h : r.firstFault? ms = none)
    (path name : String) : ¬ ms.Unknown r path name := by
  rintro ⟨⟨m, v, hm, hv⟩, hunknown⟩
  have hmem := Std.TreeMap.mem_toList_iff_getElem?_eq_some.mpr hm
  exact hunknown (moduleFault?_eq_none (List.findSome?_eq_none_iff.mp h _ hmem) hv)

/-! ### The new values -/

/-- Going through a map, only the member under one key has an effect. -/
theorem foldl_toList_eq {β : Type} (t : Std.TreeMap String β) (k : String) (f : β → α → α)
    {step : α → String × β → α} (hk : ∀ a b, step a (k, b) = f b a)
    (hne : ∀ a k' b, k' ≠ k → step a (k', b) = a) (a : α) :
    t.toList.foldl step a = t[k]?.elim a (f · a) := by
  -- Members under other keys come before and after the one that counts.
  have hskip : ∀ (l : List (String × β)) (a : α), (∀ m ∈ l, m.1 ≠ k) → l.foldl step a = a := by
    intro l
    induction l with
    | nil => exact fun _ _ => rfl
    | cons m l ih =>
      intro a hl
      rw [List.foldl_cons, hne a m.1 m.2 (hl m List.mem_cons_self)]
      exact ih a fun m' hm' => hl m' (List.mem_cons_of_mem m hm')
  cases ht : t[k]? with
  | none =>
    refine hskip _ a fun m hm hmk => ?_
    have := Std.TreeMap.mem_toList_iff_getElem?_eq_some.mp hm
    rw [hmk, ht] at this
    exact nomatch this
  | some b =>
    have hdistinct : t.toList.Pairwise fun x y => x.1 ≠ y.1 :=
      t.distinct_keys_toList.imp fun h heq => h (by rw [heq]; exact Std.ReflCmp.compare_self)
    obtain ⟨pre, post, hsplit⟩ :=
      List.append_of_mem (Std.TreeMap.mem_toList_iff_getElem?_eq_some.mpr ht)
    rw [hsplit] at hdistinct ⊢
    obtain ⟨-, hpost, hpre⟩ := List.pairwise_append.mp hdistinct
    rw [List.foldl_append, List.foldl_cons,
      hskip pre a fun m hm => hpre m hm (k, b) List.mem_cons_self, hk,
      hskip post _ fun m hm => ((List.pairwise_cons.mp hpost).1 m hm).symm]
    rfl

theorem lastValue_flatMap {β : Type} (bs : List β) (f : β → List (String × α)) (name : String)
    (v : α) :
    lastValue (bs.flatMap f) name v = bs.foldl (fun v b => lastValue (f b) name v) v := by
  induction bs generalizing v with
  | nil => rfl
  | cons b bs ih => rw [List.flatMap_cons, lastValue_append, ih, List.foldl_cons]

theorem lastValue_moduleValues [ModuleValue α] {r : Registry α} (hr : r.aliases.Nodup)
    {e : RegistryEntry α} (he : e ∈ r.entries) (path : String) (m : Replacement α) (v : α) :
    lastValue (r.moduleValues path m) e.name v =
      if e.record.path = path then
        (m.value? e.record.symbol.text).getD
          (if e.record.symbol.isWholeModule then ModuleValue.ofExports m.toExports else v)
      else v := by
  have hnamed : ∀ v, lastValue (m.toExports.toList.flatMap fun (name, value) =>
      (r.entries.filter (·.isExport path name)).map fun e => (e.name, value)) e.name v =
        if e.record.path = path then (m.value? e.record.symbol.text).getD v else v := by
    intro v
    rw [lastValue_flatMap]
    simp only [lastValue_filter hr he, RegistryEntry.isExport]
    split
    · next hpath =>
      rw [foldl_toList_eq m.toExports e.record.symbol.text (fun w _ => w)
        (fun a b => by simp [hpath]) (fun a k b hk => by simp [Ne.symm hk]),
        Replacement.getElem?_toExports]
      cases m.value? e.record.symbol.text <;> rfl
    · next hpath => simp [hpath]
  rw [moduleValues, lastValue_append, ← List.flatMap_def, hnamed, lastValue_filter hr he,
    RegistryEntry.isWhole]
  split
  · next hpath => simp [hpath]
  · next hpath => simp [hpath]

/-- The collected values give every alias its new value. -/
theorem lastValue_assignments [ModuleValue α] {r : Registry α} (hr : r.aliases.Nodup)
    {e : RegistryEntry α} (he : e ∈ r.entries) (ms : Replacements α) :
    lastValue (ms.toList.flatMap fun (path, m) => r.moduleValues path m) e.name e.current =
      ms.newValue e := by
  rw [lastValue_flatMap]
  simp only [lastValue_moduleValues hr he]
  rw [foldl_toList_eq ms e.record.path
    (fun m v => (m.value? e.record.symbol.text).getD
      (if e.record.symbol.isWholeModule then ModuleValue.ofExports m.toExports else v))
    (fun a b => by simp) (fun a k b hk => by simp [Ne.symm hk]), Replacements.newValue]
  cases ms[e.record.path]? with
  | none => rfl
  | some m => cases hv : m.value? e.record.symbol.text <;> simp [hv]

/-- If every export that is named is known, every alias gets its new value. -/
theorem replace_eq_ok [ModuleValue α] {r : Registry α} (hr : r.aliases.Nodup)
    {ms : Replacements α} (h : ∀ path name, ¬ ms.Unknown r path name) :
    r.replace ms = .ok ⟨r.entries.map fun e => { e with current := ms.newValue e }⟩ := by
  rw [replace_eq, assignments_eq]
  cases hfault : r.firstFault? ms with
  | some e => exact absurd (firstFault?_eq_some hfault).1 (h _ _)
  | none =>
    change Except.ok (r.assignAll _) = _
    rw [assignAll_eq]
    refine congrArg (fun es => Except.ok (Registry.mk es)) (List.map_congr_left fun e he => ?_)
    rw [lastValue_assignments hr he]

/-- The registry that stands after an attempt to mock: a failed one leaves it as it was. -/
def after (r : Registry α) (outcome : Except UnknownImport (Registry α)) : Registry α :=
  outcome.toOption.getD r

end Registry

/-- Two aliases of one module, of which the first stands for the whole module. -/
def starRegistry : Registry JsonValue :=
  (({} : Registry JsonValue).register "ns" ⟨"./a", .star, .int 0⟩).register
    "x" ⟨"./a", .named "x", .int 0⟩

end ImportSeam
