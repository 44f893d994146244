import ImportSeam.Proofs.Reference.Exact
import ImportSeam.Proofs.Registry.Lookup

/-!
# The bindings of a module can be mocked

Instrumenting a module says which bindings it registered.  The registry takes them all: their names
are different and hide no operation, so each gets an entry of its own.  Each can then be mocked by
what it was imported as, also where that is a whole module, and restored.

## Main definitions

* `Registry.registerAll?` — registers bindings in order.
* `Replacements.ofExport` — the replacement of one export.

## Main results

* `Registry.registerAll?_eq` — bindings with different names get their entries in order.
* `Registry.replace_ofExport` — replacing an export that an alias was imported as.
* `bindings_mockable` — what becomes of the bindings of an instrumented module in a registry.
-/

namespace ImportSeam

variable {α : Type}

/-- The entry of a binding that was registered with a value. -/
def RegistryEntry.ofBinding (b : Binding) (v : α) : RegistryEntry α :=
  .fresh b.name ⟨b.path, b.symbol, v⟩

/-- The replacement of one export of a module. -/
def Replacements.ofExport (path name : String) (v : α) : Replacements α :=
  (∅ : Replacements α).insert path (.exports ((∅ : Exports α).insert name v))

namespace Registry

/-- Registers bindings in order, each with its value, unless one is refused. -/
def registerAll? (r : Registry α) (vs : List (Binding × α)) : Option (Registry α) :=
  vs.foldlM (fun r (b, v) => r.register? b.name ⟨b.path, b.symbol, v⟩) r

/-! ### Registering -/

/-- **Bindings with different names get their entries in order**, after those that are there. -/
theorem registerAll?_eq (r : Registry α) (vs : List (Binding × α))
    (hfree : ∀ x ∈ vs, isReservedAlias x.1.name = false)
    (hnodup : (r.aliases ++ vs.map (·.1.name)).Nodup) :
    r.registerAll? vs = some ⟨r.entries ++ vs.map fun x => .ofBinding x.1 x.2⟩ := by
  induction vs generalizing r with
  | nil => simp [registerAll?]
  | cons x vs ih =>
    obtain ⟨b, v⟩ := x
    have hnew : b.name ∉ r.aliases := fun hmem =>
      (List.nodup_append.mp hnodup).2.2 b.name hmem b.name (by simp) rfl
    have hstep : r.register? b.name ⟨b.path, b.symbol, v⟩ =
        some ⟨r.entries ++ [.ofBinding b v]⟩ := by
      rw [register?, hfree (b, v) (by simp)]
      exact congrArg some (put_of_not_mem hnew)
    have hrest := ih ⟨r.entries ++ [.ofBinding b v]⟩ (fun x hx => hfree x (by simp [hx])) (by
      simpa [aliases, RegistryEntry.ofBinding, RegistryEntry.fresh] using hnodup)
    have hcons : r.registerAll? ((b, v) :: vs) =
        (r.register? b.name ⟨b.path, b.symbol, v⟩).bind fun r => r.registerAll? vs :=
      List.foldlM_cons
    rw [hcons, hstep, Option.bind_some, hrest]
    simp

/-! ### Mocking one export -/

theorem getElem?_ofExport (path name : String) (v : α) (path' : String) :
    (Replacements.ofExport path name v)[path']? =
      if path = path' then some (.exports ((∅ : Exports α).insert name v)) else none := by
  simp [Replacements.ofExport, Std.TreeMap.getElem?_insert]

theorem value?_exports_insert (name : String) (v : α) (name' : String) :
    (Replacement.exports ((∅ : Exports α).insert name v)).value? name' =
      if name = name' then some v else none := by
  simp [Replacement.value?, Std.TreeMap.getElem?_insert]

/-- An alias knows the export that it was imported as. -/
theorem not_unknown_ofExport {r : Registry α} {e : RegistryEntry α} (he : e ∈ r.entries) (v : α)
    (path name : String) :
    ¬ (Replacements.ofExport e.record.path e.record.symbol.text v).Unknown r path name := by
  rintro ⟨⟨m, w, hm, hw⟩, hunknown⟩
  rw [getElem?_ofExport] at hm
  split at hm
  · rename_i hpath
    obtain rfl := Option.some.inj hm
    rw [value?_exports_insert] at hw
    split at hw
    · rename_i hname
      exact hunknown ⟨e, he, hpath, .inl hname⟩
    · exact nomatch hw
  · exact nomatch hm

theorem newValue_ofExport [ModuleValue α] (e : RegistryEntry α) (v : α) :
    (Replacements.ofExport e.record.path e.record.symbol.text v).newValue e = v := by
  rw [Replacements.newValue, getElem?_ofExport, if_pos rfl]
  dsimp only
  rw [value?_exports_insert, if_pos rfl]

/-- **Replacing an export** that an alias was imported as gives the alias the value, and restoring
undoes it, if the aliases have the values that they were registered with. -/
theorem replace_ofExport [ModuleValue α] {r : Registry α} (hr : r.aliases.Nodup)
    (hfresh : r.restoreAll = r) {e : RegistryEntry α} (he : e ∈ r.entries) (v : α) :
    ∃ r', r.replace (.ofExport e.record.path e.record.symbol.text v) = .ok r' ∧
      r'.get? e.name = some v ∧ r'.aliases = r.aliases ∧ r'.restoreAll = r := by
  set ms := Replacements.ofExport e.record.path e.record.symbol.text v with hms
  have haliases : (⟨r.entries.map fun e => { e with current := ms.newValue e }⟩ :
      Registry α).aliases = r.aliases := aliases_map r.entries fun _ => rfl
  refine ⟨_, replace_eq_ok hr (not_unknown_ofExport he v), ?_, haliases, ?_⟩
  · have hmem := List.mem_map_of_mem (f := fun e => { e with current := ms.newValue e }) he
    have hget := get?_of_mem (haliases ▸ hr) hmem
    dsimp only at hget
    rwa [hms, newValue_ofExport] at hget
  · have hrestored : (⟨r.entries.map fun e => { e with current := ms.newValue e }⟩ :
        Registry α).restoreAll = r.restoreAll := by
      rw [restoreAll, restoreAll, List.map_map]
      rfl
    exact hrestored.trans hfresh

end Registry

/-- **The bindings of an instrumented module can be mocked.**  A registry takes them all with any
values and then has one alias for each, in order.  Each can be mocked by the module and the export
that it was imported as, and restoring gives every alias the value that it was registered with. -/
theorem bindings_mockable {m : Type → Type} [Monad m] [ModuleValue α] {p q : Program}
    {place : Option String} {options : Options} {bs : List Binding}
    (h : p.analyse.1.instrument p.analyse.2.symbolOf? place options = .ok (.instrumented bs, q))
    {vs : List (Binding × α)} (hvs : vs.map (·.1) = bs) :
    ∃ r : Registry α, Registry.registerAll? {} vs = some r ∧
      r.aliases = bs.map (·.name) ∧ r.aliases.Nodup ∧
      (∀ x ∈ vs, r.get? x.1.name = some x.2) ∧
      ∀ b ∈ bs, ∀ v : α, ∃ r' : Registry α,
        r.mock (.modules (.ofExport b.path b.symbol.text v) : Overlay m α) = pure (.ok r') ∧
        r'.get? b.name = some v ∧ r'.aliases = r.aliases ∧
        ∀ x ∈ vs, r'.restoreAll.get? x.1.name = some x.2 := by
  obtain ⟨d, hd, -, rfl, -⟩ := Program.instrument_eq h
  have hdesc := Discovery.describes_ofBody hd
  have hnames : vs.map (·.1.name) = d.bindings.map (·.name) := by
    rw [← hvs, List.map_map]
    rfl
  have hfree : ∀ x ∈ vs, isReservedAlias x.1.name = false := fun x hx =>
    hdesc.not_reserved (hvs ▸ List.mem_map_of_mem hx)
  set r : Registry α := ⟨vs.map fun x => .ofBinding x.1 x.2⟩ with hr
  have haliases : r.aliases = d.bindings.map (·.name) := by
    rw [← hnames, hr, Registry.aliases, List.map_map]
    rfl
  have hnodup : r.aliases.Nodup := haliases ▸ hdesc.nodup_names
  have hget : ∀ x ∈ vs, r.get? x.1.name = some x.2 := fun x hx =>
    Registry.get?_of_mem hnodup (e := .ofBinding x.1 x.2) (List.mem_map_of_mem hx)
  refine ⟨r, ?_, haliases, hnodup, hget, fun b hb v => ?_⟩
  · refine Registry.registerAll?_eq {} vs hfree ?_
    rw [hnames]
    exact hdesc.nodup_names
  · obtain ⟨x, hx, rfl⟩ := List.mem_map.mp (hvs ▸ hb)
    have hfresh : r.restoreAll = r := by
      rw [Registry.restoreAll, hr, List.map_map]
      rfl
    obtain ⟨r', hok, hvalue, haliases', hrestored⟩ := Registry.replace_ofExport hnodup hfresh
      (e := .ofBinding x.1 x.2) (List.mem_map_of_mem hx) v
    exact ⟨r', congrArg pure hok, hvalue, haliases', hrestored ▸ hget⟩

/-- A module that imports a default, an export under another name, a whole module, and a module whose
shape is not known. -/
def importingSource : String :=
  "import d, {a as b} from 'm'; import * as n from 'm'; const x = require('o'); b(d, n, x);"

theorem importingSource_mockable :
    ∃ p q bs, Program.parse importingSource = .ok p ∧
      p.analyse.1.instrument p.analyse.2.symbolOf? none {} = .ok (.instrumented bs, q) ∧
      bs.map (·.name) = ["d", "b", "n", "x"] ∧ ∃ r : Registry JsonValue,
        Registry.registerAll? {} (bs.map fun b => (b, .str b.path)) = some r ∧
        r.aliases = bs.map (·.name) ∧ r.aliases.Nodup ∧
        (∀ x ∈ bs.map fun b => (b, JsonValue.str b.path), r.get? x.1.name = some x.2) ∧
        ∀ b ∈ bs, ∀ v : JsonValue, ∃ r' : Registry JsonValue,
          r.mock (.modules (.ofExport b.path b.symbol.text v) : Overlay Id JsonValue) =
            pure (.ok r') ∧
          r'.get? b.name = some v ∧ r'.aliases = r.aliases ∧
          ∀ x ∈ bs.map fun b => (b, JsonValue.str b.path),
            r'.restoreAll.get? x.1.name = some x.2 := by
  have hspelled : importingSource = String.ofList _ := rfl
  have hnames : registeredNames importingSource = some ["d", "b", "n", "x"] := by
    rw [registeredNames_of_spelled hspelled]
    decide +kernel
  obtain ⟨p, q, bs, hp, hq, hbs⟩ := exists_of_registeredNames hnames
  have hvs : (bs.map fun b => (b, JsonValue.str b.path)).map (·.1) = bs := by
    rw [List.map_map]
    exact List.map_id bs
  exact ⟨p, q, bs, hp, hq, hbs, bindings_mockable hq hvs⟩

end ImportSeam
