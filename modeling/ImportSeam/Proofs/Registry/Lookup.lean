import ImportSeam.Proofs.Registry.Mocking

/-!
# Looking up an alias

An alias stands in a registry once, so the entry that is found under a name is the one that was put
there last.

## Main definitions

* `Registry.held?` — the entry of an alias.

## Main results

* `Registry.held?_of_mem` — an entry is found under its name.
* `Registry.held?_put`, `Registry.held?_map` — what is found after a change.
-/

namespace ImportSeam

variable {α : Type}

namespace Registry

/-- The entry of an alias. -/
def held? (r : Registry α) (name : String) : Option (RegistryEntry α) :=
  r.entries.find? (·.name == name)

theorem get?_eq (r : Registry α) (name : String) : r.get? name = (r.held? name).map (·.current) :=
  rfl

theorem record?_eq (r : Registry α) (name : String) :
    r.record? name = (r.held? name).map (·.record) := rfl

theorem held?_isSome {r : Registry α} {name : String} :
    (r.held? name).isSome ↔ name ∈ r.aliases := by
  simp only [held?, List.find?_isSome, beq_iff_eq, aliases, List.mem_map]

theorem held?_eq_none {r : Registry α} {name : String} (h : name ∉ r.aliases) :
    r.held? name = none := by
  rw [← Option.not_isSome_iff_eq_none, held?_isSome]
  exact h

theorem held?_of_mem {r : Registry α} (hr : r.aliases.Nodup) {e : RegistryEntry α}
    (he : e ∈ r.entries) : r.held? e.name = some e := by
  have hsome : (r.held? e.name).isSome := held?_isSome.mpr (List.mem_map_of_mem he)
  obtain ⟨e', he'⟩ := Option.isSome_iff_exists.mp hsome
  have hname : e'.name = e.name := by simpa using List.find?_some he'
  rw [he', List.inj_on_of_nodup_map hr (List.mem_of_find?_eq_some he') he hname]

theorem get?_of_mem {r : Registry α} (hr : r.aliases.Nodup) {e : RegistryEntry α}
    (he : e ∈ r.entries) : r.get? e.name = some e.current := by
  rw [get?_eq, held?_of_mem hr he]
  rfl

/-- A change that keeps the names is seen in what is looked up. -/
theorem held?_map (r : Registry α) {f : RegistryEntry α → RegistryEntry α}
    (hf : ∀ e, (f e).name = e.name) (name : String) :
    (⟨r.entries.map f⟩ : Registry α).held? name = (r.held? name).map f := by
  have hsame : ((·.name == name) ∘ f : RegistryEntry α → Bool) = (·.name == name) := by
    funext e
    simp only [Function.comp_apply, hf]
  rw [held?, List.find?_map, hsame, held?]

theorem put_of_not_mem {r : Registry α} {e : RegistryEntry α} (h : e.name ∉ r.aliases) :
    r.put e = ⟨r.entries ++ [e]⟩ := by
  rw [put, contains, if_neg (by simpa using h)]

theorem held?_put (r : Registry α) (e : RegistryEntry α) (name : String) :
    (r.put e).held? name = if e.name = name then some e else r.held? name := by
  by_cases hmem : e.name ∈ r.aliases
  · -- The alias is there, and its entry is exchanged.
    have hput : r.put e = ⟨r.entries.map fun old => if old.name = e.name then e else old⟩ := by
      rw [put, contains, if_pos (by simpa using hmem)]
    have hname : ∀ old : RegistryEntry α,
        (if old.name = e.name then e else old).name = old.name := by
      intro old
      split
      · next h => exact h.symm
      · rfl
    rw [hput, held?_map r hname]
    cases hentry : r.held? name with
    | none =>
      have hnot : e.name ≠ name := fun h => by
        have := held?_isSome.mpr (h ▸ hmem)
        rw [hentry] at this
        exact Bool.false_ne_true this
      rw [if_neg hnot]
      rfl
    | some old =>
      have hold : old.name = name := by simpa using List.find?_some hentry
      simp only [Option.map_some, hold, eq_comm (a := name)]
      split <;> rfl
  · rw [put_of_not_mem hmem, held?, List.find?_append, List.find?_singleton, ← held?]
    by_cases hname : e.name = name
    · rw [← hname, held?_eq_none hmem]
      simp
    · simp [hname]

theorem held?_assign (r : Registry α) (name : String) (v : α) (name' : String) :
    (r.assign name v).held? name' =
      (r.held? name').map fun e => if e.name = name then { e with current := v } else e :=
  held?_map r (fun e => by split <;> rfl) name'

/-- A mock gives values to aliases that are registered. -/
theorem mem_aliases_of_mem_assignments [ModuleValue α] {r : Registry α} {ms : Replacements α}
    {as : List (String × α)} (h : r.assignments ms = .ok as) {a : String × α} (ha : a ∈ as) :
    a.1 ∈ r.aliases := by
  rw [assignments_eq] at h
  cases hfault : r.firstFault? ms with
  | some e => rw [hfault] at h; exact nomatch h
  | none =>
    rw [hfault] at h
    obtain rfl := Except.ok.inj h
    obtain ⟨⟨path, m⟩, -, ha⟩ := List.mem_flatMap.mp ha
    rcases List.mem_append.mp ha with ha | ha
    · obtain ⟨e, he, rfl⟩ := List.mem_map.mp ha
      exact List.mem_map_of_mem (List.mem_of_mem_filter he)
    · obtain ⟨as, has, ha⟩ := List.mem_flatten.mp ha
      obtain ⟨⟨name, v⟩, -, rfl⟩ := List.mem_map.mp has
      obtain ⟨e, he, rfl⟩ := List.mem_map.mp ha
      exact List.mem_map_of_mem (List.mem_of_mem_filter he)

end Registry

end ImportSeam
