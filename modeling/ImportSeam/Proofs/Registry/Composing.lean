import ImportSeam.Proofs.Registry.Mocking

/-!
# Mocks of different modules

An alias belongs to one module, so of two mocks without a module in common at most one gives it a
value.  Whether a mock fails depends on the records of the aliases, which no mock changes.  So mocks
of different modules can be made one after the other, in either order, or at once.

## Main definitions

* `Replacements.Disjoint` — replacements without a module in common.
* `Registry.Composes` — two mocks come to the same one after the other and at once.

## Main results

* `Replacements.unknown_union` — what is unknown in one of two is unknown in both together.
* `Replacements.newValue_union` — the new values of both together.
* `mocks_compose` — mocks of different modules compose and commute.
-/

namespace ImportSeam

variable {α : Type}

namespace Replacements

/-- The replacements have no module in common. -/
def Disjoint (ms₁ ms₂ : Replacements α) : Prop := ∀ path ∈ ms₁, path ∉ ms₂

variable {ms₁ ms₂ : Replacements α} {path name : String} {m : Replacement α}

/-! ### Both together -/

theorem Disjoint.getElem?_left (h : ms₁.Disjoint ms₂) (hm : ms₁[path]? = some m) :
    ms₂[path]? = none ∧ (ms₁ ∪ ms₂)[path]? = some m := by
  have hmem : path ∈ ms₁ := by
    rw [Std.TreeMap.mem_iff_isSome_getElem?, hm]
    rfl
  have hnone : ms₂[path]? = none := Std.TreeMap.getElem?_eq_none (h path hmem)
  exact ⟨hnone, by rw [Std.TreeMap.getElem?_union, hnone, hm, Option.none_or]⟩

theorem getElem?_union_right (hm : ms₂[path]? = some m) : (ms₁ ∪ ms₂)[path]? = some m := by
  rw [Std.TreeMap.getElem?_union, hm, Option.some_or]

/-- What both together name and no alias was imported as, one of them names. -/
theorem Disjoint.unknown_union (h : ms₁.Disjoint ms₂) (r : Registry α) :
    (ms₁ ∪ ms₂).Unknown r path name ↔ ms₁.Unknown r path name ∨ ms₂.Unknown r path name := by
  constructor
  · rintro ⟨⟨m, value, hm, hvalue⟩, hunknown⟩
    rw [Std.TreeMap.getElem?_union, Option.or_eq_some_iff] at hm
    rcases hm with hm | ⟨-, hm⟩
    · exact .inr ⟨⟨m, value, hm, hvalue⟩, hunknown⟩
    · exact .inl ⟨⟨m, value, hm, hvalue⟩, hunknown⟩
  · rintro (⟨⟨m, value, hm, hvalue⟩, hunknown⟩ | ⟨⟨m, value, hm, hvalue⟩, hunknown⟩)
    · exact ⟨⟨m, value, (h.getElem?_left hm).2, hvalue⟩, hunknown⟩
    · exact ⟨⟨m, value, getElem?_union_right hm, hvalue⟩, hunknown⟩

variable [ModuleValue α]

/-- A value that replacements have nothing to say about stays. -/
theorem newValue_of_none {ms : Replacements α} {e : RegistryEntry α}
    (h : ms[e.record.path]? = none) : ms.newValue e = e.current := by
  rw [newValue, h]

/-- An alias gets its new value from one of two replacements, so it does not matter which comes
first. -/
theorem Disjoint.newValue_union (h : ms₁.Disjoint ms₂) (e : RegistryEntry α) :
    ms₂.newValue { e with current := ms₁.newValue e } = (ms₁ ∪ ms₂).newValue e ∧
      ms₁.newValue { e with current := ms₂.newValue e } = (ms₁ ∪ ms₂).newValue e := by
  cases hm₁ : ms₁[e.record.path]? with
  | some m =>
    obtain ⟨hnone, hunion⟩ := h.getElem?_left hm₁
    have hsame : ms₁.newValue e = (ms₁ ∪ ms₂).newValue e := by
      rw [newValue, newValue, hm₁, hunion]
    have hkept : ms₂.newValue e = e.current := newValue_of_none hnone
    refine ⟨(newValue_of_none (e := { e with current := ms₁.newValue e }) hnone).trans hsame, ?_⟩
    rw [hkept]
    exact hsame
  | none =>
    have hunion : (ms₁ ∪ ms₂)[e.record.path]? = ms₂[e.record.path]? := by
      rw [Std.TreeMap.getElem?_union, hm₁, Option.or_none]
    have hsame : ms₂.newValue e = (ms₁ ∪ ms₂).newValue e := by
      rw [newValue, newValue, hunion]
    have hkept : ms₁.newValue e = e.current := newValue_of_none hm₁
    refine ⟨?_, (newValue_of_none (e := { e with current := ms₂.newValue e }) hm₁).trans hsame⟩
    rw [hkept]
    exact hsame

end Replacements

/-! ### One after the other -/

namespace Registry

variable [ModuleValue α] {r : Registry α} {ms ms₁ ms₂ : Replacements α}

/-- The registry after a mock that did not fail. -/
def mockedBy (r : Registry α) (ms : Replacements α) : Registry α :=
  ⟨r.entries.map fun e => { e with current := ms.newValue e }⟩

/-- What is unknown depends on the records, and these stay. -/
theorem knows_mockedBy (path name : String) : (r.mockedBy ms).Knows path name ↔ r.Knows path name := by
  simp only [Knows, mockedBy, List.mem_map, exists_exists_and_eq_and]

theorem unknown_mockedBy (path name : String) :
    ms₂.Unknown (r.mockedBy ms₁) path name ↔ ms₂.Unknown r path name := by
  simp only [Replacements.Unknown, knows_mockedBy]

/-- A mock gives every alias its new value unless something is unknown. -/
theorem replace_eq_ok_iff (hr : r.aliases.Nodup) {r' : Registry α} :
    r.replace ms = .ok r' ↔ (∀ path name, ¬ ms.Unknown r path name) ∧ r' = r.mockedBy ms := by
  constructor
  · intro h
    have hknown : ∀ path name, ¬ ms.Unknown r path name := by
      intro path name hunknown
      cases hfault : r.firstFault? ms with
      | none => exact firstFault?_eq_none hfault path name hunknown
      | some e =>
        rw [replace_eq, assignments_eq, hfault] at h
        exact nomatch h
    rw [replace_eq_ok hr hknown] at h
    exact ⟨hknown, (Except.ok.inj h).symm⟩
  · rintro ⟨hknown, rfl⟩
    exact replace_eq_ok hr hknown

theorem mockedBy_mockedBy (h : ms₁.Disjoint ms₂) :
    (r.mockedBy ms₁).mockedBy ms₂ = r.mockedBy (ms₁ ∪ ms₂) ∧
      (r.mockedBy ms₂).mockedBy ms₁ = r.mockedBy (ms₁ ∪ ms₂) := by
  refine ⟨?_, ?_⟩
  · simp only [mockedBy, List.map_map]
    refine congrArg Registry.mk (List.map_congr_left fun e _ => ?_)
    exact congrArg (RegistryEntry.mk e.name e.record) (h.newValue_union e).1
  · simp only [mockedBy, List.map_map]
    refine congrArg Registry.mk (List.map_congr_left fun e _ => ?_)
    exact congrArg (RegistryEntry.mk e.name e.record) (h.newValue_union e).2

/-- The outcome of a mock whose replacements are given. -/
def mockModules (r : Registry α) (ms : Replacements α) : Except UnknownImport (Registry α) :=
  Id.run (r.mock (.modules ms))

/-- Two mocks of a registry come to the same one after the other and at once. -/
structure Composes (r : Registry α) (ms₁ ms₂ : Replacements α) : Prop where
  /-- Both at once succeed exactly if each does. -/
  succeeds_iff : (∃ r', r.mockModules (ms₁ ∪ ms₂) = .ok r') ↔
    (∃ r₁, r.mockModules ms₁ = .ok r₁) ∧ ∃ r₂, r.mockModules ms₂ = .ok r₂
  /-- Then either can come first. -/
  same : ∀ r₁ r₂, r.mockModules ms₁ = .ok r₁ → r.mockModules ms₂ = .ok r₂ →
    ∃ r', r.mockModules (ms₁ ∪ ms₂) = .ok r' ∧ r₁.mockModules ms₂ = .ok r' ∧
      r₂.mockModules ms₁ = .ok r'

end Registry

/-- **Mocks of different modules compose and commute.**  Replacements without a module in common
succeed at once exactly if each succeed, and then one after the other, in either order, and both at
once leave the same registry. -/
theorem mocks_compose [ModuleValue α] {r : Registry α} (hr : r.Reachable) {ms₁ ms₂ : Replacements α}
    (h : ms₁.Disjoint ms₂) : r.Composes ms₁ ms₂ := by
  have hnodup := hr.nodup
  have hok : ∀ {r r' : Registry α} {ms : Replacements α}, r.aliases.Nodup →
      (r.mockModules ms = .ok r' ↔ (∀ path name, ¬ ms.Unknown r path name) ∧ r' = r.mockedBy ms) :=
    fun hr => Registry.replace_eq_ok_iff hr
  constructor
  case succeeds_iff =>
    simp only [hok hnodup, exists_eq_right, h.unknown_union, not_or, forall_and]
  case same =>
    intro r₁ r₂ h₁ h₂
    obtain ⟨hknown₁, rfl⟩ := (hok hnodup).mp h₁
    obtain ⟨hknown₂, rfl⟩ := (hok hnodup).mp h₂
    have haliases : ∀ ms : Replacements α, (r.mockedBy ms).aliases.Nodup := by
      intro ms
      have hsame : (r.mockedBy ms).aliases = r.aliases := Registry.aliases_map r.entries fun _ => rfl
      rwa [hsame]
    obtain ⟨hleft, hright⟩ := Registry.mockedBy_mockedBy (r := r) h
    refine ⟨r.mockedBy (ms₁ ∪ ms₂), (hok hnodup).mpr ⟨?_, rfl⟩, ?_, ?_⟩
    · intro path name hunknown
      rcases h.unknown_union r |>.mp hunknown with hunknown | hunknown
      · exact hknown₁ path name hunknown
      · exact hknown₂ path name hunknown
    · refine (hok (haliases ms₁)).mpr ⟨fun path name hunknown => ?_, hleft.symm⟩
      exact hknown₂ path name ((Registry.unknown_mockedBy path name).mp hunknown)
    · refine (hok (haliases ms₂)).mpr ⟨fun path name hunknown => ?_, hright.symm⟩
      exact hknown₁ path name ((Registry.unknown_mockedBy path name).mp hunknown)

/-- A module `./a` imported whole and by one of its exports, with an alias of `./b` in between. -/
def interleavedRegistry : Registry JsonValue :=
  ((({} : Registry JsonValue).register "ns" ⟨"./a", .star, .int 0⟩).register
    "y" ⟨"./b", .named "y", .int 0⟩).register "x" ⟨"./a", .named "x", .int 0⟩

/-- A mock of `./a`. -/
def leftMock : Replacements JsonValue :=
  (∅ : Replacements JsonValue).insert "./a" (.exports ((∅ : Exports JsonValue).insert "x" (.int 1)))

/-- A mock of `./b`. -/
def rightMock : Replacements JsonValue :=
  (∅ : Replacements JsonValue).insert "./b" (.exports ((∅ : Exports JsonValue).insert "y" (.int 2)))

theorem leftMock_rightMock_compose :
    interleavedRegistry.Reachable ∧ leftMock.Disjoint rightMock ∧
      (interleavedRegistry.mockModules (leftMock ∪ rightMock)).toOption.map
        (fun r' => r'.entries.map fun e => e.current.inspect) =
          some ["Object \x7b\"x\": Number(1)\x7d", "Number(2)", "Number(1)"] ∧
      interleavedRegistry.Composes leftMock rightMock := by
  have hr : interleavedRegistry.Reachable :=
    ((Registry.Reachable.empty.register _ _).register _ _).register _ _
  have hdisjoint : leftMock.Disjoint rightMock := by
    intro path hleft hright
    simp only [leftMock, rightMock, Std.TreeMap.mem_insert, Std.compare_eq_iff_eq,
      Std.TreeMap.not_mem_emptyc, or_false] at hleft hright
    subst hleft
    exact absurd hright (by decide)
  exact ⟨hr, hdisjoint, by decide +kernel, mocks_compose hr hdisjoint⟩

end ImportSeam
