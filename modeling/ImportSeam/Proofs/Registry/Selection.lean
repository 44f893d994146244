import ImportSeam.Proofs.Registry.Asking
import ImportSeam.Proofs.Registry.Lookup
import Mathlib.Data.List.Induction

/-!
# What a selector does

A selector is asked once about every alias, and its answers are collected by module and export
before any value changes.  The mock then goes by module and export: an answer reaches all aliases
of the same export, of several answers about one export the last one counts, and an alias for a
whole module takes the object of all answers about the module, also when there was none about the
alias itself.  So an answer is for one alias alone only where aliases do not share a module in this
way.

## Main definitions

* `RegistryEntry.answer?` — the answer of a function about an alias.
* `Registry.lastAnswer?`, `Registry.answers` — the answers by export, and those about a module.
* `Registry.selectedValue` — the value that an alias has after the mock.

## Main results

* `Registry.getElem?_collected` — what is collected are the answers about each module.
* `mock_select_exact` — what a mock with a selector does, for all registries and functions.
* `starRegistry_select_spreads` — an alias that got no answer is changed.
-/

namespace ImportSeam

variable {α : Type}

/-- The answer of a function about an alias. -/
def RegistryEntry.answer? (f : String → Export → α → Option α) (e : RegistryEntry α) : Option α :=
  f e.record.path e.record.symbol e.current

/-- The replacements with the answer about an alias. -/
def Replacements.addAnswer (f : String → Export → α → Option α) (ms : Replacements α)
    (e : RegistryEntry α) : Replacements α :=
  match e.answer? f with
  | some v => ms.addExport e.record.path e.record.symbol.text v
  | none => ms

namespace Registry

/-- The last answer about the aliases of an export. -/
def lastAnswer? (r : Registry α) (f : String → Export → α → Option α) (path name : String) :
    Option α :=
  (r.entries.filter (·.isExport path name)).reverse.findSome? (·.answer? f)

/-- The answers about the aliases of a module, by export. -/
def answers (r : Registry α) (f : String → Export → α → Option α) (path : String) : Exports α :=
  (r.entries.filter (·.record.path == path)).foldl (fun found e =>
    match e.answer? f with
    | some v => found.insert e.record.symbol.text v
    | none => found) ∅

/-- Whether there is an answer about an alias of the module. -/
def answered (r : Registry α) (f : String → Export → α → Option α) (path : String) : Bool :=
  r.entries.any fun e => e.record.path == path && (e.answer? f).isSome

/-- The value that an alias has after a mock with a selector. -/
def selectedValue [ModuleValue α] (r : Registry α) (f : String → Export → α → Option α)
    (e : RegistryEntry α) : α :=
  match r.lastAnswer? f e.record.path e.record.symbol.text with
  | some v => v
  | none =>
    if e.record.symbol.isWholeModule && r.answered f e.record.path then
      ModuleValue.ofExports (r.answers f e.record.path)
    else e.current

/-! ### Collecting answers -/

section

variable (f : String → Export → α → Option α) (es : List (RegistryEntry α)) (e : RegistryEntry α)

theorem lastAnswer?_concat (path name : String) :
    (⟨es ++ [e]⟩ : Registry α).lastAnswer? f path name =
      if e.isExport path name then (e.answer? f).or ((⟨es⟩ : Registry α).lastAnswer? f path name)
      else (⟨es⟩ : Registry α).lastAnswer? f path name := by
  rw [lastAnswer?, List.filter_append, List.reverse_append, List.findSome?_append]
  by_cases h : e.isExport path name
  · simp [h, lastAnswer?]
  · simp [h, lastAnswer?]

theorem answers_concat (path : String) :
    (⟨es ++ [e]⟩ : Registry α).answers f path =
      match e.answer? f with
      | some v =>
        if e.record.path = path then
          ((⟨es⟩ : Registry α).answers f path).insert e.record.symbol.text v
        else (⟨es⟩ : Registry α).answers f path
      | none => (⟨es⟩ : Registry α).answers f path := by
  rw [answers, List.filter_append, List.foldl_append]
  by_cases h : e.record.path = path
  · cases hv : e.answer? f <;> simp [h, hv, answers]
  · cases hv : e.answer? f <;> simp [h, answers]

theorem answered_concat (path : String) :
    (⟨es ++ [e]⟩ : Registry α).answered f path =
      ((⟨es⟩ : Registry α).answered f path ||
        (e.record.path == path && (e.answer? f).isSome)) := by
  simp [answered]

/-- The answers about a module are the last ones about its exports. -/
theorem getElem?_answers (path name : String) :
    ((⟨es⟩ : Registry α).answers f path)[name]? =
      (⟨es⟩ : Registry α).lastAnswer? f path name := by
  induction es using List.reverseRecOn with
  | nil => rfl
  | append_singleton es e ih =>
    rw [answers_concat, lastAnswer?_concat]
    cases hv : e.answer? f with
    | none => simpa using ih
    | some v =>
      by_cases hpath : e.record.path = path
      · by_cases hname : e.record.symbol.text = name
        · simp [hpath, hname, RegistryEntry.isExport]
        · simp [hpath, hname, RegistryEntry.isExport, Std.TreeMap.getElem?_insert, ih]
      · simp [hpath, RegistryEntry.isExport, ih]

theorem answers_eq_empty {path : String} (h : (⟨es⟩ : Registry α).answered f path = false) :
    (⟨es⟩ : Registry α).answers f path = ∅ := by
  induction es using List.reverseRecOn with
  | nil => rfl
  | append_singleton es e ih =>
    rw [answered_concat, Bool.or_eq_false_iff] at h
    rw [answers_concat, ih h.1]
    cases hv : e.answer? f with
    | none => rfl
    | some v =>
      have hpath : e.record.path ≠ path := by simpa [hv] using h.2
      exact if_neg hpath

/-- **What is collected** under a module are the answers about it, if there are any. -/
theorem getElem?_collected (path : String) :
    (es.foldl (·.addAnswer f) ∅ : Replacements α)[path]? =
      if (⟨es⟩ : Registry α).answered f path then
        some (.exports ((⟨es⟩ : Registry α).answers f path))
      else none := by
  induction es using List.reverseRecOn generalizing path with
  | nil => rfl
  | append_singleton es e ih =>
    rw [List.foldl_append, List.foldl_cons, List.foldl_nil, answered_concat, answers_concat,
      Replacements.addAnswer]
    cases hv : e.answer? f with
    | none => simpa using ih path
    | some v =>
      dsimp only
      rw [Replacements.addExport, Std.TreeMap.getElem?_insert]
      by_cases hpath : e.record.path = path
      · -- The answer joins those that there are, and is the first one otherwise.
        have hfound : ((es.foldl (·.addAnswer f) ∅ : Replacements α).get? e.record.path).elim ∅
            Replacement.toExports = (⟨es⟩ : Registry α).answers f path := by
          rw [Std.TreeMap.get?_eq_getElem?, hpath, ih path]
          cases hanswered : (⟨es⟩ : Registry α).answered f path with
          | true => rfl
          | false => exact (answers_eq_empty f es hanswered).symm
        rw [hfound, hpath]
        simp
      · simp [hpath, ih]

/-- The answers of a function are regrouped one by one. -/
theorem collected_answers (r : Registry α) :
    r.collected (r.entries.map (·.answer? f)) = r.entries.foldl (·.addAnswer f) ∅ := by
  have hstep : ∀ (ms : Replacements α) (e : RegistryEntry α),
      ms.addAnswer f e = ms.addReply e (e.answer? f) := by
    intro ms e
    rw [Replacements.addAnswer]
    cases e.answer? f <;> rfl
  have hfrom : ∀ (es : List (RegistryEntry α)) (ms : Replacements α),
      (es.zip (es.map (·.answer? f))).foldl (fun ms x => ms.addReply x.1 x.2) ms =
        es.foldl (·.addAnswer f) ms := by
    intro es
    induction es with
    | nil => intro ms; rfl
    | cons e es ih =>
      intro ms
      rw [List.map_cons, List.zip_cons_cons, List.foldl_cons, List.foldl_cons, hstep]
      exact ih _
  exact hfrom r.entries ∅

/-- A selector without effects collects the answers. -/
theorem selected_pure {m : Type → Type} [Monad m] [LawfulMonad m] (r : Registry α) :
    r.selected (fun path symbol v => pure (f path symbol v) : Selector m α) =
      pure (r.entries.foldl (·.addAnswer f) ∅) := by
  have hask : r.entries.mapM (Selector.ask (fun path symbol v => pure (f path symbol v) :
      Selector m α) ·.question) = pure (r.entries.map (·.answer? f)) := List.mapM_pure
  rw [selected_eq, hask, map_pure, collected_answers]

end

/-! ### The new values -/

/-- An answer is about an alias that was asked about. -/
theorem exists_of_lastAnswer? {r : Registry α} {f : String → Export → α → Option α}
    {path name : String} {v : α} (h : r.lastAnswer? f path name = some v) :
    ∃ e ∈ r.entries, e.isExport path name ∧ e.answer? f = some v := by
  obtain ⟨e, he, hv⟩ := List.exists_of_findSome?_eq_some h
  obtain ⟨hmem, hexport⟩ := List.mem_filter.mp (List.mem_reverse.mp he)
  exact ⟨e, hmem, hexport, hv⟩

/-- Answers are about exports that some alias was imported as. -/
theorem not_unknown_collected (r : Registry α) (f : String → Export → α → Option α)
    (path name : String) :
    ¬ (r.entries.foldl (·.addAnswer f) ∅ : Replacements α).Unknown r path name := by
  rw [← collected_answers]
  exact r.known_collected _ path name

/-- The value that the answers give an alias. -/
theorem newValue_collected [ModuleValue α] (r : Registry α) (f : String → Export → α → Option α)
    (e : RegistryEntry α) :
    (r.entries.foldl (·.addAnswer f) ∅ : Replacements α).newValue e = r.selectedValue f e := by
  rw [Replacements.newValue, getElem?_collected f r.entries, selectedValue]
  cases hanswered : r.answered f e.record.path with
  | true =>
    have hvalue : (Replacement.exports (r.answers f e.record.path)).value? e.record.symbol.text =
        r.lastAnswer? f e.record.path e.record.symbol.text := getElem?_answers f r.entries _ _
    rw [if_pos rfl]
    dsimp only
    rw [hvalue, Bool.and_true]
    rfl
  | false =>
    -- Without an answer about the module there is none about the export.
    have hnone : r.lastAnswer? f e.record.path e.record.symbol.text = none := by
      rw [← getElem?_answers, answers_eq_empty f r.entries hanswered]
      rfl
    simp [hnone]

end Registry

/-- Aliases of one export are answered alike, and an alias for a whole module is left alone only if
all aliases of the module are. -/
structure Registry.Separate (r : Registry α) (f : String → Export → α → Option α)
    (e : RegistryEntry α) : Prop where
  same_export : ∀ e' ∈ r.entries, e'.isExport e.record.path e.record.symbol.text →
    e'.answer? f = e.answer? f
  whole_module : e.record.symbol.isWholeModule → e.answer? f = none →
    ∀ e' ∈ r.entries, e'.record.path = e.record.path → e'.answer? f = none

theorem Registry.Separate.selectedValue_eq [ModuleValue α] {r : Registry α}
    {f : String → Export → α → Option α} {e : RegistryEntry α} (h : r.Separate f e)
    (he : e ∈ r.entries) : r.selectedValue f e = (e.answer? f).getD e.current := by
  have hself : e ∈ (r.entries.filter
      (·.isExport e.record.path e.record.symbol.text)).reverse := by
    rw [List.mem_reverse, List.mem_filter, RegistryEntry.isExport]
    exact ⟨he, by simp⟩
  rw [Registry.selectedValue]
  cases hlast : r.lastAnswer? f e.record.path e.record.symbol.text with
  | some v =>
    obtain ⟨e', he', hexport, hv⟩ := exists_of_lastAnswer? hlast
    rw [← h.same_export e' he' hexport, hv]
    rfl
  | none =>
    have hnone : e.answer? f = none := List.findSome?_eq_none_iff.mp hlast e hself
    have hwhole : (e.record.symbol.isWholeModule && r.answered f e.record.path) = false := by
      rw [Bool.and_eq_false_imp]
      intro hw
      rw [answered, List.any_eq_false]
      intro e' he' hanswered
      obtain ⟨hpath, hsome⟩ := Bool.and_eq_true_iff.mp hanswered
      rw [h.whole_module hw hnone e' he' (beq_iff_eq.mp hpath)] at hsome
      exact Bool.false_ne_true hsome
    rw [hnone, hwhole]
    rfl

/-- **What a mock with a selector does.**  It never fails, keeps the aliases and their records, and
gives every alias the last answer about its export, failing that the object of the answers about the
module if the alias stands for a whole module and there are any, and else leaves it alone.  So an
alias has exactly its own answer where the aliases of its module keep apart. -/
theorem mock_select_exact {m : Type → Type} [Monad m] [LawfulMonad m] [ModuleValue α]
    {r : Registry α} (hr : r.Reachable) (f : String → Export → α → Option α) :
    ∃ r' : Registry α,
      r.mock (.select fun path symbol v => pure (f path symbol v) : Overlay m α) = pure (.ok r') ∧
      r'.records = r.records ∧
      ∀ e ∈ r.entries, r'.get? e.name = some (r.selectedValue f e) ∧
        (r.Separate f e → r'.get? e.name = some ((e.answer? f).getD e.current)) := by
  have hok := Registry.replace_eq_ok hr.nodup (Registry.not_unknown_collected r f)
  simp only [Registry.newValue_collected] at hok
  set r' : Registry α := ⟨r.entries.map fun e => { e with current := r.selectedValue f e }⟩ with hr'
  have haliases : r'.aliases = r.aliases := Registry.aliases_map r.entries fun _ => rfl
  refine ⟨r', ?_, ?_, fun e he => ?_⟩
  · rw [Registry.mock, Registry.selected_pure, pure_bind, hok]
  · simp only [Registry.records, hr', List.map_map, Function.comp_def]
  · have hget : r'.get? e.name = some (r.selectedValue f e) :=
      Registry.get?_of_mem (haliases ▸ hr.nodup) (List.mem_map_of_mem he)
    exact ⟨hget, fun hseparate => hget.trans (congrArg some (hseparate.selectedValue_eq he))⟩

/-- A function that has an answer about one export only. -/
def answerX : String → Export → JsonValue → Option JsonValue
  | _, .named "x", _ => some (.int 7)
  | _, _, _ => none

theorem starRegistry_select_exact :
    starRegistry.Reachable ∧ ∃ r' : Registry JsonValue,
      starRegistry.mock (.select fun path symbol v => pure (answerX path symbol v) :
        Overlay Id JsonValue) = pure (.ok r') ∧
      r'.records = starRegistry.records ∧
      ∀ e ∈ starRegistry.entries,
        r'.get? e.name = some (starRegistry.selectedValue answerX e) ∧
        (starRegistry.Separate answerX e →
          r'.get? e.name = some ((e.answer? answerX).getD e.current)) := by
  have hr : starRegistry.Reachable := (Registry.Reachable.empty.register _ _).register _ _
  exact ⟨hr, mock_select_exact hr answerX⟩

/-- **An alias for a whole module is not left alone** when a selector has no answer about it, but
one about another alias of the module. -/
theorem starRegistry_select_spreads :
    starRegistry.Reachable ∧ answerX "./a" .star (.int 0) = none ∧
      (starRegistry.get? "ns").map (·.inspect) = some "Number(0)" ∧
      ∃ r' : Registry JsonValue,
        starRegistry.mock (.select fun path symbol v => pure (answerX path symbol v) :
          Overlay Id JsonValue) = pure (.ok r') ∧
        (r'.get? "ns").map (·.inspect) = some "Object \x7b\"x\": Number(7)\x7d" := by
  have hr : starRegistry.Reachable := (Registry.Reachable.empty.register _ _).register _ _
  have hmock : (starRegistry.mock (.select fun path symbol v => pure (answerX path symbol v) :
      Overlay Id JsonValue)).run.toOption.any (fun r' =>
        (r'.get? "ns").map (·.inspect) == some "Object \x7b\"x\": Number(7)\x7d") = true := by
    decide +kernel
  obtain ⟨r', hr', hget⟩ := (Option.any_eq_true _ _).mp hmock
  refine ⟨hr, rfl, by decide +kernel, r', ?_, by simpa using hget⟩
  cases hout : (starRegistry.mock (.select fun path symbol v => pure (answerX path symbol v) :
      Overlay Id JsonValue)).run with
  | error e => rw [hout] at hr'; exact nomatch hr'
  | ok r'' =>
    rw [hout] at hr'
    exact hout.trans (congrArg Except.ok (Option.some.inj hr'))

end ImportSeam
