import ImportSeam.Registry.Restore
import Std.Data.TreeMap.Lemmas

/-!
# Extending a restore selection

A restore selection is built up by naming whole modules and single exports.  What is kept of a module
is a truth value or a table of marks, and a call may exchange the one for the other.  Nevertheless no
call takes anything back, so a selection that was built up is the union of what it started with and
of what the calls named, in whatever order they came.

## Main definitions

* `SelectionCall` — one call that extends a selection.
* `RestoreSelection.extend` — a selection after calls.

## Main results

* `RestoreSelection.selects_apply` — what one call adds.
* `selects_extend` — what is selected after any calls, in any order.
-/

namespace ImportSeam

/-- A call that extends a selection. -/
inductive SelectionCall where
  | module (path : String)
  | symbol (path name : String)
  deriving DecidableEq, Repr

/-- Whether a call names an export of a module. -/
def SelectionCall.names (path : String) (symbol : Export) : SelectionCall → Bool
  | .module p => p == path
  | .symbol p name => p == path && name == symbol.text

/-- Calls name an export if one of them names its module or the export itself. -/
theorem SelectionCall.any_names {calls : List SelectionCall} {path : String} {symbol : Export} :
    calls.any (·.names path symbol) = true ↔
      .module path ∈ calls ∨ .symbol path symbol.text ∈ calls := by
  constructor
  · intro h
    obtain ⟨c, hc, hnames⟩ := List.any_eq_true.mp h
    cases c with
    | module p =>
      obtain rfl : p = path := by simpa [names] using hnames
      exact .inl hc
    | symbol p name =>
      obtain ⟨rfl, rfl⟩ : p = path ∧ name = symbol.text := by simpa [names] using hnames
      exact .inr hc
  · rintro (h | h)
    · exact List.any_eq_true.mpr ⟨_, h, by simp [names]⟩
    · exact List.any_eq_true.mpr ⟨_, h, by simp [names]⟩

namespace RestoreTarget

/-- A target with one more export selects what it selected and the export. -/
theorem selects_add (t : RestoreTarget) (name : String) (symbol : Export) :
    (t.add name).selects symbol = (t.selects symbol || name == symbol.text) := by
  cases t with
  | module all =>
    cases all with
    | true => rfl
    | false =>
      by_cases h : name = symbol.text
      · simp [add, selects, h]
      · simp [add, selects, h]
  | symbols marks =>
    by_cases h : name = symbol.text
    · simp [add, selects, h]
    · simp [add, selects, h, Std.TreeMap.getElem?_insert]

end RestoreTarget

namespace RestoreSelection

/-- A selection after a call. -/
def apply (s : RestoreSelection) : SelectionCall → RestoreSelection
  | .module path => s.addModule path
  | .symbol path name => s.addSymbol path name

/-- A selection after calls, one after the other. -/
def extend (s : RestoreSelection) (calls : List SelectionCall) : RestoreSelection :=
  calls.foldl apply s

theorem selects_addModule (s : RestoreSelection) (p path : String) (symbol : Export) :
    (s.addModule p).selects path symbol = (s.selects path symbol || p == path) := by
  by_cases h : p = path
  · simp [addModule, selects, h, RestoreTarget.selects]
  · simp [addModule, selects, h, Std.TreeMap.getElem?_insert]

theorem selects_addSymbol (s : RestoreSelection) (p name path : String) (symbol : Export) :
    (s.addSymbol p name).selects path symbol =
      (s.selects path symbol || (p == path && name == symbol.text)) := by
  by_cases h : p = path
  · subst h
    -- a module without a target is one without marks
    have hold : s.selects p symbol = ((s.targets.get? p).getD (.symbols ∅)).selects symbol := by
      rw [selects]
      cases s.targets.get? p with
      | none => simp [RestoreTarget.selects]
      | some t => rfl
    have hnew : (s.addSymbol p name).selects p symbol =
        (((s.targets.get? p).getD (.symbols ∅)).add name).selects symbol := by
      simp [addSymbol, selects]
    rw [hnew, RestoreTarget.selects_add, hold]
    simp
  · simp [addSymbol, selects, h, Std.TreeMap.getElem?_insert]

/-- **One call** adds what it names and takes nothing back. -/
theorem selects_apply (s : RestoreSelection) (c : SelectionCall) (path : String) (symbol : Export) :
    (s.apply c).selects path symbol = (s.selects path symbol || c.names path symbol) := by
  cases c with
  | module p => exact s.selects_addModule p path symbol
  | symbol p name => exact s.selects_addSymbol p name path symbol

/-- Calls add what any of them names. -/
theorem selects_extend_eq (s : RestoreSelection) (calls : List SelectionCall) (path : String)
    (symbol : Export) :
    (s.extend calls).selects path symbol =
      (s.selects path symbol || calls.any (·.names path symbol)) := by
  induction calls generalizing s with
  | nil => simp [extend]
  | cons c calls ih =>
    have hstep : s.extend (c :: calls) = (s.apply c).extend calls := rfl
    rw [hstep, ih, selects_apply, List.any_cons, Bool.or_assoc]

end RestoreSelection

/-- **A selection that was built up is a union.**  It selects an export of a module if and only if
it did so at first, or a call named the whole module, or a call named the export.  The order of the
calls does not matter. -/
theorem selects_extend (s : RestoreSelection) (calls : List SelectionCall) (path : String)
    (symbol : Export) :
    ((s.extend calls).selects path symbol = true ↔
      s.selects path symbol = true ∨ .module path ∈ calls ∨ .symbol path symbol.text ∈ calls) ∧
      ∀ calls' : List SelectionCall, calls'.Perm calls →
        (s.extend calls').selects path symbol = (s.extend calls).selects path symbol := by
  constructor
  · rw [RestoreSelection.selects_extend_eq, Bool.or_eq_true, SelectionCall.any_names]
  · intro calls' hperm
    rw [RestoreSelection.selects_extend_eq, RestoreSelection.selects_extend_eq, hperm.any_eq]

/-- A selection that names a module and an export which are not to be restored. -/
def reluctantSelection : RestoreSelection :=
  ⟨((∅ : Std.TreeMap String RestoreTarget).insert "./a" (.module false)).insert "./b"
    (.symbols ((∅ : Std.TreeMap String Bool).insert "x" false))⟩

theorem reluctantSelection_extended :
    reluctantSelection.selects "./a" (.named "x") = false ∧
      reluctantSelection.selects "./b" (.named "x") = false ∧
      ∃ calls calls' : List SelectionCall, calls'.Perm calls ∧
        calls = [.symbol "./a" "x", .module "./b", .symbol "./b" "y"] ∧
        (reluctantSelection.extend calls).selects "./a" (.named "x") = true ∧
        (reluctantSelection.extend calls').selects "./b" .default =
          (reluctantSelection.extend calls).selects "./b" .default := by
  refine ⟨by decide +kernel, by decide +kernel, _,
    [.module "./b", .symbol "./a" "x", .symbol "./b" "y"], List.Perm.swap _ _ _, rfl, ?_, ?_⟩
  · exact (selects_extend _ _ "./a" (.named "x")).1.mpr (.inr (.inr (by decide)))
  · exact (selects_extend _ _ "./b" .default).2 _ (List.Perm.swap _ _ _)

end ImportSeam
