import ImportSeam.Json.Reader
import ImportSeam.Registry.Basic
import Std.Data.TreeMap

/-!
# Restoring

## Main definitions

* `RestoreSelection` — which aliases are to be restored.
* `RestoreSelection.selects` — whether an export of a module is among them.
* `RestoreSelection.ofJson` — the selection of a text.
* `Registry.restore`, `Registry.restoreAll` — give aliases the values they were registered with.
-/

namespace ImportSeam

/-- What is to be restored of a module. -/
inductive RestoreTarget where
  /-- Everything or nothing. -/
  | module (all : Bool)
  /-- The exports that are marked. -/
  | symbols (marks : Std.TreeMap String Bool)

/-- What is to be restored, by module. -/
structure RestoreSelection where
  targets : Std.TreeMap String RestoreTarget := ∅

namespace RestoreTarget

/-- Whether an export is to be restored. -/
def selects (symbol : Export) : RestoreTarget → Bool
  | .module all => all
  | .symbols marks => (marks.get? symbol.text).getD false

/-- A target with one more export.  There is nothing to add to a whole module. -/
def add (name : String) : RestoreTarget → RestoreTarget
  | .module true => .module true
  | .module false => .symbols ((∅ : Std.TreeMap String Bool).insert name true)
  | .symbols marks => .symbols (marks.insert name true)

/-- A truth value in a listing. -/
def inspectMark (b : Bool) : String := if b then "true" else "false"

/-- A target in a listing. -/
def inspect : RestoreTarget → String
  | .module all => "Module(" ++ inspectMark all ++ ")"
  | .symbols marks =>
    "Symbols(" ++ JsonValue.inspectEntries (marks.toList.map fun (k, b) => (k, inspectMark b)) ++
      ")"

/-- The mark of an export. -/
def mark? : JsonValue → Option Bool
  | .bool b => some b
  | _ => none

/-- The target that a value stands for.  Of several marks for an export the last one counts. -/
def ofValue? : JsonValue → Option RestoreTarget
  | .bool b => some (.module b)
  | .obj members => do
    let marks ← members.foldlM (fun marks (k, v) => return marks.insert k (← mark? v))
      (∅ : Std.TreeMap String Bool)
    return .symbols marks
  | _ => none

end RestoreTarget

namespace RestoreSelection

/-- Whether an export of a module is to be restored. -/
def selects (s : RestoreSelection) (path : String) (symbol : Export) : Bool :=
  ((s.targets.get? path).map (·.selects symbol)).getD false

/-- A selection with a whole module. -/
def addModule (s : RestoreSelection) (path : String) : RestoreSelection :=
  ⟨s.targets.insert path (.module true)⟩

/-- A selection with one more export of a module. -/
def addSymbol (s : RestoreSelection) (path name : String) : RestoreSelection :=
  ⟨s.targets.insert path (((s.targets.get? path).getD (.symbols ∅)).add name)⟩

/-- A selection in a listing. -/
def inspect (s : RestoreSelection) : String :=
  "RestoreSelection(" ++
    JsonValue.inspectEntries (s.targets.toList.map fun (k, t) => (k, t.inspect)) ++ ")"

/-- A member of a selection. -/
def member (s : RestoreSelection) (path : String) : JsonReader RestoreSelection := do
  JsonReader.colon
  match RestoreTarget.ofValue? (← JsonReader.value (JsonReader.maxDepth - 1)) with
  | some t => return ⟨s.targets.insert path t⟩
  | none => throw .misfit

/-- The selection of a text such as `{"./a": true, "./b": {"default": true}}`. -/
def ofJson (text : String) : Except JsonFault RestoreSelection :=
  JsonReader.run (do
    match ← JsonReader.peekToken? with
    | some '{' =>
      JsonReader.skip
      JsonReader.membersBody member {}
    | _ => JsonReader.misfit) text

end RestoreSelection

/-- An alias with the value it was registered with. -/
def RegistryEntry.restored {α : Type} (e : RegistryEntry α) : RegistryEntry α :=
  { e with current := e.record.value }

namespace Registry

variable {α : Type}

/-- Gives every alias the value it was registered with. -/
def restoreAll (r : Registry α) : Registry α := ⟨r.entries.map (·.restored)⟩

/-- Gives the selected aliases the values they were registered with. -/
def restore (r : Registry α) (s : RestoreSelection) : Registry α :=
  ⟨r.entries.map fun e => if s.selects e.record.path e.record.symbol then e.restored else e⟩

end Registry

end ImportSeam
