import ImportSeam.Registry.Export

/-!
# The registry of a module

An instrumented module reads the bindings it imports through a registry, which knows for every alias
where it was imported from, the value it was registered with and the value it has now.

## Main definitions

* `ImportRecord` — what is known about an alias from its registration.
* `Registry` — the aliases in the order in which they were first registered.
* `Registry.register?` — registers an alias.
* `Registry.get?` — the present value of an alias.
* `Registry.assign` — gives an alias another value.
-/

namespace ImportSeam

/-- Where an alias was imported from, and the value it was registered with. -/
structure ImportRecord (α : Type) where
  path : String
  symbol : Export
  value : α
  deriving DecidableEq, Repr, Inhabited

/-- An alias with its record and its present value. -/
structure RegistryEntry (α : Type) where
  name : String
  record : ImportRecord α
  current : α
  deriving DecidableEq, Repr, Inhabited

/-- An alias that has the value it is registered with. -/
def RegistryEntry.fresh {α : Type} (name : String) (record : ImportRecord α) : RegistryEntry α :=
  ⟨name, record, record.value⟩

/-- The aliases of a module in the order in which they were first registered. -/
structure Registry (α : Type) where
  entries : List (RegistryEntry α) := []
  deriving DecidableEq, Repr, Inhabited

namespace Registry

variable {α : Type}

/-! ### Views -/

/-- The aliases. -/
def aliases (r : Registry α) : List String := r.entries.map (·.name)

/-- The records of the aliases. -/
def records (r : Registry α) : List (String × ImportRecord α) :=
  r.entries.map fun e => (e.name, e.record)

/-- The present values of the aliases. -/
def values (r : Registry α) : List (String × α) := r.entries.map fun e => (e.name, e.current)

/-- The number of aliases. -/
def size (r : Registry α) : Nat := r.entries.length

/-- Whether there are no aliases. -/
def isEmpty (r : Registry α) : Bool := r.entries.isEmpty

/-- Whether an alias is registered. -/
def contains (r : Registry α) (name : String) : Bool := r.aliases.contains name

/-- The present value of an alias. -/
def get? (r : Registry α) (name : String) : Option α :=
  (r.entries.find? (·.name == name)).map (·.current)

/-- The record of an alias. -/
def record? (r : Registry α) (name : String) : Option (ImportRecord α) :=
  (r.entries.find? (·.name == name)).map (·.record)

/-! ### Registration -/

/-- Puts an entry in the place of the one with the same alias, or at the end. -/
def put (r : Registry α) (e : RegistryEntry α) : Registry α :=
  if r.contains e.name then ⟨r.entries.map fun old => if old.name = e.name then e else old⟩
  else ⟨r.entries ++ [e]⟩

/-- Registers an alias, unless it would hide an operation of the registry.  An alias that is
registered again keeps its place. -/
def register? (r : Registry α) (name : String) (record : ImportRecord α) : Option (Registry α) :=
  if isReservedAlias name then none else some (r.put (.fresh name record))

/-- Registers an alias.  Nothing happens if it is refused. -/
def register (r : Registry α) (name : String) (record : ImportRecord α) : Registry α :=
  (r.register? name record).getD r

/-- The registry of a list of records. -/
def ofList (records : List (String × ImportRecord α)) : Registry α :=
  records.foldl (fun r (name, record) => r.register name record) {}

/-! ### Values -/

/-- Gives an alias another value. -/
def assign (r : Registry α) (name : String) (value : α) : Registry α :=
  ⟨r.entries.map fun e => if e.name = name then { e with current := value } else e⟩

/-- Gives several aliases other values, one after the other. -/
def assignAll (r : Registry α) (assignments : List (String × α)) : Registry α :=
  assignments.foldl (fun r (name, value) => r.assign name value) r

end Registry

end ImportSeam
