/-!
# The surroundings of the command

The command reads and writes through a host, so that the same command runs on a computer and on a
directory held in memory.

## Main definitions

* `OsError` — why the operating system refused.
* `Host` — what the command can do.
-/

namespace ImportSeam

/-- Why the operating system refused. -/
structure OsError where
  description : String
  code : Nat
  deriving DecidableEq, Repr, Inhabited

namespace OsError

/-- The wording of an error. -/
def message (e : OsError) : String :=
  e.description ++ " (os error " ++ toString e.code ++ ")"

/-- There is nothing at a path. -/
def notFound : OsError := ⟨"No such file or directory", 2⟩

/-- A path goes through a file. -/
def notADirectory : OsError := ⟨"Not a directory", 20⟩

/-- A directory is used as a file. -/
def isADirectory : OsError := ⟨"Is a directory", 21⟩

end OsError

/-- At which point a file could not be read. -/
inductive ReadFault where
  | atOpen (e : OsError)
  | atRead (e : OsError)
  deriving DecidableEq, Repr, Inhabited

/-- The error behind a fault. -/
def ReadFault.error : ReadFault → OsError
  | .atOpen e | .atRead e => e

/-- What the command can do. -/
structure Host (m : Type → Type) where
  /-- All of standard input. -/
  readInput : m (Except OsError ByteArray)
  readFile : String → m (Except ReadFault ByteArray)
  writeFile : String → String → m (Except OsError Unit)
  /-- Writes to standard output. -/
  print : String → m (Except OsError Unit)

end ImportSeam
