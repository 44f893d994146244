import ImportSeam.Command.Arguments
import ImportSeam.Command.Host
import ImportSeam.Instrument.Source
import ImportSeam.Options.Reader
import ImportSeam.Registry.Helper
import ImportSeam.Text.Utf8

/-!
# Running the command

## Main definitions

* `Arguments.execute` — does what was asked for.
* `Ending` — how the command ends.
* `runCommand` — the command.
-/

namespace ImportSeam

/-- A part of the command.  It fails with a message. -/
abbrev CommandM (m : Type → Type) := ExceptT String m

/-- The wording of an error in the options. -/
def OptionsError.message : OptionsError → String
  | .json .malformed => "invalid options: malformed text"
  | .json .misfit => "invalid options: unexpected value"
  | .json .ended => "invalid options: unexpected end of text"
  | .invalidPattern written => "invalid module pattern " ++ Text.inspect written

/-- A binding as JSON. -/
def Binding.toJson (b : Binding) : JsonValue :=
  .obj [("alias", .str b.name), ("path", .str b.path), ("symbol", .str b.symbol.text)]

section

variable {m : Type → Type} [Monad m]

/-- Does something that can fail, and puts an error into words. -/
def attempt {ε α : Type} (x : m (Except ε α)) (message : ε → String) : CommandM m α := do
  match ← (x : m (Except ε α)) with
  | .ok a => return a
  | .error e => throw (message e)

/-- The text of a file with options. -/
def Host.readConfig (host : Host m) (path : String) : CommandM m String := do
  let bytes ← attempt (host.readFile path) fun e =>
    "failed to read " ++ path ++ ": " ++ e.error.message
  match Text.decodeUtf8 bytes with
  | .ok text => return text
  | .error _ => throw ("failed to read " ++ path ++ ": stream did not contain valid UTF-8")

/-- The options in a file, or the default ones. -/
def Host.readOptions (host : Host m) : Option String → CommandM m Options
  | none => return {}
  | some path => do
    match Options.ofJson (← host.readConfig path) with
    | .ok options => return options
    | .error e => throw ("invalid config " ++ path ++ ": " ++ e.message)

/-- Writes a file. -/
def Host.save (host : Host m) (path text : String) : CommandM m Unit :=
  attempt (host.writeFile path text) fun e => "failed to write " ++ path ++ ": " ++ e.message

/-- The bytes of the input. -/
def Host.readBytes (host : Host m) (name : String) : Option String → CommandM m ByteArray
  | none => attempt host.readInput fun e => "failed to read " ++ name ++ ": " ++ e.message
  | some path => attempt (host.readFile path) fun
    | .atOpen e => "failed to open " ++ path ++ ": " ++ e.message
    | .atRead e => "failed to read " ++ name ++ ": " ++ e.message

namespace Arguments

/-- What the input is called in messages. -/
def inputName (a : Arguments) : String := a.input.getD "<stdin>"

/-- The options: those of the file, and the ones given as arguments. -/
def options (a : Arguments) (host : Host m) : CommandM m Options := do
  let options ← host.readOptions a.config
  let options := a.excludeDirs.foldl (·.addDir) options
  return a.excludeImports.foldl (fun o module => o.addImport (.exact module)) options

/-- The source code of the module. -/
def source (a : Arguments) (host : Host m) : CommandM m String := do
  let bytes ← host.readBytes a.inputName a.input
  match Text.decodeUtf8 bytes with
  | .ok text => return text
  | .error e => throw (a.inputName ++ " is not valid UTF-8: " ++ e.message)

/-- The module, instrumented as the arguments say. -/
def instrumented (a : Arguments) (host : Host m) : CommandM m Instrumented := do
  let options ← a.options host
  let source ← a.source host
  match instrumentSource source (a.filename.or a.input) options with
  | .ok r => return r
  | .error e => throw (a.inputName ++ ": " ++ e.message)

/-- Writes the bindings and the code. -/
def deliver (a : Arguments) (host : Host m) (r : Instrumented) : CommandM m Unit := do
  if let some path := a.bindings then
    host.save path (JsonValue.arr (r.outcome.bindings.map (·.toJson))).pretty
  match a.output with
  | some path => host.save path r.code
  | none => attempt (host.print r.code) fun e => "failed to write <stdout>: " ++ e.message

/-- Does what was asked for: writes the helper module, or instruments a module. -/
def execute (a : Arguments) (host : Host m) : CommandM m Unit := do
  match a.writeHelper with
  | some path => host.save path helperSource
  | none => a.deliver host (← a.instrumented host)

end Arguments

end

/-- How the command ends. -/
inductive Ending where
  | done
  | help
  | failed (message : String)
  | misused (e : UsageError)
  deriving DecidableEq, Repr, Inhabited

/-- The exit status. -/
def Ending.status : Ending → Nat
  | .done | .help => 0
  | .failed _ => 1
  | .misused _ => 2

/-- The command with its arguments. -/
def runCommand {m : Type → Type} [Monad m] (host : Host m) (arguments : List String) :
    m Ending := do
  match Arguments.parse arguments with
  | .error e => return .misused e
  | .ok .help => return .help
  | .ok (.run a) =>
    match ← (a.execute host).run with
    | .ok () => return .done
    | .error message => return .failed message

end ImportSeam
