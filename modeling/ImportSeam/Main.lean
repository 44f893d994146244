import ImportSeam.Command.Run

/-!
# The command line

Connects the command with files and the standard streams.
-/

namespace ImportSeam

/-- What the system says about an error. -/
def OsError.ofSystem : IO.Error → OsError
  | .noFileOrDirectory _ code _ => ⟨OsError.notFound.description, code.toNat⟩
  | .interrupted _ code details => ⟨details, code.toNat⟩
  | .alreadyExists _ code details | .invalidArgument _ code details
  | .permissionDenied _ code details | .resourceExhausted _ code details
  | .inappropriateType _ code details | .noSuchThing _ code details => ⟨details, code.toNat⟩
  | .otherError code details | .resourceBusy code details | .resourceVanished code details
  | .unsupportedOperation code details | .hardwareFault code details
  | .unsatisfiedConstraints code details | .illegalOperation code details
  | .protocolError code details | .timeExpired code details => ⟨details, code.toNat⟩
  | .unexpectedEof => ⟨"unexpected end of file", 0⟩
  | .userError message => ⟨message, 0⟩

/-- An action with its error as a value. -/
def caught {ε α : Type} (onError : OsError → ε) (x : IO α) : IO (Except ε α) := do
  try
    return .ok (← x)
  catch e => return .error (onError (OsError.ofSystem e))

/-- Everything that a stream still holds, after what was read already. -/
partial def readAll (input : IO.FS.Stream) (bytes : ByteArray) : IO ByteArray := do
  let more ← input.read 65536
  if more.isEmpty then return bytes else readAll input (bytes ++ more)

/-- Opens a file and reads it. -/
def readFileBytes (path : String) : IO (Except ReadFault ByteArray) := do
  match ← caught ReadFault.atOpen (IO.FS.Handle.mk path .read) with
  | .error e => return .error e
  | .ok handle => caught ReadFault.atRead handle.readBinToEnd

/-- The computer that the command runs on. -/
def computer : Host IO where
  readInput := caught id do readAll (← IO.getStdin) ByteArray.empty
  readFile := readFileBytes
  writeFile path text := caught id (IO.FS.writeBinFile path text.toUTF8)
  print text := caught id do
    let output ← IO.getStdout
    output.putStr text
    output.flush

/-- What the command is told with. -/
def usage : String :=
  "Options: " ++ ", ".intercalate (CommandOption.all.map fun o => "--" ++ o.name)

end ImportSeam

/-- Instruments a module as the arguments say. -/
def main (arguments : List String) : IO UInt32 := do
  let ending ← ImportSeam.runCommand ImportSeam.computer arguments
  match ending with
  | .done => pure ()
  | .help => IO.println ImportSeam.usage
  | .failed message => IO.eprintln ("error: " ++ message)
  | .misused e => IO.eprintln ("error: " ++ e.message)
  return UInt32.ofNat ending.status
