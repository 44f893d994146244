/-!
# Arguments of the command

An option is written with two dashes and its name, or with one dash and a letter if it has one.  A
value follows as the next argument, after `=`, or right after the letter.

## Main definitions

* `Arguments` — what the command was asked to do.
* `UsageError` — why arguments make no sense.
* `Arguments.parse` — reads arguments.
-/

namespace ImportSeam

/-- The options that take a value. -/
inductive ValueOption where
  | input
  | output
  | filename
  | config
  | excludeDir
  | excludeImport
  | bindings
  | writeHelper
  deriving DecidableEq, Repr, Inhabited

/-- The options. -/
inductive CommandOption where
  | valued (o : ValueOption)
  | verbose
  | help
  deriving DecidableEq, Repr, Inhabited

/-- The name of an option that takes a value. -/
def ValueOption.name : ValueOption → String
  | .input => "input"
  | .output => "output"
  | .filename => "filename"
  | .config => "config"
  | .excludeDir => "exclude-dir"
  | .excludeImport => "exclude-import"
  | .bindings => "bindings"
  | .writeHelper => "write-helper"

/-- All options that take a value. -/
def ValueOption.all : List ValueOption :=
  [.input, .output, .filename, .config, .excludeDir, .excludeImport, .bindings, .writeHelper]

namespace CommandOption

/-- The name of an option. -/
def name : CommandOption → String
  | .valued o => o.name
  | .verbose => "verbose"
  | .help => "help"

/-- All options. -/
def all : List CommandOption := ValueOption.all.map valued ++ [verbose, help]

/-- The option with a name. -/
def ofName? (name : String) : Option CommandOption := all.find? (·.name == name)

/-- The option with a letter. -/
def ofLetter? : Char → Option CommandOption
  | 'i' => some (.valued .input)
  | 'o' => some (.valued .output)
  | 'v' => some .verbose
  | 'h' => some .help
  | _ => none

end CommandOption

/-- Why arguments make no sense. -/
inductive UsageError where
  | unexpected (argument : String)
  | missingValue (o : ValueOption)
  | emptyValue (o : ValueOption)
  /-- A value for an option that takes none. -/
  | unneededValue (o : CommandOption)
  /-- An option that may be given once was given twice. -/
  | repeated (o : CommandOption)
  deriving DecidableEq, Repr, Inhabited

/-- The wording of an error. -/
def UsageError.message : UsageError → String
  | .unexpected argument => "unexpected argument '" ++ argument ++ "'"
  | .missingValue o | .emptyValue o => "a value is required for '--" ++ o.name ++ "'"
  | .unneededValue o => "no value is expected for '--" ++ o.name ++ "'"
  | .repeated o => "the argument '--" ++ o.name ++ "' cannot be used multiple times"

/-- What the command was asked to do. -/
structure Arguments where
  /-- The file to read instead of standard input. -/
  input : Option String := none
  /-- The file to write instead of standard output. -/
  output : Option String := none
  /-- The place of the module, if it is not that of the input. -/
  filename : Option String := none
  /-- The file with the options. -/
  config : Option String := none
  excludeDirs : List String := []
  excludeImports : List String := []
  /-- Where the bindings are to be written. -/
  bindings : Option String := none
  /-- Where the helper module is to be written. -/
  writeHelper : Option String := none
  verbose : Bool := false
  deriving DecidableEq, Repr, Inhabited

/-- Arguments that could be read so far. -/
inductive Progress where
  | ready (a : Arguments)
  /-- The value of an option comes next. -/
  | awaiting (a : Arguments) (o : ValueOption)
  | help
  deriving DecidableEq, Repr, Inhabited

/-- What is to be done. -/
inductive Request where
  | run (a : Arguments)
  | help
  deriving DecidableEq, Repr, Inhabited

namespace Arguments

/-- The value of an option that may be given once, and is not empty. -/
def once (o : ValueOption) (old : Option String) (value : String) :
    Except UsageError (Option String) :=
  if old.isSome then throw (.repeated (.valued o))
  else if value = "" then throw (.emptyValue o)
  else return some value

/-- Arguments with the value of an option. -/
def set (a : Arguments) (o : ValueOption) (value : String) : Except UsageError Arguments := do
  match o with
  | .input => return { a with input := ← once o a.input value }
  | .output => return { a with output := ← once o a.output value }
  | .filename => return { a with filename := ← once o a.filename value }
  | .config => return { a with config := ← once o a.config value }
  | .bindings => return { a with bindings := ← once o a.bindings value }
  | .writeHelper => return { a with writeHelper := ← once o a.writeHelper value }
  | .excludeDir => return { a with excludeDirs := a.excludeDirs ++ [value] }
  | .excludeImport => return { a with excludeImports := a.excludeImports ++ [value] }

/-- Arguments with the switch for messages on. -/
def setVerbose (a : Arguments) : Except UsageError Arguments :=
  if a.verbose then throw (.repeated .verbose) else return { a with verbose := true }

/-- An argument with two dashes, given the name and the value in it. -/
def readNamed (a : Arguments) (name : String) (value : Option String) :
    Except UsageError Progress := do
  match CommandOption.ofName? name, value with
  | none, _ => throw (.unexpected ("--" ++ name))
  | some (.valued o), none => return .awaiting a o
  | some (.valued o), some v => return .ready (← a.set o v)
  | some .verbose, none => return .ready (← a.setVerbose)
  | some .help, none => return .help
  | some o, some _ => throw (.unneededValue o)

/-- The value that stands right after a letter, with or without `=`. -/
def attachedValue : List Char → Option String
  | [] => none
  | '=' :: cs => some (String.ofList cs)
  | cs => some (String.ofList cs)

/-- An argument with one dash, given the letters in it.  What follows the letter of an option that
takes a value is its value. -/
def readLetters (a : Arguments) : List Char → Except UsageError Progress
  | [] => return .ready a
  | c :: cs => do
    match CommandOption.ofLetter? c with
    | none => throw (.unexpected (String.ofList ['-', c]))
    | some .help => return .help
    | some .verbose => readLetters (← a.setVerbose) cs
    | some (.valued o) =>
      match attachedValue cs with
      | some v => return .ready (← a.set o v)
      | none => return .awaiting a o

/-- The part of a text before the first `=`, and the part after it. -/
def splitAtEquals (cs : List Char) : String × Option String :=
  let value := match cs.dropWhile (· ≠ '=') with
    | [] => none
    | _ :: v => some (String.ofList v)
  (String.ofList (cs.takeWhile (· ≠ '=')), value)

/-- Reads one argument that is not the value of an option. -/
def readArgument (a : Arguments) (argument : String) : Except UsageError Progress :=
  match argument.toList with
  | '-' :: '-' :: cs =>
    let (name, value) := splitAtEquals cs
    a.readNamed name value
  | '-' :: c :: cs => a.readLetters (c :: cs)
  | _ => throw (.unexpected argument)

/-- Whether an argument can be the value of the option before it. -/
def isValue (argument : String) : Bool :=
  match argument.toList with
  | '-' :: _ :: _ => false
  | _ => true

/-- Reads arguments.  After `--` there is nothing to read. -/
def readFrom (a : Arguments) : List String → Except UsageError Request
  | [] => return .run a
  | argument :: rest =>
    if argument = "--" then
      match rest with
      | [] => return .run a
      | extra :: _ => throw (.unexpected extra)
    else do
      match ← a.readArgument argument with
      | .ready a => a.readFrom rest
      | .help => return .help
      | .awaiting a o =>
        match rest with
        | [] => throw (.missingValue o)
        | value :: rest =>
          if isValue value then (← a.set o value).readFrom rest else throw (.missingValue o)

/-- Reads the arguments of the command. -/
def parse (arguments : List String) : Except UsageError Request :=
  ({} : Arguments).readFrom arguments

end Arguments

end ImportSeam
