import ImportSeam.Options.Filter
import ImportSeam.Registry.Export

/-!
# Options

## Main definitions

* `Options` — which modules and which imports are left alone.
* `Options.excludesFile`, `Options.excludesImport` — the two decisions.
-/

namespace ImportSeam

/-- The directories that were listed when nothing else was said: those of tests. -/
def defaultExcludeDirs : List String := ["test", "__tests__"]

/-- The filters that hold when nothing else was said: the helper module itself, a library that
intercepts imports in its own way, and the virtual modules of bundlers, whose names begin with a
null character. -/
def defaultExcludeImports : List ModuleFilter :=
  [.exact helperModule, .exact "proxyquire"] ++
    (Pattern.ofText? "^\\x00").toList.map .pattern

/-- Which modules and which imports are left alone. -/
structure Options where
  /-- Modules inside a directory with one of these names are left alone. -/
  excludeDirs : List String := defaultExcludeDirs
  /-- Imports from modules that one of these filters accepts are left alone. -/
  excludeImports : List ModuleFilter := defaultExcludeImports

namespace Options

/-- Options with one more directory. -/
def addDir (o : Options) (dir : String) : Options :=
  { o with excludeDirs := o.excludeDirs ++ [dir] }

/-- Options with one more filter. -/
def addImport (o : Options) (f : ModuleFilter) : Options :=
  { o with excludeImports := o.excludeImports ++ [f] }

/-- The steps of a path.  Empty steps and `.` lead nowhere and are left out. -/
def steps (path : String) : List String :=
  (path.splitOn "/").filter fun step => step ≠ "" && step ≠ "."

/-- The names of the directories that a path goes through.  The last step is the file itself, and
`..` is not the name of a directory. -/
def dirNames (path : String) : List String :=
  (steps path).dropLast.filter (· ≠ "..")

/-- Whether a module is left alone because of its place.  A module without a place is not. -/
def excludesFile (o : Options) : Option String → Bool
  | none => false
  | some path => (dirNames path).any o.excludeDirs.contains

/-- Whether the imports from a module are left alone. -/
def excludesImport (o : Options) (module : String) : Bool :=
  o.excludeImports.any (·.accepts module)

/-- Options in a listing. -/
def inspect (o : Options) : String :=
  "RewriteOptions \x7b exclude_dirs: " ++ Text.inspectList (o.excludeDirs.map Text.inspect) ++
    ", exclude_imports_from_modules: " ++ Text.inspectList (o.excludeImports.map (·.inspect)) ++
    " \x7d"

end Options

end ImportSeam
