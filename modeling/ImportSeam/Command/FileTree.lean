import ImportSeam.Command.Host

/-!
# A directory in memory

## Main definitions

* `FileTree` — the files of a directory.
* `FileTree.read`, `FileTree.write` — reading and writing by path.
* `Session` — a directory, standard input, and what was printed.
* `Session.host` — the host of a session.
-/

namespace ImportSeam

/-- The files of a directory by the names on the way to them. -/
structure FileTree where
  files : List (List String × String) := []
  deriving DecidableEq, Repr, Inhabited

/-- What is found on a way. -/
inductive FileNode where
  | missing
  | directory
  | file (text : String)
  deriving DecidableEq, Repr, Inhabited

namespace FileTree

/-- The names on a path. -/
def names (path : String) : List String := path.splitOn "/"

/-- The files of a list of paths with their texts. -/
def ofList (files : List (String × String)) : FileTree :=
  ⟨files.map fun (path, text) => (names path, text)⟩

/-- What is found on a way from the top.  A directory is there because of the files in it. -/
def node (t : FileTree) (way : List String) : FileNode :=
  match t.files.find? (·.1 = way) with
  | some (_, text) => .file text
  | none => if way = [] || t.files.any (way.isPrefixOf ·.1) then .directory else .missing

/-- Follows names from a directory.  The way to what is found is given with it. -/
def follow (t : FileTree) (way : List String) :
    List String → Except OsError (List String × FileNode)
  | [] => return (way, .directory)
  | name :: rest =>
    if name = "" || name = "." then t.follow way rest
    else if name = ".." then t.follow way.dropLast rest
    else
      let way := way ++ [name]
      match t.node way with
      | .directory => t.follow way rest
      | .missing => if rest.isEmpty then return (way, .missing) else throw .notFound
      | .file text => if rest.isEmpty then return (way, .file text) else throw .notADirectory

/-- The text of a file.  A directory can be opened, but not read.  Nothing is known of the world
outside. -/
def read (t : FileTree) (path : String) : Except ReadFault String := do
  if path.startsWith "/" then throw (.atOpen .notFound)
  match t.follow [] (names path) with
  | .error e => throw (.atOpen e)
  | .ok (_, .missing) => throw (.atOpen .notFound)
  | .ok (_, .directory) => throw (.atRead .isADirectory)
  | .ok (_, .file text) => return text

/-- Puts a file in the place of the one on the same way, or adds it. -/
def put (t : FileTree) (way : List String) (text : String) : FileTree :=
  ⟨t.files.filter (·.1 ≠ way) ++ [(way, text)]⟩

/-- Whether a name stands for a file that can be made. -/
def isFileName (name : String) : Bool := name ≠ "" && name ≠ "." && name ≠ ".."

/-- Writes a file into a directory that exists. -/
def write (t : FileTree) (path text : String) : Except OsError FileTree := do
  if path.startsWith "/" then throw .notFound
  let reversed := (names path).reverse.dropWhile (· = "")
  let last := if path.endsWith "/" then "" else reversed.headD ""
  match ← t.follow [] (reversed.drop 1).reverse with
  | (_, .missing) => throw .notFound
  | (_, .file _) => throw .notADirectory
  | (way, .directory) =>
    if !isFileName last then throw .isADirectory
    match t.node (way ++ [last]) with
    | .directory => throw .isADirectory
    | _ => return t.put (way ++ [last]) text

/-- The files of a directory that another one does not have, or has with another text. -/
def since (t old : FileTree) : List (String × String) :=
  (t.files.filter fun (way, text) => old.node way ≠ .file text).map fun (way, text) =>
    ("/".intercalate way, text)

end FileTree

/-- A directory, standard input, and what was printed. -/
structure Session where
  tree : FileTree := {}
  input : ByteArray := ByteArray.empty
  printed : String := ""

namespace Session

/-- Writes a file of the session's directory. -/
def writeFile (path text : String) : StateM Session (Except OsError Unit) := do
  let s ← get
  match s.tree.write path text with
  | .error e => return .error e
  | .ok tree =>
    set { s with tree }
    return .ok ()

/-- The host of a session. -/
def host : Host (StateM Session) where
  readInput := return .ok (← get).input
  readFile path := return ((← get).tree.read path).map (·.toUTF8)
  writeFile := writeFile
  print text := do
    modify fun s => { s with printed := s.printed ++ text }
    return .ok ()

end Session

end ImportSeam
