import RouteInventory.Path

/-!
# Files and directories

A `Disk` is a tree of directories and files with a working directory.  Paths are followed as they
are spelled, name by name: each name has to be found in a directory, `..` leads to the directory
above, and a slash at the end asks for a directory.

* `Disk.find` finds what a path leads to.
* `Disk.read`, `Disk.write` and `Disk.makeDirectories` are the operations on files.
* `Disk.filesBelow` lists the files under a directory, in the order of their names.
-/

namespace RouteInventory

/-- Why a file cannot be used. -/
inductive FileError where
  | notFound
  | notDirectory
  | isDirectory
  /-- The contents are not text. -/
  | notText
  /-- The system refuses for a reason of its own, such as missing rights. -/
  | refused (reason : String)
  deriving DecidableEq, Repr, Inhabited

def FileError.message : FileError → String
  | notFound => "No such file or directory (os error 2)"
  | notDirectory => "Not a directory (os error 20)"
  | isDirectory => "Is a directory (os error 21)"
  | notText => "stream did not contain valid UTF-8"
  | refused reason => reason

/-- What reading a file gives if it may hold no text. -/
instance : Coe (Option String) (Except FileError String) where
  coe text := text.elim (.error .notText) .ok

/-- A file or a directory. -/
inductive Entry where
  /-- A file with what reading it gives. -/
  | file (contents : Except FileError String)
  /-- A directory with its entries in the order of their names. -/
  | directory (entries : List (String × Entry))
  deriving Repr, Inhabited

namespace Entry

def isDirectory : Entry → Bool
  | file _ => false
  | directory _ => true

/-- The entry with a name in a directory. -/
def child? (name : String) : Entry → Option Entry
  | file _ => none
  | directory entries => (entries.find? fun e => e.1 == name).map Prod.snd

/-- Puts an entry at its place among those of a directory, over one with the same name. -/
def insertInto (name : String) (entry : Entry) : List (String × Entry) → List (String × Entry)
  | [] => [(name, entry)]
  | (n, e) :: rest =>
    if name < n then (name, entry) :: (n, e) :: rest
    else if name = n then (name, entry) :: rest
    else (n, e) :: insertInto name entry rest

/-- Puts an entry at the end of a chain of names; directories that are missing on the way are made,
and so are those that are files. -/
def put (entry : Entry) : List String → Entry → Entry
  | [], _ => entry
  | name :: names, e =>
    let entries := match e with
      | directory entries => entries
      | file _ => []
    let below := ((directory entries).child? name).getD (directory [])
    directory (insertInto name (put entry names below) entries)

mutual
/-- The paths of the files in an entry that lie in directories with permitted names. -/
def filesBelow (enter : String → Bool) (path : Path) : Entry → List Path
  | file _ => [path]
  | directory entries => filesAmong enter path entries

/-- The files in the entries of a directory. -/
def filesAmong (enter : String → Bool) (path : Path) : List (String × Entry) → List Path
  | [] => []
  | (name, e) :: rest =>
    (if e.isDirectory && !enter name then []
      else filesBelow enter ⟨path.absolute, path.names ++ [name]⟩ e)
      ++ filesAmong enter path rest
end

end Entry

/-- A tree of directories, and the working directory in it. -/
structure Disk where
  root : Entry
  working : List String
  deriving Inhabited

/-- Where a path leads. -/
structure Location where
  entry : Entry
  /-- The names from the root to the entry. -/
  names : List String
  /-- The directories above the entry, the nearest first. -/
  above : List Entry
  deriving Inhabited

namespace Location

/-- Follows one name. -/
def step (l : Location) (name : String) : Except FileError Location :=
  if !l.entry.isDirectory then .error .notDirectory
  else if name == "" || name == "." then .ok l
  else if name == ".." then
    match l.above with
    | dir :: above => .ok ⟨dir, l.names.dropLast, above⟩
    | [] => .ok l
  else
    match l.entry.child? name with
    | some e => .ok ⟨e, l.names ++ [name], l.entry :: l.above⟩
    | none => .error .notFound

/-- The text of the path from the root. -/
def path (l : Location) : String := "/" ++ String.intercalate "/" l.names

end Location

/-- A name or a path after a directory, as it is spelled. -/
def joinText (dir path : String) : String :=
  if path.startsWith "/" then path
  else if dir.isEmpty || dir.endsWith "/" then dir ++ path
  else dir ++ "/" ++ path

namespace Disk

/-- Follows names from the root. -/
def follow (d : Disk) (names : List String) : Except FileError Location :=
  names.foldlM Location.step ⟨d.root, [], []⟩

/-- The names that a path asks to follow from the root. -/
def namesOf (d : Disk) (path : String) : List String :=
  if path.startsWith "/" then path.splitOn "/" else d.working ++ path.splitOn "/"

/-- What a path leads to. -/
def find (d : Disk) (path : String) : Except FileError Location :=
  if path.isEmpty then .error .notFound else d.follow (d.namesOf path)

/-- Whether a path leads to anything. -/
def has (d : Disk) (path : String) : Bool :=
  match d.find path with
  | .ok _ => true
  | .error _ => false

def isFile (d : Disk) (path : String) : Bool :=
  match d.find path with
  | .ok l => !l.entry.isDirectory
  | .error _ => false

/-- The text of a file. -/
def read (d : Disk) (path : String) : Except FileError String :=
  match d.find path with
  | .error e => .error e
  | .ok l =>
    match l.entry with
    | .directory _ => .error .isDirectory
    | .file contents => contents

/-- Puts an entry at the end of names from the root. -/
def put (d : Disk) (names : List String) (entry : Entry) : Disk :=
  { d with root := Entry.put entry names d.root }

/-- Writes a text to a file.  The directory has to be there; an older file is replaced. -/
def write (d : Disk) (path text : String) : Except FileError Disk :=
  let names := d.namesOf path
  let name := names.getLastD ""
  if path.isEmpty then .error .notFound
  else
    match d.follow names.dropLast with
    | .error e => .error e
    | .ok dir =>
      if !dir.entry.isDirectory then .error .notDirectory
      else if name == "" || name == "." || name == ".." then .error .isDirectory
      else if (dir.entry.child? name).any Entry.isDirectory then .error .isDirectory
      else .ok (d.put (dir.names ++ [name]) (.file (.ok text)))

/-- Follows names from a directory and makes the directories that are missing.  The disk keeps
those that were made before something stood in the way. -/
def makeAlong (d : Disk) (start : List String) : List String → Disk × Except FileError Unit
  | [] =>
    match d.follow start with
    | .ok l => (d, if l.entry.isDirectory then .ok () else .error .notDirectory)
    | .error e => (d, .error e)
  | name :: names =>
    match (d.follow start).bind fun l => l.step name with
    | .ok l => makeAlong d l.names names
    | .error .notFound =>
      let made := start ++ [name]
      makeAlong (d.put made (.directory [])) made names
    | .error e => (d, .error e)

/-- Makes a directory and those above it, as far as they are missing. -/
def makeDirectories (d : Disk) (path : String) : Disk × Except FileError Unit :=
  makeAlong d [] (d.namesOf path)

/-- The files under a path that lie in directories with permitted names, in the order of their
names.  A path that leads to nothing has none, and a file has only itself. -/
def filesBelow (d : Disk) (enter : String → Bool) (path : Path) : List Path :=
  match d.find path.toString with
  | .ok l => l.entry.filesBelow enter path
  | .error _ => []

end Disk

end RouteInventory
