import RouteInventory.Disk

/-!
# Changes between two disks

`Disk.changes` lists what has to be done to one disk so that it holds what another one holds:
directories to make and files to write, directories before what lies in them.  Nothing is removed.
-/

namespace RouteInventory

/-- Something to be done to a disk. -/
inductive Change where
  | directory (path : Path)
  | file (path : Path) (text : String)
  deriving DecidableEq, Repr, Inhabited

namespace Entry

/-- The text of a file that holds text. -/
def text? : Entry → Option String
  | file contents => contents.toOption
  | directory _ => none

/-- What to do about a file that is to hold a text, given what stands in its place. -/
def fileChanges (path : Path) (old : Option Entry) : Option String → List Change
  | none => []
  | some text => if old.bind text? = some text then [] else [.file path text]

mutual
/-- What to do so that an entry stands at a path, given what stands there. -/
def changes (path : Path) (old : Option Entry) : Entry → List Change
  | file contents => fileChanges path old contents.toOption
  | directory entries =>
    (if old.any isDirectory then [] else [.directory path]) ++ changesAmong path old entries

/-- What to do so that the entries stand in a directory, given what stands in its place. -/
def changesAmong (path : Path) (old : Option Entry) : List (String × Entry) → List Change
  | [] => []
  | (name, e) :: rest =>
    changes ⟨path.absolute, path.names ++ [name]⟩ (old.bind (child? name)) e
      ++ changesAmong path old rest
end

end Entry

/-- What to do so that the disk holds what the other one holds. -/
def Disk.changes (old new : Disk) : List Change :=
  new.root.changes ⟨true, []⟩ (some old.root)

end RouteInventory
