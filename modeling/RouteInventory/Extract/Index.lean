import RouteInventory.Disk
import RouteInventory.Extract.Error
import RouteInventory.Pattern.Glob
import RouteInventory.Project

/-!
# Indexing a project

`Project.build` reads the source files of a project that no pattern excludes.  A file that cannot be
read is recorded and does not affect the others.

A file is read by the path under which it is to be stored.  That is the path by which it was found
if the project's directory is given by an absolute path; if not, the directory is put before the
path once more.
-/

namespace RouteInventory

/-- Directories that hold a project's own sources. -/
def isSourceDirectory (name : String) : Bool := !name.startsWith "." && name != "node_modules"

/-- The source files under a directory. -/
def Disk.sources (d : Disk) (base : Path) : List Path :=
  (d.filesBelow isSourceDirectory base).filter Path.isSource

namespace Project

/-- Reads a file from the disk and stores it; the error tells why it cannot be stored. -/
def load (p : Project) (d : Disk) (path : Path) : Except UnusableFile Project :=
  let key := p.absolute path
  match d.read key.toString with
  | .error cause => .error (.unreadable cause)
  | .ok source =>
    match p.addSource key source with
    | .ok q => .ok q
    | .error stored => .error (.notSource stored.toString)

/-- Adds one of the files that were found, unless it is excluded. -/
def indexFile (d : Disk) (excluded : String → Bool) (p : Project) (path : Path) : Project :=
  let rel := p.relative path
  if excluded rel then p
  else
    match p.load d path with
    | .ok q => q
    | .error cause =>
      { p with diagnostics := p.diagnostics ++ [⟨.parseFailure, rel, cause.message⟩] }

/-- The project with the files that were found and are not excluded. -/
def build (d : Disk) (base : Path) (excluded : String → Bool) (files : List Path) : Project :=
  files.foldl (indexFile d excluded) (empty base)

end Project

/-- Whether some pattern fits a path. -/
def excludedBy (patterns : List (List Glob)) (path : String) : Bool :=
  patterns.any fun p => Glob.fits p path

/-- Reads the patterns of paths to exclude. -/
def readExcludes (patterns : List String) : Except ConfigError (List (List Glob)) :=
  patterns.mapM fun p =>
    match Glob.read? p with
    | some g => .ok g
    | none => .error (.invalid (.excludePath p))

/-- Indexes the project in a directory. -/
def Disk.index (d : Disk) (base : Path) (exclude : List String) : Except ConfigError Project := do
  let patterns ← readExcludes exclude
  return Project.build d base (excludedBy patterns) (d.sources base.normalize)

end RouteInventory
