/-!
# Paths

A `Path` is a list of names that starts at the root or at some other directory.  It may hold `..`,
which names the parent directory; a single dot and empty names never count.

* `Path.normalize` resolves `..` by the text alone: it cancels the name before it, whatever that
  name is, and stays where there is none.
* `Path.strip?` takes a directory off the front.
* `Path.compare` orders paths name by name, `..` before every other name.
-/

namespace RouteInventory

/-- A sequence of names, from the root or relative to some directory. -/
structure Path where
  absolute : Bool
  names : List String
  deriving DecidableEq, Repr, Inhabited

namespace Path

/-- The names between the slashes of a text, without dots that stay in place. -/
def namesOf (text : String) : List String :=
  (text.splitOn "/").filter fun n => n != "" && n != "."

def ofString (text : String) : Path := ⟨text.startsWith "/", namesOf text⟩

def toString (p : Path) : String :=
  (if p.absolute then "/" else "") ++ String.intercalate "/" p.names

instance : ToString Path := ⟨toString⟩

/-- The path reached from `dir` by following `p`. -/
def join (dir p : Path) : Path :=
  if p.absolute then p else ⟨dir.absolute, dir.names ++ p.names⟩

/-- One step of `normalize`: the names so far, latest first, and the next name. -/
def normalizeStep (done : List String) (name : String) : List String :=
  if name == ".." then
    match done with
    | [] => [".."]
    | _ :: rest => rest
  else name :: done

/-- Cancels each `..` against the name before it. -/
def normalize (p : Path) : Path :=
  ⟨p.absolute, (p.names.foldl normalizeStep []).reverse⟩

/-- The directory that holds the path's last name. -/
def parent? (p : Path) : Option Path :=
  if p.names.isEmpty then none else some ⟨p.absolute, p.names.dropLast⟩

/-- The last name, unless it is `..`. -/
def fileName? (p : Path) : Option String :=
  p.names.getLast?.filter (· != "..")

/-- A file name split before its last dot; a name that only begins with a dot has no extension. -/
def splitExtension (name : String) : String × Option String :=
  let cs := name.toList.reverse
  let ext := (cs.takeWhile (· != '.')).reverse
  let rest := cs.dropWhile (· != '.')
  match rest with
  | [] => (name, none)
  | _ :: stem => if stem.isEmpty then (name, none)
    else (String.ofList stem.reverse, some (String.ofList ext))

def extension? (p : Path) : Option String :=
  p.fileName?.bind fun n => (splitExtension n).2

/-- The same path with its last name replaced. -/
def withName (p : Path) (name : String) : Path := ⟨p.absolute, p.names.dropLast ++ [name]⟩

/-- The same path with another extension. -/
def withExtension (p : Path) (ext : String) : Path :=
  match p.fileName? with
  | some n => p.withName ((splitExtension n).1 ++ "." ++ ext)
  | none => p

/-- The path with something appended to its last name. -/
def withSuffix (p : Path) (suffix : String) : Path :=
  p.withName (p.names.getLast?.getD "" ++ suffix)

/-- What is left of a path below a directory. -/
def strip? (dir p : Path) : Option (List String) :=
  if dir.absolute == p.absolute && dir.names.isPrefixOf p.names then
    some (p.names.drop dir.names.length)
  else none

/-- The order of two names: `..` comes first, all others by their text. -/
def compareNames (a b : String) : Ordering :=
  match a == "..", b == ".." with
  | true, true => .eq
  | true, false => .lt
  | false, true => .gt
  | false, false => if a < b then .lt else if b < a then .gt else .eq

/-- Name by name; a path comes before its extensions. -/
def compareAll : List String → List String → Ordering
  | [], [] => .eq
  | [], _ :: _ => .lt
  | _ :: _, [] => .gt
  | a :: as, b :: bs => (compareNames a b).then (compareAll as bs)

/-- Paths from the root come before the others. -/
def compare (a b : Path) : Ordering :=
  match a.absolute, b.absolute with
  | true, false => .lt
  | false, true => .gt
  | _, _ => compareAll a.names b.names

end Path

end RouteInventory
