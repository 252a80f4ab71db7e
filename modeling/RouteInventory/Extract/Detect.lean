import RouteInventory.Config.Load
import RouteInventory.Extract.Error

/-!
# Which framework a project uses

A project's manifest lists what it depends on.  Each framework has packages that show it, and of the
frameworks that some package shows the first counts: projects of the first one often depend on the
others as well.
-/

namespace RouteInventory

/-- What a manifest says about dependencies. -/
structure Manifest where
  dependencies : List (String × Json) := []
  devDependencies : List (String × Json) := []
  deriving Inhabited

namespace Manifest

/-- The names of the fields, in order. -/
def fields : List String := ["dependencies", "devDependencies"]

/-- The manifest with the given fields, each of which must be an object. -/
def ofFields? (field : String → Option Json) : Option Manifest := do
  let entries? (name : String) : Option (List (String × Json)) :=
    match field name with
    | some (.object entries) => some entries
    | some _ => none
    | none => some []
  return ⟨← entries? "dependencies", ← entries? "devDependencies"⟩

/-- Reads the entries of an object after its brace.  Fields are kept, at most once each; the values
of other keys are passed over. -/
def readFields (fuel : Nat) :
    Nat → List (String × Json) → List Char → Option (List (String × Json) × List Char)
  | 0, _, _ => none
  | n + 1, acc, cs => do
    match Json.skipSpace cs with
    | '"' :: rest =>
      let (key, rest) ← Json.readString .keep fuel [] rest
      match Json.skipSpace rest with
      | ':' :: rest =>
        let isField := fields.contains key
        if isField && acc.any fun e => e.1 == key then none
        let (x, rest) ←
          if isField then Json.readValue .keep fuel (Json.maxDepth - 1) rest
          else Json.readValue .skim fuel fuel rest
        let acc := if isField then acc ++ [(key, x)] else acc
        match Json.skipSpace rest with
        | ',' :: rest => readFields fuel n acc rest
        | '\x7d' :: rest => some (acc, rest)
        | _ => none
      | _ => none
    | _ => none

/-- Reads a manifest that is an object. -/
def readObject? (cs : List Char) : Option Manifest := do
  let fuel := 2 * cs.length + 2
  let (entries, rest) ←
    match Json.skipSpace cs with
    | '\x7d' :: rest => some ([], rest)
    | rest => readFields fuel fuel [] rest
  if (Json.skipSpace rest).isEmpty then
    ofFields? fun name => (entries.find? fun e => e.1 == name).map Prod.snd
  else none

/-- Reads a manifest.  It may also be written as the array of its fields. -/
def read? (text : String) : Option Manifest :=
  match Json.skipSpace text.toList with
  | '\x7b' :: rest => readObject? rest
  | _ =>
    match Json.read? text with
    | some (.array items) => (Json.record? fields (.array items)).bind ofFields?
    | _ => none

/-- Whether the manifest lists a package. -/
def has (m : Manifest) (package : String) : Bool :=
  (m.dependencies ++ m.devDependencies).any fun e => e.1 == package

end Manifest

/-- The packages that show each framework. -/
def frameworkMarkers : List (Framework × List String) :=
  [(.nestjs, ["@nestjs/core", "@nestjs/common"]), (.fastify, ["fastify"]), (.express, ["express"])]

/-- What is known about a project's framework. -/
structure Detection where
  framework : Option Framework
  /-- The packages that show it, as far as they were found. -/
  matched : List String
  /-- How many packages show it in all. -/
  markers : Nat
  deriving DecidableEq, Repr, Inhabited

namespace Detection

def none : Detection := ⟨.none, [], 0⟩

/-- The framework that a manifest shows. -/
def ofManifest (m : Manifest) : Detection :=
  let found := frameworkMarkers.filterMap fun (framework, markers) =>
    let matched := markers.filter m.has
    if matched.isEmpty then .none else some ⟨some framework, matched, markers.length⟩
  found.headD none

/-- Two digits. -/
def twoDigits (n : Nat) : String := (if n < 10 then "0" else "") ++ toString n

/-- The share of packages that were found, with two decimals. -/
def confidence (d : Detection) : String :=
  let hundredths := if d.markers = 0 then 0 else 100 * d.matched.length / d.markers
  s!"{hundredths / 100}." ++ twoDigits (hundredths % 100)

end Detection

namespace Disk

/-- The framework of the project in a directory; without a manifest it has none. -/
def detect (d : Disk) (root : String) : Except ExtractError Detection :=
  let path := joinText root Config.manifestFile
  match d.read path with
  | .error .notFound => .ok .none
  | .error e => .error (.io e)
  | .ok text =>
    match Manifest.read? text with
    | some m => .ok (.ofManifest m)
    | none => .error (.unusable path .malformed)

/-- Whether the project in a directory uses the framework. -/
def uses (d : Disk) (root : String) (framework : Framework) : Bool :=
  match d.detect root with
  | .ok found => found.framework == some framework
  | .error _ => false

end Disk

end RouteInventory
