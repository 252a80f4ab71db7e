import RouteInventory.Config.Layers
import RouteInventory.Config.Validate
import RouteInventory.Data.Yaml.Value
import RouteInventory.Disk

/-!
# Loading a configuration

A project's configuration comes in layers, the highest first: a file that was asked for, the
project's own configuration files, and an entry of its manifest.  A layer whose file is missing or
holds nothing is passed over.
-/

namespace RouteInventory

namespace Config

def yamlFile : String := "extractor.config.yaml"

def jsonFile : String := "extractor.config.json"

def manifestFile : String := "package.json"

/-- Whether a path has the extension of a YAML document. -/
def isYaml (path : String) : Bool :=
  (Path.ofString path).extension?.any fun e => e == "yaml" || e == "yml"

/-- The document in a text; the path tells its notation. -/
def document? (path text : String) : Option Json :=
  if isYaml path then Yaml.read? text else Json.read? text

/-- The layer in a text. -/
def layerOf (path text : String) : Except ConfigError (Option Json) :=
  match document? path text with
  | none => .error (.malformed path .unreadable)
  | some .null => .ok none
  | some (.object entries) => .ok (some (.object entries))
  | some _ => .error (.malformed path .notMapping)

/-- The layer in a file. -/
def layerAt (d : Disk) (path : String) : Except ConfigError (Option Json) :=
  if d.isFile path then
    match d.read path with
    | .ok text => layerOf path text
    | .error _ => .error (.notText path)
  else .ok none

/-- The layer in the entry of a manifest. -/
def manifestLayer (path : String) (manifest : Json) : Except ConfigError (Option Json) :=
  match manifest.get? manifestEntry with
  | some (.object entries) => .ok (some (.object entries))
  | some .null | none => .ok none
  | some _ => .error (.malformed path .entryNotObject)

/-- The layer in the manifest of a project. -/
def manifestLayerAt (d : Disk) (path : String) : Except ConfigError (Option Json) := do
  match ← layerAt d path with
  | some manifest => manifestLayer path manifest
  | none => return none

/-- The layers of a project, the highest first. -/
def layers (d : Disk) (root : String) (explicit : Option String) :
    Except ConfigError (List Json) := do
  let asked ← match explicit with
    | some path => layerAt d (joinText root path)
    | none => pure none
  let yaml ← layerAt d (joinText root yamlFile)
  let json ← layerAt d (joinText root jsonFile)
  let manifest ← manifestLayerAt d (joinText root manifestFile)
  return [asked, yaml, json, manifest].filterMap id

/-- The configuration that layers amount to. -/
def ofLayers (layers : List Json) : Except ConfigError Config := do
  match ofJson? (merged layers) with
  | none => throw (.invalid .misfit)
  | some config =>
    config.validate
    return config

/-- The configuration of a project. -/
def load (d : Disk) (root : String) (explicit : Option String) : Except ConfigError Config := do
  ofLayers (← layers d root explicit)

end Config

end RouteInventory
