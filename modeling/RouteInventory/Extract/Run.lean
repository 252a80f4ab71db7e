import RouteInventory.Extract.Detect
import RouteInventory.Extract.Groups
import RouteInventory.Extract.Index
import RouteInventory.Fastify.Walk
import RouteInventory.Nest.Endpoints
import RouteInventory.Nest.GuardPatterns
import RouteInventory.Nest.Modules

/-!
# Taking the inventory of a project

`Disk.takeInventory` finds out the framework, indexes the project and follows what its entry file
registers.
-/

namespace RouteInventory

/-- What is asked for. -/
structure Request where
  /-- The directory of the project. -/
  root : String
  /-- The entry file, if it is not the configured one. -/
  entry : Option String
  framework : Option Framework
  config : Config
  /-- When the inventory is taken. -/
  time : String
  deriving Inhabited

/-- Frameworks whose endpoints can be found. -/
def Framework.supported (f : Framework) : Except ExtractError Framework :=
  match f with
  | .fastify | .nestjs => .ok f
  | .express => .error (.unsupported f)

namespace Request

/-- The path of the entry file. -/
def entryPath (r : Request) (configured : String) : String :=
  joinText r.root (r.entry.getD configured)

/-- The inventory with the endpoints that were found. -/
def inventory (r : Request) (framework : Framework) (found : List (String × List Endpoint))
    (diagnostics : List Diagnostic) : Inventory :=
  ⟨framework, r.root, r.time, RouteGroup.gather found, diagnostics⟩

end Request

namespace Disk

/-- The text of a file if it holds text. -/
def text? (d : Disk) (path : String) : Option String :=
  match d.read path with
  | .ok text => some text
  | .error _ => none

/-- Indexes a project together with its entry file, which may lie outside of what is indexed. -/
def indexWith (d : Disk) (r : Request) (entry : String) : Except ExtractError Project := do
  if !d.isFile entry then throw (.entryNotFound entry)
  match d.index (.ofString r.root) r.config.common.excludePaths with
  | .error e => throw (.config e)
  | .ok p =>
    if (p.file? (.ofString entry)).isSome then return p
    else
      match p.load d (.ofString entry) with
      | .ok q => return q
      | .error cause => throw (.unusable entry cause)

/-- The inventory of a project that registers its routes by calls. -/
def fastifyInventory (d : Disk) (r : Request) : Except ExtractError Inventory := do
  let entry := r.entryPath r.config.fastify.entry
  let p ← d.indexWith r entry
  match p.file? (.ofString entry) with
  | none => throw (.entryNotFound entry)
  | some file =>
    let walk := (RouteReader.ofConfig p r.config).walk (.ofString entry) file
    return r.inventory .fastify walk.groups (p.diagnostics ++ walk.diagnostics)

/-- The inventory of a project that declares its routes by decorators. -/
def nestInventory (d : Disk) (r : Request) : Except ExtractError Inventory := do
  let entry := r.entryPath r.config.nestjs.entry
  let p ← d.indexWith r entry
  match p.moduleGraph? (.ofString entry) with
  | none => throw (.entryNotFound entry)
  | some graph =>
    match GuardDetector.compile p r.config.nestjs.auth with
    | .error e => throw (.config e)
    | .ok detector =>
      let controllers := graph.controllers.filterMap (ControllerReader.ofConfig p r.config).read
      let (found, noticed) := detector.endpointsOfAll graph.globalGuards controllers
      return r.inventory .nestjs found (p.diagnostics ++ graph.diagnostics ++ noticed)

/-- The framework that was asked for, or else the project's own. -/
def frameworkOf (d : Disk) (r : Request) : Except ExtractError Framework := do
  match r.framework with
  | some f => return f
  | none =>
    match (← d.detect r.root).framework with
    | some f => return f
    | none => throw (.notDetected r.root)

/-- The inventory of a project. -/
def takeInventory (d : Disk) (r : Request) : Except ExtractError Inventory := do
  let framework ← d.frameworkOf r
  match ← framework.supported with
  | .nestjs => d.nestInventory r
  | _ => d.fastifyInventory r

end Disk

end RouteInventory
