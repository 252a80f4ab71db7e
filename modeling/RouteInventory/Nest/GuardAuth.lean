import RouteInventory.Nest.Guards
import RouteInventory.Text.Lowercase

/-!
# Authentication by guards

An endpoint that is marked as public, on its method or its controller, needs no authentication.
Otherwise its guards decide: those of the application, of the controller and of the method.
-/

namespace RouteInventory

namespace Decorator

/-- The key under which a decorator stores metadata: the one that it spells out, the customary key
of some well-known decorators, or the name in lower case. -/
def metadataKey (d : Decorator) : String :=
  match (if d.name == "SetMetadata" then d.firstString? else none) with
  | some key => key
  | none =>
    match d.name with
    | "Public" => "isPublic"
    | "SkipAuth" => "skipAuth"
    | "Roles" => "roles"
    | "Permissions" => "permissions"
    | other => Text.lowercase other

/-- The guards that decorators apply, in order. -/
def guardNames (ds : List Decorator) : List String :=
  ((ds.filter fun d => d.name == "UseGuards").flatMap Decorator.arguments).filterMap
    Argument.referencedName?

end Decorator

/-- What tells whether an endpoint needs authentication. -/
structure GuardDetector where
  rules : GuardRules
  publicDecorators : List String
  publicMetadataKeys : List String

namespace GuardDetector

def ofConfig (p : Project) (config : GuardConfig) (fitsPattern : String → Bool) :
    GuardDetector where
  rules := .ofConfig p config fitsPattern
  publicDecorators := config.publicDecorators
  publicMetadataKeys := config.publicMetadataKeys

/-- Whether one of the decorators marks something as public. -/
def isPublic (d : GuardDetector) (decorators : List Decorator) : Bool :=
  decorators.any fun m =>
    d.publicDecorators.contains m.name || d.publicMetadataKeys.contains m.metadataKey

/-- Classifies the guards of one level. -/
def guardsAt (d : GuardDetector) (level : GuardLevel) (names : List String) :
    StateM GuardMemory (List DetectedGuard) :=
  names.mapM fun name => do
    let v ← d.rules.classify name
    return ⟨name, level, v.isAuth, v.reason⟩

/-- Authentication is needed if some guard authenticates; without guards nothing is known. -/
def requirement (guards : List DetectedGuard) : Requirement :=
  if guards.any DetectedGuard.isAuth then .required
  else if guards.isEmpty then .unknown
  else .notRequired

/-- Reasons that need no guess. -/
def isFirm (r : GuardReason) : Bool := r == .config || r == .inheritance || r == .excluded

/-- How far the classification of the guards can be relied on. -/
def confidence (guards : List DetectedGuard) : Confidence :=
  if guards.isEmpty then .low
  else if guards.all fun g => isFirm g.reason then .high
  else if guards.any fun g => g.reason == .unknown then .low
  else .medium

/-- What the guards of an endpoint say, and the marks of its controller and its method. -/
def detect (d : GuardDetector) (globalGuards : List String) (ofClass ofMethod : List Decorator) :
    StateM GuardMemory GuardAuth := do
  if d.isPublic ofMethod || d.isPublic ofClass then return ⟨.notRequired, .high, []⟩
  else
    let everywhere ← d.guardsAt .global globalGuards
    let onClass ← d.guardsAt .controller (Decorator.guardNames ofClass)
    let onMethod ← d.guardsAt .method (Decorator.guardNames ofMethod)
    let guards := everywhere ++ onClass ++ onMethod
    return ⟨requirement guards, confidence guards, guards⟩

end GuardDetector

end RouteInventory
