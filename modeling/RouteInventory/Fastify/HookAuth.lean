import RouteInventory.Config.Basic
import RouteInventory.Endpoint
import RouteInventory.Shape.Render
import RouteInventory.Syntax.Literal
import RouteInventory.Text.Lowercase

/-!
# Authentication by hooks

A route needs authentication if one of its hooks refers to a middleware whose name gives it away.
The hooks stand in the first object literal among the arguments of the route's call.
-/

namespace RouteInventory

/-- Names of hooks, which are never middlewares themselves. -/
def hookNames : List String :=
  ["preHandler", "onRequest", "preValidation", "preParsing", "preSerialization", "onSend",
    "onResponse", "onError", "onTimeout"]

/-- Words of the language that a hook's value may hold. -/
def hookKeywords : List String := ["async", "await", "function", "const", "let", "var"]

/-- What to look for in the hooks of a route; the names are in lower case. -/
structure HookDetector where
  middlewareNames : List String
  hookPoints : List String
  deriving DecidableEq, Repr, Inhabited

namespace HookDetector

def ofConfig (config : HookConfig) : HookDetector where
  middlewareNames :=
    (config.middlewareNames.map fun n => Text.lowercase (Text.trim n)).filter (· != "")
  hookPoints := config.hookPoints

/-- Whether one of the names occurs in a middleware's name, in any case. -/
def isAuthMiddleware (d : HookDetector) (name : String) : Bool :=
  let lower := Text.lowercase name
  d.middlewareNames.any fun m => containsText lower m

/-- Kinds of nodes that are names. -/
def isName (k : Kind) : Bool :=
  k == .identifier || k == .propertyIdentifier || k == .shorthandPropertyIdentifier

/-- The names that a hook's value refers to, in source order. -/
def referencedNames (value : Cursor) : List String :=
  ((value.preorder.filter fun c => isName c.kind).map Cursor.text).filter fun n =>
    !hookNames.contains n && !hookKeywords.contains n

/-- The middlewares of one hook that authenticate. -/
def middlewaresAt (d : HookDetector) (options : Cursor) (hook : String) : List String :=
  match options.objectProperty? hook with
  | some value => (referencedNames value).filter d.isAuthMiddleware
  | none => []

/-- The first of the hook points with a middleware that authenticates. -/
def firstHook (d : HookDetector) (options : Cursor) : List String → HookAuth
  | [] => .absent
  | hook :: rest =>
    let found := d.middlewaresAt options hook
    if found.isEmpty then d.firstHook options rest else ⟨true, found, some hook⟩

/-- What the arguments of a route's call say about authentication. -/
def detect (d : HookDetector) (args : List Cursor) : HookAuth :=
  match (args.map Cursor.unwrapped).find? fun a => a.kind == .object with
  | some options => d.firstHook options d.hookPoints
  | none => .absent

end HookDetector

end RouteInventory
