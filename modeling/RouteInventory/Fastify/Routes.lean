import RouteInventory.Fastify.HookAuth
import RouteInventory.Fastify.Registration
import RouteInventory.Fastify.Responses
import RouteInventory.RoutePath

/-!
# Routes of a scope

A call `app.get(path, options, handler)` declares a route.  `RouteReader.endpointsIn` lists the
routes that a scope declares itself, and reports calls whose path is not spelled out.
-/

namespace RouteInventory

/-- The parameters that a route's type argument declares. -/
structure RouteParams where
  path : Option (List Param)
  query : List Param
  body : List Param
  deriving DecidableEq, Repr, Inhabited

/-- Paths of routes begin with a slash or a wildcard, or are empty; this tells them from keys. -/
def isRoutePath (path : String) : Bool := path.isEmpty || path.startsWith "/" || path.startsWith "*"

/-- Reads the routes of a project's files. -/
structure RouteReader where
  project : Project
  auth : HookDetector
  renderer : Renderer
  withResponses : Bool

namespace RouteReader

def ofConfig (p : Project) (config : Config) : RouteReader where
  project := p
  auth := .ofConfig config.fastify.auth
  renderer := .ofDepth config.common.responseDepth
  withResponses := config.common.extractResponses

/-- The parameters that one member of a route's type argument declares. -/
def addParams (r : RouteReader) (params : RouteParams) (m : Member Shape) : RouteParams :=
  let fields := r.renderer.properties m.shape
  match m.name with
  | "Params" => { params with path := some fields }
  | "Querystring" => { params with query := fields }
  | "Body" => { params with body := fields }
  | _ => params

/-- The parameters that a route's type argument declares. -/
def paramsOf (r : RouteReader) (file : SourceFile) (type : Tree) : RouteParams :=
  match r.project.typeShape file type with
  | .object _ ms => ms.foldl r.addParams ⟨none, [], []⟩
  | _ => ⟨none, [], []⟩

/-- The parameters of a route's call. -/
def callParams (r : RouteReader) (file : SourceFile) (call : Cursor) : RouteParams :=
  match (call.focus.role? .typeArguments).bind Tree.firstPart? with
  | some t => r.paramsOf file t
  | none => ⟨none, [], []⟩

/-- A call that has the form of a route, its method and its arguments. -/
structure RouteCall where
  call : Cursor
  method : Method
  first : Cursor
  arguments : List Cursor

/-- Reads a call as a route: a member named for a method, with a path and something more. -/
def routeCall? (call : Cursor) : Option RouteCall :=
  (call.role? .function).bind fun f =>
    if f.kind != .memberExpression then none
    else
      (f.focus.calleeName?.bind Method.ofCall?).bind fun method =>
        match call.callArguments with
        | first :: second :: rest => some ⟨call, method, first, first :: second :: rest⟩
        | _ => none

/-- The handler of a route, if it is written in place. -/
def RouteCall.handler? (c : RouteCall) : Option Cursor :=
  c.arguments.getLast?.filter fun a => a.isFunction

/-- What became of a call that has the form of a route. -/
inductive Outcome where
  | endpoint (e : Endpoint)
  | skipped (d : Diagnostic)
  | ignored
  deriving Inhabited

/-- The diagnostic for a route whose path is not spelled out. -/
def skippedRoute (file : SourceFile) (line : Nat) : Diagnostic :=
  ⟨.skippedRoute, s!"{file.relPath}:{line}", "route path is not a string literal"⟩

/-- The responses of a route's handler, if they are asked for. -/
def responsesOf (r : RouteReader) (file : SourceFile) (handler : Option Cursor) :
    Typing (Option Responses) :=
  match r.withResponses, handler with
  | true, some h => return some (← ResponseReader.responses ⟨⟨r.project, file⟩, r.renderer⟩ h)
  | _, _ => return none

/-- The endpoint that a call declares. -/
def readCall (r : RouteReader) (file : SourceFile) (c : RouteCall) : Typing Outcome :=
  match c.first.focus.stringValue? with
  | none =>
    return if c.handler?.isSome then .skipped (skippedRoute file c.call.line) else .ignored
  | some path =>
    if !isRoutePath path then return .ignored
    else do
      let params := r.callParams file c.call
      let responses ← r.responsesOf file c.handler?
      return .endpoint
        { path := path
          method := c.method
          pathParams := params.path.getD (RoutePath.placeholders path)
          queryParams := params.query
          bodyParams := params.body
          auth := .hook (r.auth.detect c.arguments)
          sourceFile := file.relPath
          line := c.call.line
          responses := responses }

/-- The endpoints and diagnostics among outcomes, in order. -/
def gather (outcomes : List Outcome) : List Endpoint × List Diagnostic :=
  (outcomes.filterMap fun
    | .endpoint e => some e
    | _ => none,
  outcomes.filterMap fun
    | .skipped d => some d
    | _ => none)

/-- The endpoints that a scope declares itself, and the calls that were skipped. -/
def endpointsIn (r : RouteReader) (file : SourceFile) (scope : Cursor) :
    List Endpoint × List Diagnostic :=
  let calls := scope.scopedCalls.filterMap routeCall?
  let (outcomes, _) := ((calls.mapM (r.readCall file)).run []).run
  gather outcomes

/-- The endpoints of a file outside the plugins written in place. -/
def endpointsOf (r : RouteReader) (file : SourceFile) : List Endpoint × List Diagnostic :=
  r.endpointsIn file file.root

end RouteReader

end RouteInventory
