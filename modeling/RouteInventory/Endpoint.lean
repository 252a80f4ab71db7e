/-!
# Endpoints

The result of an inventory: endpoints with their parameters, authentication and responses, gathered
in groups by prefix, and the diagnostics of what could not be analysed.
-/

namespace RouteInventory

/-- Web frameworks known by name. -/
inductive Framework where
  | fastify
  | nestjs
  | express
  deriving DecidableEq, Repr, Inhabited

namespace Framework

def text : Framework → String
  | fastify => "fastify"
  | nestjs => "nestjs"
  | express => "express"

/-- Reads a framework's name in any case. -/
def ofText? (s : String) : Option Framework :=
  match s.toLower with
  | "fastify" => some fastify
  | "nestjs" | "nest" => some nestjs
  | "express" => some express
  | _ => none

/-- What is said about a name that no framework has. -/
def unknownMessage (s : String) : String := "unknown framework: " ++ s

end Framework

/-- Methods that a route can be bound to. -/
inductive Method where
  | get
  | post
  | put
  | delete
  | patch
  | options
  | head
  | all
  deriving DecidableEq, Repr, Inhabited

namespace Method

def text : Method → String
  | get => "GET"
  | post => "POST"
  | put => "PUT"
  | delete => "DELETE"
  | patch => "PATCH"
  | options => "OPTIONS"
  | head => "HEAD"
  | all => "ALL"

/-- The method that a call such as `app.get` registers; `all` is no such call. -/
def ofCall? (name : String) : Option Method :=
  match name.toLower with
  | "get" => some get
  | "post" => some post
  | "put" => some put
  | "delete" => some delete
  | "patch" => some patch
  | "options" => some options
  | "head" => some head
  | _ => none

/-- The method that a decorator such as `@Get` stands for. -/
def ofDecorator? (name : String) : Option Method :=
  match name with
  | "Get" => some get
  | "Post" => some post
  | "Put" => some put
  | "Delete" => some delete
  | "Patch" => some patch
  | "Options" => some options
  | "Head" => some head
  | "All" => some all
  | _ => none

end Method

/-- A named field of a request or response, its type written out. -/
structure Param where
  name : String
  type : String
  required : Bool
  deriving DecidableEq, Repr, Inhabited

/-! ## Authentication -/

/-- Whether an endpoint needs authentication; not knowing is a case of its own. -/
inductive Requirement where
  | required
  | notRequired
  | unknown
  deriving DecidableEq, Repr, Inhabited

namespace Requirement

def ofBool (b : Bool) : Requirement := if b then required else notRequired

def text : Requirement → String
  | required => "true"
  | notRequired => "false"
  | unknown => "unknown"

end Requirement

/-- How directly the evidence supports a classification. -/
inductive Confidence where
  | high
  | medium
  | low
  deriving DecidableEq, Repr, Inhabited

def Confidence.text : Confidence → String
  | high => "high"
  | medium => "medium"
  | low => "low"

/-- Where a guard is attached. -/
inductive GuardLevel where
  | global
  | controller
  | method
  deriving DecidableEq, Repr, Inhabited

def GuardLevel.text : GuardLevel → String
  | .global => "global"
  | .controller => "class"
  | .method => "method"

/-- Why a guard counts as an authentication guard or not. -/
inductive GuardReason where
  | excluded
  | config
  | inheritance
  | pattern
  | unknown
  deriving DecidableEq, Repr, Inhabited

def GuardReason.text : GuardReason → String
  | excluded => "excluded"
  | config => "config"
  | inheritance => "inheritance"
  | pattern => "pattern"
  | unknown => "unknown"

/-- The classification of a guard's name. -/
structure GuardVerdict where
  isAuth : Bool
  confidence : Confidence
  reason : GuardReason
  deriving DecidableEq, Repr, Inhabited

/-- A guard that an endpoint is under. -/
structure DetectedGuard where
  name : String
  level : GuardLevel
  isAuth : Bool
  reason : GuardReason
  deriving DecidableEq, Repr, Inhabited

/-- Authentication told by the hooks of a route. -/
structure HookAuth where
  required : Bool
  middlewares : List String
  hookPoint : Option String
  deriving DecidableEq, Repr, Inhabited

/-- No hook asks for authentication. -/
def HookAuth.absent : HookAuth := ⟨false, [], none⟩

/-- Authentication told by the guards of a controller. -/
structure GuardAuth where
  required : Requirement
  confidence : Confidence
  guards : List DetectedGuard
  deriving DecidableEq, Repr, Inhabited

inductive Auth where
  | hook (auth : HookAuth)
  | guard (auth : GuardAuth)
  deriving DecidableEq, Repr, Inhabited

namespace Auth

def requirement : Auth → Requirement
  | hook a => .ofBool a.required
  | guard a => a.required

/-- The names that support the classification: middlewares, or guards that authenticate. -/
def signals : Auth → List String
  | hook a => a.middlewares
  | guard a => (a.guards.filter DetectedGuard.isAuth).map DetectedGuard.name

def confidence? : Auth → Option Confidence
  | hook _ => none
  | guard a => some a.confidence

def hookPoint? : Auth → Option String
  | hook a => a.hookPoint
  | guard _ => none

end Auth

/-! ## Responses -/

/-- What a response was read off. -/
inductive ResponseSource where
  | returned
  | replySend
  | replyCode
  | declared
  deriving DecidableEq, Repr, Inhabited

def ResponseSource.text : ResponseSource → String
  | returned => "return"
  | replySend => "reply.send"
  | replyCode => "reply.code"
  | declared => "declared"

structure Success where
  code : Nat
  dataType : List Param
  typeName : Option String
  source : ResponseSource
  line : Nat
  deriving DecidableEq, Repr, Inhabited

structure Failure where
  code : Nat
  message : String
  dataType : List Param
  line : Nat
  deriving DecidableEq, Repr, Inhabited

structure Responses where
  success : List Success
  errors : List Failure
  deriving DecidableEq, Repr, Inhabited

def Responses.isEmpty (r : Responses) : Bool := r.success.isEmpty && r.errors.isEmpty

/-! ## Endpoints and diagnostics -/

/-- A method on a path, and where it is declared. -/
structure Endpoint where
  path : String
  method : Method
  pathParams : List Param
  queryParams : List Param
  bodyParams : List Param
  auth : Auth
  sourceFile : String
  line : Nat
  responses : Option Responses
  deriving DecidableEq, Repr, Inhabited

/-- Endpoints under one prefix. -/
structure RouteGroup where
  mount : String
  endpoints : List Endpoint
  deriving DecidableEq, Repr, Inhabited

inductive DiagnosticKind where
  | missingFile
  | parseFailure
  | ambiguousDeclaration
  | skippedRoute
  deriving DecidableEq, Repr, Inhabited

/-- Whether something was left out of the analysis. -/
def DiagnosticKind.makesPartial (k : DiagnosticKind) : Bool :=
  k == .missingFile || k == .parseFailure

/-- A problem that did not stop the analysis. -/
structure Diagnostic where
  kind : DiagnosticKind
  path : String
  message : String
  deriving DecidableEq, Repr, Inhabited

/-- All that one inventory found. -/
structure Inventory where
  framework : Framework
  root : String
  extractedAt : String
  groups : List RouteGroup
  diagnostics : List Diagnostic
  deriving DecidableEq, Repr, Inhabited

namespace Inventory

/-- All endpoints, group by group. -/
def endpoints (r : Inventory) : List Endpoint := r.groups.flatMap RouteGroup.endpoints

/-- Whether part of the project could not be analysed. -/
def isPartial (r : Inventory) : Bool := r.diagnostics.any fun d => d.kind.makesPartial

end Inventory

end RouteInventory
