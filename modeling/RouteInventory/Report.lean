import RouteInventory.Config.Basic
import RouteInventory.Data.Yaml.Printer
import RouteInventory.Endpoint

/-!
# Reports

A `Report` is an inventory as a document: some counts, and then the endpoints by prefix and by path.
Prefixes and paths are in order; endpoints with the same prefix and path stand as they were found.
-/

namespace RouteInventory

/-! ## Counting -/

namespace Inventory

def total (i : Inventory) : Nat := i.endpoints.length

/-- How many endpoints have the requirement. -/
def count (i : Inventory) (r : Requirement) : Nat :=
  (i.endpoints.filter fun e => e.auth.requirement = r).length

end Inventory

/-! ## Parts of a report -/

/-- Names with their types, in the order of declaration. -/
structure ParamMap where
  entries : List (String × String)
  deriving DecidableEq, Repr, Inhabited

namespace ParamMap

/-- The type as it is reported: one that may be absent says so. -/
def typeOf (p : Param) : String := if p.required then p.type else p.type ++ " | undefined"

def ofParams (ps : List Param) : ParamMap := ⟨ps.map fun p => (p.name, typeOf p)⟩

def isEmpty (m : ParamMap) : Bool := m.entries.isEmpty

/-- The type of the first entry with the name. -/
def get? (m : ParamMap) (name : String) : Option String :=
  (m.entries.find? fun e => e.1 == name).map Prod.snd

def toJson (m : ParamMap) : Json := .object (m.entries.map fun (n, t) => (n, .string t))

end ParamMap

/-- A success as it is reported. -/
structure ReportSuccess where
  code : Nat
  dataType : ParamMap
  deriving DecidableEq, Repr, Inhabited

/-- A failure as it is reported. -/
structure ReportFailure where
  code : Nat
  message : String
  deriving DecidableEq, Repr, Inhabited

/-- Responses as they are reported: of the successes only the first. -/
structure ReportResponses where
  success : Option ReportSuccess
  errors : List ReportFailure
  deriving DecidableEq, Repr, Inhabited

/-- An endpoint as it is reported. -/
structure ReportEntry where
  method : Method
  pathParams : ParamMap
  queryParams : ParamMap
  bodyParams : ParamMap
  requiresAuth : Requirement
  confidence : Option Confidence
  signals : List String
  hookPoint : Option String
  sourceFile : String
  line : Nat
  responses : Option ReportResponses
  deriving DecidableEq, Repr, Inhabited

/-- What a report says about the whole inventory. -/
structure ReportInfo where
  framework : Framework
  root : String
  extractedAt : String
  total : Nat
  required : Nat
  notRequired : Nat
  unknown : Nat
  isPartial : Bool
  diagnostics : List Diagnostic
  deriving DecidableEq, Repr, Inhabited

/-- An inventory as a document. -/
structure Report where
  info : ReportInfo
  /-- For each prefix the endpoints of each path. -/
  groups : List (String × List (String × List ReportEntry))
  deriving DecidableEq, Repr, Inhabited

/-! ## Building a report -/

namespace ReportResponses

/-- There is nothing to report without successes and failures. -/
def ofResponses? (r : Responses) : Option ReportResponses :=
  if r.isEmpty then none
  else some
    ⟨r.success.head?.map fun s => ⟨s.code, .ofParams s.dataType⟩,
      r.errors.map fun e => ⟨e.code, e.message⟩⟩

end ReportResponses

namespace ReportEntry

def ofEndpoint (e : Endpoint) : ReportEntry :=
  { method := e.method
    pathParams := .ofParams e.pathParams
    queryParams := .ofParams e.queryParams
    bodyParams := .ofParams e.bodyParams
    requiresAuth := e.auth.requirement
    confidence := e.auth.confidence?
    signals := e.auth.signals
    hookPoint := e.auth.hookPoint?
    sourceFile := e.sourceFile
    line := e.line
    responses := e.responses.bind ReportResponses.ofResponses? }

end ReportEntry

namespace Report

/-- Changes what stands under a key; the keys stay in order. -/
def alter {α : Type} (key : String) (change : Option α → α) : List (String × α) → List (String × α)
  | [] => [(key, change none)]
  | (k, a) :: rest =>
    if key < k then (key, change none) :: (k, a) :: rest
    else if key = k then (k, change (some a)) :: rest
    else (k, a) :: alter key change rest

/-- Adds an endpoint to those with the same path. -/
def addEntry (paths : List (String × List ReportEntry)) (e : Endpoint) :
    List (String × List ReportEntry) :=
  alter e.path (fun entries => entries.getD [] ++ [.ofEndpoint e]) paths

/-- Adds the endpoints of a group to those with the same prefix. -/
def addGroup (groups : List (String × List (String × List ReportEntry))) (g : RouteGroup) :
    List (String × List (String × List ReportEntry)) :=
  alter g.mount (fun paths => g.endpoints.foldl addEntry (paths.getD [])) groups

def infoOf (i : Inventory) : ReportInfo :=
  { framework := i.framework
    root := i.root
    extractedAt := i.extractedAt
    total := i.total
    required := i.count .required
    notRequired := i.count .notRequired
    unknown := i.count .unknown
    isPartial := i.isPartial
    diagnostics := i.diagnostics }

/-- The report on an inventory. -/
def ofInventory (i : Inventory) : Report := ⟨infoOf i, i.groups.foldl addGroup []⟩

end Report

/-! ## The document -/

def DiagnosticKind.text : DiagnosticKind → String
  | missingFile => "missing_file"
  | parseFailure => "parse_failure"
  | ambiguousDeclaration => "ambiguous_declaration"
  | skippedRoute => "skipped_route"

def Diagnostic.toJson (d : Diagnostic) : Json :=
  .object [("kind", .string d.kind.text), ("path", .string d.path), ("message", .string d.message)]

def Requirement.toJson : Requirement → Json
  | required => .bool true
  | notRequired => .bool false
  | unknown => .string "unknown"

/-- An entry, unless there is nothing to say. -/
def entryUnless (absent : Bool) (key : String) (value : Json) : List (String × Json) :=
  if absent then [] else [(key, value)]

/-- An entry, if there is a value. -/
def entryOf {α : Type} (key : String) (write : α → Json) (value : Option α) :
    List (String × Json) :=
  (value.map fun a => (key, write a)).toList

namespace ReportSuccess

def toJson (s : ReportSuccess) : Json :=
  .object [("code", .ofNat s.code), ("dataType", s.dataType.toJson)]

end ReportSuccess

namespace ReportFailure

def toJson (f : ReportFailure) : Json :=
  .object [("code", .ofNat f.code), ("message", .string f.message)]

end ReportFailure

namespace ReportResponses

def toJson (r : ReportResponses) : Json :=
  .object (entryOf "success" ReportSuccess.toJson r.success
    ++ entryUnless r.errors.isEmpty "errors" (.array (r.errors.map ReportFailure.toJson)))

end ReportResponses

namespace ReportEntry

def toJson (e : ReportEntry) : Json :=
  .object ([("METHOD", .string e.method.text)]
    ++ entryUnless e.pathParams.isEmpty "pathParams" e.pathParams.toJson
    ++ entryUnless e.queryParams.isEmpty "queryParams" e.queryParams.toJson
    ++ entryUnless e.bodyParams.isEmpty "bodyParams" e.bodyParams.toJson
    ++ [("requiresAuth", e.requiresAuth.toJson)]
    ++ entryOf "authConfidence" (fun c => .string c.text) e.confidence
    ++ entryUnless e.signals.isEmpty "authSignals" (.array (e.signals.map .string))
    ++ entryOf "authHookPoint" .string e.hookPoint
    ++ [("sourceFile", .string e.sourceFile), ("line", .ofNat e.line)]
    ++ entryOf "responses" ReportResponses.toJson e.responses)

end ReportEntry

namespace ReportInfo

def toJson (i : ReportInfo) : Json :=
  .object ([("framework", .string i.framework.text), ("projectRoot", .string i.root),
    ("extractedAt", .string i.extractedAt), ("totalEndpoints", .ofNat i.total),
    ("authRequiredCount", .ofNat i.required), ("publicCount", .ofNat i.notRequired),
    ("unknownCount", .ofNat i.unknown), ("partial", .bool i.isPartial)]
    ++ entryUnless i.diagnostics.isEmpty "diagnostics"
      (.array (i.diagnostics.map Diagnostic.toJson)))

end ReportInfo

namespace Report

/-- The endpoints of one prefix. -/
def groupJson (paths : List (String × List ReportEntry)) : Json :=
  .object [("endpoints", .object (paths.map fun (path, entries) =>
    (path, .array (entries.map ReportEntry.toJson))))]

def toJson (r : Report) : Json :=
  .object (("_meta", r.info.toJson) :: r.groups.map fun (mount, paths) => (mount, groupJson paths))

/-- The text of the report. -/
def render (r : Report) : OutputFormat → String
  | .yaml => r.toJson.yaml
  | .json => r.toJson.pretty

end Report

end RouteInventory
