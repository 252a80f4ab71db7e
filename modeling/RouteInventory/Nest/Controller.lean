import RouteInventory.Config.Basic
import RouteInventory.Handler
import RouteInventory.Nest.Modules
import RouteInventory.RoutePath
import RouteInventory.Shape.Infer
import RouteInventory.Shape.Render

/-!
# Controllers

A class with a `@Controller` decorator holds routes: methods with a decorator such as `@Get`.
Model of the controller parser of `endpoint-extractor`.

* `ControllerReader.read` (`parse`) yields a controller with its routes, their parameters and, if
  asked for, their responses; `ControllerReader.classOf?` (`find_controller_class`) finds the class.
* `ControllerReader.methodParams` (`method_params`) lists the parameters that a method binds, and
  `ControllerReader.boundFields` (`expand_binding`) takes one apart that is bound as a whole.
* `ControllerReader.responses` (`responses`) lists what a method returns and throws, for which
  `Cursor.thrown?` (`thrown_exception`) reads a `throw` statement.
-/

namespace RouteInventory

/-- A route of a controller. -/
structure ControllerRoute where
  method : Method
  path : String
  decorators : List Decorator
  pathParams : List Param
  queryParams : List Param
  bodyParams : List Param
  line : Nat
  responses : Option Responses
  deriving Inhabited

/-- A controller with its routes. -/
structure Controller where
  name : String
  /-- The prefix of all its routes. -/
  mount : String
  decorators : List Decorator
  sourceFile : String
  routes : List ControllerRoute
  deriving Inhabited

/-! ## Paths -/

mutual
/-- The first path that an argument spells out: a string, the first item of an array, or the
`path` of an object. -/
def Argument.firstPath : Argument → String
  | .string s => s
  | .array items => firstItemPath items
  | .object entries => entryPath entries
  | _ => ""

/-- The path of the first item. -/
def Argument.firstItemPath : List Argument → String
  | [] => ""
  | a :: _ => a.firstPath

/-- The path of the first entry named `path`. -/
def Argument.entryPath : List (String × Argument) → String
  | [] => ""
  | (key, value) :: rest => if key == "path" then value.firstPath else entryPath rest
end

/-- The path that a decorator's first argument spells out, if any. -/
def Decorator.path (d : Decorator) : String := (d.arguments.head?.map Argument.firstPath).getD ""

/-! ## Parameters -/

/-- The parts of a request that parameters are taken from. -/
inductive ParamSource where
  | path
  | query
  | body
  deriving DecidableEq, Repr, Inhabited

def ParamSource.ofDecorator? (name : String) : Option ParamSource :=
  match name with
  | "Param" => some .path
  | "Query" => some .query
  | "Body" => some .body
  | _ => none

/-- Decorators that bind parts of a request which are not reported. -/
def unreportedDecorators : List String := ["Headers", "Req", "Request", "Res", "Response"]

/-- Adds a parameter for each placeholder that none is bound to. -/
def addPlaceholders (bound placeholders : List Param) : List Param :=
  placeholders.foldl (fun ps q => if ps.any fun p => p.name == q.name then ps else ps ++ [q]) bound

/-! ## Errors that are thrown -/

/-- The exceptions of the framework, with code and standard message. -/
def httpExceptions : List (String × Nat × String) :=
  [("BadRequestException", 400, "Bad Request"),
    ("UnauthorizedException", 401, "Unauthorized"),
    ("ForbiddenException", 403, "Forbidden"),
    ("NotFoundException", 404, "Not Found"),
    ("MethodNotAllowedException", 405, "Method Not Allowed"),
    ("NotAcceptableException", 406, "Not Acceptable"),
    ("RequestTimeoutException", 408, "Request Timeout"),
    ("ConflictException", 409, "Conflict"),
    ("GoneException", 410, "Gone"),
    ("PayloadTooLargeException", 413, "Payload Too Large"),
    ("UnsupportedMediaTypeException", 415, "Unsupported Media Type"),
    ("UnprocessableEntityException", 422, "Unprocessable Entity"),
    ("InternalServerErrorException", 500, "Internal Server Error"),
    ("NotImplementedException", 501, "Not Implemented"),
    ("BadGatewayException", 502, "Bad Gateway"),
    ("ServiceUnavailableException", 503, "Service Unavailable"),
    ("GatewayTimeoutException", 504, "Gateway Timeout")]

/-- The members of the framework's table of codes. -/
def httpStatuses : List (String × Nat) :=
  [("OK", 200), ("CREATED", 201), ("ACCEPTED", 202), ("NO_CONTENT", 204), ("BAD_REQUEST", 400),
    ("UNAUTHORIZED", 401), ("PAYMENT_REQUIRED", 402), ("FORBIDDEN", 403), ("NOT_FOUND", 404),
    ("METHOD_NOT_ALLOWED", 405), ("CONFLICT", 409), ("GONE", 410), ("UNPROCESSABLE_ENTITY", 422),
    ("TOO_MANY_REQUESTS", 429), ("INTERNAL_SERVER_ERROR", 500), ("NOT_IMPLEMENTED", 501),
    ("BAD_GATEWAY", 502), ("SERVICE_UNAVAILABLE", 503), ("GATEWAY_TIMEOUT", 504)]

namespace Cursor

/-- A status code: a number, or a member of the table of codes. -/
def httpStatus? (c : Cursor) : Option Nat :=
  let node := c.unwrapped
  match node.kind with
  | .number => codeOfText? node.text
  | .memberExpression => (node.role? .property).bind fun p => httpStatuses.lookup p.text
  | _ => none

/-- The message that an exception's first argument gives. -/
def exceptionMessage? (c : Cursor) : Option String :=
  let node := c.unwrapped
  if node.kind == .object then
    (node.objectProperty? "message").bind fun v => v.focus.stringValue?
  else node.focus.stringValue?

/-- The code and the standard message of an exception. -/
def exceptionCode? (name : String) (args : List Cursor) : Option (Nat × String) :=
  if name == "HttpException" then (args[1]?.bind httpStatus?).map fun code => (code, "string")
  else httpExceptions.lookup name

/-- The error that a `throw` statement answers with. -/
def thrown? (c : Cursor) : Option Failure :=
  c.firstPart?.bind fun operand =>
    let e := operand.unwrapped
    if e.kind != .newExpression then none
    else
      (e.role? .constructor).bind fun k =>
        let args := e.callArguments
        (exceptionCode? k.text args).map fun (code, standard) =>
          ⟨code, (args.head?.bind exceptionMessage?).getD standard, [], c.line⟩

/-- The methods declared in a class. -/
def methods (c : Cursor) : List Cursor :=
  match c.role? .body with
  | some body => body.parts.filter fun m => m.kind == .methodDefinition
  | none => []

end Cursor

/-! ## Reading -/

/-- Reads the controllers of a project. -/
structure ControllerReader where
  project : Project
  renderer : Renderer
  /-- Decorators whose parameters are not reported. -/
  unreported : List String
  withResponses : Bool

namespace ControllerReader

def ofConfig (p : Project) (config : Config) : ControllerReader where
  project := p
  renderer := .ofDepth config.common.responseDepth
  unreported := unreportedDecorators ++ config.nestjs.customDecorators.map CustomDecorator.name
  withResponses := config.common.extractResponses

/-- The class that a reference means.  Under a default import the first controller of the file will
do. -/
def classOf? (file : SourceFile) (c : ControllerRef) : Option ClassFacts :=
  let isController (k : ClassFacts) := (k.decorator? "Controller").isSome
  match (file.facts.class? c.name).filter isController with
  | some k => some k
  | none => if c.isDefault then file.facts.classes.find? isController else none

/-- The fields of a parameter that is bound as a whole. -/
def boundFields (r : ControllerReader) (file : SourceFile) (name : String) (type : Option Tree)
    (required : Bool) : List Param :=
  match type with
  | none => [⟨name, "any", required⟩]
  | some t =>
    let shape := r.project.typeShape file t
    let fields := r.renderer.properties shape
    let isObject := match shape with
      | .object _ _ => true
      | _ => false
    if !fields.isEmpty || isObject then fields
    else [⟨name, r.renderer.format shape, required⟩]

/-- The parameters that one parameter of a method binds, and where they come from. -/
def boundParams (r : ControllerReader) (file : SourceFile) (param : Cursor) :
    Option (ParamSource × List Param) := do
  if param.kind != .requiredParameter && param.kind != .optionalParameter then none
  let d ← param.decorators.find? fun d =>
    (ParamSource.ofDecorator? d.name).isSome || r.unreported.contains d.name
  let source ← ParamSource.ofDecorator? d.name
  let type := param.focus.declaredType?
  let required := !param.focus.isOptional && (param.role? .value).isNone
  match d.firstString? with
  | some name =>
    let text := (type.map fun t => String.intercalate " " (Text.words t.text)).getD "any"
    return (source, [⟨name, text, required⟩])
  | none =>
    let name := ((param.role? .pattern).map Cursor.text).getD ""
    return (source, r.boundFields file name type required)

/-- The parameters that a method binds. -/
def methodParams (r : ControllerReader) (file : SourceFile) (method : Cursor) :
    List (ParamSource × List Param) :=
  match method.role? .parameters with
  | some list => list.parts.filterMap (r.boundParams file)
  | none => []

/-- The parameters from one part of a request. -/
def paramsFrom (source : ParamSource) (bound : List (ParamSource × List Param)) : List Param :=
  (bound.filter fun b => b.1 == source).flatMap Prod.snd

/-- The code of a route's success: the one that a decorator sets, if it is one, or the standard. -/
def successCode (method : Method) (decorators : List Decorator) : Nat :=
  let chosen : Option Nat := do
    let d ← decorators.find? fun d => d.name == "HttpCode"
    let n ← (← d.arguments.head?).number?
    n.toNat?.filter fun code => 100 ≤ code && code ≤ 599
  chosen.getD (if method == .post then 201 else 200)

/-- The successes of a route: its declared result, or else what it returns. -/
def successes (r : ControllerReader) (typer : Typer) (method : Cursor) (code : Nat)
    (own : List Cursor) : Typing (List Success) :=
  match method.focus.returnType? with
  | some type =>
    let shape := (typer.typeShape type).delivered
    return [⟨code, r.renderer.properties shape, shape.name?, .declared, type.line⟩]
  | none =>
    let returned := (own.filter fun c => c.kind == .returnStatement).filterMap fun c =>
      c.firstPart?.map fun e => (c, e)
    returned.mapM fun (c, e) => do
      let shape ← typer.inferResponse e
      return ⟨code, r.renderer.properties shape, shape.name?, .returned, c.line⟩

/-- The responses of a route. -/
def responses (r : ControllerReader) (typer : Typer) (method : Cursor) (verb : Method)
    (decorators : List Decorator) : Typing Responses := do
  let own := ((method.role? .body).map Cursor.ownNodes).getD []
  let success ← r.successes typer method (successCode verb decorators) own
  let errors := (own.filter fun c => c.kind == .throwStatement).filterMap Cursor.thrown?
  return Responses.distinct ⟨success, errors⟩

/-- The route that a method is, if a decorator makes it one. -/
def route? (r : ControllerReader) (file : SourceFile) (mount : String) (method : Cursor) :
    Typing (Option ControllerRoute) := do
  let decorators := method.decorators
  match decorators.findSome? fun d => (Method.ofDecorator? d.name).map fun m => (m, d) with
  | none => return none
  | some (verb, d) =>
    let path := RoutePath.join [mount, d.path]
    let bound := r.methodParams file method
    let responses ←
      if r.withResponses then pure (some (← r.responses ⟨r.project, file⟩ method verb decorators))
      else pure none
    return some
      { method := verb
        path := path
        decorators := decorators
        pathParams := addPlaceholders (paramsFrom .path bound) (RoutePath.placeholders path)
        queryParams := paramsFrom .query bound
        bodyParams := paramsFrom .body bound
        line := (decorators.map Decorator.line).foldl min method.line
        responses := responses }

/-- The controller that a module lists, unless the class is missing or no controller. -/
def read (r : ControllerReader) (c : ControllerRef) : Option Controller := do
  let file ← r.project.file? c.file
  let k ← classOf? file c
  let d ← k.decorator? "Controller"
  let mount := RoutePath.join [d.path]
  let node ← file.classNode? k.span
  let (routes, _) := ((node.methods.mapM (r.route? file mount)).run []).run
  return ⟨k.name, mount, k.decorators, file.relPath, routes.filterMap id⟩

end ControllerReader

end RouteInventory
