import RouteInventory.Endpoint
import RouteInventory.Shape.Basic

/-!
# Shapes as text

`Renderer.format` writes a shape as a type, and `Renderer.properties` flattens it into named
fields.  Both leave out what belongs to a framework's own objects, and write objects below a depth
limit by their name only.
-/

namespace RouteInventory

/-- Parts of names that give away a framework's own type. -/
def frameworkTypeMarks : List String :=
  ["Fastify", "Raw", "RouteGeneric", "ContextConfig", "FastifyReply", "FastifyRequest",
    "FastifyInstance", "FastifySchema", "RouteGenericInterface", "RawServerDefault",
    "RawRequestDefaultExpression", "RawReplyDefaultExpression", "ContextConfigDefault"]

/-- Members of requests, replies and server instances. -/
def frameworkMembers : List String :=
  ["context", "log", "request", "server", "raw", "res", "req", "sent", "hijacked", "statusCode",
    "getHeaders", "hasHeader", "removeHeader", "getHeader", "redirect", "callNotFound",
    "serialize", "compileSerializationSchema", "getSerializationFunction", "serializeInput",
    "elapsedTime", "trailer", "hasTrailer", "removeTrailer", "then", "routerPath", "routerMethod",
    "is404", "socket", "ips", "routeOptions", "routeConfig", "routeSchema", "connection",
    "getValidationFunction", "compileValidationSchema", "validateInput", "prefix",
    "listeningOrigin", "addresses", "pluginName", "setNotFoundHandler", "setErrorHandler",
    "addHook", "decorateRequest", "decorateReply", "decorate", "hasDecorator",
    "hasRequestDecorator", "hasReplyDecorator", "inject", "listen", "route", "close", "ready",
    "register", "after", "setValidatorCompiler", "setSerializerCompiler", "child", "fatal", "warn",
    "info", "debug", "trace", "silent"]

/-- Members of arrays. -/
def arrayMembers : List String :=
  ["length", "toString", "toLocaleString", "pop", "push", "concat", "join", "reverse", "shift",
    "slice", "sort", "splice", "unshift", "indexOf", "lastIndexOf", "every", "some", "forEach",
    "map", "filter", "reduce", "reduceRight", "find", "findIndex", "fill", "copyWithin", "entries",
    "keys", "values", "includes", "flatMap", "flat", "at", "findLast", "findLastIndex",
    "toReversed", "toSorted", "toSpliced", "with"]

/-- Whether `part` occurs in a text. -/
def occursIn (part text : List Char) : Bool :=
  part.isPrefixOf text ||
    match text with
    | [] => false
    | _ :: rest => occursIn part rest

/-- Whether `part` occurs in `text`. -/
def containsText (text part : String) : Bool := occursIn part.toList text.toList

def isFrameworkType (name : String) : Bool := frameworkTypeMarks.any fun m => containsText name m

def isFrameworkModule (module : String) : Bool :=
  module.startsWith "fastify" || module == "@fastify" || module.startsWith "@fastify/"
    || containsText module "node_modules/fastify" || containsText module "node_modules/@fastify"

/-- Members that never belong to the data itself. -/
def isSuppressed (name : String) : Bool :=
  name.startsWith "__@" || arrayMembers.contains name || frameworkMembers.contains name

/-- Writes shapes down to a depth of at least one. -/
structure Renderer where
  limit : Nat
  deriving DecidableEq, Repr, Inhabited

namespace Renderer

def ofDepth (depth : Nat) : Renderer := ⟨max depth 1⟩

/-- The depth used where none is configured. -/
def standard : Renderer := ofDepth 2

/-- Whether the members of an object with the declared name are kept back. -/
def isElided (name : Option String) : Bool := name.any isFrameworkType

/-- Alternatives side by side, each once. -/
def joinVariants (texts : List String) : String :=
  String.intercalate " | " (texts.foldl (fun acc t => if t ∈ acc then acc else acc ++ [t]) [])

mutual
/-- The text of a shape at some depth. -/
def formatAt (r : Renderer) (depth : Nat) : Shape → String
  | .primitive name => name
  | .literal text => text
  | .named name _ args =>
    if args.isEmpty || isFrameworkType name then name
    else name ++ "<" ++ String.intercalate ", " (formatAll r (depth + 1) args) ++ ">"
  | .array (.union vs) => joinVariants ((formatAll r depth vs).map (· ++ "[]"))
  | .array element => formatAt r depth element ++ "[]"
  | .union vs => joinVariants (formatAll r depth vs)
  | .object name members =>
    if isElided name || r.limit ≤ depth then name.getD "object"
    else
      let fields := formatMembers r (depth + 1) members
      if fields.isEmpty then name.getD "\x7b\x7d"
      else "\x7b " ++ String.intercalate "; " fields ++ "; \x7d"

/-- The texts of several shapes. -/
def formatAll (r : Renderer) (depth : Nat) : List Shape → List String
  | [] => []
  | s :: ss => formatAt r depth s :: formatAll r depth ss

/-- The texts of the members that are shown. -/
def formatMembers (r : Renderer) (depth : Nat) : List (Member Shape) → List String
  | [] => []
  | ⟨n, s, _⟩ :: ms =>
    if isSuppressed n then formatMembers r depth ms
    else (n ++ ": " ++ formatAt r depth s) :: formatMembers r depth ms
end

/-- The text of a shape. -/
def format (r : Renderer) (s : Shape) : String := r.formatAt 0 s

/-- The text of an array of the shape. -/
def formatArray (r : Renderer) (depth : Nat) (element : Shape) : String :=
  r.formatAt depth (.array element)

/-- The fields of a shape that is not a union. -/
def fieldsOf (r : Renderer) : Shape → List Param
  | .array element => [⟨"items", r.formatArray 1 element, true⟩]
  | .object name members =>
    if isElided name then []
    else (members.filter fun m => !isSuppressed m.name).map fun m =>
      ⟨m.name, r.formatAt 1 m.shape, !m.optional⟩
  | _ => []

mutual
/-- The fields of a shape; a union has those of its only alternative that is not empty. -/
def properties (r : Renderer) : Shape → List Param
  | .union vs => onlyProperties r vs
  | s => r.fieldsOf s

/-- The fields of the only alternative that is not empty; no fields if there is none, or more than
one. -/
def onlyProperties (r : Renderer) : List Shape → List Param
  | [] => []
  | v :: vs =>
    if v.isNullish then onlyProperties r vs
    else if vs.all Shape.isNullish then properties r v
    else []
end

end Renderer

end RouteInventory
