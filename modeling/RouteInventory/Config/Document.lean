import RouteInventory.Config.Basic
import RouteInventory.Data.Json

/-!
# Configurations as documents

`Config.toJson` writes a configuration out in full, and `Config.ofJson?` reads one.  A section that
is absent has its standard values, and so has an absent field of a section; entries that mean
nothing here are passed over.  A section may also be written as the array of its fields in order, of
which the last ones may be left out.
-/

namespace RouteInventory

namespace Json

/-- The fields of a record, by name: the entries of an object, or the items of an array that is no
longer than the list of names. -/
def record? (names : List String) : Json → Option (String → Option Json)
  | .object entries => some fun name => (Json.object entries).get? name
  | .array items =>
    if items.length ≤ names.length then some fun name => items[names.idxOf name]? else none
  | _ => none

def string? : Json → Option String
  | .string s => some s
  | _ => none

def bool? : Json → Option Bool
  | .bool b => some b
  | _ => none

/-- A whole number that is not negative. -/
def nat? : Json → Option Nat
  | .number (.int n) => if 0 ≤ n then some n.toNat else none
  | _ => none

/-- The items of an array, each of which has to be readable. -/
def list? {α : Type} (read : Json → Option α) : Json → Option (List α)
  | .array items => items.mapM read
  | _ => none

def strings? : Json → Option (List String) := list? string?

/-- A value that may be absent or null. -/
def option? {α : Type} (read : Json → Option α) : Json → Option (Option α)
  | .null => some none
  | j => (read j).map some

/-- A field of a record, or its standard value where it is absent. -/
def field? {α : Type} (fields : String → Option Json) (name : String) (read : Json → Option α)
    (standard : α) : Option α :=
  match fields name with
  | some j => read j
  | none => some standard

def ofStrings (xs : List String) : Json := .array (xs.map .string)

end Json

namespace OutputFormat

/-- A format is named, or is the only key of an object that gives it nothing. -/
def ofJson? : Json → Option OutputFormat
  | .string "yaml" | .object [("yaml", .null)] => some yaml
  | .string "json" | .object [("json", .null)] => some json
  | _ => none

end OutputFormat

namespace Config

open Json

def readCommon? (j : Json) : Option CommonConfig := do
  let f ← record? ["outputFormat", "extractResponses", "responseDepth", "excludePaths"] j
  return {
    outputFormat := ← field? f "outputFormat" OutputFormat.ofJson? defaultCommon.outputFormat
    extractResponses := ← field? f "extractResponses" bool? defaultCommon.extractResponses
    responseDepth := ← field? f "responseDepth" nat? defaultCommon.responseDepth
    excludePaths := ← field? f "excludePaths" strings? defaultCommon.excludePaths }

def readGuards? (j : Json) : Option GuardConfig := do
  let f ← record? ["guardPatterns", "authGuards", "excludeGuards", "publicDecorators",
    "publicMetadataKeys", "authBaseClasses"] j
  return {
    guardPatterns := ← field? f "guardPatterns" strings? defaultGuards.guardPatterns
    authGuards := ← field? f "authGuards" strings? defaultGuards.authGuards
    excludeGuards := ← field? f "excludeGuards" strings? defaultGuards.excludeGuards
    publicDecorators := ← field? f "publicDecorators" strings? defaultGuards.publicDecorators
    publicMetadataKeys := ← field? f "publicMetadataKeys" strings? defaultGuards.publicMetadataKeys
    authBaseClasses := ← field? f "authBaseClasses" strings? defaultGuards.authBaseClasses }

/-- A decorator must have a name. -/
def readDecorator? (j : Json) : Option CustomDecorator := do
  let f ← record? ["name", "type", "description"] j
  return {
    name := ← (← f "name").string?
    type := ← field? f "type" string? "custom"
    description := ← field? f "description" (option? string?) none }

def readParams? (j : Json) : Option (List CustomDecorator) := do
  let f ← record? ["customDecorators"] j
  field? f "customDecorators" (list? readDecorator?) []

def readNest? (j : Json) : Option NestConfig := do
  let f ← record? ["entry", "auth", "params"] j
  return {
    entry := ← field? f "entry" string? defaultNest.entry
    auth := ← field? f "auth" readGuards? defaultNest.auth
    customDecorators := ← field? f "params" readParams? defaultNest.customDecorators }

def readHooks? (j : Json) : Option HookConfig := do
  let f ← record? ["middlewareNames", "hookPoints"] j
  return {
    middlewareNames := ← field? f "middlewareNames" strings? defaultHooks.middlewareNames
    hookPoints := ← field? f "hookPoints" strings? defaultHooks.hookPoints }

def readFastify? (j : Json) : Option FastifyConfig := do
  let f ← record? ["entry", "auth"] j
  return {
    entry := ← field? f "entry" string? defaultFastify.entry
    auth := ← field? f "auth" readHooks? defaultFastify.auth }

/-- Reads a configuration; there is none if a value does not fit. -/
def ofJson? (j : Json) : Option Config := do
  let f ← record? ["common", "nestjs", "fastify"] j
  return {
    common := ← field? f "common" readCommon? standard.common
    nestjs := ← field? f "nestjs" readNest? standard.nestjs
    fastify := ← field? f "fastify" readFastify? standard.fastify }

def decoratorDocument (d : CustomDecorator) : Json :=
  .object ([("name", .string d.name), ("type", .string d.type)]
    ++ (d.description.map fun t => ("description", Json.string t)).toList)

/-- The whole configuration, its sections and fields in the order in which they are explained. -/
def document (c : Config) : Json :=
  .object [
    ("common", .object [
      ("outputFormat", .string c.common.outputFormat.text),
      ("extractResponses", .bool c.common.extractResponses),
      ("responseDepth", .ofNat c.common.responseDepth),
      ("excludePaths", ofStrings c.common.excludePaths)]),
    ("nestjs", .object [
      ("entry", .string c.nestjs.entry),
      ("auth", .object [
        ("guardPatterns", ofStrings c.nestjs.auth.guardPatterns),
        ("authGuards", ofStrings c.nestjs.auth.authGuards),
        ("excludeGuards", ofStrings c.nestjs.auth.excludeGuards),
        ("publicDecorators", ofStrings c.nestjs.auth.publicDecorators),
        ("publicMetadataKeys", ofStrings c.nestjs.auth.publicMetadataKeys),
        ("authBaseClasses", ofStrings c.nestjs.auth.authBaseClasses)]),
      ("params", .object [
        ("customDecorators", .array (c.nestjs.customDecorators.map decoratorDocument))])]),
    ("fastify", .object [
      ("entry", .string c.fastify.entry),
      ("auth", .object [
        ("middlewareNames", ofStrings c.fastify.auth.middlewareNames),
        ("hookPoints", ofStrings c.fastify.auth.hookPoints)])])]

/-- The whole configuration with its keys in order, so that layers can be laid over it. -/
def toJson (c : Config) : Json := c.document.sorted

end Config

end RouteInventory
