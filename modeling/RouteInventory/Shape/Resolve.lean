import RouteInventory.Project
import RouteInventory.Shape.Basic

/-!
# Shapes of types

`Project.typeShape` turns type syntax into a shape, following names to their declarations in the
project.  A name that is already being expanded, or one too deep inside, stays a name.

Depth is counted down: `shapeAt n` may go `n` levels further.  Type arguments, array elements and
members lie one level deeper, and so does a declaration; the members of a declaration lie two
levels deeper than the name that led there.
-/

namespace RouteInventory

/-- Names of the types that belong to the language. -/
def primitiveNames : List String :=
  ["string", "number", "boolean", "null", "undefined", "any", "unknown", "void", "never", "object",
    "bigint", "symbol"]

/-- Names that are never looked into. -/
def opaqueNames : List String :=
  ["Promise", "Observable", "Date", "RegExp", "Error", "Map", "Set", "WeakMap", "WeakSet",
    "Record", "Pick", "Omit", "Buffer", "Function", "Object"]

namespace Shape

/-- All members of an object optional, or all of them not; other shapes are unchanged. -/
def withOptional (optional : Bool) : Shape → Shape
  | object n ms => object n (ms.map fun m => { m with optional := optional })
  | s => s

/-- The members of an object; other shapes have none. -/
def members : Shape → List (Member Shape)
  | object _ ms => ms
  | _ => []

/-- An object without a name takes the name; other shapes are unchanged. -/
def called (name : String) : Shape → Shape
  | object none ms => object (some name) ms
  | s => s

/-- The objects of an intersection combined, later members over earlier ones; there is no result
if one of the shapes is not an object. -/
def mergeObjects? (parts : List Shape) : Option (List (Member Shape)) :=
  parts.foldl (fun acc s =>
    match acc, s with
    | some ms, object _ more => some (Member.putAll ms more)
    | _, _ => none) (some [])

/-- An intersection of objects, or its text where they cannot be combined. -/
def intersectionOf (text : String) (parts : List Shape) : Shape :=
  match mergeObjects? parts with
  | some ms => object none ms
  | none => ofName text

/-- The shape of a literal type. -/
def ofLiteral (t : Tree) : Shape :=
  match t.firstPart? with
  | none => primitive t.text
  | some inner =>
    match inner.kind with
    | .string =>
      match inner.stringValue? with
      | some v => literal ("'" ++ v ++ "'")
      | none => primitive "string"
    | .nullLiteral => primitive "null"
    | .undefinedLiteral => primitive "undefined"
    | _ => literal inner.text

/-- The shape of a value that initializes a field without a type. -/
def ofInitializer (t : Tree) : Shape :=
  match t.kind with
  | .string | .templateString => primitive "string"
  | .number => primitive "number"
  | .trueLiteral | .falseLiteral => primitive "boolean"
  | .array => array unknown
  | _ => any

/-- The shape of type syntax that is kept as it is written. -/
def ofText (text : String) : Shape :=
  if primitiveNames.contains text then primitive text else ofName text

end Shape

namespace Tree

/-- The name of a property or field; computed names have none. -/
def memberName? (t : Tree) : Option String :=
  (t.role? .name).bind fun n =>
    match n.kind with
    | .propertyIdentifier | .privatePropertyIdentifier | .identifier | .number => some n.text
    | .string => n.stringValue?
    | _ => none

/-- Fields that belong to the class alone or to the class itself rather than its instances. -/
def isHiddenField (t : Tree) : Bool :=
  (t.children.any fun c =>
    (c.kind == .accessibilityModifier && (c.text == "private" || c.text == "protected"))
      || (c.kind == .token && c.text == "static"))
    || ((t.role? .name).any fun n => n.kind == .privatePropertyIdentifier)

/-- The types that an interface extends. -/
def interfaceBases (t : Tree) : List Tree :=
  (t.parts.filter fun c => c.kind == .extendsTypeClause).flatMap parts

end Tree

namespace Resolve

/-- Work that is done while names are being expanded, the latest of them first on the stack. -/
abbrev Expanding := StateM (List String)

/-- Work on the declaration of a name, which is on the stack meanwhile. -/
def expanding {α : Type} (name : String) (work : Expanding α) : Expanding α := do
  modify (name :: ·)
  let result ← work
  modify List.tail
  return result

/-- How to read a type at some level: the file it stands in, and the type itself. -/
abbrev Level := SourceFile → Tree → Expanding Shape

/-- The level at which nothing is looked into. -/
def cut : Level := fun _ t => return .ofName t.text

/-- The nodes that have a name as members, with their names. -/
def withNames (ts : List Tree) : List (String × Tree) :=
  ts.filterMap fun t => t.memberName?.map fun n => (n, t)

/-- The shape of a property: its declared type. -/
def propertyShape (inner : Level) (file : SourceFile) (property : Tree) : Expanding Shape :=
  match property.declaredType? with
  | some t => inner file t
  | none => return .any

/-- The members declared by an object type or an interface body. -/
def signatureMembers (inner : Level) (file : SourceFile) (body : Tree) :
    Expanding (List (Member Shape)) :=
  (withNames (body.parts.filter fun c => c.kind == .propertySignature)).mapM fun (n, c) => do
    return ⟨n, ← propertyShape inner file c, c.isOptional⟩

/-- The shape of a field: its declared type, or what its initial value tells. -/
def fieldShape (inner : Level) (file : SourceFile) (field : Tree) : Expanding Shape :=
  match field.declaredType? with
  | some t => inner file t
  | none => return ((field.role? .value).map Shape.ofInitializer).getD .any

/-- The visible fields of a class. -/
def classFields (inner : Level) (file : SourceFile) (c : Tree) : Expanding (List (Member Shape)) :=
  match c.role? .body with
  | none => return []
  | some body =>
    (withNames (body.parts.filter fun f =>
      f.kind == .publicFieldDefinition && !f.isHiddenField)).mapM fun (n, f) => do
        return ⟨n, ← fieldShape inner file f, f.isOptional⟩

/-- The members that an interface takes over from the types it extends. -/
def inheritedMembers (level : Level) (file : SourceFile) (t : Tree) :
    Expanding (List (Member Shape)) := do
  return (← t.interfaceBases.mapM (level file)).flatMap Shape.members

/-- The members of an interface: inherited ones, then its own over those of the same name. -/
def interfaceMembers (level inner : Level) (file : SourceFile) (t : Tree) :
    Expanding (List (Member Shape)) := do
  let inherited ← inheritedMembers level file t
  match t.role? .body with
  | none => return inherited
  | some body => return Member.putAll inherited (← signatureMembers inner file body)

/-- The shape of a declaration: `level` reads what stands in it, `inner` its members. -/
def declarationShape (level inner : Level) (name : String) (d : TypeDeclaration) :
    Expanding Shape :=
  match d.node? with
  | none => return .ofName name
  | some node =>
    let t := node.focus
    match d.kind with
    | .interface => return .object (some name) (← interfaceMembers level inner d.file t)
    | .typeAlias =>
      match t.role? .value with
      | none => return .ofName name
      | some v => return (← level d.file v).called name
    | .classType => return .object (some name) (← classFields inner d.file t)
    | .enum | .function => return .ofName name

/-- Shapes that a few generic names stand for. -/
def builtin? (name : String) (args : List Shape) : Option Shape :=
  match name, args with
  | "Array", [s] | "ReadonlyArray", [s] => some (.array s)
  | "Partial", [s] => some (s.withOptional true)
  | "Required", [s] => some (s.withOptional false)
  | "Readonly", [s] => some s
  | _, _ => none

/-- The shape of a name with type arguments, as seen from a file. -/
def reference (p : Project) (level inner : Level) (file : SourceFile) (name : String)
    (args : List Shape) : Expanding Shape :=
  if primitiveNames.contains name then return .primitive name
  else
    match builtin? name args with
    | some s => return s
    | none =>
      if opaqueNames.contains name then return .named name none args
      else do
        if (← get).contains name then return .ofName name
        else
          match p.resolveType file.path name with
          | .found d => expanding name (declarationShape level inner name d)
          | .package module => return .named name (some module) args
          | .notFound => return .named name none args

mutual
/-- The shape of a type: `level` reads what lies one level deeper, `inner` two. -/
def step (p : Project) (level inner : Level) (file : SourceFile) : Tree → Expanding Shape
  | .node h ts =>
    match h.kind with
    | .typeClause | .parenthesizedType | .readonlyType =>
      return (← stepLast p level inner file ts).getD .unknown
    | .predefinedType => return .primitive h.text
    | .literalType => return .ofLiteral (.node h ts)
    | .typeIdentifier | .identifier => reference p level inner file h.text []
    | .nestedTypeIdentifier => return .ofName h.text
    | .genericType => do
      let t := Tree.node h ts
      let name := ((t.role? .name).map Tree.text).getD ""
      let args := ((t.parts.find? fun c => c.kind == .typeArguments).map Tree.parts).getD []
      reference p level inner file name (← args.mapM (level file))
    | .arrayType =>
      match (Tree.node h ts).firstPart? with
      | some element => return .array (← level file element)
      | none => return .array .unknown
    | .unionType => return .unionOf (← stepParts p level inner file ts)
    | .intersectionType => return .intersectionOf h.text (← stepParts p level inner file ts)
    | .objectType | .interfaceBody =>
      return .object none (← signatureMembers level file (.node h ts))
    | _ => return .ofText h.text

/-- The shapes of the meaningful ones of several nodes. -/
def stepParts (p : Project) (level inner : Level) (file : SourceFile) :
    List Tree → Expanding (List Shape)
  | [] => return []
  | t :: ts =>
    if t.isPart then return (← step p level inner file t) :: (← stepParts p level inner file ts)
    else stepParts p level inner file ts

/-- The shape of the last meaningful one of several nodes. -/
def stepLast (p : Project) (level inner : Level) (file : SourceFile) :
    List Tree → Expanding (Option Shape)
  | [] => return none
  | t :: ts => do
    match ← stepLast p level inner file ts with
    | some s => return some s
    | none => if t.isPart then return some (← step p level inner file t) else return none
end

/-- The shape of a type with `n` levels to go. -/
def shapeAt (p : Project) : Nat → Level
  | 0 => cut
  | 1 => step p cut cut
  | n + 2 => step p (shapeAt p (n + 1)) (shapeAt p n)

/-- How many levels are looked into. -/
def maxDepth : Nat := 13

end Resolve

namespace Project

/-- The shape of a type written in a file, with or without its annotation's colon. -/
def typeShape (p : Project) (file : SourceFile) (t : Tree) : Shape :=
  ((Resolve.shapeAt p Resolve.maxDepth file t).run []).run.1

/-- The shape of a type's name as seen from a file. -/
def nameShape (p : Project) (file : SourceFile) (name : String) : Shape :=
  ((Resolve.reference p (Resolve.shapeAt p (Resolve.maxDepth - 1))
    (Resolve.shapeAt p (Resolve.maxDepth - 2)) file name []).run []).run.1

end Project

end RouteInventory
