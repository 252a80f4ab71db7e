import RouteInventory.Path
import RouteInventory.Syntax.Decorator
import RouteInventory.Grammar.Program

/-!
# Facts about a file

`FileFacts` records what other files may want to know about a file: the names it imports, the
classes it declares (at any depth) and the declarations at its top level, each with the stretch of
source it covers.  `Cursor.nodeAt?` finds the node of such a record again.
-/

namespace RouteInventory

inductive ImportKind where
  | default
  | named
  | namespace
  deriving DecidableEq, Repr, Inhabited

/-- One local name bound by an import. -/
structure Import where
  name : String
  /-- The exported name, for a named import. -/
  imported : Option String
  /-- The module as written. -/
  module : String
  kind : ImportKind
  deriving DecidableEq, Repr, Inhabited

namespace Import

/-- Imports from a file of the project rather than from a package. -/
def isRelative (i : Import) : Bool := i.module.startsWith "."

/-- The name to look up in the imported module. -/
def exportedName (i : Import) : String := i.imported.getD i.name

end Import

/-- What a class extends. -/
inductive BaseClass where
  /-- The result of calling a name, such as `extends Factory('x')`. -/
  | call (callee : String)
  | name (name : String)
  /-- Any other expression, as source text. -/
  | other (text : String)
  deriving DecidableEq, Repr, Inhabited

inductive DeclarationKind where
  | classType
  | interface
  | typeAlias
  | enum
  | function
  deriving DecidableEq, Repr, Inhabited

namespace DeclarationKind

def text : DeclarationKind → String
  | .classType => "class"
  | .interface => "interface"
  | .typeAlias => "type"
  | .enum => "enum"
  | .function => "function"

/-- Declarations that can be named in a type. -/
def isType (k : DeclarationKind) : Bool := k != .function

/-- The kind of node that declares it. -/
def nodeKind : DeclarationKind → Kind
  | .classType => .classDeclaration
  | .interface => .interfaceDeclaration
  | .typeAlias => .typeAliasDeclaration
  | .enum => .enumDeclaration
  | .function => .functionDeclaration

end DeclarationKind

/-- A declaration at the top level of a file. -/
structure Declaration where
  name : String
  kind : DeclarationKind
  span : Span
  deriving DecidableEq, Repr, Inhabited

/-- A class and what guard and module analysis needs to know of it. -/
structure ClassFacts where
  name : String
  file : Path
  span : Span
  base : Option BaseClass
  decorators : List Decorator
  deriving Repr, Inhabited

/-- The first decorator with the name. -/
def ClassFacts.decorator? (c : ClassFacts) (name : String) : Option Decorator :=
  c.decorators.find? fun d => d.name == name

structure FileFacts where
  imports : List Import
  classes : List ClassFacts
  declarations : List Declaration
  deriving Repr, Inhabited

namespace FileFacts

def import? (f : FileFacts) (name : String) : Option Import :=
  f.imports.find? fun i => i.name == name

def class? (f : FileFacts) (name : String) : Option ClassFacts :=
  f.classes.find? fun c => c.name == name

/-- The first declaration with the name, of any kind. -/
def declaration? (f : FileFacts) (name : String) : Option Declaration :=
  f.declarations.find? fun d => d.name == name

/-- The first declaration with the name that can be used as a type. -/
def typeDeclaration? (f : FileFacts) (name : String) : Option Declaration :=
  f.declarations.find? fun d => d.name == name && d.kind.isType

end FileFacts

/-! ## Reading facts off a tree -/

namespace Tree

/-- What a class extends, if it extends anything. -/
def baseClass? (c : Tree) : Option BaseClass := do
  let heritage ← c.parts.find? fun p => p.kind == .classHeritage
  let clause ← heritage.parts.find? fun p => p.kind == .extendsClause
  let value ← (clause.role? .value).or clause.firstPart?
  match value.kind with
  | .identifier => some (.name value.text)
  | .callExpression =>
    match value.role? .function with
    | some f => if f.kind == .identifier then some (.call f.text) else some (.other value.text)
    | none => some (.other value.text)
  | _ => some (.other value.text)

/-- The names bound by one part of an import clause. -/
def importsOfClause (module : String) (clause : Tree) : List Import :=
  clause.parts.flatMap fun p =>
    match p.kind with
    | .identifier => [⟨p.text, none, module, .default⟩]
    | .namespaceImport =>
      match p.parts.find? fun c => c.kind == .identifier with
      | some i => [⟨i.text, none, module, .namespace⟩]
      | none => []
    | .namedImports =>
      (p.parts.filter fun s => s.kind == .importSpecifier).filterMap fun s =>
        (s.role? .name).map fun n =>
          ⟨((s.role? .localName).map Tree.text).getD n.text, some n.text, module, .named⟩
    | _ => []

/-- The names bound by an import statement. -/
def importsOf (s : Tree) : List Import :=
  match s.parts.find? (fun p => p.kind == .importClause), (s.role? .source).bind stringValue? with
  | some clause, some module => clause.importsOfClause module
  | _, _ => []

end Tree

namespace Cursor

/-- Whether a declaration stands at the top level of its file, perhaps behind `export`. -/
def atTopLevel (c : Cursor) : Bool :=
  match c.ancestors with
  | p :: rest =>
    p.kind == .program
      || (p.kind == .exportStatement && (rest.head?.any fun q => q.kind == .program))
  | [] => false

/-- The kind of declaration that a node is, classes apart. -/
def declarationKind? (c : Cursor) : Option DeclarationKind :=
  match c.kind with
  | .interfaceDeclaration => some .interface
  | .typeAliasDeclaration => some .typeAlias
  | .enumDeclaration => some .enum
  | .functionDeclaration => some .function
  | _ => none

/-- The record of a declaration at the top level. -/
def declaration? (c : Cursor) : Option Declaration :=
  c.declarationKind?.bind fun k =>
    (c.focus.role? .name).bind fun n =>
      if c.atTopLevel && n.text != "" then some ⟨n.text, k, c.span⟩ else none

/-- The record of a class declaration. -/
def classFacts? (file : Path) (c : Cursor) : Option ClassFacts :=
  if c.kind.isClassDeclaration then
    (c.focus.role? .name).map fun n => ⟨n.text, file, c.span, c.focus.baseClass?, c.decorators⟩
  else none

mutual
/-- `covering` for a node given by its tree and its ancestors. -/
def coveringFrom (start stop : Nat) : Tree → List Frame → Cursor
  | .node h ts, above =>
    (coveringAmong start stop ts (.node h ts) above 0).getD ⟨.node h ts, above⟩

/-- The smallest node that covers the range, below the first of a run of siblings that reaches its
end. -/
def coveringAmong (start stop : Nat) : List Tree → Tree → List Frame → Nat → Option Cursor
  | [], _, _, _ => none
  | t :: ts, parent, above, i =>
    if t.span.stop < stop || t.span.stop ≤ start then coveringAmong start stop ts parent above (i + 1)
    else if start < t.span.start then none
    else some (coveringFrom start stop t (⟨parent, i⟩ :: above))
end

/-- The smallest node from here downwards that covers the bytes from `start` to `stop`. -/
def covering (c : Cursor) (start stop : Nat) : Cursor := coveringFrom start stop c.focus c.above

/-- Whether the node covers exactly the given bytes. -/
def spans (c : Cursor) (start stop : Nat) : Bool := c.span.start == start && c.span.stop == stop

/-- The lowest node of the given kind that covers exactly the given bytes, from here upwards as long
as the nodes above cover exactly them. -/
def nodeFrom? (c : Cursor) (start stop : Nat) (k : Kind) : Option Cursor :=
  (c :: c.ancestors.takeWhile fun a => a.spans start stop).find? fun a =>
    a.kind == k && a.spans start stop

/-- The node of the given kind that covers exactly the given bytes. -/
def nodeAt? (c : Cursor) (start stop : Nat) (k : Kind) : Option Cursor :=
  (c.covering start stop).nodeFrom? start stop k

end Cursor

/-- The facts of a file with the given path and syntax tree. -/
def FileFacts.ofTree (file : Path) (tree : Tree) : FileFacts :=
  let nodes := (Cursor.ofTree tree).preorder
  { imports := (nodes.filter fun c => c.kind == .importStatement).flatMap fun c =>
      c.focus.importsOf
    classes := nodes.filterMap (Cursor.classFacts? file)
    declarations := nodes.filterMap Cursor.declaration? }

end RouteInventory
