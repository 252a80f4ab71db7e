import RouteInventory.Shape.Resolve
import RouteInventory.Syntax.Scope

/-!
# Shapes of expressions

`Typer.infer` finds the shape of an expression of one file: literals by their form, names by what
they are bound to, calls by the declared result of what is called.  Nesting is followed for a fixed
number of levels.

`Typer.recipe` says which nodes an expression depends on and how its shape is made of theirs.  A
typer remembers the shape of every node it has met in `Memo`, and answers from there when it meets
the node again.
-/

namespace RouteInventory

/-- The shapes found so far, by the path of the node. -/
abbrev Memo := List (List Nat × Shape)

/-- Looks a node up. -/
def Memo.get? (m : Memo) (path : List Nat) : Option Shape :=
  (m.find? fun e => e.1 == path).map Prod.snd

/-- Computations that may consult and extend the memory. -/
abbrev Typing := StateM Memo

/-- A file of a project, whose expressions are to be typed. -/
structure Typer where
  project : Project
  file : SourceFile

/-- The kind of result that a binary operator has. -/
inductive OperatorResult where
  | boolean
  | number
  /-- A string if either operand is one, else a number. -/
  | sum
  /-- Either operand, the left one without its empty alternatives. -/
  | either
  | right
  | unknown
  deriving DecidableEq, Repr

/-- What a binary operator gives. -/
def OperatorResult.of (op : String) : OperatorResult :=
  if ["==", "===", "!=", "!==", "<", ">", "<=", ">=", "instanceof", "in"].contains op then .boolean
  else if ["-", "*", "/", "%", "**", "&", "|", "^", "<<", ">>", ">>>"].contains op then .number
  else if op == "+" then .sum
  else if op == "??" || op == "||" then .either
  else if op == "&&" then .right
  else .unknown

namespace Shape

/-- The shape of a unary operator's result. -/
def ofUnary (op : Option String) : Shape :=
  match op with
  | some "!" => primitive "boolean"
  | some "typeof" => primitive "string"
  | some "void" => primitive "undefined"
  | _ => primitive "number"

/-- A union without its empty alternatives; other shapes are unchanged. -/
def withoutNullish : Shape → Shape
  | union vs => unionOf (vs.filter fun v => !v.isNullish)
  | s => s

/-- The shape of a member, as far as it is known. -/
def memberShape (owner : Shape) (name : String) : Shape :=
  match owner.member? name with
  | some m => m.shape
  | none => if name == "length" then primitive "number" else unknown

end Shape

/-- How a shape comes about: the nodes whose shapes are asked for, in order, and what is made of
the answers. -/
structure Recipe where
  asks : List Cursor
  make : List Shape → Shape

namespace Recipe

/-- A shape that is known without asking. -/
def known (s : Shape) : Recipe := ⟨[], fun _ => s⟩

/-- A shape that is made of that of one node, unknown if there is no such node. -/
def ofNode (c : Option Cursor) (make : Shape → Shape) : Recipe :=
  ⟨c.toList, fun shapes => (shapes.head?.map make).getD .unknown⟩

/-- A shape that is made of those of two nodes. -/
def ofNodes (c d : Cursor) (make : Shape → Shape → Shape) : Recipe where
  asks := [c, d]
  make
    | [a, b] => make a b
    | _ => .unknown

end Recipe

namespace Typer

/-- The shape of a type written in the file. -/
def typeShape (t : Typer) (type : Tree) : Shape := t.project.typeShape t.file type

/-- The declared result of a function in some file. -/
def resultShape (t : Typer) (file : SourceFile) (function : Cursor) : Shape :=
  match function.focus.returnType? with
  | some type => t.project.typeShape file type
  | none => .unknown

/-- The declared result of a function that is imported by the name. -/
def importedResult (t : Typer) (name : String) : Shape :=
  match t.file.facts.import? name with
  | none => .unknown
  | some i =>
    match t.project.resolveModule t.file.path i.module with
    | .file path =>
      match t.project.file? path with
      | none => .unknown
      | some target =>
        match target.facts.declaration? i.exportedName with
        | some d =>
          if d.kind == .function then
            match target.root.nodeAt? d.span.start d.span.stop .functionDeclaration with
            | some f => t.resultShape target f
            | none => .unknown
          else .unknown
        | none => .unknown
    | _ => .unknown

/-- The shape of a call: the declared result of the function that a plain name refers to. -/
def callShape (t : Typer) (call : Cursor) : Shape :=
  match call.role? .function with
  | none => .unknown
  | some f =>
    if f.kind != .identifier then .unknown
    else
      match call.binding? f.text with
      | some (.function d) => t.resultShape t.file d
      | some (.variable v) =>
        match v.role? .value with
        | some value => if value.isFunction then t.resultShape t.file value else .unknown
        | none => .unknown
      | some (.parameter _) => .unknown
      | none => t.importedResult f.text

/-- The shape of what `new` constructs. -/
def constructed (t : Typer) (c : Cursor) : Shape :=
  match c.role? .constructor with
  | some k => if k.kind == .identifier then t.project.nameShape t.file k.text else .unknown
  | none => .unknown

/-- The shape of a name, by what it is bound to. -/
def nameRecipe (t : Typer) (c : Cursor) : Recipe :=
  if c.text == "undefined" then .known (.primitive "undefined")
  else
    match c.binding? c.text with
    | some (.variable d) =>
      match d.focus.declaredType? with
      | some type => .known (t.typeShape type)
      | none => .ofNode (d.role? .value) id
    | some (.parameter p) => .known ((p.focus.declaredType?.map t.typeShape).getD .any)
    | some (.function _) => .known (.ofName "Function")
    | none => .known .unknown

/-- The node whose shape an entry of an object literal depends on. -/
def entryValue? (c : Cursor) : Option Cursor :=
  match c.kind with
  | .pair => if c.focus.propertyKey?.isSome then c.role? .value else none
  | .shorthandPropertyIdentifier => some c
  | .spreadElement => c.firstPart?
  | _ => none

/-- The members that one entry of an object literal contributes, given the shape it depends on. -/
def entryMembers (c : Cursor) (s : Shape) : List (Member Shape) :=
  match c.kind with
  | .pair => c.focus.propertyKey?.toList.map fun key => ⟨key, s, false⟩
  | .shorthandPropertyIdentifier => [⟨c.text, s, false⟩]
  | .spreadElement =>
    match s with
    | .object _ ms => ms
    | _ => []
  | _ => []

/-- The shape of an object literal; of entries with the same name the last counts. -/
def objectRecipe (c : Cursor) : Recipe :=
  let entries := c.parts.filter fun e => (entryValue? e).isSome
  { asks := entries.filterMap entryValue?
    make := fun shapes =>
      .object none ((entries.zip shapes).foldl
        (fun ms e => Member.putAll ms (entryMembers e.1 e.2)) []) }

/-- The shape of a binary operator's result. -/
def binaryRecipe (c : Cursor) : Recipe :=
  match c.role? .left, c.role? .right with
  | some l, some r =>
    match OperatorResult.of (((c.role? .operator).map Cursor.text).getD "") with
    | .boolean => .known (.primitive "boolean")
    | .number => .known (.primitive "number")
    | .sum => .ofNodes l r fun a b =>
      let string := Shape.primitive "string"
      if a = string ∨ b = string then string else .primitive "number"
    | .either => .ofNodes l r fun a b => .unionOf [a.withoutNullish, b]
    | .right => .ofNode r id
    | .unknown => .known .unknown
  | _, _ => .known .unknown

/-- How the shape of an expression comes about. -/
def recipe (t : Typer) (c : Cursor) : Recipe :=
  match c.kind with
  | .object => objectRecipe c
  | .array => ⟨c.parts.filter fun e => e.kind != .spreadElement, fun ss => .array (.unionOf ss)⟩
  | .string | .templateString => .known (.primitive "string")
  | .number => .known (.primitive "number")
  | .trueLiteral | .falseLiteral => .known (.primitive "boolean")
  | .nullLiteral => .known (.primitive "null")
  | .undefinedLiteral => .known (.primitive "undefined")
  | .identifier | .shorthandPropertyIdentifier => t.nameRecipe c
  | .awaitExpression => .ofNode c.firstPart? Shape.delivered
  | .asExpression =>
    match c.focus.parts with
    | _ :: type :: _ => .known (t.typeShape type)
    | _ => .ofNode c.firstPart? id
  | .satisfiesExpression => .ofNode c.firstPart? id
  | .callExpression => .known (t.callShape c)
  | .newExpression => .known (t.constructed c)
  | .ternaryExpression =>
    ⟨[c.role? .consequence, c.role? .alternative].filterMap id, Shape.unionOf⟩
  | .binaryExpression => binaryRecipe c
  | .unaryExpression => .known (.ofUnary ((c.role? .operator).map Cursor.text))
  | .memberExpression =>
    match c.role? .object, c.role? .property with
    | some object, some property => .ofNode object fun s => s.memberShape property.text
    | _, _ => .known .unknown
  | k => .known (if k.isFunction || k == .classExpression then .ofName "Function" else .unknown)

/-- The shape of an expression with `n` levels to go; the memory is asked first. -/
def inferAt (t : Typer) : Nat → Cursor → Typing Shape
  | 0, _ => return .unknown
  | n + 1, c => do
    let node := c.unwrapped
    match (← get).get? node.path with
    | some s => return s
    | none =>
      let recipe := t.recipe node
      let s := recipe.make (← recipe.asks.mapM (inferAt t n))
      modify fun m => (node.path, s) :: m
      return s

/-- How many levels of nesting are followed. -/
def maxDepth : Nat := 9

/-- The shape of an expression. -/
def infer (t : Typer) (c : Cursor) : Typing Shape := inferAt t maxDepth c

/-- The shape of an expression as a response, after any promise is delivered. -/
def inferResponse (t : Typer) (c : Cursor) : Typing Shape := return (← t.infer c).delivered

end Typer

end RouteInventory
