import RouteInventory.Syntax.Literal
import RouteInventory.Text.Number

/-!
# Decorators

A decorator is recorded as its name, its arguments and its line.  `Argument` keeps the forms that
route and guard analysis reads; everything else is kept as source text.

`Cursor.decoratorNodes` collects the decorators of a declaration from both places where they may
stand: directly before it among its siblings, and among its own children.
-/

namespace RouteInventory

/-- An argument of a decorator. -/
inductive Argument where
  | string (value : String)
  | number (value : Number)
  | bool (value : Bool)
  | name (text : String)
  | call (callee : String) (arguments : List Argument)
  | construct (className : String) (arguments : List Argument)
  | array (items : List Argument)
  | object (entries : List (String × Argument))
  | arrow (body : Argument)
  | other (text : String)
  deriving Repr, Inhabited

namespace Argument

def string? : Argument → Option String
  | string s => some s
  | _ => none

def number? : Argument → Option Number
  | number n => some n
  | _ => none

/-- The name an argument refers to: itself, what it calls or what it constructs. -/
def referencedName? : Argument → Option String
  | name n => some n
  | call callee _ => some callee
  | construct className _ => some className
  | _ => none

/-- The first entry with the key. -/
def get? (key : String) : Argument → Option Argument
  | object entries => (entries.find? fun e => e.1 == key).map Prod.snd
  | _ => none

/-- The items of an array, and none of anything else. -/
def items : Argument → List Argument
  | array xs => xs
  | _ => []

/-- Literals that have no arguments inside. -/
def ofLeaf (h : Head) (ts : List Tree) : Argument :=
  let t := Tree.node h ts
  match h.kind with
  | .string | .templateString => (t.stringValue?.map string).getD (other h.text)
  | .number =>
    ((Number.ofText? (String.ofList (h.text.toList.filter (· != '_')))).map number).getD
      (other h.text)
  | .trueLiteral => bool true
  | .falseLiteral => bool false
  | .identifier | .memberExpression => name h.text
  | _ => other h.text

/-- The text of the first child in the role. -/
def roleText (r : Role) (ts : List Tree) : String :=
  ((ts.find? fun c => c.head.role == some r).map Tree.text).getD ""

mutual
/-- The argument that an expression is. -/
def ofTree : Tree → Argument
  | .node h ts =>
    match h.kind with
    | .parenthesizedExpression | .nonNullExpression =>
      (firstOf ts).getD (other h.text)
    | .callExpression => call (roleText .function ts) (argumentsOf ts)
    | .newExpression => construct (roleText .constructor ts) (argumentsOf ts)
    | .array => array (ofParts ts)
    | .object => object (entriesOf ts)
    | .arrowFunction =>
      match bodyOf ts with
      | some body => arrow body
      | none => other h.text
    | _ => ofLeaf h ts

/-- The first meaningful one of several nodes. -/
def firstOf : List Tree → Option Argument
  | [] => none
  | t :: ts => if t.isPart then some (ofTree t) else firstOf ts

/-- The meaningful ones of several nodes. -/
def ofParts : List Tree → List Argument
  | [] => []
  | t :: ts => if t.isPart then ofTree t :: ofParts ts else ofParts ts

/-- What the first node in the role of arguments holds. -/
def argumentsOf : List Tree → List Argument
  | [] => []
  | .node h us :: ts => if h.role == some .arguments then ofParts us else argumentsOf ts

/-- The entries of an object literal, among its children; properties without a plain key are
passed over. -/
def entriesOf : List Tree → List (String × Argument)
  | [] => []
  | .node h us :: ts =>
    match h.kind with
    | .pair =>
      match (Tree.node h us).propertyKey?, valueOf us with
      | some key, some value => (key, value) :: entriesOf ts
      | _, _ => entriesOf ts
    | .shorthandPropertyIdentifier => (h.text, name h.text) :: entriesOf ts
    | _ => entriesOf ts

/-- The first node in the role of a value. -/
def valueOf : List Tree → Option Argument
  | [] => none
  | t :: ts => if t.head.role == some .value then some (ofTree t) else valueOf ts

/-- The first node in the role of a body, unless it is a block. -/
def bodyOf : List Tree → Option Argument
  | [] => none
  | t :: ts =>
    if t.head.role == some .body then
      if t.kind == .statementBlock then none else some (ofTree t)
    else bodyOf ts
end

end Argument

/-- A decorator with its arguments and the line where it stands. -/
structure Decorator where
  name : String
  arguments : List Argument
  line : Nat
  deriving Repr, Inhabited

namespace Decorator

/-- The first argument, if it is a string. -/
def firstString? (d : Decorator) : Option String := d.arguments.head?.bind Argument.string?

/-- The record of a decorator node: a name, a member or a call of either. -/
def ofTree? (t : Tree) : Option Decorator :=
  t.firstPart?.bind fun e =>
    match e.kind with
    | .callExpression =>
      ((e.role? .function).bind Tree.calleeName?).map fun n =>
        ⟨n, Argument.argumentsOf e.children, t.line⟩
    | .identifier | .memberExpression => e.calleeName?.map fun n => ⟨n, [], t.line⟩
    | _ => none

end Decorator

namespace Cursor

/-- The decorator nodes of a declaration: those directly before it, then those among its
children, in source order. -/
def decoratorNodes (c : Cursor) : List Tree :=
  let before := c.earlierSiblings.takeWhile fun s => s.kind == .decorator
  before.reverse.map Cursor.focus ++ c.focus.parts.filter fun t => t.kind == .decorator

/-- The decorators of a declaration. -/
def decorators (c : Cursor) : List Decorator := c.decoratorNodes.filterMap Decorator.ofTree?

end Cursor

end RouteInventory
