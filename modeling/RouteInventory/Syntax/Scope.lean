import RouteInventory.Syntax.Literal

/-!
# Local bindings

`Cursor.binding?` finds what a name refers to by going outwards through the enclosing functions and
blocks.  In a block only what stands before the name counts, and of several declarations the last;
a function contributes its parameters.
-/

namespace RouteInventory

/-- What a local name refers to. -/
inductive Binding where
  | variable (declarator : Cursor)
  | parameter (param : Cursor)
  | function (declaration : Cursor)
  deriving Repr

namespace Cursor

/-- The parameter of a function whose pattern is the name. -/
def parameter? (function : Cursor) (name : String) : Option Cursor :=
  (function.role? .parameters).bind fun params =>
    params.parts.find? fun p =>
      (p.kind == .requiredParameter || p.kind == .optionalParameter)
        && ((p.role? .pattern).any fun pat => pat.text == name)

/-- What a statement declares: itself, or the declaration behind `export`. -/
def declared? (statement : Cursor) : Option Cursor :=
  if statement.kind == .exportStatement then statement.role? .declaration else some statement

/-- The bindings of a name that a statement makes, in source order. -/
def bindingsOf (name : String) (statement : Cursor) : List Binding :=
  match statement.declared? with
  | none => []
  | some d =>
    match d.kind with
    | .lexicalDeclaration | .variableDeclaration =>
      (d.parts.filter fun v => v.kind == .variableDeclarator
        && ((v.role? .name).any fun n => n.kind == .identifier && n.text == name)).map .variable
    | .functionDeclaration =>
      if (d.role? .name).any fun n => n.text == name then [.function d] else []
    | _ => []

/-- The last binding of a name that a block makes before byte `limit`. -/
def blockBinding? (block : Cursor) (limit : Nat) (name : String) : Option Binding :=
  ((block.parts.takeWhile fun s => decide (s.span.start ≤ limit)).flatMap
    (bindingsOf name)).getLast?

/-- Kinds whose statements bind names for everything inside. -/
def isBlock (c : Cursor) : Bool :=
  c.kind == .statementBlock || c.kind == .program || c.kind == .classBody

/-- The binding that one enclosing node makes for a name used at byte `limit`. -/
def bindingIn? (scope : Cursor) (limit : Nat) (name : String) : Option Binding :=
  match if scope.isFunction then scope.parameter? name else none with
  | some p => some (.parameter p)
  | none => if scope.isBlock then scope.blockBinding? limit name else none

/-- What the name refers to where the node stands, as far as the file tells. -/
def binding? (c : Cursor) (name : String) : Option Binding :=
  c.ancestors.findSome? fun scope => scope.bindingIn? c.span.start name

end Cursor

end RouteInventory
