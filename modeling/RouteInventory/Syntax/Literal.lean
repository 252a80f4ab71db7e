import RouteInventory.Syntax.Cursor

/-!
# Literals, calls and object properties

What an expression says when read as data: the value of a string, the name of what is called, the
arguments of a call and the properties of an object literal.
-/

namespace RouteInventory

/-- A text without its first and last character. -/
def innerText (s : String) : String := String.ofList (s.toList.drop 1).dropLast

namespace Tree

/-- The value of a string literal, or of a template without holes. -/
def stringValue? (t : Tree) : Option String :=
  match t.kind with
  | .string => some (innerText t.text)
  | .templateString =>
    if t.parts.any fun c => c.kind == .templateSubstitution then none
    else some (innerText t.text)
  | _ => none

/-- The name that a callee goes by: the name itself, or the last member of a chain. -/
def calleeName? (t : Tree) : Option String :=
  match t.kind with
  | .identifier | .propertyIdentifier | .typeIdentifier => some t.text
  | .memberExpression => (t.role? .property).map text
  | _ => none

/-- The key of a pair in an object literal; computed keys have none. -/
def propertyKey? (t : Tree) : Option String :=
  (t.role? .key).bind fun k =>
    match k.kind with
    | .propertyIdentifier | .identifier | .number => some k.text
    | .string => k.stringValue?
    | _ => none

/-- The declared type itself, without the colon, of what carries an annotation in the role. -/
def clauseType? (t : Tree) (r : Role) : Option Tree :=
  (t.role? r).bind fun a => if a.kind == .typeClause then a.firstPart? else some a

/-- The declared type of a variable, parameter, field or property. -/
def declaredType? (t : Tree) : Option Tree := t.clauseType? .type

/-- The declared type of what a function returns. -/
def returnType? (t : Tree) : Option Tree := t.clauseType? .returnType

/-- Whether a declaration is marked as optional. -/
def isOptional (t : Tree) : Bool := t.hasToken "?" || t.kind == .optionalParameter

end Tree

namespace Cursor

/-- The arguments of a call or of `new`. -/
def callArguments (c : Cursor) : List Cursor :=
  match c.role? .arguments with
  | some args => args.parts
  | none => []

theorem size_lt_of_mem_callArguments {c d : Cursor} (h : d ∈ c.callArguments) :
    d.focus.size < c.focus.size := by
  unfold callArguments at h
  split at h
  · next args ha => exact Nat.lt_trans (size_lt_of_mem_parts h) (size_lt_of_role? ha)
  · cases h

/-- The node that holds a property in an object literal: the value of the first pair with the key,
or the name itself where the property is written in short. -/
def objectProperty? (c : Cursor) (key : String) : Option Cursor :=
  match c.parts.find? fun p =>
      (p.kind == .pair && p.focus.propertyKey? == some key)
        || (p.kind == .shorthandPropertyIdentifier && p.text == key) with
  | some p => if p.kind == .pair then p.role? .value else some p
  | none => none

/-- `Tree.clauseType?` at a node in its place. -/
def clauseType? (c : Cursor) (r : Role) : Option Cursor :=
  (c.role? r).bind fun a => if a.kind == .typeClause then a.firstPart? else some a

end Cursor

end RouteInventory
