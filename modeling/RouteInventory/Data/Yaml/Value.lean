import RouteInventory.Data.Yaml.Node
import RouteInventory.Data.Yaml.Scalar

/-!
# Values of YAML documents

`Yaml.read?` reads a text as a document with the values of JSON.  Aliases stand for the node with
their number, the last one in the document if several have it.  A document is refused if it nests
too deeply or follows aliases too often, if a key is not a scalar, and if a node has a tag of its
own.
-/

namespace RouteInventory.Yaml

namespace Node

mutual
/-- The nodes with an anchor, in the order in which they begin. -/
def anchors : Node → List (Nat × Node)
  | scalar .. | reference _ => []
  | sequence _ items => anchorsOfItems items
  | mapping _ entries => anchorsOfEntries entries
  | anchored number node => (number, node) :: anchors node

/-- The nodes with an anchor in the items of a sequence. -/
def anchorsOfItems : List Node → List (Nat × Node)
  | [] => []
  | x :: xs => anchors x ++ anchorsOfItems xs

/-- The nodes with an anchor in the entries of a mapping. -/
def anchorsOfEntries : List (Node × Node) → List (Nat × Node)
  | [] => []
  | (k, v) :: es => anchors k ++ anchors v ++ anchorsOfEntries es
end

mutual
/-- How many steps it takes to walk a node: one for a scalar or an alias, and two for the ends of a
collection. -/
def steps : Node → Nat
  | scalar .. | reference _ => 1
  | sequence _ items => 2 + stepsOfItems items
  | mapping _ entries => 2 + stepsOfEntries entries
  | anchored _ node => steps node

/-- The steps of the items of a sequence. -/
def stepsOfItems : List Node → Nat
  | [] => 0
  | x :: xs => steps x + stepsOfItems xs

/-- The steps of the entries of a mapping. -/
def stepsOfEntries : List (Node × Node) → Nat
  | [] => 0
  | (k, v) :: es => steps k + steps v + stepsOfEntries es
end

end Node

/-- The state of a conversion counts the aliases followed so far. -/
abbrev Conversion := StateT Nat Option

/-- What a document says about its aliases. -/
structure Aliases where
  targets : List (Nat × Node)
  /-- How many aliases may be followed. -/
  limit : Nat

namespace Aliases

def ofNode (n : Node) : Aliases := ⟨n.anchors.reverse, 100 * n.steps⟩

/-- The node that an alias stands for; any other node stands for itself. -/
def follow (a : Aliases) : Node → Conversion Node
  | .reference number => do
    modify (· + 1)
    if a.limit < (← get) then failure
    match a.targets.find? fun t => t.1 == number with
    | some t => return t.2
    | none => failure
  | .anchored _ node => return node
  | node => return node

end Aliases

/-- Tags of the types that scalars can be asked to have. -/
def coreTag (name : String) : String := "tag:yaml.org,2002:" ++ name

/-- A number as a value; what is not finite counts as nothing. -/
def Scalar.toJson? : Scalar → Option Json
  | null | notFinite => some .null
  | bool b => some (.bool b)
  | int n => some (.number (.int n))
  | real x => some (.number x)
  | wide | text => none

/-- A real number, or what counts as one. -/
def floatValue? (s : String) : Option Json :=
  if Scalar.isNotFinite s then some .null else (Scalar.real? s.toList).bind Scalar.toJson?

/-- The value of a scalar. -/
def scalarValue? (text : String) (style : Style) (tag : Option String) : Option Json :=
  match tag with
  | none =>
    if style = .plain then
      match Scalar.ofText text with
      | .text => some (.string text)
      | s => s.toJson?
    else some (.string text)
  | some tag =>
    if tag.startsWith "!" then none
    else if tag == coreTag "bool" then (Scalar.bool? text).map .bool
    else if tag == coreTag "int" then
      ((Scalar.int? text.toList).bind Scalar.ofInt).bind Scalar.toJson?
    else if tag == coreTag "float" then floatValue? text
    else if tag == coreTag "null" then if Scalar.isNull text then some .null else none
    else some (.string text)

/-- The text of a key. -/
def keyText (a : Aliases) (key : Node) : Conversion String := do
  match ← a.follow key with
  | .scalar text _ _ => return text
  | _ => failure

/-- Refuses a tag of its own on a collection. -/
def checkTag (tag : Option String) : Conversion Unit :=
  if tag.any fun t => t.startsWith "!" then failure else pure ()

/-- The value of a node; `depth` bounds how deeply collections may nest. -/
def value (a : Aliases) : Nat → Node → Conversion Json
  | depth, node => do
    match ← a.follow node with
    | .scalar text style tag => StateT.lift (scalarValue? text style tag)
    | .sequence tag items =>
      checkTag tag
      match depth with
      | 0 => failure
      | d + 1 => return .array (← items.mapM (value a d))
    | .mapping tag entries =>
      checkTag tag
      match depth with
      | 0 => failure
      | d + 1 =>
        let read (e : Node × Node) : Conversion (String × Json) := do
          let k ← keyText a e.1
          return (k, ← value a d e.2)
        return .ofEntries (← entries.mapM read)
    | .anchored .. | .reference _ => failure

/-- How deeply a document may nest. -/
def maxDepth : Nat := 128

/-- The value of a document. -/
def Node.toJson? (n : Node) : Option Json := (value (.ofNode n) maxDepth n).run' 0

/-- Reads a whole text; an empty one is null. -/
def read? (text : String) : Option Json := do
  match ← Node.ofTokens? (← Token.scan? text) with
  | some node => node.toJson?
  | none => some .null

end RouteInventory.Yaml
