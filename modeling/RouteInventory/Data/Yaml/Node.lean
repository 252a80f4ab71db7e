import RouteInventory.Data.Yaml.Token

/-!
# Nodes of a YAML document

`Node.ofTokens?` puts tokens together to the only node of a document.  Where a node is left out an
empty plain scalar stands in for it.  Anchors are numbered, and an alias holds the number that its
name had when the alias was read.
-/

namespace RouteInventory.Yaml

/-- A node of a document. -/
inductive Node where
  | scalar (text : String) (style : Style) (tag : Option String)
  | sequence (tag : Option String) (items : List Node)
  | mapping (tag : Option String) (entries : List (Node × Node))
  | anchored (number : Nat) (node : Node)
  | reference (number : Nat)
  deriving Repr, Inhabited

namespace Node

/-- What stands in for a node that is left out. -/
def empty : Node := scalar "" .plain none

/-- What the reader knows besides the tokens to come. -/
structure Reading where
  tokens : List Token
  /-- The number that each anchor's name has now. -/
  anchors : List (String × Nat) := []
  /-- What the handles of tags stand for. -/
  handles : List (String × String) := []

abbrev Reader := StateT Reading Option

/-- The next token. -/
def peek : Reader (Option Token) := return (← get).tokens.head?

/-- Goes past the next token. -/
def skip : Reader Unit := modify fun r => { r with tokens := r.tokens.tail }

/-- Goes past the next token, which must be the given one. -/
def expect (t : Token) : Reader Unit := do
  if (← peek) == some t then skip else failure

/-! ## Anchors and tags -/

/-- Gives an anchor's name the next number: the count of names so far. -/
def nameAnchor (name : String) : Reader Nat := do
  let r ← get
  let number := r.anchors.length
  let anchors :=
    if r.anchors.any fun a => a.1 == name then
      r.anchors.map fun a => if a.1 == name then (name, number) else a
    else r.anchors ++ [(name, number)]
  set { r with anchors := anchors }
  return number

/-- A tag with its handle spelled out; an unknown handle is refused. -/
def spellTag (handle suffix : String) : Reader String := do
  if handle.isEmpty then return suffix
  else
    match (← get).handles.find? fun h => h.1 == handle with
    | some h => return h.2 ++ suffix
    | none => failure

/-- The anchor and the tag in front of a node, in either order. -/
def readProperties : Reader (Option String × Option String) := do
  match ← peek with
  | some (.anchor name) =>
    skip
    match ← peek with
    | some (.tag handle suffix) =>
      skip
      return (some name, some (← spellTag handle suffix))
    | _ => return (some name, none)
  | some (.tag handle suffix) =>
    skip
    match ← peek with
    | some (.anchor name) =>
      skip
      return (some name, some (← spellTag handle suffix))
    | _ => return (none, some (← spellTag handle suffix))
  | _ => return (none, none)

/-- A node with its anchor's number. -/
def withAnchor (number : Option Nat) (n : Node) : Node :=
  match number with
  | some i => anchored i n
  | none => n

/-! ## Collections -/

mutual
/-- A node.  Blocks may begin only where `block` allows it, and a sequence without indentation of
its own only where `indentless` does. -/
def readNode : Nat → (block indentless : Bool) → Reader Node
  | 0, _, _ => failure
  | n + 1, block, indentless => do
    match ← peek with
    | some (.reference name) =>
      skip
      match (← get).anchors.find? fun a => a.1 == name with
      | some a => return reference a.2
      | none => failure
    | _ =>
      let (name, tag) ← readProperties
      match ← peek with
      | some (.scalar text style) =>
        skip
        let number ← name.mapM nameAnchor
        return withAnchor number (scalar text style (tag.filter (· != "!")))
      | some .blockEntry =>
        if indentless then
          let number ← name.mapM nameAnchor
          return withAnchor number (sequence tag (← readIndentless n))
        else readLeftOut name tag
      | some .flowSequence =>
        skip
        let number ← name.mapM nameAnchor
        return withAnchor number (sequence tag (← readFlowItems n true))
      | some .flowMapping =>
        skip
        let number ← name.mapM nameAnchor
        return withAnchor number (mapping tag (← readFlowEntries n true))
      | some .blockSequence =>
        if block then
          skip
          let number ← name.mapM nameAnchor
          return withAnchor number (sequence tag (← readBlockItems n))
        else readLeftOut name tag
      | some .blockMapping =>
        if block then
          skip
          let number ← name.mapM nameAnchor
          return withAnchor number (mapping tag (← readBlockEntries n))
        else readLeftOut name tag
      | _ => readLeftOut name tag

/-- A node may be left out after its anchor or its tag. -/
def readLeftOut (name tag : Option String) : Reader Node := do
  if name.isSome || tag.isSome then
    let number ← name.mapM nameAnchor
    return withAnchor number (scalar "" .plain (tag.filter (· != "!")))
  else failure

/-- A node, unless one of the given tokens shows that it is left out. -/
def readNodeUnless : Nat → List Token → (block indentless : Bool) → Reader Node
  | 0, _, _, _ => failure
  | n + 1, ends, block, indentless => do
    match ← peek with
    | some t => if ends.contains t then return empty else readNode n block indentless
    | none => readNode n block indentless

/-- The items of a sequence by lines, to its end. -/
def readBlockItems : Nat → Reader (List Node)
  | 0 => failure
  | n + 1 => do
    match ← peek with
    | some .blockEntry =>
      skip
      let x ← readNodeUnless n [.blockEntry, .blockEnd] true false
      return x :: (← readBlockItems n)
    | some .blockEnd =>
      skip
      return []
    | _ => failure

/-- The items of a sequence that has the indentation of the mapping around it. -/
def readIndentless : Nat → Reader (List Node)
  | 0 => failure
  | n + 1 => do
    match ← peek with
    | some .blockEntry =>
      skip
      let x ← readNodeUnless n [.blockEntry, .key, .value, .blockEnd] true false
      return x :: (← readIndentless n)
    | _ => return []

/-- The entries of a mapping by lines, to its end. -/
def readBlockEntries : Nat → Reader (List (Node × Node))
  | 0 => failure
  | n + 1 => do
    match ← peek with
    | some .key =>
      skip
      let k ← readNodeUnless n [.key, .value, .blockEnd] true true
      let v ← readValue n [.key, .value, .blockEnd] true
      return (k, v) :: (← readBlockEntries n)
    | some .blockEnd =>
      skip
      return []
    | _ => failure

/-- The value after a key, which may be left out with its colon. -/
def readValue : Nat → List Token → (block : Bool) → Reader Node
  | 0, _, _ => failure
  | n + 1, ends, block => do
    if (← peek) == some .value then
      skip
      readNodeUnless n ends block block
    else return empty

/-- The items of a sequence in brackets, to its end.  An item with a key is a mapping of one
entry. -/
def readFlowItems : Nat → (first : Bool) → Reader (List Node)
  | 0, _ => failure
  | n + 1, first => do
    if (← peek) == some .flowSequenceEnd then
      skip
      return []
    else
      if !first then expect .flowEntry
      match ← peek with
      | some .flowSequenceEnd =>
        skip
        return []
      | some .key =>
        skip
        let x ← readPair n
        return x :: (← readFlowItems n false)
      | _ =>
        let x ← readNode n false false
        return x :: (← readFlowItems n false)

/-- An entry that is an item of a sequence in brackets.  Where its key is left out, the token after
it is passed over. -/
def readPair : Nat → Reader Node
  | 0 => failure
  | n + 1 => do
    let k ← match ← peek with
      | some .value | some .flowEntry | some .flowSequenceEnd =>
        skip
        pure empty
      | _ => readNode n false false
    let v ← readValue n [.flowEntry, .flowSequenceEnd] false
    return mapping none [(k, v)]

/-- The entries of a mapping in braces, to its end. -/
def readFlowEntries : Nat → (first : Bool) → Reader (List (Node × Node))
  | 0, _ => failure
  | n + 1, first => do
    if (← peek) == some .flowMappingEnd then
      skip
      return []
    else
      if !first then expect .flowEntry
      match ← peek with
      | some .flowMappingEnd =>
        skip
        return []
      | some .key =>
        skip
        let k ← readNodeUnless n [.value, .flowEntry, .flowMappingEnd] false false
        let v ← readValue n [.flowEntry, .flowMappingEnd] false
        return (k, v) :: (← readFlowEntries n false)
      | _ =>
        let k ← readNode n false false
        return (k, empty) :: (← readFlowEntries n false)
end

/-! ## Documents -/

/-- What handles stand for without a directive. -/
def standardHandles : List (String × String) :=
  [("!", "!"), ("!!", "tag:yaml.org,2002:")]

/-- The directives in front of a document: at most one of a version that is known, and at most one
for a handle. -/
def readDirectives : Nat → (versioned : Bool) → Reader Unit
  | 0, _ => failure
  | n + 1, versioned => do
    match ← peek with
    | some (.versionDirective major minor) =>
      if versioned || major != 1 || !(minor == 1 || minor == 2) then failure
      skip
      readDirectives n true
    | some (.tagDirective handle start) =>
      if (← get).handles.any fun h => h.1 == handle then failure
      skip
      modify fun r => { r with handles := r.handles ++ [(handle, start)] }
      readDirectives n versioned
    | _ => modify fun r => { r with handles := r.handles ++ standardHandles }

/-- Whether a token opens a document that begins with a mark. -/
def opensDocument : Token → Bool
  | .versionDirective .. | .tagDirective .. | .documentStart => true
  | _ => false

/-- Marks that end a document. -/
def skipDocumentEnds : Nat → Reader Unit
  | 0 => failure
  | n + 1 => do
    if (← peek) == some .documentEnd then
      skip
      skipDocumentEnds n

/-- The node of a document after its mark. -/
def readContent (fuel : Nat) : Reader Node := do
  match ← peek with
  | none | some .documentStart | some .documentEnd => return empty
  | some (.versionDirective ..) | some (.tagDirective ..) => return empty
  | _ => readNode fuel true false

/-- A document. -/
def readDocument (fuel : Nat) : Reader Node := do
  if (← peek).any opensDocument then
    readDirectives fuel false
    expect .documentStart
    readContent fuel
  else
    modify fun r => { r with handles := standardHandles }
    readNode fuel true false

/-- The only document of a stream, if there is one. -/
def readStream (fuel : Nat) : Reader (Option Node) := do
  if (← peek).isNone then return none
  let node ← readDocument fuel
  skipDocumentEnds fuel
  if (← peek).isSome then failure
  return some node

/-- The node that tokens make up; there is none in an empty stream. -/
def ofTokens? (tokens : List Token) : Option (Option Node) :=
  (readStream (4 * tokens.length + 8)).run' { tokens := tokens }

end Node

end RouteInventory.Yaml
