import RouteInventory.Grammar.Source

/-!
# Grammar rules

A `Rule` reads a run of sibling nodes from the source or fails; a failed alternative leaves no
trace.  Rules refer to each other through the table of `Goal`s, so that no rule is defined by
recursion: `sub g` reads what the table holds for `g`, and the table is closed elsewhere by a
bound on how deeply goals nest.

Reading stands at the first character of the next token (`State.pos`); blanks and comments after a
token are passed as soon as the token is read.  `Setting.autoSemicolon` holds where the end of a
line may end a statement, which keeps some operators from continuing onto the next line.
`Setting.arrowResult` holds where an arrow function may declare its result, which it may not
where a colon can only be the second half of a conditional expression.  `Setting.markup` holds where
an angle bracket begins an element of markup and not a type assertion.
-/

namespace RouteInventory.Grammar

/-- The rules that other rules refer to. -/
inductive Goal where
  | statement
  | block
  | expression
  | expressions
  | binaryAbove (level : Nat)
  | operand
  | awaited
  | baseClass
  | pattern
  | parameters
  | decorator
  | classBody
  | type
  | unionType
  | operandType
  | objectType
  | element
  deriving DecidableEq, Repr

/-- What stays fixed while a construct is read. -/
structure Setting where
  source : Source
  autoSemicolon : Bool
  arrowResult : Bool
  markup : Bool

/-- How far reading has come: the next token's index, the end of the last token, whether a line
feed lies between them, and the comments passed so far, latest first. -/
structure State where
  pos : Nat
  last : Nat
  newline : Bool
  comments : List (Nat × Nat)

/-- Reading with the source at hand. -/
abbrev Base := ReaderT Setting (StateT State Option)

/-- Reading with the other rules at hand. -/
abbrev Reading := ReaderT (Goal → Base (List Tree)) Base

/-- Reads a run of sibling nodes. -/
abbrev Rule := Reading (List Tree)

/-- What the table holds for a goal. -/
def sub (g : Goal) : Rule := fun table => table g

/-! ## Characters -/

def source : Reading Source := return (← (read : Base Setting)).source

def pos : Reading Nat := return (← get).pos

/-- The character `k` places after the beginning of the next token. -/
def peekAt (k : Nat) : Reading (Option Char) := return (← source).chars[(← pos) + k]?

def peek : Reading (Option Char) := peekAt 0

def atEnd : Reading Bool := return (← peek).isNone

/-- Takes everything up to index `stop` as one token and passes the gap after it. -/
def advance (stop : Nat) : Reading Unit := do
  let g := (← source).gap stop false (← get).comments
  set (⟨g.stop, stop, g.newline, g.comments⟩ : State)

/-- A node without children that ends at index `stop`. -/
def leaf (k : Kind) (stop : Nat) : Rule := do
  let start ← pos
  let src ← source
  advance stop
  return [.node { kind := k, span := src.span start stop, text := src.slice start stop } []]

/-! ## Combinators -/

/-- A node over the given children, from index `start` to the end of the last token. -/
def wrap (k : Kind) (start : Nat) (ts : List Tree) : Rule := do
  let src ← source
  let stop := (← get).last
  return [.node { kind := k, span := src.span start stop, text := src.slice start stop } ts]

/-- A node whose children the rule reads. -/
def node (k : Kind) (r : Rule) : Rule := do
  let start ← pos
  let ts ← r
  wrap k start ts

/-- One rule after the other. -/
def seq : List Rule → Rule
  | [] => pure []
  | r :: rs => do
    let ts ← r
    let us ← seq rs
    return ts ++ us

/-- The first rule that succeeds. -/
def choice : List Rule → Rule
  | [] => failure
  | r :: rs => r <|> choice rs

def opt (r : Rule) : Rule := r <|> pure []

/-- The nodes that the rule reads, in the given role. -/
def field (role : Role) (r : Rule) : Rule := return (← r).map (Tree.withRole role)

/-- Succeeds if the test does. -/
def require (test : Reading Bool) : Rule := do
  if ← test then return [] else failure

/-- Applies a step to what was read so far, as long as it succeeds and moves forward. -/
def iterate (step : List Tree → Rule) : Nat → List Tree → Rule
  | 0, acc => return acc
  | n + 1, acc => do
    let before ← pos
    let next ← (some <$> step acc) <|> pure none
    match next with
    | none => return acc
    | some acc' => if (← pos) == before then return acc' else iterate step n acc'

/-- Repeats a step; the source cannot hold more repetitions than characters. -/
def loop (step : List Tree → Rule) (start : List Tree) : Rule := do
  iterate step ((← source).size + 1) start

def many (r : Rule) : Rule := loop (fun acc => return acc ++ (← r)) []

/-- In the given setting for automatic semicolons; a new bracket or block begins. -/
def withAuto (auto : Bool) (r : Rule) : Rule :=
  fun table setting => r table { setting with autoSemicolon := auto, arrowResult := true }

/-- Where no arrow function may declare its result. -/
def withoutArrowResult (r : Rule) : Rule :=
  fun table setting => r table { setting with autoSemicolon := false, arrowResult := false }

/-! ## Tokens -/

/-- Punctuation of more than one character, longer before shorter. -/
def longPunctuators : List String :=
  [">>>=", "...", "===", "!==", "**=", "<<=", ">>=", ">>>", "&&=", "||=", "??=", "=>", "==", "!=",
    "<=", ">=", "&&", "||", "??", "?.", "++", "--", "+=", "-=", "*=", "/=", "%=", "&=", "|=", "^=",
    "<<", ">>", "**"]

/-- The longest punctuation at the next token, or nothing.  A question mark before a fraction such
as `.5` stands alone. -/
def punctuator : Reading String := do
  let src ← source
  let i ← pos
  match longPunctuators.find? fun p => src.hasAt i p.toList with
  | some p =>
    if p == "?." && (src.chars[i + 2]?.any Char.isDigit) then return "?" else return p
  | none =>
    match src.chars[i]? with
    | some c => if isPunctuation c then return c.toString else return ""
    | none => return ""

/-- Whether the next token is the punctuation `s`, and not a longer one that begins with it. -/
def atSym (s : String) : Reading Bool := do
  if (← source).hasAt (← pos) s.toList then return (← punctuator) == s else return false

/-- The punctuation `s`. -/
def sym (s : String) : Rule := do
  if ← atSym s then leaf .token ((← pos) + s.length) else failure

/-- A closing angle bracket, also where more of them follow without a blank. -/
def closeAngle : Rule := do
  if (← peek) == some '>' then leaf .token ((← pos) + 1) else failure

/-- The name at the next token, reserved or not. -/
def word : Reading (Option String) := do
  let src ← source
  let i ← pos
  return (src.nameEnd? i).map fun j => src.slice i j

/-- Whether the next token is the keyword `s`. -/
def atKey (s : String) : Reading Bool := do
  if (← source).hasAt (← pos) s.toList then
    return !((← peekAt s.length).any fun c => isNamePart c || c == '\\')
  else return false

/-- The keyword `s` as a node of the given kind. -/
def keyAs (k : Kind) (s : String) : Rule := do
  if ← atKey s then leaf k ((← pos) + s.length) else failure

/-- The keyword `s`. -/
def key (s : String) : Rule := keyAs .token s

/-- Names that cannot be used as identifiers. -/
def reservedWords : List String :=
  ["break", "case", "catch", "class", "const", "continue", "debugger", "default", "delete", "do",
    "else", "enum", "export", "extends", "false", "finally", "for", "function", "if", "import",
    "in", "instanceof", "new", "null", "return", "super", "switch", "this", "throw", "true", "try",
    "typeof", "var", "void", "while", "with"]

/-- Any name, reserved or not. -/
def anyName (k : Kind) : Rule := do
  match (← source).nameEnd? (← pos) with
  | some j => leaf k j
  | none => failure

/-- A name that is not reserved. -/
def identifierAs (k : Kind) : Rule := do
  match ← word with
  | some w => if reservedWords.contains w then failure else anyName k
  | none => failure

def identifier : Rule := identifierAs .identifier

def typeIdentifier : Rule := identifierAs .typeIdentifier

def numberLiteral : Rule := do
  match (← source).numberEnd? (← pos) with
  | some j => leaf .number j
  | none => failure

def stringLiteral : Rule := do
  match ← peek with
  | some q =>
    if q == '"' || q == '\'' then
      match (← source).stringEnd? q ((← pos) + 1) with
      | some j => leaf .string j
      | none => failure
    else failure
  | none => failure

def regexLiteral : Rule := do
  if (← peek) == some '/' then
    match (← source).regexEnd? false ((← pos) + 1) with
    | some j => leaf .regex ((← source).skipWhile (fun c => 'a' ≤ c && c ≤ 'z') j)
    | none => failure
  else failure

/-- A private name such as `#count`. -/
def privateName : Rule := do
  if (← peek) == some '#' then
    match (← source).nameEnd? ((← pos) + 1) with
    | some j => leaf .privatePropertyIdentifier j
    | none => failure
  else failure

/-- A node without children over part of the source; an empty part has none. -/
def pieceOf (src : Source) (k : Kind) (start stop : Nat) : List Tree :=
  if start < stop then
    [.node { kind := k, span := src.span start stop, text := src.slice start stop } []]
  else []

/-- The end of an escape whose backslash is at index `i`; an escape that lacks some of its digits
is the backslash and one character. -/
def escapeEnd (src : Source) (i : Nat) : Nat :=
  let isHex (c : Char) : Bool := c.isDigit || ('a' ≤ c.toLower && c.toLower ≤ 'f')
  let isOctal (c : Char) : Bool := '0' ≤ c && c ≤ '7'
  match src.chars[i + 1]? with
  | some 'x' => if i + 4 ≤ src.skipWhile isHex (i + 2) then i + 4 else i + 2
  | some 'u' =>
    let braced := src.skipWhile isHex (i + 3)
    if src.chars[i + 2]? == some '\x7b' && src.chars[braced]? == some '\x7d' then braced + 1
    else if i + 6 ≤ src.skipWhile isHex (i + 2) then i + 6
    else i + 2
  | some c => if isOctal c then min (src.skipWhile isOctal (i + 1)) (i + 4) else i + 2
  | none => i + 1

/-- The rest of a template from index `i` on, where a run of plain characters began at `start`: its
pieces, and the index after its closing quote. -/
def templateRest (hole : Kind) (inner : Rule) : Nat → Nat → Nat → Reading (List Tree × Nat)
  | 0, _, _ => failure
  | n + 1, start, i => do
    let src ← source
    let plain := pieceOf src .stringFragment start i
    match src.chars[i]? with
    | none => failure
    | some '`' => return (plain, i + 1)
    | some '\\' =>
      let stop := escapeEnd src i
      let (rest, last) ← templateRest hole inner n stop stop
      return (plain ++ pieceOf src .escapeSequence i stop ++ rest, last)
    | some '$' =>
      if src.chars[i + 1]? == some '\x7b' then
        advance (i + 2)
        let ts ← withAuto false inner
        let stop ← pos
        if (← peek) != some '\x7d' then failure
        let t := Tree.node
          { kind := hole, span := src.span i (stop + 1), text := src.slice i (stop + 1) } ts
        let (rest, last) ← templateRest hole inner n (stop + 1) (stop + 1)
        return (plain ++ t :: rest, last)
      else templateRest hole inner n start (i + 1)
    | some _ => templateRest hole inner n start (i + 1)

/-- A template; each hole is read by `inner`. -/
def template (k hole : Kind) (inner : Rule) : Rule := do
  if (← peek) == some '`' then
    let start ← pos
    let (pieces, stop) ← templateRest hole inner ((← source).size + 1) (start + 1) (start + 1)
    advance stop
    wrap k start pieces
  else failure

/-! ## Punctuated lists and statement ends -/

/-- Elements between commas; any of them may be missing. -/
def commaList (r : Rule) : Rule := seq [opt r, many (seq [sym ",", opt r])]

/-- At least one element, commas between them, and perhaps one more comma. -/
def commaList1 (r : Rule) : Rule := seq [r, many (seq [sym ",", r]), opt (sym ",")]

/-- A construct between brackets, inside which no line end ends a statement. -/
def enclosed (l : String) (r : Rule) (r' : String) : Rule :=
  seq [sym l, withAuto false r, sym r']

/-- Whether an operator here would stand on a new line after a statement that may have ended. -/
def onNewLine : Reading Bool := do
  return (← (read : Base Setting)).autoSemicolon && (← get).newline

/-- Whether a statement may end here without a semicolon. -/
def atImpliedEnd : Reading Bool := do
  return (← get).newline || (← peek).all (· == '\x7d')

/-- Whether a line end stops a keyword such as `return` from taking an operand.  It does not where
the next line begins with something that cannot begin a statement. -/
def operandCut : Reading Bool := do
  if (← peek).all (· == '\x7d') then return true
  if !(← get).newline then return false
  match ← peek, ← peekAt 1 with
  | some '+', next => return next == some '+'
  | some '-', next => return next == some '-'
  | some '!', next => return next != some '='
  | some c, _ => return !("`,.;*%><=?^|&/:".toList.contains c)
  | none, _ => return true

/-- The end of a statement: a semicolon, or a place where it is implied. -/
def semicolon : Rule := sym ";" <|> require atImpliedEnd

end RouteInventory.Grammar
