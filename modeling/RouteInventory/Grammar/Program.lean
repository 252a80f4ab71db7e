import RouteInventory.Grammar.Markup
import RouteInventory.Grammar.Statements

/-!
# Programs

`parse` turns the text of a file into its syntax tree.  The rules refer to each other through
`rule`; the bound on how deeply they nest is larger than any source of that length can need.

Comments are put back when the tree is complete: each becomes a child of the lowest node that
covers it.

The grammar is that of complete programs.  There is no recovery from errors: a text that the rules
do not read to its end has a program without statements for its tree, be it no program at all or one
with a construct that the rules do not know.
-/

namespace RouteInventory.Grammar

/-- What each goal reads. -/
def goalRule : Goal → Rule
  | .statement => statement
  | .block => block
  | .expression => expression
  | .expressions => expressions
  | .binaryAbove level => binaryAbove level
  | .operand => operand
  | .awaited => awaited
  | .baseClass => baseClass
  | .pattern => pattern
  | .parameters => parameters
  | .decorator => decorator
  | .classBody => classBody
  | .type => typeRule
  | .unionType => unionType
  | .operandType => operandType
  | .objectType => objectType
  | .element => element

/-- The rules closed under reference, with goals nested at most `n` deep. -/
def goal : Nat → Goal → Base (List Tree)
  | 0, _ => failure
  | n + 1, g => goalRule g (goal n)

/-- All statements of a file. -/
def statements : Rule := seq [many (sub .statement), require atEnd]

mutual
/-- A node with a comment put where it stands among what the node covers. -/
def placeInside (c : Tree) : Tree → Tree
  | .node h ts => .node h (placeComment c ts)

/-- The children of a node with a comment put where it stands: before the first child that begins
after it, or inside the child that covers it. -/
def placeComment (c : Tree) : List Tree → List Tree
  | [] => [c]
  | t :: rest =>
    if c.span.stop ≤ t.span.start then c :: t :: rest
    else if t.span.start ≤ c.span.start && c.span.stop ≤ t.span.stop then
      placeInside c t :: rest
    else t :: placeComment c rest
end

/-- A comment's node. -/
def commentNode (src : Source) (c : Nat × Nat) : Tree :=
  .node { kind := .comment, span := src.span c.1 c.2, text := src.slice c.1 c.2 } []

/-- A program over the given statements. -/
def program (src : Source) (ts : List Tree) : Tree :=
  .node { kind := .program, span := src.span 0 src.size, text := src.slice 0 src.size } ts

/-- Where the program begins: after a first line that names an interpreter. -/
def programStart (src : Source) : Nat :=
  if src.hasAt 0 ['#', '!'] then src.skipWhile (fun c => !isLineEnd c) 0 else 0

/-- The statements of a source and the comments between and inside them, latest first. -/
def read? (markup : Bool) (src : Source) : Option (List Tree × List (Nat × Nat)) :=
  let g := src.gap (programStart src) false []
  let start : State := ⟨g.stop, 0, g.newline, g.comments⟩
  ((statements (goal (16 * (src.size + 4))) ⟨src, true, true, markup⟩).run start).map
    fun (ts, s) => (ts, s.comments)

/-- The syntax tree of a file's text, which may hold markup or type assertions in angle brackets.
Texts outside the grammar give an empty program. -/
def parse (markup : Bool) (text : String) : Tree :=
  let src := Source.ofString text
  match read? markup src with
  | some (ts, comments) =>
    program src (comments.foldr (fun c acc => placeComment (commentNode src c) acc) ts)
  | none => program src []

end RouteInventory.Grammar
