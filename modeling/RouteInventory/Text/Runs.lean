/-!
# Character classes by runs

A class of characters is given by the runs of code points that belong to it, in ascending order.
-/

namespace RouteInventory.Text

/-- Whether a code point lies in one of the runs, which ascend. -/
def inRuns : List (Nat × Nat) → Nat → Bool
  | [], _ => false
  | (first, last) :: rest, n => first ≤ n && (n ≤ last || inRuns rest n)

/-- Runs of blank characters: white space by the Unicode property of that name. -/
def blankRuns : List (Nat × Nat) :=
  [(9, 13), (32, 32), (133, 133), (160, 160), (5760, 5760), (8192, 8202), (8232, 8233), (8239, 8239),
    (8287, 8287), (12288, 12288)]

/-- White space. -/
def isBlank (c : Char) : Bool := inRuns blankRuns c.toNat

/-- A text without the blanks at its ends. -/
def trim (s : String) : String :=
  String.ofList ((s.toList.dropWhile isBlank).reverse.dropWhile isBlank).reverse

/-- The pieces of a text between blanks, the characters of the current piece latest first. -/
def wordsFrom : List Char → List Char → List String
  | [], [] => []
  | [], acc => [String.ofList acc.reverse]
  | c :: cs, acc =>
    if isBlank c then
      if acc.isEmpty then wordsFrom cs [] else String.ofList acc.reverse :: wordsFrom cs []
    else wordsFrom cs (c :: acc)

/-- The pieces of a text between blanks. -/
def words (s : String) : List String := wordsFrom s.toList []

end RouteInventory.Text
