import RouteInventory.Syntax.Tree

/-!
# Source text

A `Source` is the text of one file as an array of characters, with the place of each of them: its
byte offset, its row and its byte column.  Rows end at a line feed and at nothing else.

The scanning functions walk forward from an index and return an index that is not smaller.  The
character classes are those of TypeScript source text: `isBlank` is what may stand between two
tokens, and a name may hold every character that is neither blank nor punctuation.
-/

namespace RouteInventory.Grammar

/-- Where a character stands: its byte offset, and its row and byte column counted from zero. -/
structure Point where
  byte : Nat
  row : Nat
  col : Nat
  deriving DecidableEq, Repr, Inhabited

/-- The place after a character. -/
def Point.after (p : Point) (c : Char) : Point :=
  if c == '\n' then ⟨p.byte + c.utf8Size, p.row + 1, 0⟩
  else ⟨p.byte + c.utf8Size, p.row, p.col + c.utf8Size⟩

/-- A file's characters and their places; `points` holds one place more, that of the end. -/
structure Source where
  chars : Array Char
  points : Array Point
  deriving Inhabited

namespace Source

def ofString (s : String) : Source :=
  let (points, stop) := s.toList.foldl (fun (ps, p) c => (ps.push p, p.after c)) (#[], ⟨0, 0, 0⟩)
  ⟨s.toList.toArray, points.push stop⟩

def size (s : Source) : Nat := s.chars.size

/-- The place of a character; behind the last one it is that of the end. -/
def point (s : Source) (i : Nat) : Point := s.points.getD (min i s.size) ⟨0, 0, 0⟩

/-- The characters from index `i` up to `j`. -/
def slice (s : Source) (i j : Nat) : String := String.ofList (s.chars.extract i j).toList

/-- The stretch of source from index `i` up to `j`. -/
def span (s : Source) (i j : Nat) : Span :=
  let p := s.point i
  ⟨p.byte, (s.point j).byte, p.row + 1, p.col + 1⟩

/-- Whether the characters at index `i` begin with `cs`. -/
def hasAt (s : Source) (i : Nat) : List Char → Bool
  | [] => true
  | c :: cs => s.chars[i]? == some c && s.hasAt (i + 1) cs

/-- The first index from `i` on whose character fails the test, or the end. -/
def skipWhile (s : Source) (p : Char → Bool) (i : Nat) : Nat :=
  if h : i < s.chars.size then
    if p s.chars[i] then s.skipWhile p (i + 1) else i
  else i
termination_by s.chars.size - i

/-- The index after the next `*/`, or the end. -/
def blockCommentEnd (s : Source) (i : Nat) : Nat :=
  if h : i < s.chars.size then
    if s.chars[i] == '*' && s.chars[i + 1]? == some '/' then i + 2 else s.blockCommentEnd (i + 1)
  else i
termination_by s.chars.size - i

end Source

/-- Characters beyond ASCII that separate words, and the marks that take no room. -/
def isWideBlank (c : Char) : Bool :=
  let n := c.toNat
  n == 0x85 || n == 0xA0 || n == 0x1680 || (0x2000 ≤ n && n ≤ 0x200B) || n == 0x2028 || n == 0x2029
    || n == 0x202F || n == 0x205F || n == 0x2060 || n == 0x3000 || n == 0xFEFF

/-- Characters that may stand between two tokens. -/
def isBlank (c : Char) : Bool :=
  c == ' ' || (0x09 ≤ c.toNat && c.toNat ≤ 0x0D) || isWideBlank c

/-- ASCII characters that are never part of a name. -/
def isPunctuation (c : Char) : Bool :=
  ":;`\"'@#.,|^&<=>+-*/\\%?!~()[]\x7b\x7d".toList.contains c

/-- Characters of a name. -/
def isNamePart (c : Char) : Bool := 0x20 ≤ c.toNat && !isBlank c && !isPunctuation c

/-- Characters a name may begin with. -/
def isNameStart (c : Char) : Bool := isNamePart c && !c.isDigit

/-- Characters that end a line comment. -/
def isLineEnd (c : Char) : Bool :=
  c == '\n' || c == '\r' || c.toNat == 0x2028 || c.toNat == 0x2029

def isHexDigit (c : Char) : Bool :=
  c.isDigit || ('a' ≤ c && c ≤ 'f') || ('A' ≤ c && c ≤ 'F')

namespace Source

/-- Digits of the given class, single underscores allowed between two of them. -/
def digitsEnd (s : Source) (p : Char → Bool) (i : Nat) : Nat :=
  if h : i < s.chars.size then
    if p s.chars[i] then s.digitsEnd p (i + 1)
    else if s.chars[i] == '_' && (s.chars[i + 1]?.any p) then s.digitsEnd p (i + 2)
    else i
  else i
termination_by s.chars.size - i

/-- The end of an exponent that begins at `i`, or `i` if there is none. -/
def exponentEnd (s : Source) (i : Nat) : Nat :=
  if s.chars[i]?.any (fun c => c == 'e' || c == 'E') then
    let j := if s.chars[i + 1]?.any (fun c => c == '+' || c == '-') then i + 2 else i + 1
    if s.chars[j]?.any Char.isDigit then s.digitsEnd Char.isDigit j else i
  else i

/-- The end of a literal in the base whose letter stands at `i + 1`, with its big-integer mark. -/
def radixEnd (s : Source) (p : Char → Bool) (i : Nat) : Option Nat :=
  if s.chars[i + 2]?.any p then
    let j := s.digitsEnd p (i + 2)
    some (if s.chars[j]? == some 'n' then j + 1 else j)
  else none

/-- The end of the number literal that begins at `i`.  A fraction or an exponent follows only an
integer without redundant leading zeros. -/
def numberEnd? (s : Source) (i : Nat) : Option Nat :=
  match s.chars[i]?, s.chars[i + 1]? with
  | some '0', some 'x' => s.radixEnd isHexDigit i
  | some '0', some 'X' => s.radixEnd isHexDigit i
  | some '0', some 'b' => s.radixEnd (fun c => c == '0' || c == '1') i
  | some '0', some 'B' => s.radixEnd (fun c => c == '0' || c == '1') i
  | some '0', some 'o' => s.radixEnd (fun c => '0' ≤ c && c ≤ '7') i
  | some '0', some 'O' => s.radixEnd (fun c => '0' ≤ c && c ≤ '7') i
  | some '.', some d =>
    if d.isDigit then some (s.exponentEnd (s.digitsEnd Char.isDigit (i + 1))) else none
  | some c, next =>
    if !c.isDigit then none
    else
      let j := s.digitsEnd Char.isDigit i
      let plain := c != '0' || j == i + 1 || (next.any fun d => d != '0' && d != '_')
      if s.chars[j]? == some 'n' then some (j + 1)
      else if plain && s.chars[j]? == some '.' then
        let k := if s.chars[j + 1]?.any Char.isDigit then s.digitsEnd Char.isDigit (j + 1) else j + 1
        some (s.exponentEnd k)
      else if plain then some (s.exponentEnd j)
      else some j
  | none, _ => none

/-- The end of the string literal whose opening quote `q` stands before index `i`. -/
def stringEnd? (s : Source) (q : Char) (i : Nat) : Option Nat :=
  if h : i < s.chars.size then
    let c := s.chars[i]
    if c == q then some (i + 1)
    else if c == '\\' then s.stringEnd? q (i + 2)
    else if c == '\n' || c == '\r' then none
    else s.stringEnd? q (i + 1)
  else none
termination_by s.chars.size - i

/-- The end of the body of a regular expression, just after its closing slash; `inClass` holds
between square brackets, where a slash stands for itself. -/
def regexEnd? (s : Source) (inClass : Bool) (i : Nat) : Option Nat :=
  if h : i < s.chars.size then
    let c := s.chars[i]
    if c == '\n' then none
    else if c == '\\' then s.regexEnd? inClass (i + 2)
    else if inClass then s.regexEnd? (c != ']') (i + 1)
    else if c == '/' then some (i + 1)
    else s.regexEnd? (c == '[') (i + 1)
  else none
termination_by s.chars.size - i

/-- The end of an escaped character of a name, `\uXXXX` or its braced form, that begins at `i`. -/
def nameEscapeEnd? (s : Source) (i : Nat) : Option Nat :=
  if s.chars[i]? == some '\\' && s.chars[i + 1]? == some 'u' then
    if s.chars[i + 2]? == some '\x7b' then
      let j := s.skipWhile isHexDigit (i + 3)
      if i + 3 < j && s.chars[j]? == some '\x7d' then some (j + 1) else none
    else
      let j := s.skipWhile isHexDigit (i + 2)
      if i + 6 ≤ j then some (i + 6) else none
  else none

/-- The end of the name whose rest begins at `i`. -/
def nameEnd (s : Source) (i : Nat) : Nat :=
  if h : i < s.chars.size then
    if isNamePart s.chars[i] then s.nameEnd (i + 1)
    else
      match s.nameEscapeEnd? i with
      | some j => if i < j then s.nameEnd j else i
      | none => i
  else i
termination_by s.chars.size - i

/-- The end of the name that begins at `i`. -/
def nameEnd? (s : Source) (i : Nat) : Option Nat :=
  match s.chars[i]? with
  | some c =>
    if isNameStart c then some (s.nameEnd (i + 1))
    else (s.nameEscapeEnd? i).map s.nameEnd
  | none => none

/-- What lies between two tokens: where the next one begins, whether a line feed was passed, and
the comments passed, latest first. -/
structure Gap where
  stop : Nat
  newline : Bool
  comments : List (Nat × Nat)

/-- Passes blanks and comments. -/
def gap (s : Source) (i : Nat) (newline : Bool) (comments : List (Nat × Nat)) : Gap :=
  if h : i < s.chars.size then
    let c := s.chars[i]
    if isBlank c then s.gap (i + 1) (newline || c == '\n') comments
    else if c == '/' && s.chars[i + 1]? == some '/' then
      let j := s.skipWhile (fun d => !isLineEnd d) (i + 2)
      if i < j then s.gap j newline ((i, j) :: comments) else ⟨i, newline, comments⟩
    else if c == '/' && s.chars[i + 1]? == some '*' then
      let j := s.blockCommentEnd (i + 2)
      if i < j then s.gap j newline ((i, j) :: comments) else ⟨i, newline, comments⟩
    else ⟨i, newline, comments⟩
  else ⟨i, newline, comments⟩
termination_by s.chars.size - i

end Source

end RouteInventory.Grammar
