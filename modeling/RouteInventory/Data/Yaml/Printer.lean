import RouteInventory.Data.Yaml.Scalar

/-!
# Writing YAML

`Json.yaml` writes a document in block style, two blanks for each level.  The items of a sequence
under a key stand below the key, without indentation of their own.

A text is written plain if it reads back as the same text, between single quotes if quotes are
needed, over several lines if it has line breaks, and between double quotes if some character has to
be escaped.
-/

namespace RouteInventory

namespace Yaml

/-! ## Texts -/

/-- Characters that can be written as they are. -/
def isPrintable (c : Char) : Bool :=
  let n := c.toNat
  n == 10 || (32 ≤ n && n ≤ 126) || (0xA0 ≤ n && n ≤ 0xFFFD && n != 0xFEFF) || 0x10000 ≤ n

/-- Breaks of lines, all kinds. -/
def breaksLine (c : Char) : Bool :=
  c == '\n' || c == '\r' || c.toNat == 0x85 || c.toNat == 0x2028 || c.toNat == 0x2029

/-- Whether a blank, a line break or the end comes next. -/
def blankNext : List Char → Bool
  | [] => true
  | c :: _ => c == ' ' || c == '\t' || breaksLine c

/-- Whether a class of characters is followed by another, somewhere in a text. -/
def hasPair (p q : Char → Bool) (cs : List Char) : Bool := (cs.zip cs.tail).any fun (a, b) => p a && q b

/-- Whether the beginning of a text would be read as an indicator. -/
def startsIndicator : List Char → Bool
  | [] => false
  | c :: cs =>
    "#,[]\x7b\x7d&*!|>'\"%@`".toList.contains c
      || ((c == '?' || c == ':' || c == '-') && blankNext cs)
      || "---".toList.isPrefixOf (c :: cs) || "...".toList.isPrefixOf (c :: cs)

/-- Whether something after the beginning would end a plain scalar: a colon before a blank, or a
number sign after one. -/
def hasIndicator : List Char → Bool
  | [] => false
  | c :: cs =>
    (cs.head? == some ':' && blankNext cs.tail)
      || (blankNext [c] && cs.head? == some '#')
      || hasIndicator cs

/-- Whether a text can stand without quotes. -/
def canBePlain (cs : List Char) : Bool :=
  cs.all isPrintable && !cs.any breaksLine && cs.head? != some ' ' && cs.getLast? != some ' '
    && !startsIndicator cs && !hasIndicator cs

/-- Whether a text can stand between single quotes. -/
def canBeSingle (cs : List Char) : Bool :=
  cs.all isPrintable && !hasPair breaksLine (· == ' ') cs && !hasPair (· == ' ') breaksLine cs

/-- Whether a text can be written over several lines. -/
def canBeLiteral (cs : List Char) : Bool :=
  cs.all isPrintable && cs.getLast? != some ' ' && !hasPair (· == ' ') breaksLine cs

/-- A hexadecimal digit. -/
def upperHex (n : Nat) : Char := (Nat.digitChar n).toUpper

/-- The last hexadecimal digits of a number. -/
def hexDigits : Nat → Nat → List Char
  | 0, _ => []
  | k + 1, n => hexDigits k (n / 16) ++ [upperHex (n % 16)]

/-- The letter that stands for a character after a backslash. -/
def escapeLetter? (c : Char) : Option Char :=
  match c.toNat with
  | 0x00 => some '0'
  | 0x07 => some 'a'
  | 0x08 => some 'b'
  | 0x09 => some 't'
  | 0x0A => some 'n'
  | 0x0B => some 'v'
  | 0x0C => some 'f'
  | 0x0D => some 'r'
  | 0x1B => some 'e'
  | 0x22 => some '"'
  | 0x5C => some '\\'
  | 0x85 => some 'N'
  | 0x2028 => some 'L'
  | 0x2029 => some 'P'
  | _ => none

/-- A character between double quotes. -/
def escapeChar (c : Char) : List Char :=
  if isPrintable c && !breaksLine c && c != '"' && c != '\\' then [c]
  else
    match escapeLetter? c with
    | some l => ['\\', l]
    | none =>
      let n := c.toNat
      if n ≤ 0xFF then '\\' :: 'x' :: hexDigits 2 n
      else if n ≤ 0xFFFF then '\\' :: 'u' :: hexDigits 4 n
      else '\\' :: 'U' :: hexDigits 8 n

def doubleQuoted (s : String) : String := "\"" ++ String.ofList (s.toList.flatMap escapeChar) ++ "\""

def singleQuoted (s : String) : String :=
  "'" ++ String.ofList (s.toList.flatMap fun c => if c == '\'' then ['\'', '\''] else [c]) ++ "'"

/-- What tells the reader of a text over several lines how it begins and ends. -/
def literalHeader (cs : List Char) : String :=
  let hint := if cs.head?.any fun c => c == ' ' || breaksLine c then "2" else ""
  let chomp :=
    match cs.reverse with
    | '\n' :: rest => if rest.head?.all breaksLine then "+" else ""
    | _ => "-"
  "|" ++ hint ++ chomp

/-- The lines of a text; a break at the end begins no line. -/
def linesOf (s : String) : List String :=
  let lines := s.splitOn "\n"
  if lines.getLast? == some "" then lines.dropLast else lines

/-- Whether a text without quotes would be read as something else. -/
def isAmbiguous (s : String) : Bool :=
  Scalar.ofText s != .text || Scalar.isZeroPadded s.toList

/-- A text as lines, the first of which may follow a key. -/
def textLines (s : String) : List String :=
  let cs := s.toList
  if cs.contains '\n' then
    if canBeLiteral cs then literalHeader cs :: linesOf s else [doubleQuoted s]
  else if !isAmbiguous s && canBePlain cs then [s]
  else if canBeSingle cs then [singleQuoted s]
  else [doubleQuoted s]

/-! ## Collections -/

/-- A line one level further in; empty lines stay empty. -/
def indent (line : String) : String := if line.isEmpty then line else "  " ++ line

/-- Lines after a mark of two characters. -/
def hang (mark : String) : List String → List String
  | [] => []
  | line :: lines => (mark ++ line) :: lines.map indent

/-- Whether a key fits on the line of its value. -/
def isSimpleKey (key : String) : Bool := !key.toList.any breaksLine && key.utf8ByteSize ≤ 128

/-- How the value of an entry stands after its key. -/
inductive Layout where
  /-- It begins on the line of the key. -/
  | inline
  /-- It stands below the key. -/
  | below
  /-- It stands below the key and further in. -/
  | inside
  deriving DecidableEq, Repr

def layout : Json → Layout
  | .array (_ :: _) => .below
  | .object (_ :: _) => .inside
  | _ => .inline

/-- The lines of an entry. -/
def entryLines (key : String) (form : Layout) (value : List String) : List String :=
  if isSimpleKey key then
    let keyText := (textLines key).headD ""
    match form with
    | .inline =>
      match value with
      | line :: lines => (keyText ++ ": " ++ line) :: lines.map indent
      | [] => [keyText ++ ":"]
    | .below => (keyText ++ ":") :: value
    | .inside => (keyText ++ ":") :: value.map indent
  else hang "? " (textLines key) ++ hang ": " value

mutual
/-- The lines of a document. -/
def documentLines : Json → List String
  | .null => ["null"]
  | .bool b => [if b then "true" else "false"]
  | .number n => [Json.numberText n]
  | .string s => textLines s
  | .array [] => ["[]"]
  | .array (x :: xs) => itemsLines (x :: xs)
  | .object [] => ["\x7b\x7d"]
  | .object (e :: es) => entriesLines (e :: es)

/-- The lines of the items of a sequence. -/
def itemsLines : List Json → List String
  | [] => []
  | x :: xs => hang "- " (documentLines x) ++ itemsLines xs

/-- The lines of the entries of a mapping. -/
def entriesLines : List (String × Json) → List String
  | [] => []
  | (key, value) :: es => entryLines key (layout value) (documentLines value) ++ entriesLines es
end

end Yaml

/-- The document in YAML. -/
def Json.yaml (j : Json) : String := String.join ((Yaml.documentLines j).map (· ++ "\n"))

end RouteInventory
