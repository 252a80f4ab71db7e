import RouteInventory.Text.Number

/-!
# JSON values

`Json` is a JSON document.  In documents that are read and merged the entries of an object stand in
the order of their keys, and a key occurs once; `Json.set` keeps it so and `Json.sorted` makes it so.
In documents that are only written the entries stand as they are to be written.

* `Json.read?` reads a document, by the letter of the format.
* `Json.compact` and `Json.pretty` write one.
-/

namespace RouteInventory

/-- A number of a document: an integer of at most 64 bits, or anything else. -/
inductive JsonNumber where
  | int (value : Int)
  | real (negative : Bool) (value : Number)
  deriving DecidableEq, Repr, Inhabited

/-- A JSON document. -/
inductive Json where
  | null
  | bool (value : Bool)
  | number (value : JsonNumber)
  | string (value : String)
  | array (items : List Json)
  | object (entries : List (String × Json))
  deriving Repr, Inhabited

namespace Json

def ofNat (n : Nat) : Json := number (.int n)

/-- Puts an entry at its place in the order of keys, over one with the same key. -/
def set (key : String) (value : Json) : List (String × Json) → List (String × Json)
  | [] => [(key, value)]
  | (k, v) :: rest =>
    if key < k then (key, value) :: (k, v) :: rest
    else if key = k then (key, value) :: rest
    else (k, v) :: set key value rest

/-- An object with the given entries; of several with the same key the last counts. -/
def ofEntries (entries : List (String × Json)) : Json :=
  object (entries.foldl (fun acc e => set e.1 e.2 acc) [])

/-- The entry with the key, if the document is an object. -/
def get? (key : String) : Json → Option Json
  | object entries => (entries.find? fun e => e.1 == key).map Prod.snd
  | _ => none

mutual
/-- The document with the entries of its objects in the order of their keys. -/
def sorted : Json → Json
  | object entries => ofEntries (sortedEntries entries)
  | array items => array (sortedItems items)
  | null => null
  | bool b => bool b
  | number n => number n
  | string s => string s

/-- The items of an array, each in order. -/
def sortedItems : List Json → List Json
  | [] => []
  | x :: xs => sorted x :: sortedItems xs

/-- The entries of an object, each value in order. -/
def sortedEntries : List (String × Json) → List (String × Json)
  | [] => []
  | (k, v) :: es => (k, sorted v) :: sortedEntries es
end

/-! ## Reading -/

def isSpace (c : Char) : Bool := c == ' ' || c == '\n' || c == '\t' || c == '\r'

def skipSpace (cs : List Char) : List Char := cs.dropWhile isSpace

/-- The value of a hexadecimal digit. -/
def hexValue? (c : Char) : Option Nat :=
  if c.isDigit then some (c.toNat - '0'.toNat)
  else if 'a' ≤ c && c ≤ 'f' then some (c.toNat - 'a'.toNat + 10)
  else if 'A' ≤ c && c ≤ 'F' then some (c.toNat - 'A'.toNat + 10)
  else none

/-- Four hexadecimal digits. -/
def readUnit : List Char → Option (Nat × List Char)
  | a :: b :: c :: d :: rest => do
    let a ← hexValue? a
    let b ← hexValue? b
    let c ← hexValue? c
    let d ← hexValue? d
    return (((a * 16 + b) * 16 + c) * 16 + d, rest)
  | _ => none

/-- How closely a text is read: to be kept, or only to be passed over.  What is passed over may
hold numbers out of range and halves of surrogate pairs. -/
inductive Care where
  | keep
  | skim
  deriving DecidableEq, Repr, Inhabited

/-- The character of an escape by units, with the second unit of a surrogate pair. -/
def readEscapedUnit (care : Care) (cs : List Char) : Option (Char × List Char) := do
  let (u, rest) ← readUnit cs
  if care = .skim then return (Char.ofNat u, rest)
  else if 0xD800 ≤ u && u ≤ 0xDBFF then
    match rest with
    | '\\' :: 'u' :: more =>
      let (v, rest) ← readUnit more
      if 0xDC00 ≤ v && v ≤ 0xDFFF then
        return (Char.ofNat (0x10000 + (u - 0xD800) * 0x400 + (v - 0xDC00)), rest)
      else none
    | _ => none
  else if 0xDC00 ≤ u && u ≤ 0xDFFF then none
  else return (Char.ofNat u, rest)

/-- The character that a letter after a backslash stands for. -/
def simpleEscape? (c : Char) : Option Char :=
  match c with
  | '"' => some '"'
  | '\\' => some '\\'
  | '/' => some '/'
  | 'b' => some '\x08'
  | 'f' => some '\x0c'
  | 'n' => some '\n'
  | 'r' => some '\r'
  | 't' => some '\t'
  | _ => none

/-- The rest of a string after its opening quote; `acc` holds its characters, latest first. -/
def readString (care : Care) : Nat → List Char → List Char → Option (String × List Char)
  | 0, _, _ => none
  | _ + 1, _, [] => none
  | n + 1, acc, c :: cs =>
    if c == '"' then some (String.ofList acc.reverse, cs)
    else if c == '\\' then
      match cs with
      | 'u' :: rest => do
        let (d, rest) ← readEscapedUnit care rest
        readString care n (d :: acc) rest
      | d :: rest => do
        let e ← simpleEscape? d
        readString care n (e :: acc) rest
      | [] => none
    else if c.toNat < 0x20 then none
    else readString care n (c :: acc) cs

/-- The digits at the beginning of a text. -/
def readDigits (cs : List Char) : List Char × List Char :=
  (cs.takeWhile Char.isDigit, cs.dropWhile Char.isDigit)

/-- The number that the parts of a literal stand for; there is none if it is out of range. -/
def numberOf (care : Care) (negative : Bool) (whole fraction : List Char) (exponent : Int)
    (isInteger : Bool) : Option JsonNumber :=
  let n := Number.digitsValue whole
  if care = .skim then some (.int 0)
  else if isInteger && !negative && n < 0x10000000000000000 then some (.int n)
  else if isInteger && negative && 0 < n && n ≤ 0x8000000000000000 then some (.int (-(n : Int)))
  else
    match Number.ofDecimal (Number.digitsValue (whole ++ fraction)) (exponent - fraction.length) with
    | .infinite => none
    | x => some (.real negative x)

/-- The exponent of a number: a sign and digits. -/
def readExponent (cs : List Char) : Option (Int × List Char) :=
  let (negative, cs) : Bool × List Char := match cs with
    | '-' :: rest => (true, rest)
    | '+' :: rest => (false, rest)
    | _ => (false, cs)
  let (ds, rest) := readDigits cs
  if ds.isEmpty then none
  else
    let e : Int := min (Number.digitsValue ds) 1000000
    some (if negative then -e else e, rest)

/-- A number; an integer has no redundant zeros in front. -/
def readNumber (care : Care) (cs : List Char) : Option (Json × List Char) := do
  let (negative, cs) : Bool × List Char := match cs with
    | '-' :: rest => (true, rest)
    | _ => (false, cs)
  let (whole, rest) := readDigits cs
  if whole.isEmpty || (whole.head? == some '0' && 1 < whole.length) then none
  let (fraction, hasFraction, rest) : List Char × Bool × List Char := match rest with
    | '.' :: more => let (ds, r) := readDigits more; (ds, true, r)
    | _ => ([], false, rest)
  if hasFraction && fraction.isEmpty then none
  let (exponent, hasExponent, rest) ← match rest with
    | c :: more =>
      if c == 'e' || c == 'E' then (readExponent more).map fun (e, r) => (e, true, r)
      else some (0, false, rest)
    | [] => some (0, false, rest)
  let value ← numberOf care negative whole fraction exponent (!hasFraction && !hasExponent)
  return (number value, rest)

/-- Reads a fixed word. -/
def readWord (word : String) (value : Json) (cs : List Char) : Option (Json × List Char) :=
  if word.toList.isPrefixOf cs then some (value, cs.drop word.length) else none

mutual
/-- A value after blanks; `depth` bounds how deeply it may nest. -/
def readValue (care : Care) : Nat → Nat → List Char → Option (Json × List Char)
  | 0, _, _ => none
  | n + 1, depth, cs =>
    match skipSpace cs with
    | '"' :: rest => (readString care (rest.length + 1) [] rest).map fun (s, r) => (string s, r)
    | '[' :: rest =>
      if depth ≤ 1 then none
      else
        match skipSpace rest with
        | ']' :: rest => some (array [], rest)
        | _ => (readItems care n (depth - 1) [] rest).map fun (xs, r) => (array xs, r)
    | '\x7b' :: rest =>
      if depth ≤ 1 then none
      else
        match skipSpace rest with
        | '\x7d' :: rest => some (object [], rest)
        | _ => (readEntries care n (depth - 1) [] rest).map fun (es, r) => (object es, r)
    | 't' :: rest => readWord "true" (bool true) ('t' :: rest)
    | 'f' :: rest => readWord "false" (bool false) ('f' :: rest)
    | 'n' :: rest => readWord "null" null ('n' :: rest)
    | other => readNumber care other

/-- The items of an array up to its closing bracket; `acc` holds them, latest first. -/
def readItems (care : Care) : Nat → Nat → List Json → List Char → Option (List Json × List Char)
  | 0, _, _, _ => none
  | n + 1, depth, acc, cs => do
    let (x, rest) ← readValue care n depth cs
    match skipSpace rest with
    | ',' :: rest => readItems care n depth (x :: acc) rest
    | ']' :: rest => some ((x :: acc).reverse, rest)
    | _ => none

/-- The entries of an object up to its closing brace, in the order of their keys. -/
def readEntries (care : Care) :
    Nat → Nat → List (String × Json) → List Char → Option (List (String × Json) × List Char)
  | 0, _, _, _ => none
  | n + 1, depth, acc, cs => do
    match skipSpace cs with
    | '"' :: rest =>
      let (key, rest) ← readString care (rest.length + 1) [] rest
      match skipSpace rest with
      | ':' :: rest =>
        let (x, rest) ← readValue care n depth rest
        match skipSpace rest with
        | ',' :: rest => readEntries care n depth (set key x acc) rest
        | '\x7d' :: rest => some (set key x acc, rest)
        | _ => none
      | _ => none
    | _ => none
end

/-- How deeply a document may nest. -/
def maxDepth : Nat := 128

/-- Reads a whole document. -/
def read? (text : String) : Option Json := do
  let cs := text.toList
  let (v, rest) ← readValue .keep (2 * cs.length + 2) maxDepth cs
  if (skipSpace rest).isEmpty then some v else none

/-! ## Writing -/

/-- A hexadecimal digit. -/
def hexDigit (n : Nat) : Char := Nat.digitChar n

/-- A character inside a string. -/
def escape (c : Char) : String :=
  match c with
  | '"' => "\\\""
  | '\\' => "\\\\"
  | '\x08' => "\\b"
  | '\x0c' => "\\f"
  | '\n' => "\\n"
  | '\r' => "\\r"
  | '\t' => "\\t"
  | c =>
    if c.toNat < 0x20 then
      "\\u00" ++ String.ofList [hexDigit (c.toNat / 16), hexDigit (c.toNat % 16)]
    else c.toString

/-- A text between quotes. -/
def quote (s : String) : String := "\"" ++ String.join (s.toList.map escape) ++ "\""

/-- The text of a number. -/
def numberText : JsonNumber → String
  | .int n => toString n
  | .real negative x => (if negative then "-" else "") ++ x.text

mutual
/-- A document without blanks. -/
def compact : Json → String
  | null => "null"
  | bool b => if b then "true" else "false"
  | number n => numberText n
  | string s => quote s
  | array xs => "[" ++ String.intercalate "," (compactItems xs) ++ "]"
  | object es => "\x7b" ++ String.intercalate "," (compactEntries es) ++ "\x7d"

/-- The items of an array without blanks. -/
def compactItems : List Json → List String
  | [] => []
  | x :: xs => compact x :: compactItems xs

/-- The entries of an object without blanks. -/
def compactEntries : List (String × Json) → List String
  | [] => []
  | (k, v) :: es => (quote k ++ ":" ++ compact v) :: compactEntries es
end

/-- Blanks for a level of indentation. -/
def indentation (level : Nat) : String := String.ofList (List.replicate (2 * level) ' ')

/-- Lines between brackets, one level further in. -/
def bracketed (l r : String) (level : Nat) (lines : List String) : String :=
  if lines.isEmpty then l ++ r
  else
    l ++ "\n" ++ String.intercalate ",\n" (lines.map (indentation (level + 1) ++ ·)) ++ "\n"
      ++ indentation level ++ r

mutual
/-- A document with two blanks for each level. -/
def prettyAt (level : Nat) : Json → String
  | array xs => bracketed "[" "]" level (prettyItems (level + 1) xs)
  | object es => bracketed "\x7b" "\x7d" level (prettyEntries (level + 1) es)
  | null => "null"
  | bool b => if b then "true" else "false"
  | number n => numberText n
  | string s => quote s

/-- The items of an array, one by one. -/
def prettyItems (level : Nat) : List Json → List String
  | [] => []
  | x :: xs => prettyAt level x :: prettyItems level xs

/-- The entries of an object, one by one. -/
def prettyEntries (level : Nat) : List (String × Json) → List String
  | [] => []
  | (k, v) :: es => (quote k ++ ": " ++ prettyAt level v) :: prettyEntries level es
end

/-- A document over several lines. -/
def pretty (j : Json) : String := prettyAt 0 j

end Json

end RouteInventory
