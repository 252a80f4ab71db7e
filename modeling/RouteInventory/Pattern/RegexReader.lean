import RouteInventory.Pattern.Regex
import RouteInventory.Text.Number

/-!
# Reading regular expressions

`Regex.read?` reads an expression as it is written:

* literals, `.`, `^`, `$`, groups, alternatives and repetitions, greedy or not;
* classes in brackets, with ranges, nested classes, named classes such as `[:alpha:]` and the
  operations `&&`, `--` and `~~`;
* escapes for characters, for classes such as `\d` or `\p{Lu}` and for positions such as `\b`;
* flags, for the rest of a group or for a group of its own.

There are no back references and no conditions on what follows or precedes; asking for them is an
error, as is an expression that grows too large when its repetitions are written out.
-/

namespace RouteInventory.Regex

open Text

/-- What flags change about the reading. -/
structure Flags where
  ignoreCase : Bool := false
  multiLine : Bool := false
  dotAll : Bool := false
  bytes : Bool := false
  crlf : Bool := false
  ignoreSpace : Bool := false
  deriving DecidableEq, Repr, Inhabited

/-- Skips blanks and comments; `inComment` tells whether a comment is open. -/
def skipBlanks : Bool → List Char → List Char
  | _, [] => []
  | true, c :: cs => skipBlanks (c != '\n') cs
  | false, c :: cs =>
    if isBlank c then skipBlanks false cs
    else if c == '#' then skipBlanks true cs
    else c :: cs

/-- Skips what the flags ask to ignore. -/
def skip (f : Flags) (cs : List Char) : List Char := if f.ignoreSpace then skipBlanks false cs else cs

/-- Characters with a meaning of their own. -/
def isMeta (c : Char) : Bool := "\\.+*?()|[]\x7b\x7d^$#&-~".toList.contains c

/-- Characters that may stand after a backslash for themselves. -/
def isEscapable (c : Char) : Bool :=
  isMeta c || (c.toNat < 128 && !c.isAlphanum && c != '<' && c != '>')

/-- What a single item of an expression is. -/
inductive Item where
  | literal (c : Char)
  | set (s : CharSet)
  | look (l : Look)
  deriving Repr, Inhabited

/-! ## Escapes -/

/-- The value of a hexadecimal digit. -/
def hexDigit? (c : Char) : Option Nat :=
  if c.isDigit then some (c.toNat - 48)
  else if 'a' ≤ c && c ≤ 'f' then some (c.toNat - 87)
  else if 'A' ≤ c && c ≤ 'F' then some (c.toNat - 55)
  else none

/-- The character with a code point, if there is one. -/
def charOf? (n : Nat) : Option Char :=
  if n < 0xD800 || (0xE000 ≤ n && n < 0x110000) then some (Char.ofNat n) else none

/-- A fixed number of hexadecimal digits. -/
def fixedHex (f : Flags) : Nat → Nat → List Char → Option (Nat × List Char)
  | 0, n, cs => some (n, skip f cs)
  | k + 1, n, cs =>
    match skip f cs with
    | c :: rest => (hexDigit? c).bind fun d => fixedHex f k (16 * n + d) rest
    | [] => none

/-- Hexadecimal digits up to a closing brace; `seen` tells whether there was one. -/
def bracedHex (f : Flags) : Nat → Bool → Nat → List Char → Option (Nat × List Char)
  | 0, _, _, _ => none
  | k + 1, seen, n, cs =>
    match skip f cs with
    | '\x7d' :: rest => if seen then some (n, rest) else none
    | c :: rest => (hexDigit? c).bind fun d => bracedHex f k true (16 * n + d) rest
    | [] => none

/-- A character by its number, after the letter that announces it. -/
def hexEscape (f : Flags) (digits : Nat) (cs : List Char) : Option (Char × List Char) := do
  let (n, rest) ←
    match skip f cs with
    | '\x7b' :: rest => bracedHex f (rest.length + 1) false 0 rest
    | rest => fixedHex f digits 0 rest
  return (← charOf? n, rest)

/-- Class names without case, blanks, hyphens and underscores. -/
def looseName (name : String) : String :=
  let cs := (name.toList.filter fun c => c != ' ' && c != '-' && c != '_').map Char.toLower
  match cs with
  | ['i', 's', 'c'] => "isc"
  | 'i' :: 's' :: rest => String.ofList rest
  | _ => String.ofList cs

open Category in
/-- The set with a category's name. -/
def categorySet? (name : String) : Option CharSet :=
  match name with
  | "lu" | "uppercaseletter" => some (.category uppercaseLetter)
  | "ll" | "lowercaseletter" => some (.category lowercaseLetter)
  | "lt" | "titlecaseletter" => some (.category titlecaseLetter)
  | "lc" | "casedletter" => some (.categories [uppercaseLetter, lowercaseLetter, titlecaseLetter])
  | "lm" | "modifierletter" => some (.category modifierLetter)
  | "lo" | "otherletter" => some (.category otherLetter)
  | "l" | "letter" =>
    some (.categories [uppercaseLetter, lowercaseLetter, titlecaseLetter, modifierLetter, otherLetter])
  | "mn" | "nonspacingmark" => some (.category nonspacingMark)
  | "mc" | "spacingmark" => some (.category spacingMark)
  | "me" | "enclosingmark" => some (.category enclosingMark)
  | "m" | "mark" | "combiningmark" => some (.categories [nonspacingMark, spacingMark, enclosingMark])
  | "nd" | "decimalnumber" | "digit" => some (.category decimalNumber)
  | "nl" | "letternumber" => some (.category letterNumber)
  | "no" | "othernumber" => some (.category otherNumber)
  | "n" | "number" => some (.categories [decimalNumber, letterNumber, otherNumber])
  | "pc" | "connectorpunctuation" => some (.category connectorPunctuation)
  | "pd" | "dashpunctuation" => some (.category dashPunctuation)
  | "ps" | "openpunctuation" => some (.category openPunctuation)
  | "pe" | "closepunctuation" => some (.category closePunctuation)
  | "pi" | "initialpunctuation" => some (.category initialPunctuation)
  | "pf" | "finalpunctuation" => some (.category finalPunctuation)
  | "po" | "otherpunctuation" => some (.category otherPunctuation)
  | "p" | "punctuation" | "punct" =>
    some (.categories [connectorPunctuation, dashPunctuation, openPunctuation, closePunctuation,
      initialPunctuation, finalPunctuation, otherPunctuation])
  | "sm" | "mathsymbol" => some (.category mathSymbol)
  | "sc" | "currencysymbol" => some (.category currencySymbol)
  | "sk" | "modifiersymbol" => some (.category modifierSymbol)
  | "so" | "othersymbol" => some (.category otherSymbol)
  | "s" | "symbol" => some (.categories [mathSymbol, currencySymbol, modifierSymbol, otherSymbol])
  | "zs" | "spaceseparator" => some (.category spaceSeparator)
  | "zl" | "lineseparator" => some (.category lineSeparator)
  | "zp" | "paragraphseparator" => some (.category paragraphSeparator)
  | "z" | "separator" => some (.categories [spaceSeparator, lineSeparator, paragraphSeparator])
  | "cc" | "control" | "cntrl" => some (.category control)
  | "cf" | "format" => some (.category format)
  | "co" | "privateuse" => some (.category privateUse)
  | "cn" | "unassigned" => some (.compl (.categories Category.all))
  | "c" | "other" =>
    some (.union [.categories [control, format, privateUse], .compl (.categories Category.all)])
  | "any" => some (.range 0 0x10FFFF)
  | "assigned" => some (.categories Category.all)
  | "ascii" => some (.range 0 127)
  | _ => none

open Category in
/-- The set with the name of a property that holds or not. -/
def propertySet? (name : String) : Option CharSet :=
  match name with
  | "uppercase" | "upper" =>
    some (.union [.category uppercaseLetter,
      .ranges [(0x2160, 0x216F), (0x24B6, 0x24CF), (0x1F130, 0x1F149), (0x1F150, 0x1F169),
        (0x1F170, 0x1F189)]])
  | "lowercase" | "lower" =>
    some (.union [.category lowercaseLetter,
      .ranges [(0xAA, 0xAA), (0xBA, 0xBA), (0x2B0, 0x2B8), (0x2C0, 0x2C1), (0x2E0, 0x2E4),
        (0x345, 0x345), (0x37A, 0x37A), (0x10FC, 0x10FC), (0x1D2C, 0x1D6A), (0x1D78, 0x1D78),
        (0x1D9B, 0x1DBF), (0x2071, 0x2071), (0x207F, 0x207F), (0x2090, 0x209C), (0x2170, 0x217F),
        (0x24D0, 0x24E9), (0x2C7C, 0x2C7D)]])
  | "alphabetic" | "alpha" =>
    some (.diff .word (.union [.categories [decimalNumber, connectorPunctuation, nonspacingMark,
      spacingMark, enclosingMark], .range 0x200C 0x200D]))
  | "whitespace" | "wspace" | "space" => some .blank
  | "asciihexdigit" | "ahex" | "hexdigit" | "hex" =>
    some (.ranges [(48, 57), (65, 70), (97, 102)])
  | _ => none

/-- The set with a script's name. -/
def scriptSet? (name : String) : Option CharSet :=
  match name with
  | "latin" | "latn" =>
    some (.ranges [(65, 90), (97, 122), (170, 170), (186, 186), (192, 214), (216, 246), (248, 696),
      (736, 740), (0x1D00, 0x1D25), (0x1D2C, 0x1D5C), (0x1D62, 0x1D65), (0x1D6B, 0x1D77),
      (0x1D79, 0x1DBE), (0x1E00, 0x1EFF), (0x2071, 0x2071), (0x207F, 0x207F), (0x2090, 0x209C),
      (0x212A, 0x212B), (0x2132, 0x2132), (0x214E, 0x214E), (0x2160, 0x2188), (0x2C60, 0x2C7F),
      (0xA722, 0xA787), (0xA78B, 0xA7DC), (0xA7F1, 0xA7FF), (0xAB30, 0xAB5A), (0xAB5C, 0xAB64),
      (0xAB66, 0xAB69), (0xFB00, 0xFB06), (0xFF21, 0xFF3A), (0xFF41, 0xFF5A)])
  | "greek" | "grek" =>
    some (.ranges [(0x370, 0x373), (0x375, 0x377), (0x37A, 0x37D), (0x37F, 0x37F), (0x384, 0x384),
      (0x386, 0x386), (0x388, 0x38A), (0x38C, 0x38C), (0x38E, 0x3A1), (0x3A3, 0x3E1),
      (0x3F0, 0x3FF), (0x1D26, 0x1D2A), (0x1F00, 0x1FFE), (0x2126, 0x2126), (0xAB65, 0xAB65)])
  | "cyrillic" | "cyrl" =>
    some (.ranges [(0x400, 0x484), (0x487, 0x52F), (0x1C80, 0x1C8A), (0x1D2B, 0x1D2B),
      (0x1D78, 0x1D78), (0x2DE0, 0x2DFF), (0xA640, 0xA69F), (0xFE2E, 0xFE2F)])
  | "hebrew" | "hebr" => some (.ranges [(0x591, 0x5C7), (0x5D0, 0x5EA), (0x5EF, 0x5F4)])
  | "arabic" | "arab" => some (.ranges [(0x600, 0x604), (0x606, 0x60B), (0x60D, 0x61A),
      (0x61C, 0x61E), (0x620, 0x63F), (0x641, 0x64A), (0x656, 0x66F), (0x671, 0x6DC),
      (0x6DE, 0x6FF), (0x750, 0x77F)])
  | "han" | "hani" => some (.ranges [(0x2E80, 0x2E99), (0x2E9B, 0x2EF3), (0x2F00, 0x2FD5),
      (0x3005, 0x3005), (0x3007, 0x3007), (0x3021, 0x3029), (0x3038, 0x303B), (0x3400, 0x4DBF),
      (0x4E00, 0x9FFF), (0xF900, 0xFA6D), (0xFA70, 0xFAD9), (0x20000, 0x2A6DF), (0x2A700, 0x323AF)])
  | "hiragana" | "hira" => some (.ranges [(0x3041, 0x3096), (0x309D, 0x309F)])
  | "katakana" | "kana" =>
    some (.ranges [(0x30A1, 0x30FA), (0x30FD, 0x30FF), (0x31F0, 0x31FF), (0xFF66, 0xFF6F),
      (0xFF71, 0xFF9D)])
  | _ => none

/-- The set that a name inside `\p` means. -/
def namedSet? (name : String) : Option CharSet :=
  let n := looseName name
  ((categorySet? n).or (propertySet? n)).or (scriptSet? n)

/-- The set that a property and its value inside `\p` mean. -/
def valueSet? (property value : String) : Option CharSet :=
  match looseName property with
  | "gc" | "generalcategory" => categorySet? (looseName value)
  | "sc" | "script" | "scx" | "scriptextensions" => scriptSet? (looseName value)
  | _ => none

/-- Splits a text at the first place where another one occurs. -/
def splitAt? (part : String) (s : String) : Option (String × String) :=
  match s.splitOn part with
  | [_] | [] => none
  | first :: rest => some (first, String.intercalate part rest)

/-- The set that the text inside `\p{…}` means. -/
def bracedSet? (text : String) : Option CharSet :=
  match splitAt? "!=" text with
  | some (p, v) => (valueSet? p v).map .compl
  | none =>
    match (splitAt? ":" text).or (splitAt? "=" text) with
    | some (p, v) => valueSet? p v
    | none => namedSet? text

/-- The text up to a closing brace, without what is ignored. -/
def bracedText (f : Flags) : Nat → List Char → List Char → Option (String × List Char)
  | 0, _, _ => none
  | n + 1, acc, cs =>
    match skip f cs with
    | '\x7d' :: rest => some (String.ofList acc.reverse, rest)
    | c :: rest => bracedText f n (c :: acc) rest
    | [] => none

/-- A set closed under case if the flags ask for it. -/
def foldedIf (f : Flags) (s : CharSet) : CharSet := if f.ignoreCase then .folded s else s

def complIf (negated : Bool) (s : CharSet) : CharSet := if negated then .compl s else s

/-- A class by name, after `\p` or `\P`. -/
def classEscape (f : Flags) (negated : Bool) (cs : List Char) : Option (Item × List Char) := do
  if f.bytes then none
  let (s, rest) ←
    match skip f cs with
    | '\x7b' :: rest =>
      (bracedText f (rest.length + 1) [] rest).bind fun (t, r) => (bracedSet? t).map fun s => (s, r)
    | '\\' :: _ => none
    | c :: rest => (namedSet? c.toString).map fun s => (s, rest)
    | [] => none
  return (.set (complIf negated (foldedIf f s)), rest)

/-- The sets of digits, blanks and word characters. -/
def shortClass (f : Flags) (negated : Bool) (s ascii : CharSet) : Option Item :=
  if f.bytes then if negated then none else some (.set ascii)
  else some (.set (complIf negated s))

def asciiDigits : CharSet := .range 48 57

def asciiBlanks : CharSet := .ranges [(9, 13), (32, 32)]

def asciiWord : CharSet := .ranges [(48, 57), (65, 90), (95, 95), (97, 122)]

/-- The names of special edges of words. -/
def edgeNamed? (ascii : Bool) (name : String) : Option Look :=
  match name with
  | "start" => some (.wordStart ascii)
  | "end" => some (.wordStop ascii)
  | "start-half" => some (.halfWordStart ascii)
  | "end-half" => some (.halfWordStop ascii)
  | _ => none

/-- An edge of a word after `\b`, which may go on with a name in braces.  Braces that hold no name
are left for a repetition. -/
def wordEdge (f : Flags) (cs : List Char) : Option (Item × List Char) :=
  match cs with
  | '\x7b' :: rest =>
    let inner := skip f rest
    let isNameChar (c : Char) := c.isAlpha || c == '-'
    if inner.head?.any isNameChar then
      let name := inner.takeWhile isNameChar
      match skip f (inner.dropWhile isNameChar) with
      | '\x7d' :: rest => (edgeNamed? f.bytes (String.ofList name)).map fun l => (.look l, rest)
      | _ => none
    else if inner.isEmpty then none
    else some (.look (.wordEdge f.bytes), cs)
  | _ => some (.look (.wordEdge f.bytes), cs)

/-- A character by its number; among bytes only those of ASCII are characters. -/
def numberedItem (f : Flags) (digits : Nat) (cs : List Char) : Option (Item × List Char) :=
  (hexEscape f digits cs).bind fun (c, rest) =>
    if f.bytes && digits == 2 && 127 < c.toNat && c.toNat < 256 then none
    else some (.literal c, rest)

/-- What stands after a backslash. -/
def escape (f : Flags) : List Char → Option (Item × List Char)
  | [] => none
  | c :: rest =>
    match c with
    | 'x' => numberedItem f 2 rest
    | 'u' => numberedItem f 4 rest
    | 'U' => numberedItem f 8 rest
    | 'p' => classEscape f false rest
    | 'P' => classEscape f true rest
    | 'd' => (shortClass f false .digit asciiDigits).map (·, rest)
    | 'D' => (shortClass f true .digit asciiDigits).map (·, rest)
    | 's' => (shortClass f false .blank asciiBlanks).map (·, rest)
    | 'S' => (shortClass f true .blank asciiBlanks).map (·, rest)
    | 'w' => (shortClass f false .word asciiWord).map (·, rest)
    | 'W' => (shortClass f true .word asciiWord).map (·, rest)
    | 'a' => some (.literal '\x07', rest)
    | 'f' => some (.literal '\x0c', rest)
    | 't' => some (.literal '\t', rest)
    | 'n' => some (.literal '\n', rest)
    | 'r' => some (.literal '\r', rest)
    | 'v' => some (.literal '\x0b', rest)
    | 'A' => some (.look .start, rest)
    | 'z' => some (.look .stop, rest)
    | 'b' => wordEdge f rest
    | 'B' => some (.look (.noWordEdge f.bytes), rest)
    | '<' => some (.look (.wordStart f.bytes), rest)
    | '>' => some (.look (.wordStop f.bytes), rest)
    | c => if isEscapable c then some (.literal c, rest) else none

/-! ## Classes in brackets -/

/-- The operations between the parts of a class. -/
inductive SetOp where
  | inter
  | diff
  | symDiff
  deriving DecidableEq, Repr, Inhabited

def SetOp.apply : SetOp → CharSet → CharSet → CharSet
  | inter => .inter
  | diff => .diff
  | symDiff => .symDiff

/-- What was read of a class before an operation, applied to what follows it. -/
def combine (f : Flags) (left : Option (CharSet × SetOp)) (right : CharSet) : CharSet :=
  match left with
  | some (l, op) => op.apply (foldedIf f l) (foldedIf f right)
  | none => right

/-- Classes named inside brackets. -/
def asciiSet? (name : String) : Option CharSet :=
  match name with
  | "alnum" => some (.ranges [(48, 57), (65, 90), (97, 122)])
  | "alpha" => some (.ranges [(65, 90), (97, 122)])
  | "ascii" => some (.range 0 127)
  | "blank" => some (.ranges [(9, 9), (32, 32)])
  | "cntrl" => some (.ranges [(0, 31), (127, 127)])
  | "digit" => some asciiDigits
  | "graph" => some (.range 33 126)
  | "lower" => some (.range 97 122)
  | "print" => some (.range 32 126)
  | "punct" => some (.ranges [(33, 47), (58, 64), (91, 96), (123, 126)])
  | "space" => some asciiBlanks
  | "upper" => some (.range 65 90)
  | "word" => some asciiWord
  | "xdigit" => some (.ranges [(48, 57), (65, 70), (97, 102)])
  | _ => none

/-- A named class, after its opening bracket. -/
def asciiClass? (cs : List Char) : Option (CharSet × List Char) :=
  match cs with
  | ':' :: rest =>
    let (negated, rest) : Bool × List Char := match rest with
      | '^' :: more => (true, more)
      | _ => (false, rest)
    match rest.dropWhile (· != ':') with
    | ':' :: ']' :: more =>
      (asciiSet? (String.ofList (rest.takeWhile (· != ':')))).map fun s => (complIf negated s, more)
    | _ => none
  | _ => none

/-- One end of a range, or a class by itself. -/
def classItem (f : Flags) : List Char → Option (Item × List Char)
  | [] => none
  | '\\' :: rest => escape f rest
  | c :: rest => some (.literal c, rest)

/-- The set of an item inside brackets. -/
def itemSet? : Item → Option CharSet
  | .literal c => some (.single c)
  | .set s => some s
  | .look _ => none

/-- A range, or a single item. -/
def classRange (f : Flags) (cs : List Char) : Option (CharSet × List Char) := do
  let (first, rest) ← classItem f cs
  match skip f rest with
  | [] => none
  | '-' :: more =>
    let next := skip f more
    if next.head? == some ']' || next.head? == some '-' then
      return (← itemSet? first, skip f rest)
    else
      match first, ← classItem f next with
      | .literal a, (.literal b, rest) =>
        if a.toNat ≤ b.toNat then some (.range a.toNat b.toNat, rest) else none
      | _, _ => none
  | rest => return (← itemSet? first, rest)

/-- Hyphens at the beginning of a class stand for themselves. -/
def leadingHyphens (f : Flags) : Nat → List CharSet → List Char → List CharSet × List Char
  | 0, items, cs => (items, cs)
  | n + 1, items, cs =>
    match cs with
    | '-' :: rest => leadingHyphens f n (.single '-' :: items) (skip f rest)
    | _ => (items, cs)

/-- The set of a finished class; among bytes a class may not be negated. -/
def finishClass (f : Flags) (negated : Bool) (s : CharSet) : Option CharSet :=
  if f.bytes && negated then none else some (complIf negated (foldedIf f s))

mutual
/-- A class after its opening bracket. -/
def readClass (f : Flags) : Nat → List Char → Option (CharSet × List Char)
  | 0, _ => none
  | n + 1, cs =>
    let cs := skip f cs
    let (negated, cs) : Bool × List Char := match cs with
      | '^' :: rest => (true, skip f rest)
      | _ => (false, cs)
    let (items, cs) := leadingHyphens f cs.length [] cs
    match items, cs with
    | [], ']' :: rest => readClassItems f n negated none [.single ']'] (skip f rest)
    | _, _ => readClassItems f n negated none items cs

/-- The items of a class up to its closing bracket. -/
def readClassItems (f : Flags) :
    Nat → Bool → Option (CharSet × SetOp) → List CharSet → List Char →
    Option (CharSet × List Char)
  | 0, _, _, _, _ => none
  | n + 1, negated, left, items, cs =>
    let operation (op : SetOp) (rest : List Char) :=
      readClassItems f n negated (some (combine f left (.union items), op)) [] rest
    match skip f cs with
    | [] => none
    | '[' :: rest =>
      match asciiClass? rest with
      | some (s, rest) => readClassItems f n negated left (s :: items) rest
      | none => do
        let (s, rest) ← readClass f n rest
        readClassItems f n negated left (s :: items) rest
    | ']' :: rest => (finishClass f negated (combine f left (.union items))).map fun s => (s, rest)
    | '&' :: '&' :: rest => operation .inter rest
    | '-' :: '-' :: rest => operation .diff rest
    | '~' :: '~' :: rest => operation .symDiff rest
    | cs => do
      let (s, rest) ← classRange f cs
      readClassItems f n negated left (s :: items) rest
end

/-! ## Groups and repetitions -/

/-- Sets or clears one flag. -/
def setFlag? (f : Flags) (on : Bool) (c : Char) : Option Flags :=
  match c with
  | 'i' => some { f with ignoreCase := on }
  | 'm' => some { f with multiLine := on }
  | 's' => some { f with dotAll := on }
  | 'U' => some f
  | 'u' => some { f with bytes := !on }
  | 'R' => some { f with crlf := on }
  | 'x' => some { f with ignoreSpace := on }
  | _ => none

/-- Flags up to the character that ends them; each may occur once.  The result has the flags and the
rest, with the ending character. -/
def readFlags (f : Flags) : List Char → List Char → Option (Flags × List Char × List Char)
  | seen, c :: rest =>
    if c == ':' || c == ')' then
      if seen.head? == some '-' then none else some (f, seen, c :: rest)
    else if seen.contains c then none
    else if c == '-' then readFlags f ('-' :: seen) rest
    else
      match setFlag? f (!seen.contains '-') c with
      | some g => readFlags g (c :: seen) rest
      | none => none
  | _, [] => none

/-- Characters that a group's name may have. -/
def isNameChar (first : Bool) (c : Char) : Bool :=
  let isLetter := (CharSet.categories [.uppercaseLetter, .lowercaseLetter, .titlecaseLetter,
    .modifierLetter, .otherLetter, .letterNumber]).has c.toNat
  let isNumber := (CharSet.categories [.decimalNumber, .otherNumber]).has c.toNat
  c == '_' || isLetter || (!first && (isNumber || c == '.' || c == '[' || c == ']'))

/-- The name of a group, after its opening angle. -/
def groupName? (names : List String) (cs : List Char) : Option (String × List Char) :=
  let name := cs.takeWhile (· != '>')
  match cs.dropWhile (· != '>'), name with
  | '>' :: rest, c :: more =>
    let text := String.ofList name
    if isNameChar true c && more.all (isNameChar false) && !names.contains text then
      some (text, rest)
    else none
  | _, _ => none

/-- How a group begins. -/
inductive Opening where
  /-- Flags for the rest of the group around. -/
  | flags (f : Flags) (rest : List Char)
  | group (f : Flags) (names : List String) (rest : List Char)

/-- Reads the beginning of a group, after its parenthesis. -/
def opening (f : Flags) (names : List String) (cs : List Char) : Option Opening :=
  match skip f cs with
  | '?' :: '=' :: _ | '?' :: '!' :: _ | '?' :: '<' :: '=' :: _ | '?' :: '<' :: '!' :: _ => none
  | '?' :: 'P' :: '<' :: rest | '?' :: '<' :: rest =>
    (groupName? names rest).map fun (name, rest) => .group f (name :: names) rest
  | '?' :: rest =>
    match readFlags f [] rest with
    | some (g, seen, ')' :: rest) => if seen.isEmpty then none else some (.flags g rest)
    | some (g, _, _ :: rest) => some (.group g names rest)
    | _ => none
  | rest => some (.group f names rest)

/-- A decimal number of at most 32 bits, blanks around it. -/
def readDecimal (f : Flags) (cs : List Char) : Option Nat × List Char :=
  let cs := cs.dropWhile isBlank
  let digits := cs.takeWhile fun c => c.isDigit || (f.ignoreSpace && isBlank c)
  let rest := skip f ((cs.drop digits.length).dropWhile isBlank)
  let ds := digits.filter Char.isDigit
  let n := Number.digitsValue ds
  (if ds.isEmpty || 0x100000000 ≤ n then none else some n, rest)

/-- The bounds of a repetition, after its opening brace. -/
def readBounds (f : Flags) (cs : List Char) : Option (Nat × Option Nat × List Char) := do
  let (least, rest) := readDecimal f (skip f cs)
  let least ← least
  match rest with
  | '\x7d' :: rest => return (least, some least, rest)
  | ',' :: rest =>
    match skip f rest with
    | '\x7d' :: rest => return (least, none, rest)
    | rest =>
      let (most, rest) := readDecimal f rest
      let most ← most
      match rest with
      | '\x7d' :: rest => if least ≤ most then return (least, some most, rest) else none
      | _ => none
  | _ => none

/-- Skips the mark of a repetition that takes as little as it can. -/
def skipLazy : List Char → List Char
  | '?' :: rest => rest
  | cs => cs

/-- The parts read so far, latest first; a place where flags were set cannot be repeated. -/
abbrev Parts := List (Option Regex)

/-- The sequence of some parts. -/
def sequence (parts : Parts) : Regex := .concat (parts.reverse.filterMap id)

/-- Repeats the latest part. -/
def repeatLast? (least : Nat) (most : Option Nat) : Parts → Option Parts
  | some r :: rest => some (some (.repeated r least most) :: rest)
  | _ => none

/-- An item that is no group, class or repetition. -/
def readItem (f : Flags) : List Char → Option (Regex × List Char)
  | [] => none
  | '\\' :: rest =>
    (escape f rest).map fun (item, rest) =>
      match item with
      | .literal c => (.char (foldedIf f (.single c)), rest)
      | .set s => (.char s, rest)
      | .look l => (.look l, rest)
  | '.' :: rest =>
    if f.bytes then none
    else
      let excluded : CharSet :=
        if f.dotAll then .union []
        else if f.crlf then .ranges [(10, 10), (13, 13)]
        else .single '\n'
      some (.char (.compl excluded), rest)
  | '^' :: rest => some (.look (if f.multiLine then .lineStart f.crlf else .start), rest)
  | '$' :: rest => some (.look (if f.multiLine then .lineStop f.crlf else .stop), rest)
  | c :: rest => some (.char (foldedIf f (.single c)), rest)

/-- How deeply groups may nest. -/
def maxNesting : Nat := 250

/-- Reads alternatives up to the end of the text or of a group.  `done` holds the alternatives read
before, latest first. -/
def readBranches :
    Nat → Nat → Flags → List String → List Regex → Parts → List Char →
    Option (Regex × List String × List Char)
  | 0, _, _, _, _, _, _ => none
  | n + 1, depth, f, names, done, parts, cs =>
    let finish (rest : List Char) := some (Regex.either (sequence parts :: done).reverse, names, rest)
    let repetition (least : Nat) (most : Option Nat) (rest : List Char) := do
      let parts ← repeatLast? least most parts
      readBranches n depth f names done parts (skipLazy rest)
    match skip f cs with
    | [] => finish []
    | ')' :: rest => finish (')' :: rest)
    | '|' :: rest => readBranches n depth f names (sequence parts :: done) [] rest
    | '(' :: rest => do
      match ← opening f names rest with
      | .flags g rest => readBranches n depth g names done (none :: parts) rest
      | .group g names rest =>
        if maxNesting ≤ depth then none
        else
          match ← readBranches n (depth + 1) g names [] [] rest with
          | (r, names, ')' :: rest) => readBranches n depth f names done (some r :: parts) rest
          | _ => none
    | '[' :: rest => do
      let (s, rest) ← readClass f (2 * rest.length + 2) rest
      readBranches n depth f names done (some (.char s) :: parts) rest
    | '?' :: rest => repetition 0 (some 1) rest
    | '*' :: rest => repetition 0 none rest
    | '+' :: rest => repetition 1 none rest
    | '\x7b' :: rest => do
      let (least, most, rest) ← readBounds f rest
      repetition least most rest
    | cs => do
      let (r, rest) ← readItem f cs
      readBranches n depth f names done (some r :: parts) rest

/-! ## Size -/

mutual
/-- How much room a set takes up when it is spelled out in bytes. -/
def setRoom : CharSet → Nat
  | .runs rs => 40 * rs.length
  | .category k => 40 * k.runs.length
  | .word => 32000
  | .blank => 400
  | .union ss => setRoomAll ss
  | .inter a b => setRoom a + setRoom b
  | .diff a b => setRoom a + setRoom b
  | .symDiff a b => setRoom a + setRoom b
  | .compl a => 200 + setRoom a
  | .folded a => 2 * setRoom a

def setRoomAll : List CharSet → Nat
  | [] => 0
  | s :: ss => setRoom s + setRoomAll ss
end

mutual
/-- How much room an expression takes up with its repetitions written out. -/
def room : Regex → Nat
  | .empty => 0
  | .char s => max 40 (setRoom s)
  | .look _ => 40
  | .concat rs => roomAll rs
  | .either rs => 40 + roomAll rs
  | .repeated r least most => 40 + (room r + 40) * max 1 (most.getD (least + 1))

def roomAll : List Regex → Nat
  | [] => 0
  | r :: rs => room r + roomAll rs
end

/-- The room that an expression may take up. -/
def maxRoom : Nat := 10 * 0x100000

/-- Reads a whole expression. -/
def read? (text : String) : Option Regex := do
  let cs := text.toList
  match ← readBranches (2 * cs.length + 2) 0 {} [] [] [] cs with
  | (r, _, []) => if room r ≤ maxRoom then some r else none
  | _ => none

end RouteInventory.Regex
