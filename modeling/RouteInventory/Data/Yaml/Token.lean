/-!
# Tokens of YAML

`Token.scan?` splits a text into tokens.  Indentation is turned into tokens that begin and end
blocks.  A scalar turns out to be a key only at the colon after it; the tokens that make it one are
then put in front of it, so the scanner remembers where a key may have begun, for each level of
brackets.
-/

namespace RouteInventory.Yaml

/-- How a scalar is written. -/
inductive Style where
  | plain
  | quoted
  | block
  deriving DecidableEq, Repr, Inhabited

inductive Token where
  | versionDirective (major minor : Nat)
  | tagDirective (handle start : String)
  | documentStart
  | documentEnd
  | blockSequence
  | blockMapping
  | blockEnd
  | flowSequence
  | flowSequenceEnd
  | flowMapping
  | flowMappingEnd
  | blockEntry
  | flowEntry
  | key
  | value
  | reference (name : String)
  | anchor (name : String)
  | tag (handle suffix : String)
  | scalar (text : String) (style : Style)
  deriving DecidableEq, Repr, Inhabited

/-! ## Characters -/

/-- Characters that may occur in a document. -/
def isAllowed (c : Char) : Bool :=
  let n := c.toNat
  n == 9 || n == 10 || n == 13 || (32 ≤ n && n ≤ 126) || n == 0x85 || (0xA0 ≤ n && n ≤ 0xFFFD)
    || 0x10000 ≤ n

def isBlank (c : Char) : Bool := c == ' ' || c == '\t'

def isBreak (c : Char) : Bool :=
  c == '\n' || c == '\r' || c.toNat == 0x85 || c.toNat == 0x2028 || c.toNat == 0x2029

def isBlankOrBreak (c : Char) : Bool := isBlank c || isBreak c

/-- Characters of names. -/
def isNameChar (c : Char) : Bool := c.isAlphanum || c == '_' || c == '-'

/-- Characters of tags; a few more are allowed between angle brackets. -/
def isTagChar (verbatim : Bool) (c : Char) : Bool :=
  isNameChar c || ";/?:@&=+$.%!~*'()".toList.contains c || (verbatim && ",[]".toList.contains c)

/-! ## Places in the text -/

/-- A place in the text: what follows it, and where it is. -/
structure Place where
  rest : List Char
  line : Nat
  column : Nat
  index : Nat
  deriving Repr, Inhabited

namespace Place

def skip (p : Place) : Place :=
  match p.rest with
  | _ :: cs => { p with rest := cs, column := p.column + 1, index := p.index + 1 }
  | [] => p

def skipN : Nat → Place → Place
  | 0, p => p
  | n + 1, p => skipN n p.skip

/-- Takes the characters of a class. -/
def takeWhile (q : Char → Bool) (p : Place) : List Char × Place :=
  let cs := p.rest.takeWhile q
  (cs, { p with
    rest := p.rest.dropWhile q, column := p.column + cs.length, index := p.index + cs.length })

def dropWhile (q : Char → Bool) (p : Place) : Place := (p.takeWhile q).2

/-- Takes a line break, if there is one; most kinds count as a line feed. -/
def takeBreak (p : Place) : List Char × Place :=
  match p.rest with
  | '\r' :: '\n' :: cs => (['\n'], ⟨cs, p.line + 1, 0, p.index + 2⟩)
  | c :: cs =>
    if isBreak c then
      (if c.toNat == 0x2028 || c.toNat == 0x2029 then [c] else ['\n'],
        ⟨cs, p.line + 1, 0, p.index + 1⟩)
    else ([], p)
  | [] => ([], p)

/-- Whether the class holds of the character after `n` more, or the text ends there. -/
def endsAt (p : Place) (n : Nat) (q : Char → Bool) : Bool :=
  match p.rest[n]? with
  | some c => q c
  | none => true

/-- Whether a blank, a line break or the end follows after `n` more characters. -/
def blankAt (p : Place) (n : Nat) : Bool := p.endsAt n isBlankOrBreak

def startsWith (p : Place) (s : String) : Bool := s.toList.isPrefixOf p.rest

/-- Whether a mark between documents stands here. -/
def atDocumentMark (p : Place) : Bool :=
  p.column == 0 && (p.startsWith "---" || p.startsWith "...") && p.blankAt 3

end Place

/-! ## Scanning scalars -/

/-- Blanks inside a scalar: those before the first line break, whether there was one, the break
itself and the breaks after it. -/
structure Gap where
  blanks : List Char := []
  hasBreak : Bool := false
  first : List Char := []
  more : List Char := []
  deriving Repr, Inhabited

namespace Gap

/-- What a gap contributes to a scalar: blanks stay, a single line break becomes a blank, and of
several the first is dropped. -/
def folded (g : Gap) : List Char :=
  if g.hasBreak then
    if g.first == ['\n'] then if g.more.isEmpty then [' '] else g.more
    else g.first ++ g.more
  else g.blanks

/-- Reads blanks and line breaks.  In a plain scalar a tab must not stand in for indentation less
than `indent`. -/
def read? (indent : Option Int) : Nat → Gap → Place → Option (Gap × Place)
  | 0, g, p => some (g, p)
  | n + 1, g, p =>
    match p.rest with
    | [] => some (g, p)
    | c :: _ =>
      if isBlank c then
        if c == '\t' && g.hasBreak && indent.any fun i => (p.column : Int) < i then none
        else if g.hasBreak then read? indent n g p.skip
        else read? indent n { g with blanks := g.blanks ++ [c] } p.skip
      else if isBreak c then
        let (b, q) := p.takeBreak
        if g.hasBreak then read? indent n { g with more := g.more ++ b } q
        else read? indent n { g with blanks := [], hasBreak := true, first := b } q
      else some (g, p)

end Gap

/-- The character for a letter after a backslash. -/
def simpleEscape? (c : Char) : Option Char :=
  match c with
  | '0' => some '\x00'
  | 'a' => some '\x07'
  | 'b' => some '\x08'
  | 't' | '\t' => some '\t'
  | 'n' => some '\n'
  | 'v' => some '\x0b'
  | 'f' => some '\x0c'
  | 'r' => some '\r'
  | 'e' => some '\x1b'
  | ' ' => some ' '
  | '"' => some '"'
  | '/' => some '/'
  | '\\' => some '\\'
  | 'N' => some (Char.ofNat 0x85)
  | '_' => some (Char.ofNat 0xA0)
  | 'L' => some (Char.ofNat 0x2028)
  | 'P' => some (Char.ofNat 0x2029)
  | _ => none

/-- How many hexadecimal digits an escape has. -/
def escapeDigits? (c : Char) : Option Nat :=
  match c with
  | 'x' => some 2
  | 'u' => some 4
  | 'U' => some 8
  | _ => none

def hexDigit? (c : Char) : Option Nat :=
  if c.isDigit then some (c.toNat - 48)
  else if 'a' ≤ c && c ≤ 'f' then some (c.toNat - 87)
  else if 'A' ≤ c && c ≤ 'F' then some (c.toNat - 55)
  else none

/-- A character by its number. -/
def readCode? : Nat → Nat → Place → Option (Char × Place)
  | 0, n, p =>
    if (0xD800 ≤ n && n ≤ 0xDFFF) || 0x10FFFF < n then none else some (Char.ofNat n, p)
  | k + 1, n, p =>
    match p.rest with
    | c :: _ => (hexDigit? c).bind fun d => readCode? k (16 * n + d) p.skip
    | [] => none

/-- An escape, its backslash included. -/
def readEscape? (p : Place) : Option (Char × Place) :=
  match p.rest with
  | _ :: c :: _ =>
    match simpleEscape? c with
    | some d => some (d, p.skip.skip)
    | none => (escapeDigits? c).bind fun n => readCode? n 0 p.skip.skip
  | _ => none

/-- The characters of a quoted scalar up to a blank, a line break or the closing quote.  The flag
tells whether a line break was escaped. -/
def readQuotedRun? (single : Bool) : Nat → List Char → Place → Option (List Char × Bool × Place)
  | 0, _, _ => none
  | n + 1, acc, p =>
    match p.rest with
    | [] => some (acc, false, p)
    | c :: cs =>
      if isBlankOrBreak c then some (acc, false, p)
      else if single && c == '\'' then
        match cs with
        | '\'' :: _ => readQuotedRun? single n ('\'' :: acc) p.skip.skip
        | _ => some (acc, false, p)
      else if !single && c == '"' then some (acc, false, p)
      else if !single && c == '\\' then
        if cs.head?.any isBreak then some (acc, true, p.skip.takeBreak.2)
        else (readEscape? p).bind fun (d, q) => readQuotedRun? single n (d :: acc) q
      else readQuotedRun? single n (c :: acc) p.skip

/-- The rest of a quoted scalar; `acc` holds its characters, latest first. -/
def readQuoted? (single : Bool) : Nat → List Char → Place → Option (String × Place)
  | 0, _, _ => none
  | n + 1, acc, p =>
    if p.atDocumentMark || p.rest.isEmpty then none
    else
      (readQuotedRun? single (p.rest.length + 1) acc p).bind fun (acc, broken, p) =>
        if p.rest.head? == some (if single then '\'' else '"') then
          some (String.ofList acc.reverse, p.skip)
        else
          (Gap.read? none (p.rest.length + 1) { hasBreak := broken } p).bind fun (g, p) =>
            readQuoted? single n (g.folded.reverse ++ acc) p

/-- Whether a plain scalar ends before the first of some characters. -/
def endsPlain (inFlow : Bool) (c : Char) (p : Place) : Bool :=
  (c == ':' && p.blankAt 1) || (inFlow && ",[]\x7b\x7d".toList.contains c)

/-- The characters of a plain scalar up to where it may end. -/
def readPlainRun? (inFlow : Bool) : Nat → List Char → Place → Option (List Char × Place)
  | 0, _, _ => none
  | n + 1, acc, p =>
    match p.rest with
    | [] => some (acc, p)
    | c :: cs =>
      if isBlankOrBreak c then some (acc, p)
      else if inFlow && c == ':' && cs.head?.any fun d => ",?[]\x7b\x7d".toList.contains d then none
      else if endsPlain inFlow c p then some (acc, p)
      else readPlainRun? inFlow n (c :: acc) p.skip

/-- The rest of a plain scalar.  `acc` holds its characters, latest first, and `gap` the blanks
after them, which count only if it goes on.  The flag tells whether a line break ends it. -/
def readPlain? (inFlow : Bool) (indent : Int) :
    Nat → List Char → Gap → Place → Option (String × Bool × Place)
  | 0, _, _, _ => none
  | n + 1, acc, gap, p =>
    let finish := some (String.ofList acc.reverse, gap.hasBreak, p)
    if p.atDocumentMark || p.rest.head? == some '#' then finish
    else
      (readPlainRun? inFlow (p.rest.length + 1) [] p).bind fun (run, q) =>
        let (acc, gap) :=
          if run.isEmpty then (acc, gap) else (run ++ gap.folded.reverse ++ acc, {})
        let finish := some (String.ofList acc.reverse, gap.hasBreak, q)
        if !(q.rest.head?.any isBlankOrBreak) then finish
        else
          (Gap.read? (some indent) (q.rest.length + 1) gap q).bind fun (gap, r) =>
            if !inFlow && (r.column : Int) < indent then
              some (String.ofList acc.reverse, gap.hasBreak, r)
            else readPlain? inFlow indent n acc gap r

/-! ## Block scalars -/

/-- What becomes of the line breaks at the end of a block scalar. -/
inductive Chomp where
  | strip
  | clip
  | keep
  deriving DecidableEq, Repr, Inhabited

def chomp? (c : Char) : Option Chomp :=
  if c == '+' then some .keep else if c == '-' then some .strip else none

/-- The indicators of a block scalar, in either order: the indentation, zero if it is not told, and
the treatment of the end. -/
def readHeader? (p : Place) : Option (Nat × Chomp × Place) :=
  let digit (c : Char) := c.isDigit
  match p.rest with
  | [] => some (0, .clip, p)
  | c :: cs =>
    match chomp? c with
    | some chomp =>
      match cs with
      | d :: _ =>
        if digit d then if d == '0' then none else some (d.toNat - 48, chomp, p.skip.skip)
        else some (0, chomp, p.skip)
      | [] => some (0, chomp, p.skip)
    | none =>
      if digit c then
        if c == '0' then none
        else
          match cs.head?.bind chomp? with
          | some chomp => some (c.toNat - 48, chomp, p.skip.skip)
          | none => some (c.toNat - 48, .clip, p.skip)
      else some (0, .clip, p)

/-- Reads empty lines, and the indentation of the line after them.  While the indentation is not
known, which is told by zero, the deepest one counts. -/
def readEmptyLines? (indent : Nat) :
    Nat → Nat → List Char → Place → Option (Nat × List Char × Place)
  | 0, deepest, breaks, p => some (deepest, breaks, p)
  | n + 1, deepest, breaks, p =>
    let spaces := p.rest.takeWhile (· == ' ')
    let eaten := if indent == 0 then spaces.length else min spaces.length (indent - p.column)
    let q := p.skipN eaten
    let deepest := max deepest q.column
    if (indent == 0 || q.column < indent) && q.rest.head? == some '\t' then none
    else if q.rest.head?.any isBreak then
      let (b, r) := q.takeBreak
      readEmptyLines? indent n deepest (breaks ++ b) r
    else some (deepest, breaks, q)

/-- What was read of a block scalar. -/
structure BlockText where
  /-- The text so far, latest first. -/
  text : List Char := []
  /-- The line break after the latest line. -/
  lineEnd : List Char := []
  /-- The line breaks of empty lines after it. -/
  emptyLines : List Char := []
  /-- Whether the latest line begins with a blank. -/
  startsBlank : Bool := false

/-- The lines of a block scalar. -/
def readLines? (literal : Bool) (indent : Nat) : Nat → BlockText → Place → Option (BlockText × Place)
  | 0, _, _ => none
  | n + 1, b, p =>
    if p.column != indent || p.rest.isEmpty then some (b, p)
    else
      let blank := p.rest.head?.any isBlank
      let joint :=
        if !literal && b.lineEnd == ['\n'] && !b.startsBlank && !blank then
          if b.emptyLines.isEmpty then [' '] else []
        else b.lineEnd
      let (line, q) := p.takeWhile fun c => !isBreak c
      let (lineEnd, q) := q.takeBreak
      (readEmptyLines? indent (q.rest.length + 1) 0 [] q).bind fun (_, emptyLines, r) =>
        readLines? literal indent n
          ⟨line.reverse ++ (joint ++ b.emptyLines).reverse ++ b.text, lineEnd, emptyLines, blank⟩ r

/-- A block scalar after its first indicator.  `outer` is the indentation around it. -/
def readBlock? (literal : Bool) (outer : Int) (p : Place) : Option (String × Place) :=
  (readHeader? p).bind fun (increment, chomp, p) =>
    let p := p.dropWhile isBlank
    let p := if p.rest.head? == some '#' then p.dropWhile fun c => !isBreak c else p
    if !p.rest.isEmpty && !(p.rest.head?.any isBreak) then none
    else
      let p := p.takeBreak.2
      let told := if increment == 0 then 0 else ((max outer 0) + increment).toNat
      (readEmptyLines? told (p.rest.length + 1) 0 [] p).bind fun (deepest, emptyLines, p) =>
        let indent := if told != 0 then told else max (max deepest (outer + 1).toNat) 1
        (readLines? literal indent (p.rest.length + 1) { emptyLines := emptyLines } p).map
          fun (b, p) =>
            let tail := match chomp with
              | .strip => []
              | .clip => b.lineEnd
              | .keep => b.lineEnd ++ b.emptyLines
            (String.ofList (b.text.reverse ++ tail), p)

/-! ## Names, tags and directives -/

/-- The name of an anchor or an alias, after its indicator. -/
def readName? (p : Place) : Option (String × Place) :=
  let (name, q) := p.takeWhile isNameChar
  if name.isEmpty || !(q.endsAt 0 fun c => isBlankOrBreak c || "?:,]\x7d%@`".toList.contains c) then
    none
  else some (String.ofList name, q)

/-- A handle of a tag: an exclamation mark, and a name between two of them. -/
def readHandle? (p : Place) : Option (String × Place) :=
  match p.rest with
  | '!' :: _ =>
    let (name, q) := p.skip.takeWhile isNameChar
    if q.rest.head? == some '!' then some (String.ofList ('!' :: name ++ ['!']), q.skip)
    else some (String.ofList ('!' :: name), q)
  | _ => none

/-- Bytes written by number inside a tag, as long as they make up characters. -/
def readTagBytes : Nat → List UInt8 → Place → Option (List UInt8 × Place)
  | 0, _, _ => none
  | n + 1, acc, p =>
    match p.rest with
    | '%' :: a :: b :: _ =>
      match hexDigit? a, hexDigit? b with
      | some x, some y => readTagBytes n (UInt8.ofNat (16 * x + y) :: acc) (p.skipN 3)
      | _, _ => none
    | '%' :: _ => none
    | _ => some (acc.reverse, p)

/-- The characters of a tag; `acc` holds them, latest first. -/
def readTagText? (verbatim : Bool) : Nat → List Char → Place → Option (List Char × Place)
  | 0, _, _ => none
  | n + 1, acc, p =>
    match p.rest with
    | '%' :: _ =>
      (readTagBytes (p.rest.length + 1) [] p).bind fun (bytes, q) =>
        (String.fromUTF8? ⟨bytes.toArray⟩).bind fun s =>
          readTagText? verbatim n (s.toList.reverse ++ acc) q
    | c :: _ =>
      if isTagChar verbatim c then readTagText? verbatim n (c :: acc) p.skip
      else some (acc.reverse, p)
    | [] => some (acc.reverse, p)

/-- A tag between angle brackets, after its exclamation mark. -/
def readVerbatimTag? (p : Place) : Option (Token × Place) :=
  (readTagText? true (p.rest.length + 1) [] p.skip).bind fun (text, q) =>
    if text.isEmpty || q.rest.head? != some '>' then none
    else some (.tag "" (String.ofList text), q.skip)

/-- A tag with or without a handle. -/
def readShortTag? (p : Place) : Option (Token × Place) :=
  (readHandle? p).bind fun (handle, q) =>
    if 1 < handle.length && handle.endsWith "!" then
      (readTagText? false (q.rest.length + 1) [] q).bind fun (text, r) =>
        if text.isEmpty then none else some (.tag handle (String.ofList text), r)
    else
      (readTagText? false (q.rest.length + 1) [] q).map fun (text, r) =>
        let suffix := String.ofList (handle.toList.drop 1 ++ text)
        (if suffix.isEmpty then .tag "" "!" else .tag "!" suffix, r)

/-- A tag. -/
def readTag? (inFlow : Bool) (p : Place) : Option (Token × Place) :=
  (if p.rest[1]? == some '<' then readVerbatimTag? p.skip else readShortTag? p).bind fun (t, q) =>
    if (inFlow && q.rest.head? == some ',') || q.blankAt 0 then some (t, q) else none

/-- A number of a version, of at most nine digits. -/
def readVersionNumber? (p : Place) : Option (Nat × Place) :=
  let (ds, q) := p.takeWhile Char.isDigit
  if ds.isEmpty || 9 < ds.length then none
  else some (ds.foldl (fun n c => 10 * n + (c.toNat - 48)) 0, q)

/-- The contents of a directive. -/
def readDirectiveBody? (name : String) (p : Place) : Option (Token × Place) :=
  match name with
  | "YAML" =>
    (readVersionNumber? (p.dropWhile isBlank)).bind fun (major, q) =>
      if q.rest.head? != some '.' then none
      else (readVersionNumber? q.skip).map fun (minor, r) => (.versionDirective major minor, r)
  | "TAG" =>
    (readHandle? (p.dropWhile isBlank)).bind fun (handle, q) =>
      if (handle != "!" && !handle.endsWith "!") || !(q.rest.head?.any isBlank) then none
      else
        let q := q.dropWhile isBlank
        (readTagText? true (q.rest.length + 1) [] q).bind fun (text, r) =>
          if text.isEmpty || !r.blankAt 0 then none
          else some (.tagDirective handle (String.ofList text), r)
  | _ => none

/-- A directive, with the rest of its line. -/
def readDirective? (p : Place) : Option (Token × Place) :=
  let (name, q) := p.skip.takeWhile isNameChar
  if name.isEmpty || !q.blankAt 0 then none
  else
    (readDirectiveBody? (String.ofList name) q).bind fun (t, r) =>
      let r := r.dropWhile isBlank
      let r := if r.rest.head? == some '#' then r.dropWhile fun c => !isBreak c else r
      if r.rest.isEmpty || r.rest.head?.any isBreak then some (t, r.takeBreak.2) else none

/-! ## Scanning -/

/-- Where a key may have begun. -/
structure KeyMark where
  /-- Whether what begins there has to be a key. -/
  required : Bool
  /-- The number of tokens before it. -/
  tokens : Nat
  place : Place
  deriving Inhabited

/-- The state of the scanner. -/
structure Scan where
  place : Place
  tokens : Array Token := #[]
  indent : Int := -1
  /-- The indentations around, the innermost first. -/
  outer : List Int := []
  /-- Where a key may have begun, for each level of brackets, the innermost first. -/
  keys : List (Option KeyMark) := [none]
  keyAllowed : Bool := true
  deriving Inhabited

namespace Scan

def inFlow (s : Scan) : Bool := 1 < s.keys.length

def push (s : Scan) (t : Token) : Scan := { s with tokens := s.tokens.push t }

/-- Puts a token in front of those after the first `n`. -/
def insert (s : Scan) (n : Nat) (t : Token) : Scan :=
  { s with tokens := (s.tokens.extract 0 n).push t ++ s.tokens.extract n s.tokens.size }

/-- Ends the blocks that are indented deeper than the column. -/
def unroll (column : Int) : Nat → Scan → Scan
  | 0, s => s
  | n + 1, s =>
    if s.inFlow || s.indent ≤ column then s
    else unroll column n { s.push .blockEnd with indent := s.outer.headD (-1), outer := s.outer.tail }

def unrollTo (s : Scan) (column : Int) : Scan := unroll column (s.outer.length + 1) s

/-- Begins a block if the column is deeper than the indentation; its token goes after the first `n`
tokens, or at the end. -/
def roll (s : Scan) (column : Nat) (n : Option Nat) (t : Token) : Scan :=
  if s.inFlow || (column : Int) ≤ s.indent then s
  else
    let s := { s with outer := s.indent :: s.outer, indent := column }
    match n with
    | some n => s.insert n t
    | none => s.push t

/-- Gives up the key that may have begun at this level, which must not be required. -/
def dropKey? (s : Scan) : Option Scan :=
  match s.keys with
  | some k :: ks => if k.required then none else some { s with keys := none :: ks }
  | _ => some s

/-- Remembers that a key may begin here. -/
def markKey? (s : Scan) : Option Scan :=
  if s.keyAllowed then
    let required := !s.inFlow && s.indent == (s.place.column : Int)
    s.dropKey?.map fun s =>
      { s with keys := some ⟨required, s.tokens.size, s.place⟩ :: s.keys.tail }
  else some s

/-- A key is on one line and not too long; the marks that no longer can be keys are dropped. -/
def dropStaleKeys? (s : Scan) : Option Scan :=
  let isStale (k : KeyMark) : Bool :=
    k.place.line < s.place.line || k.place.index + 1024 < s.place.index
  if s.keys.any fun k => k.any fun k => k.required && isStale k then none
  else some { s with keys := s.keys.map fun k => k.filter fun k => !isStale k }

/-- Skips blanks, comments and line breaks. -/
def skipToToken : Nat → Scan → Scan
  | 0, s => s
  | n + 1, s =>
    let p := if s.place.index == 0 && s.place.rest.head? == some (Char.ofNat 0xFEFF) then s.place.skip
      else s.place
    let p := p.dropWhile fun c => c == ' ' || ((s.inFlow || !s.keyAllowed) && c == '\t')
    let p := if p.rest.head? == some '#' then p.dropWhile fun c => !isBreak c else p
    if p.rest.head?.any isBreak then
      skipToToken n { s with place := p.takeBreak.2, keyAllowed := s.keyAllowed || !s.inFlow }
    else { s with place := p }

/-- A token of one character. -/
def single (s : Scan) (t : Token) (keyAllowed : Bool) : Scan :=
  { s.push t with place := s.place.skip, keyAllowed := keyAllowed }

/-- A mark between documents. -/
def documentMark? (s : Scan) (t : Token) : Option Scan :=
  (s.unrollTo (-1)).dropKey?.map fun s =>
    { s.push t with place := s.place.skipN 3, keyAllowed := false }

def directive? (s : Scan) : Option Scan :=
  (s.unrollTo (-1)).dropKey?.bind fun s =>
    (readDirective? s.place).map fun (t, p) => { s.push t with place := p, keyAllowed := false }

def openFlow? (s : Scan) (t : Token) : Option Scan :=
  s.markKey?.map fun s => { s.single t true with keys := none :: s.keys }

def closeFlow? (s : Scan) (t : Token) : Option Scan :=
  s.dropKey?.map fun s =>
    { s.single t false with keys := if s.inFlow then s.keys.tail else s.keys }

def flowEntry? (s : Scan) : Option Scan := s.dropKey?.map fun s => s.single .flowEntry true

def blockEntry? (s : Scan) : Option Scan :=
  if !s.inFlow && !s.keyAllowed then none
  else
    (s.roll s.place.column none .blockSequence).dropKey?.map fun s => s.single .blockEntry true

def key? (s : Scan) : Option Scan :=
  if !s.inFlow && !s.keyAllowed then none
  else
    (s.roll s.place.column none .blockMapping).dropKey?.map fun s => s.single .key (!s.inFlow)

/-- The value of a key.  If a key began on this level, the tokens that make it one are put in front
of it now. -/
def value? (s : Scan) : Option Scan :=
  match s.keys with
  | some k :: ks =>
    let s := { s with keys := none :: ks }
    let s := (s.insert k.tokens .key).roll k.place.column (some k.tokens) .blockMapping
    some (s.single .value false)
  | _ =>
    if !s.inFlow && !s.keyAllowed then none
    else some ((s.roll s.place.column none .blockMapping).single .value (!s.inFlow))

/-- A token that may be a key and is not followed by another. -/
def leaf? (s : Scan) (read : Scan → Option (Token × Place)) : Option Scan :=
  s.markKey?.bind fun s =>
    (read s).map fun (t, p) => { s.push t with place := p, keyAllowed := false }

def blockScalar? (s : Scan) (literal : Bool) : Option Scan :=
  s.dropKey?.bind fun s =>
    (readBlock? literal s.indent s.place.skip).map fun (text, p) =>
      { s.push (.scalar text .block) with place := p, keyAllowed := true }

/-- A plain scalar; after one that a line break ends, a key may follow. -/
def plainScalar? (s : Scan) : Option Scan :=
  s.markKey?.bind fun s =>
    (readPlain? s.inFlow (s.indent + 1) (s.place.rest.length + 1) [] {} s.place).map
      fun (text, broken, p) =>
        { s.push (.scalar text .plain) with place := p, keyAllowed := broken }

/-- Whether a plain scalar may begin here. -/
def startsPlain (s : Scan) (c : Char) : Bool :=
  let p := s.place
  !(isBlankOrBreak c || "-?:,[]\x7b\x7d#&*!|>'\"%@`".toList.contains c)
    || (c == '-' && !(p.rest[1]?.any isBlank))
    || (!s.inFlow && (c == '?' || c == ':') && !p.blankAt 1)

/-- The next token that begins with the character. -/
def token? (s : Scan) (c : Char) : Option Scan :=
  let p := s.place
  if p.column == 0 && c == '%' then s.directive?
  else if p.atDocumentMark then s.documentMark? (if c == '-' then .documentStart else .documentEnd)
  else if c == '[' then s.openFlow? .flowSequence
  else if c == '\x7b' then s.openFlow? .flowMapping
  else if c == ']' then s.closeFlow? .flowSequenceEnd
  else if c == '\x7d' then s.closeFlow? .flowMappingEnd
  else if c == ',' then s.flowEntry?
  else if c == '-' && p.blankAt 1 then s.blockEntry?
  else if c == '?' && (s.inFlow || p.blankAt 1) then s.key?
  else if c == ':' && (s.inFlow || p.blankAt 1) then s.value?
  else if c == '*' then s.leaf? fun s => (readName? s.place.skip).map fun (n, p) => (.reference n, p)
  else if c == '&' then s.leaf? fun s => (readName? s.place.skip).map fun (n, p) => (.anchor n, p)
  else if c == '!' then s.leaf? fun s => readTag? s.inFlow s.place
  else if c == '|' && !s.inFlow then s.blockScalar? true
  else if c == '>' && !s.inFlow then s.blockScalar? false
  else if c == '\'' || c == '"' then
    s.leaf? fun s =>
      (readQuoted? (c == '\'') (s.place.rest.length + 1) [] s.place.skip).map fun (t, p) =>
        (.scalar t .quoted, p)
  else if s.startsPlain c then s.plainScalar?
  else none

/-- Scans to the end of the text. -/
def run? : Nat → Scan → Option (Array Token)
  | 0, _ => none
  | n + 1, s =>
    (skipToToken (s.place.rest.length + 1) s).dropStaleKeys?.bind fun s =>
      let s := s.unrollTo s.place.column
      match s.place.rest with
      | [] => (s.unrollTo (-1)).dropKey?.map Scan.tokens
      | c :: _ => (s.token? c).bind (run? n)

end Scan

/-- The text without a mark of its encoding. -/
def withoutMark : List Char → List Char
  | c :: cs => if c.toNat == 0xFEFF then cs else c :: cs
  | [] => []

/-- The tokens of a text. -/
def Token.scan? (text : String) : Option (List Token) :=
  let cs := withoutMark text.toList
  if cs.all isAllowed then
    (Scan.run? (cs.length + 2) { place := ⟨cs, 1, 0, 0⟩ }).map Array.toList
  else none

end RouteInventory.Yaml
