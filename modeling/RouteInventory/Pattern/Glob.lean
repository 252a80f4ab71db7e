import RouteInventory.Pattern.Regex

/-!
# Patterns of paths

In a pattern `?` stands for one byte and `*` for any number, separators included.  Two stars between
separators, or at an end, stand for any number of directories.  Brackets hold a class of bytes,
braces hold alternatives, and a backslash takes the meaning off the next character.

* `Glob.read?` reads a pattern.
* `Glob.fits` tells whether a whole path fits it.
-/

namespace RouteInventory

inductive Glob where
  | literal (c : Char)
  | anyByte
  | anything
  /-- `**/` at the beginning. -/
  | leadingDirs
  /-- `/**` at the end. -/
  | trailingDirs
  /-- `/**/` in between. -/
  | innerDirs
  | oneOf (negated : Bool) (ranges : List (Char × Char))
  | either (branches : List (List Glob))
  deriving Repr, Inhabited

namespace Glob

/-! ## Reading -/

/-- An open brace: its branches read so far, latest first, and what stands before it. -/
structure OpenBrace where
  branches : List (List Glob)
  before : List Glob
  deriving Inhabited

/-- What was read of a pattern: the branch being read, latest first, the open braces around it, and
the character before. -/
structure Reading where
  current : List Glob
  braces : List OpenBrace
  previous : Option Char
  deriving Inhabited

def Reading.push (r : Reading) (g : Glob) (last : Char) : Reading :=
  { r with current := g :: r.current, previous := some last }

/-- Extends the latest range of a class, which must not run backwards. -/
def extendRange? (c : Char) : List (Char × Char) → Option (List (Char × Char))
  | (a, _) :: rest => if c < a then none else some ((a, c) :: rest)
  | [] => none

/-- The rest of a class; `ranges` holds what was read, latest first, and `inRange` tells whether a
hyphen waits for the end of its range. -/
def readRanges : Bool → Bool → List (Char × Char) → List Char →
    Option (List (Char × Char) × List Char)
  | _, _, _, [] => none
  | isFirst, inRange, ranges, c :: cs =>
    if c == ']' && !isFirst then
      some ((if inRange then ('-', '-') :: ranges else ranges).reverse, cs)
    else if c == '-' && !isFirst && !inRange then readRanges false true ranges cs
    else if inRange then
      match extendRange? c ranges with
      | some rs => readRanges false false rs cs
      | none => none
    else readRanges false false ((c, c) :: ranges) cs

/-- A class after its opening bracket. -/
def readClass (cs : List Char) : Option (Glob × List Char) :=
  let (negated, cs) : Bool × List Char := match cs with
    | '!' :: rest | '^' :: rest => (true, rest)
    | _ => (false, cs)
  (readRanges true false [] cs).map fun (rs, rest) => (.oneOf negated rs, rest)

/-- Puts a run of directories in the place of the separator before it, unless there is one. -/
def Reading.directories (r : Reading) (g : Glob) (last : Char) : Reading :=
  match r.current with
  | .leadingDirs :: _ | .trailingDirs :: _ => { r with previous := some last }
  | _ :: rest => { r with current := g :: rest, previous := some last }
  | [] => { r with current := [g], previous := some last }

/-- Two stars that do not stand for directories. -/
def Reading.stars (r : Reading) : Reading := (r.push .anything '*').push .anything '*'

/-- What two stars stand for, with the rest after them. -/
def readStars (r : Reading) (cs : List Char) : Reading × List Char :=
  if r.current.isEmpty then
    match cs with
    | [] => (r.push .leadingDirs '*', [])
    | '/' :: rest => (r.push .leadingDirs '/', rest)
    | _ => (r.stars, cs)
  else
    let opens := r.previous == some '/'
      || (!r.braces.isEmpty && (r.previous == some ',' || r.previous == some '\x7b'))
    if !opens then (r.stars, cs)
    else
      match cs with
      | [] => (r.directories .trailingDirs '*', [])
      | '/' :: rest => (r.directories .innerDirs '/', rest)
      | c :: _ =>
        if (c == ',' || c == '\x7d') && !r.braces.isEmpty then
          (r.directories .trailingDirs '*', cs)
        else (r.stars, cs)

/-- Closes the latest brace. -/
def Reading.close? (r : Reading) : Option Reading :=
  match r.braces with
  | b :: rest =>
    some ⟨.either (r.current.reverse :: b.branches).reverse :: b.before, rest, some '\x7d'⟩
  | [] => none

/-- A comma begins another branch inside braces. -/
def Reading.comma (r : Reading) : Reading :=
  match r.braces with
  | b :: rest => ⟨[], { b with branches := r.current.reverse :: b.branches } :: rest, some ','⟩
  | [] => r.push (.literal ',') ','

/-- Reads the rest of a pattern. -/
def readFrom : Nat → Reading → List Char → Option (List Glob)
  | 0, _, _ => none
  | _ + 1, r, [] => if r.braces.isEmpty then some r.current.reverse else none
  | n + 1, r, c :: cs =>
    match c with
    | '?' => readFrom n (r.push .anyByte '?') cs
    | '*' =>
      match cs with
      | '*' :: rest =>
        let (r, rest) := readStars r rest
        readFrom n r rest
      | _ => readFrom n (r.push .anything '*') cs
    | '[' => (readClass cs).bind fun (g, rest) => readFrom n (r.push g ']') rest
    | '\x7b' => readFrom n ⟨[], ⟨[], r.current⟩ :: r.braces, some '\x7b'⟩ cs
    | '\x7d' => r.close?.bind fun r => readFrom n r cs
    | ',' => readFrom n r.comma cs
    | '\\' =>
      match cs with
      | d :: rest => readFrom n (r.push (.literal d) d) rest
      | [] => none
    | c => readFrom n (r.push (.literal c) c) cs

/-- Reads a whole pattern. -/
def read? (text : String) : Option (List Glob) :=
  readFrom (text.length + 1) ⟨[], [], none⟩ text.toList

/-! ## Matching -/

/-- The bytes of a character. -/
def bytesOf (c : Char) : List Nat := c.toString.toUTF8.toList.map UInt8.toNat

def byte (n : Nat) : Regex := .char (.range n n)

def slash : Regex := byte 47

def anyByteRegex : Regex := .char (.range 0 255)

def anythingRegex : Regex := .repeated anyByteRegex 0 none

/-- The bytes that a range of a class stands for.  Of characters of several bytes, each byte counts
by itself, and the range runs between the two bytes that meet. -/
def rangeBytes (a b : Char) : List (Nat × Nat) :=
  if a == b then (bytesOf a).map fun n => (n, n)
  else
    let left := bytesOf a
    let right := bytesOf b
    left.dropLast.map (fun n => (n, n)) ++ [(left.getLastD 0, right.headD 0)]
      ++ right.tail.map fun n => (n, n)

/-- The class of bytes of some ranges. -/
def classSet (negated : Bool) (ranges : List (Char × Char)) : CharSet :=
  let s := CharSet.ranges (ranges.flatMap fun r => rangeBytes r.1 r.2)
  if negated then .compl s else s

mutual
/-- What a part of a pattern matches, as an expression over bytes; there is none if the part stands
for nothing at all. -/
def regex? : Glob → Option Regex
  | literal c => some (.concat ((bytesOf c).map byte))
  | anyByte => some anyByteRegex
  | anything => some anythingRegex
  | leadingDirs => some (.either [.repeated slash 0 (some 1), .concat [anythingRegex, slash]])
  | trailingDirs => some (.concat [slash, anythingRegex])
  | innerDirs => some (.either [slash, .concat [slash, anythingRegex, slash]])
  | oneOf negated ranges => some (.char (classSet negated ranges))
  | either branches =>
    match branchRegexes branches with
    | [] => none
    | rs => some (.either rs)

/-- What the parts of a pattern match one after another. -/
def partRegexes : List Glob → List Regex
  | [] => []
  | g :: gs => (regex? g).toList ++ partRegexes gs

/-- What the branches match, those left out that stand for nothing. -/
def branchRegexes : List (List Glob) → List Regex
  | [] => []
  | b :: bs =>
    match partRegexes b with
    | [] => branchRegexes bs
    | rs => .concat rs :: branchRegexes bs
end

/-- The expression for a whole pattern. -/
def toRegex (pattern : List Glob) : Regex :=
  match pattern with
  | [leadingDirs] => .concat []
  | _ => .concat ([.look .start] ++ partRegexes pattern ++ [.look .stop])

/-- A text as its bytes, each as a character. -/
def byteText (s : String) : String := String.ofList (s.toUTF8.toList.map fun b => Char.ofNat b.toNat)

/-- Whether a whole path fits the pattern. -/
def fits (pattern : List Glob) (path : String) : Bool := (toRegex pattern).occursIn (byteText path)

end Glob

end RouteInventory
