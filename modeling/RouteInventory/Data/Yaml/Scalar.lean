import RouteInventory.Data.Json

/-!
# Plain scalars

What a scalar without quotes stands for: nothing, a truth value, a number or a text.  Digits after
a leading zero are a text, and so are the words that only older documents read as truth values.
-/

namespace RouteInventory.Yaml

/-- What a plain scalar stands for. -/
inductive Scalar where
  | null
  | bool (value : Bool)
  | int (value : Int)
  /-- An integer of more than 64 bits. -/
  | wide
  | real (value : JsonNumber)
  /-- An infinity, or not a number. -/
  | notFinite
  | text
  deriving DecidableEq, Repr, Inhabited

namespace Scalar

def isNull (s : String) : Bool := ["null", "Null", "NULL", "~"].contains s

def bool? (s : String) : Option Bool :=
  if ["true", "True", "TRUE"].contains s then some true
  else if ["false", "False", "FALSE"].contains s then some false
  else none

/-- A sign in front, and the rest. -/
def splitSign : List Char → Option Char × List Char
  | '+' :: cs => (some '+', cs)
  | '-' :: cs => (some '-', cs)
  | cs => (none, cs)

/-- Digits with a zero too many in front, which are a text. -/
def isZeroPadded (cs : List Char) : Bool :=
  match (splitSign cs).2 with
  | '0' :: d :: ds => (d :: ds).all Char.isDigit
  | _ => false

/-- The value of a digit in any base up to sixteen. -/
def digitValue? (base : Nat) (c : Char) : Option Nat :=
  (Json.hexValue? c).filter (· < base)

/-- The value of some digits, at least one. -/
def inBase? (base : Nat) (cs : List Char) : Option Nat :=
  if cs.isEmpty then none
  else cs.foldl (fun acc c => acc.bind fun n => (digitValue? base c).map fun d => base * n + d) (some 0)

/-- An integer without a sign, in the base that its beginning tells. -/
def magnitude? (cs : List Char) : Option Nat :=
  match cs with
  | '0' :: 'x' :: ds => inBase? 16 ds
  | '0' :: 'o' :: ds => inBase? 8 ds
  | '0' :: 'b' :: ds => inBase? 2 ds
  | _ => if isZeroPadded cs then none else inBase? 10 cs

/-- An integer with or without a sign. -/
def int? (cs : List Char) : Option Int :=
  match splitSign cs with
  | (some '-', ds) => (magnitude? ds).map fun n => -(n : Int)
  | (_, ds) => (magnitude? ds).map fun n => (n : Int)

/-- Integers by their size: of 64 bits, of 128 bits, or too large to count as integers. -/
def ofInt (n : Int) : Option Scalar :=
  if -0x8000000000000000 ≤ n && n < 0x10000000000000000 then some (int n)
  else if -0x80000000000000000000000000000000 ≤ n && n < 0x100000000000000000000000000000000 then
    some wide
  else none

/-- A decimal with a point or an exponent, if it is in range. -/
def real? (cs : List Char) : Option Scalar :=
  let (sign, ds) := splitSign cs
  match Number.ofText? (String.ofList ds) with
  | some .infinite | none => none
  | some x => some (real (.real (sign == some '-') x))

/-- The infinities, and what is not a number. -/
def isNotFinite (s : String) : Bool :=
  [".inf", ".Inf", ".INF", "+.inf", "+.Inf", "+.INF", "-.inf", "-.Inf", "-.INF", ".nan", ".NaN",
    ".NAN"].contains s

/-- An integer or a real number. -/
def number? (s : String) : Option Scalar :=
  let cs := s.toList
  ((int? cs).bind ofInt).or
    (if isZeroPadded cs then none else if isNotFinite s then some notFinite else real? cs)

/-- What a plain scalar stands for. -/
def ofText (s : String) : Scalar :=
  if s.isEmpty || isNull s then null
  else
    match bool? s with
    | some b => bool b
    | none => (number? s).getD text

end Scalar

end RouteInventory.Yaml
