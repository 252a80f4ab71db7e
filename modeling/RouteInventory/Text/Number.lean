/-!
# Numbers written in decimal

A `Number` is a non-negative binary floating-point value with 53 bits of precision, given by its
mantissa and its power of two.  All arithmetic is exact arithmetic on natural numbers.

* `Number.ofDecimal` rounds a decimal to the nearest value, a tie to the even mantissa.
* `Number.shortest` finds the fewest decimal digits that read back as the same value.
* `Number.text` writes them positionally, never with an exponent.
-/

namespace RouteInventory

/-- A non-negative number: `mantissa * 2 ^ power`, or a value too large to represent. -/
inductive Number where
  | finite (mantissa : Nat) (power : Int)
  | infinite
  deriving DecidableEq, Repr, Inhabited

namespace Number

/-- A non-negative fraction. -/
structure Fraction where
  num : Nat
  den : Nat

/-- `base ^ e` as a fraction, for any integer exponent. -/
def scale (base : Nat) (e : Int) : Fraction :=
  if 0 ≤ e then ⟨Nat.pow base e.toNat, 1⟩ else ⟨1, Nat.pow base (-e).toNat⟩

/-- The nearest natural number to `num / den`, a tie going to the even one. -/
def nearest (num den : Nat) : Nat :=
  let quotient := num / den
  let twice := 2 * (num % den)
  if twice < den then quotient
  else if twice = den then quotient + quotient % 2
  else quotient + 1

/-- The value nearest to a positive fraction. -/
def ofFraction (f : Fraction) : Number :=
  let estimate : Int := (f.num.log2 : Int) - (f.den.log2 : Int) - 53
  let at_ (q : Int) : Nat × Nat :=
    let s := scale 2 q
    (f.num * s.den, f.den * s.num)
  let fits (q : Int) : Bool := let (n, d) := at_ q; n < d * 0x20000000000000
  let q := if fits estimate then estimate else if fits (estimate + 1) then estimate + 1
    else estimate + 2
  let q := max q (-1074)
  let (n, d) := at_ q
  let m := nearest n d
  let (m, q) := if m = 0x20000000000000 then (0x10000000000000, q + 1) else (m, q)
  if 971 < q then infinite else finite m q

/-- The value nearest to `digits * 10 ^ exponent`. -/
def ofDecimal (digits : Nat) (exponent : Int) : Number :=
  let magnitude : Int := (Nat.toDigits 10 digits).length + exponent
  if digits = 0 || magnitude < -330 then finite 0 0
  else if 330 < magnitude then infinite
  else
    let s := scale 10 exponent
    ofFraction ⟨digits * s.num, s.den⟩

/-- The value of a run of decimal digits. -/
def digitsValue (cs : List Char) : Nat :=
  cs.foldl (fun n c => 10 * n + (c.toNat - '0'.toNat)) 0

/-- Reads the exponent of a decimal: nothing, or `e`, an optional sign and digits. -/
def readExponent : List Char → Option Int
  | [] => some 0
  | c :: cs =>
    if c == 'e' || c == 'E' then
      let (negative, ds) : Bool × List Char := match cs with
        | '-' :: ds => (true, ds)
        | '+' :: ds => (false, ds)
        | ds => (false, ds)
      if ds.isEmpty || !ds.all Char.isDigit then none
      else
        let n : Int := min (digitsValue ds) 1000000
        some (if negative then -n else n)
    else none

/-- Reads an unsigned decimal: digits with at most one point among them, at least one digit, and
an optional exponent. -/
def ofText? (text : String) : Option Number :=
  let cs := text.toList
  let whole := cs.takeWhile Char.isDigit
  let rest := cs.dropWhile Char.isDigit
  let (fraction, rest) : List Char × List Char := match rest with
    | '.' :: ds => (ds.takeWhile Char.isDigit, ds.dropWhile Char.isDigit)
    | _ => ([], rest)
  if whole.isEmpty && fraction.isEmpty then none
  else (readExponent rest).map fun e =>
    ofDecimal (digitsValue (whole ++ fraction)) (e - fraction.length)

/-! ## Shortest digits -/

/-- A decimal `digits * 10 ^ exponent`. -/
structure Decimal where
  digits : Nat
  exponent : Int
  deriving DecidableEq, Repr

/-- The least `k` with `num / den < 10 ^ k`, searched upwards from a bound. -/
def decimalSize (num den : Nat) : Nat → Int → Int
  | 0, k => k
  | n + 1, k =>
    let s := scale 10 k
    if num * s.den < s.num * den then k else decimalSize num den n (k + 1)

/-- The decimal with `n` significant digits that reads back as `m * 2 ^ q`, if there is one: of the
two neighbours on the grid the nearer that rounds to the value, in a tie the even one. -/
def withDigits? (m : Nat) (q : Int) (k : Int) (n : Nat) : Option Decimal :=
  let two := scale 2 q
  let num := m * two.num
  let den := two.den
  let step := scale 10 (k - n)
  let down := (num * step.den) / (den * step.num)
  let lowGap := if m = 0x10000000000000 && decide (-1074 < q) then 1 else 2
  let low := (4 * m - lowGap) * two.num
  let high := (4 * m + 2) * two.num
  let inside (c : Nat) : Bool :=
    let x := 4 * c * step.num * den
    let lo := low * step.den
    let hi := high * step.den
    if m % 2 = 0 then lo ≤ x && x ≤ hi else lo < x && x < hi
  let exponent := k - n
  match inside down, inside (down + 1) with
  | true, true =>
    let below := num * step.den - down * step.num * den
    let above := (down + 1) * step.num * den - num * step.den
    if below < above then some ⟨down, exponent⟩
    else if above < below then some ⟨down + 1, exponent⟩
    else some ⟨down + down % 2, exponent⟩
  | true, false => some ⟨down, exponent⟩
  | false, true => some ⟨down + 1, exponent⟩
  | false, false => none

/-- The fewest digits that read back as the positive value `m * 2 ^ q`. -/
def shortest (m : Nat) (q : Int) : Decimal :=
  let two := scale 2 q
  let k := decimalSize (m * two.num) two.den 700 (-330)
  ((List.range 17).findSome? fun i => withDigits? m q k (i + 1)).getD ⟨m * two.num / two.den, 0⟩

/-- Digits with the point where the exponent puts it. -/
def positional (d : Decimal) : String :=
  let digits := (Nat.toDigits 10 d.digits)
  let trimmed := (digits.reverse.dropWhile (· == '0')).reverse
  let dropped : Int := digits.length - trimmed.length
  let exponent := d.exponent + dropped
  let point : Int := trimmed.length + exponent
  if trimmed.isEmpty then "0"
  else if point ≤ 0 then
    "0." ++ String.ofList (List.replicate (-point).toNat '0' ++ trimmed)
  else if 0 ≤ exponent then
    String.ofList (trimmed ++ List.replicate exponent.toNat '0')
  else
    String.ofList (trimmed.take point.toNat) ++ "." ++ String.ofList (trimmed.drop point.toNat)

/-- The number in decimal, without an exponent. -/
def text : Number → String
  | infinite => "inf"
  | finite m q => if m = 0 then "0" else positional (shortest m q)

/-- The number as a natural number, if it is whole. -/
def toNat? : Number → Option Nat
  | infinite => none
  | finite m q =>
    let two := scale 2 q
    if m * two.num % two.den = 0 then some (m * two.num / two.den) else none

end Number

end RouteInventory
