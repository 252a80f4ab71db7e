import RouteInventory.Text.Category
import RouteInventory.Text.Lowercase
import RouteInventory.Text.Word

/-!
# Sets of characters

`CharSet` is a set of characters built from runs by set operations, as the classes of a pattern are
written.  `CharSet.folded` closes a set under the difference between capitals and small letters.
-/

namespace RouteInventory

open Text

inductive CharSet where
  | runs (rs : List CharRun)
  | category (k : Category)
  | word
  | blank
  | union (parts : List CharSet)
  | inter (a b : CharSet)
  | diff (a b : CharSet)
  | symDiff (a b : CharSet)
  | compl (a : CharSet)
  | folded (a : CharSet)
  deriving Repr, Inhabited

namespace CharSet

/-- Letters with more than one small form, each with the one that the capital has. -/
def secondForms : List (Nat × Nat) :=
  [(181, 956), (383, 115), (837, 953), (962, 963), (976, 946), (977, 952), (981, 966), (982, 960),
    (1008, 954), (1009, 961), (1013, 949), (7296, 1074), (7297, 1076), (7298, 1086), (7299, 1089),
    (7300, 1090), (7301, 1090), (7302, 1098), (7303, 1123), (7304, 42571), (7835, 7777), (8126, 953),
    (8147, 912), (8163, 944), (64261, 64262)]

/-- The code point that stands for all forms of a letter. -/
def foldedForm (n : Nat) : Nat := (secondForms.lookup n).getD (shiftOf n caseRuns)

/-- The capital in a run that has the small form. -/
def capitalIn? (n : Nat) (r : CaseRun) : Option Nat :=
  let m := (n : Int) - r.shift
  if (r.first : Int) ≤ m && m ≤ r.last && (m.toNat - r.first) % r.step == 0 then some m.toNat
  else none

/-- All forms of a letter. -/
def forms (n : Nat) : List Nat :=
  let f := foldedForm n
  f :: caseRuns.filterMap (capitalIn? f) ++ (secondForms.filter fun e => e.2 == f).map Prod.fst

/-- The set of one character. -/
def single (c : Char) : CharSet := runs [⟨c.toNat, c.toNat, 1⟩]

/-- The characters from one to another. -/
def range (a b : Nat) : CharSet := runs [⟨a, b, 1⟩]

/-- Runs of step one. -/
def ranges (rs : List (Nat × Nat)) : CharSet := runs (rs.map fun r => ⟨r.1, r.2, 1⟩)

mutual
/-- Whether a code point is in the set. -/
def has : CharSet → Nat → Bool
  | runs rs, n => rs.any fun r => r.has n
  | category k, n => inCharRuns k.runs n
  | word, n => inRuns wordRuns n
  | blank, n => inRuns blankRuns n
  | union ss, n => hasSome ss n
  | inter a b, n => a.has n && b.has n
  | diff a b, n => a.has n && !b.has n
  | symDiff a b, n => a.has n != b.has n
  | compl a, n => !a.has n
  | folded a, n => (forms n).any fun m => a.has m

/-- Whether a code point is in one of the sets. -/
def hasSome : List CharSet → Nat → Bool
  | [], _ => false
  | s :: ss, n => s.has n || hasSome ss n
end

/-- The characters of several categories. -/
def categories (ks : List Category) : CharSet := union (ks.map category)

/-- Decimal digits of any script. -/
def digit : CharSet := category .decimalNumber

end CharSet

end RouteInventory
