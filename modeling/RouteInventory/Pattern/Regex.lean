import RouteInventory.Pattern.CharSet

/-!
# Regular expressions

`Regex.occursIn` tells whether a text has a part that fits an expression.  Matching carries the set
of positions that the expression can lead to from a set of positions; a repetition that has no upper
bound is followed until no new position turns up, which takes no more rounds than the text has
positions.
-/

namespace RouteInventory

/-- Conditions on a position between two characters. -/
inductive Look where
  | start
  | stop
  | lineStart (crlf : Bool)
  | lineStop (crlf : Bool)
  | wordEdge (ascii : Bool)
  | noWordEdge (ascii : Bool)
  | wordStart (ascii : Bool)
  | wordStop (ascii : Bool)
  | halfWordStart (ascii : Bool)
  | halfWordStop (ascii : Bool)
  deriving DecidableEq, Repr, Inhabited

inductive Regex where
  | empty
  | char (set : CharSet)
  | look (condition : Look)
  | concat (parts : List Regex)
  | either (branches : List Regex)
  | repeated (body : Regex) (least : Nat) (most : Option Nat)
  deriving Repr, Inhabited

namespace Look

/-- Word characters, for the edges of words. -/
def isWordAt (ascii : Bool) : Option Char → Bool
  | none => false
  | some c => if ascii then c.isAlphanum || c == '_' else Text.isWord c

/-- Whether a line may begin between two characters. -/
def beginsLine (crlf : Bool) (before after : Option Char) : Bool :=
  before == none || before == some '\n'
    || (crlf && before == some '\r' && after != some '\n')

/-- Whether a line may end between two characters. -/
def endsLine (crlf : Bool) (before after : Option Char) : Bool :=
  if crlf then
    after == none || after == some '\r' || (after == some '\n' && before != some '\r')
  else after == none || after == some '\n'

/-- Whether the condition holds between two characters. -/
def holds (l : Look) (before after : Option Char) : Bool :=
  match l with
  | start => before == none
  | stop => after == none
  | lineStart crlf => beginsLine crlf before after
  | lineStop crlf => endsLine crlf before after
  | wordEdge a => isWordAt a before != isWordAt a after
  | noWordEdge a => isWordAt a before == isWordAt a after
  | wordStart a => !isWordAt a before && isWordAt a after
  | wordStop a => isWordAt a before && !isWordAt a after
  | halfWordStart a => !isWordAt a before
  | halfWordStop a => !isWordAt a after

end Look

namespace Regex

/-- The character before a position. -/
def before? (text : Array Char) (i : Nat) : Option Char := if i == 0 then none else text[i - 1]?

/-- The positions of both lists, each once. -/
def joinPositions (xs ys : List Nat) : List Nat := xs ++ ys.filter fun y => !xs.contains y

/-- Takes a step `n` times, or until it changes nothing. -/
def iterate (step : List Nat → List Nat) : Nat → List Nat → List Nat
  | 0, ps => ps
  | n + 1, ps =>
    let qs := step ps
    if qs == ps then ps else iterate step n qs

/-- The positions reached by at most `n` steps; `reached` holds those of fewer steps. -/
def spread (step : List Nat → List Nat) : Nat → List Nat → List Nat → List Nat
  | 0, reached, _ => reached
  | n + 1, reached, latest =>
    let fresh := (step latest).filter fun p => !reached.contains p
    if fresh.isEmpty then reached else spread step n (reached ++ fresh) fresh

mutual
/-- The positions that the expression leads to from some positions. -/
def advance (text : Array Char) : Regex → List Nat → List Nat
  | empty, ps => ps
  | char set, ps =>
    ps.filterMap fun i => (text[i]?).bind fun c => if set.has c.toNat then some (i + 1) else none
  | look l, ps => ps.filter fun i => l.holds (before? text i) text[i]?
  | concat rs, ps => advanceAll text rs ps
  | either rs, ps => advanceSome text rs ps
  | repeated r least most, ps =>
    let first := iterate (fun qs => advance text r qs) least ps
    let rounds := match most with
      | some m => min (m - least) (text.size + 1)
      | none => text.size + 1
    spread (fun qs => advance text r qs) rounds first first

/-- One expression after another. -/
def advanceAll (text : Array Char) : List Regex → List Nat → List Nat
  | [], ps => ps
  | r :: rs, ps => advanceAll text rs (advance text r ps)

/-- Any one of several expressions. -/
def advanceSome (text : Array Char) : List Regex → List Nat → List Nat
  | [], _ => []
  | r :: rs, ps => joinPositions (advance text r ps) (advanceSome text rs ps)
end

/-- Whether some part of the text fits. -/
def occursIn (r : Regex) (text : String) : Bool :=
  let cs := text.toList.toArray
  !(advance cs r (List.range (cs.size + 1))).isEmpty

end Regex

end RouteInventory
