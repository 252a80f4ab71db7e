import RouteInventory.Endpoint
import RouteInventory.Syntax.Cursor
import RouteInventory.Text.Number

/-!
# Bodies of handlers

What the responses of handlers have in common, whichever framework calls them: the nodes that count
as the handler's own, status codes as they are written, and that a code counts once per line.
-/

namespace RouteInventory

/-- A decimal number of at most 16 bits, as a status code is written. -/
def codeOfText? (text : String) : Option Nat :=
  let cs := text.toList
  if !cs.isEmpty && cs.all Char.isDigit then
    let n := Number.digitsValue cs
    if n < 65536 then some n else none
  else none

/-- Each code and line once, the first entry kept; `seen` holds those met before. -/
def keepFirst {α : Type} (key : α → Nat × Nat) : List (Nat × Nat) → List α → List α
  | _, [] => []
  | seen, x :: xs =>
    if key x ∈ seen then keepFirst key seen xs else x :: keepFirst key (key x :: seen) xs

/-- Responses with each code on a line once. -/
def Responses.distinct (r : Responses) : Responses :=
  ⟨keepFirst (fun s => (s.code, s.line)) [] r.success,
    keepFirst (fun f => (f.code, f.line)) [] r.errors⟩

/-- The nodes of a function's body that no further function encloses. -/
def Cursor.ownNodes (body : Cursor) : List Cursor :=
  (body.reach fun c => !c.isFunction).filter fun c => !c.isFunction

end RouteInventory
