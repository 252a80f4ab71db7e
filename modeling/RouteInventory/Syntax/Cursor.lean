import RouteInventory.Syntax.Tree

/-!
# Cursors

A `Cursor` is a node together with where it stands: the chain of its ancestors, each with the index
of the child that leads down.  Two nodes of one tree are the same node exactly if their `path`s
agree, whatever they look like.

* `Cursor.parent?`, `Cursor.children`, `Cursor.parts`, `Cursor.role?` move one step.
* `Cursor.reach` walks down in source order and may refuse to enter a node.
* `Cursor.unwrapped` strips parentheses and non-null marks from an expression.
-/

namespace RouteInventory

/-- One step on the way down to a node: the parent, and which of its children was taken. -/
structure Frame where
  parent : Tree
  index : Nat
  deriving Repr, Inhabited

/-- A node in its place; `above` holds the nearest ancestor first. -/
structure Cursor where
  focus : Tree
  above : List Frame := []
  deriving Repr, Inhabited

namespace Cursor

/-- The root of a tree, in its place. -/
def ofTree (t : Tree) : Cursor := ⟨t, []⟩

def kind (c : Cursor) : Kind := c.focus.kind

def text (c : Cursor) : String := c.focus.text

def span (c : Cursor) : Span := c.focus.span

/-- The line where the node begins. -/
def line (c : Cursor) : Nat := c.focus.line

def isFunction (c : Cursor) : Bool := c.focus.isFunction

/-- The child indices that lead here from the root, the last step first. -/
def path (c : Cursor) : List Nat := c.above.map Frame.index

def parent? (c : Cursor) : Option Cursor :=
  match c.above with
  | [] => none
  | f :: fs => some ⟨f.parent, fs⟩

/-- The child with the given index, which is taken on trust. -/
def down (c : Cursor) (t : Tree) (i : Nat) : Cursor := ⟨t, ⟨c.focus, i⟩ :: c.above⟩

def children (c : Cursor) : List Cursor :=
  c.focus.children.mapIdx fun i t => c.down t i

/-- The meaningful children: named, comments left out. -/
def parts (c : Cursor) : List Cursor := c.children.filter fun d => d.focus.isPart

def firstPart? (c : Cursor) : Option Cursor := c.parts.head?

/-- The first child that plays the role. -/
def role? (c : Cursor) (r : Role) : Option Cursor :=
  c.children.find? fun d => d.focus.head.role == some r

/-- The named siblings before this node, the nearest first. -/
def earlierSiblings (c : Cursor) : List Cursor :=
  match c.above with
  | [] => []
  | f :: fs =>
    (((⟨f.parent, fs⟩ : Cursor).children.take f.index).filter fun d => d.focus.isNamed).reverse

/-- The node itself, its parent, and so on up to the root. -/
def upward (c : Cursor) : List Cursor := c :: ancestors c.above
where
  ancestors : List Frame → List Cursor
    | [] => []
    | f :: fs => ⟨f.parent, fs⟩ :: ancestors fs

/-- The ancestors, nearest first. -/
def ancestors (c : Cursor) : List Cursor := upward.ancestors c.above

mutual
/-- The part of `reach` below one node. -/
def reachFrom (enter : Cursor → Bool) : Tree → List Frame → List Cursor
  | .node h ts, above =>
    let c : Cursor := ⟨.node h ts, above⟩
    c :: if enter c then reachAmong enter ts (.node h ts) above 0 else []

/-- The part of `reach` below a run of siblings that starts at child `i` of `parent`. -/
def reachAmong (enter : Cursor → Bool) : List Tree → Tree → List Frame → Nat → List Cursor
  | [], _, _, _ => []
  | t :: ts, parent, above, i =>
    (if t.isNamed then reachFrom enter t (⟨parent, i⟩ :: above) else [])
      ++ reachAmong enter ts parent above (i + 1)
end

/-- The node and its named descendants in source order, parents first; the descendants of a node
are left out if `enter` refuses the node. -/
def reach (enter : Cursor → Bool) (c : Cursor) : List Cursor := reachFrom enter c.focus c.above

/-- The node and all its named descendants, parents first. -/
def preorder (c : Cursor) : List Cursor := c.reach fun _ => true

/-- The nodes of one kind, from this node downwards, in source order. -/
def descendants (c : Cursor) (k : Kind) : List Cursor := c.preorder.filter fun d => d.kind == k

mutual
/-- `unwrapped` for a node given by its tree and its ancestors. -/
def unwrapFrom : Tree → List Frame → Cursor
  | .node h ts, above =>
    if h.kind == .parenthesizedExpression || h.kind == .nonNullExpression then
      (unwrapFirst ts (.node h ts) above 0).getD ⟨.node h ts, above⟩
    else ⟨.node h ts, above⟩

/-- The first meaningful one of a run of siblings, unwrapped. -/
def unwrapFirst : List Tree → Tree → List Frame → Nat → Option Cursor
  | [], _, _, _ => none
  | t :: ts, parent, above, i =>
    if t.isPart then some (unwrapFrom t (⟨parent, i⟩ :: above))
    else unwrapFirst ts parent above (i + 1)
end

/-- An expression without the parentheses and non-null marks around it. -/
def unwrapped (c : Cursor) : Cursor := unwrapFrom c.focus c.above

/-! ## Sizes -/

theorem focus_mem_children {c d : Cursor} (h : d ∈ c.children) : d.focus ∈ c.focus.children := by
  simp only [children, List.mem_mapIdx] at h
  obtain ⟨i, hi, rfl⟩ := h
  exact List.getElem_mem hi

theorem size_lt_of_mem_children {c d : Cursor} (h : d ∈ c.children) :
    d.focus.size < c.focus.size :=
  Tree.size_lt_of_mem_children (focus_mem_children h)

theorem size_lt_of_mem_parts {c d : Cursor} (h : d ∈ c.parts) : d.focus.size < c.focus.size :=
  size_lt_of_mem_children (List.mem_filter.1 h).1

theorem size_lt_of_role? {c d : Cursor} {r : Role} (h : c.role? r = some d) :
    d.focus.size < c.focus.size :=
  size_lt_of_mem_children (List.mem_of_find?_eq_some h)

mutual
theorem size_unwrapFrom_le (t : Tree) (above : List Frame) :
    (unwrapFrom t above).focus.size ≤ t.size := by
  obtain ⟨h, ts⟩ := t
  rw [unwrapFrom]
  split
  · cases hu : unwrapFirst ts (.node h ts) above 0 with
    | none => exact Nat.le_refl _
    | some d =>
      obtain ⟨u, hu', hd⟩ := exists_of_unwrapFirst ts (.node h ts) above 0 d hu
      exact Nat.le_trans hd (Nat.le_of_lt (Tree.size_lt_of_mem_children hu'))
  · exact Nat.le_refl _

theorem exists_of_unwrapFirst (ts : List Tree) (parent : Tree) (above : List Frame) (i : Nat)
    (d : Cursor) (h : unwrapFirst ts parent above i = some d) :
    ∃ u ∈ ts, d.focus.size ≤ u.size := by
  cases ts with
  | nil => simp [unwrapFirst] at h
  | cons t ts =>
    rw [unwrapFirst] at h
    split at h
    · cases h
      exact ⟨t, List.mem_cons_self, size_unwrapFrom_le t _⟩
    · obtain ⟨u, hu, hd⟩ := exists_of_unwrapFirst ts parent above (i + 1) d h
      exact ⟨u, List.mem_cons_of_mem _ hu, hd⟩
end

theorem size_unwrapped_le (c : Cursor) : c.unwrapped.focus.size ≤ c.focus.size :=
  size_unwrapFrom_le c.focus c.above

mutual
theorem size_le_of_mem_reachFrom (enter : Cursor → Bool) (t : Tree) (above : List Frame)
    (d : Cursor) (h : d ∈ reachFrom enter t above) : d.focus.size ≤ t.size := by
  obtain ⟨hd, ts⟩ := t
  rw [reachFrom] at h
  rcases List.mem_cons.1 h with rfl | h
  · exact Nat.le_refl _
  · split at h
    · obtain ⟨u, hu, hle⟩ := exists_of_mem_reachAmong enter ts (.node hd ts) above 0 d h
      exact Nat.le_trans hle (Nat.le_of_lt (Tree.size_lt_of_mem_children hu))
    · cases h

theorem exists_of_mem_reachAmong (enter : Cursor → Bool) (ts : List Tree) (parent : Tree)
    (above : List Frame) (i : Nat) (d : Cursor) (h : d ∈ reachAmong enter ts parent above i) :
    ∃ u ∈ ts, d.focus.size ≤ u.size := by
  cases ts with
  | nil => simp [reachAmong] at h
  | cons t ts =>
    rw [reachAmong] at h
    rcases List.mem_append.1 h with h | h
    · split at h
      · exact ⟨t, List.mem_cons_self, size_le_of_mem_reachFrom enter t _ d h⟩
      · cases h
    · obtain ⟨u, hu, hle⟩ := exists_of_mem_reachAmong enter ts parent above (i + 1) d h
      exact ⟨u, List.mem_cons_of_mem _ hu, hle⟩
end

theorem size_le_of_mem_reach {enter : Cursor → Bool} {c d : Cursor} (h : d ∈ c.reach enter) :
    d.focus.size ≤ c.focus.size :=
  size_le_of_mem_reachFrom enter c.focus c.above d h

end Cursor

/-- An expression without the parentheses and non-null marks around it. -/
def Tree.unwrapped (t : Tree) : Tree := (Cursor.ofTree t).unwrapped.focus

end RouteInventory
