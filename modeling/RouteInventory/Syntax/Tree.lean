import RouteInventory.Syntax.Kind

/-!
# Syntax trees

A `Tree` is a node with its kind, its role in the parent, the stretch of source it covers and its
children in source order.  Comments are children like any other; `Tree.parts` are the children
that carry meaning (named and not a comment).

* `Tree.role?` finds the child that plays a role.
* `Tree.preorder` lists a tree and its named descendants, parents first.
-/

namespace RouteInventory

/-- A stretch of source: bytes `start` up to but not including `stop`, and the line and column
(both counted from one, the column in bytes) where it begins. -/
structure Span where
  start : Nat
  stop : Nat
  line : Nat
  col : Nat
  deriving DecidableEq, Repr, Inhabited

/-- `line:col`. -/
def Span.text (s : Span) : String := s!"{s.line}:{s.col}"

/-- What a node is, apart from its children. -/
structure Head where
  kind : Kind
  role : Option Role := none
  span : Span
  text : String
  deriving DecidableEq, Repr, Inhabited

/-- A node and its children, in source order. -/
inductive Tree where
  | node (head : Head) (children : List Tree)
  deriving Repr, Inhabited

namespace Tree

def head : Tree → Head
  | node h _ => h

def children : Tree → List Tree
  | node _ ts => ts

/-- The number of nodes. -/
def size : Tree → Nat
  | node _ ts => 1 + sizeAll ts
where
  sizeAll : List Tree → Nat
    | [] => 0
    | t :: ts => t.size + sizeAll ts

def kind (t : Tree) : Kind := t.head.kind

def span (t : Tree) : Span := t.head.span

def text (t : Tree) : String := t.head.text

/-- The line where the node begins. -/
def line (t : Tree) : Nat := t.span.line

def isNamed (t : Tree) : Bool := t.kind.isNamed

def isFunction (t : Tree) : Bool := t.kind.isFunction

/-- The same node in another role. -/
def withRole (r : Role) : Tree → Tree
  | node h ts => node { h with role := some r } ts

/-- The same node taken for another kind. -/
def withKind (k : Kind) : Tree → Tree
  | node h ts => node { h with kind := k } ts

/-- Named nodes that are not comments. -/
def isPart (t : Tree) : Bool := t.isNamed && t.kind != .comment

/-- The meaningful children: named, comments left out. -/
def parts (t : Tree) : List Tree := t.children.filter isPart

/-- The first child that plays the role. -/
def role? (t : Tree) (r : Role) : Option Tree :=
  t.children.find? fun c => c.head.role == some r

/-- The first meaningful child. -/
def firstPart? (t : Tree) : Option Tree := t.parts.head?

/-- Whether a bare token with this text is among the children. -/
def hasToken (t : Tree) (s : String) : Bool :=
  t.children.any fun c => c.kind == .token && c.text == s

theorem size_pos (t : Tree) : 0 < t.size := by
  cases t
  rw [size]
  omega

theorem size_lt_of_mem_children {t c : Tree} (h : c ∈ t.children) : c.size < t.size := by
  obtain ⟨hd, ts⟩ := t
  rw [size]
  have key : ∀ us : List Tree, c ∈ us → c.size ≤ size.sizeAll us := by
    intro us
    induction us with
    | nil => intro hc; cases hc
    | cons u us ih =>
      intro hc
      rw [size.sizeAll]
      rcases List.mem_cons.1 hc with rfl | hc
      · omega
      · have := ih hc
        omega
  have := key ts h
  omega

theorem mem_children_of_mem_parts {t c : Tree} (h : c ∈ t.parts) : c ∈ t.children :=
  (List.mem_filter.1 h).1

theorem mem_children_of_role? {t c : Tree} {r : Role} (h : t.role? r = some c) :
    c ∈ t.children :=
  List.mem_of_find?_eq_some h

theorem mem_parts_of_firstPart? {t c : Tree} (h : t.firstPart? = some c) : c ∈ t.parts :=
  List.mem_of_mem_head? h

/-- The tree and its named descendants, each before its own descendants. -/
def preorder : Tree → List Tree
  | node h ts => node h ts :: preorderAll ts
where
  preorderAll : List Tree → List Tree
    | [] => []
    | t :: ts => (if t.isNamed then t.preorder else []) ++ preorderAll ts

end Tree

end RouteInventory
