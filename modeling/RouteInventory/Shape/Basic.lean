/-!
# Shapes

A `Shape` describes the structure of a type, whatever syntax it came from.

* `Shape.beq` decides equality, and is the `DecidableEq` instance.
* `Shape.unionOf` builds a union: nested unions are flattened one level and repeated alternatives
  dropped.
* `Member.put` replaces a member of the same name and puts the new one last.
-/

namespace RouteInventory

/-- A named part of an object; `σ` is the type of shapes. -/
structure Member (σ : Type) where
  name : String
  shape : σ
  optional : Bool
  deriving DecidableEq, Repr, Inhabited

/-- The structure of a type. -/
inductive Shape where
  /-- A type of the language such as `string` or `null`. -/
  | primitive (name : String)
  /-- A literal type, as it is written out. -/
  | literal (text : String)
  | array (element : Shape)
  | union (variants : List Shape)
  /-- Members known; the name is that of an interface, alias or class. -/
  | object (name : Option String) (members : List (Member Shape))
  /-- A type that is not looked into, with the package that declares it if it is known. -/
  | named (name : String) (module : Option String) (args : List Shape)
  deriving Repr, Inhabited

namespace Shape

mutual
/-- Equality of shapes as a test. -/
def beq : Shape → Shape → Bool
  | primitive a, primitive b => a == b
  | literal a, literal b => a == b
  | array a, array b => beq a b
  | union as, union bs => beqAll as bs
  | object n ms, object o ns => n == o && beqMembers ms ns
  | named n m as, named o p bs => n == o && m == p && beqAll as bs
  | _, _ => false

/-- Equality of lists of shapes as a test. -/
def beqAll : List Shape → List Shape → Bool
  | [], [] => true
  | a :: as, b :: bs => beq a b && beqAll as bs
  | _, _ => false

/-- Equality of lists of members as a test. -/
def beqMembers : List (Member Shape) → List (Member Shape) → Bool
  | [], [] => true
  | ⟨n, s, o⟩ :: ms, ⟨n', s', o'⟩ :: ms' => n == n' && beq s s' && o == o' && beqMembers ms ms'
  | _, _ => false
end

mutual
theorem beq_iff : ∀ a b : Shape, beq a b = true ↔ a = b
  | primitive a, b => by cases b <;> simp [beq]
  | literal a, b => by cases b <;> simp [beq]
  | array a, b => by cases b <;> simp [beq, beq_iff a]
  | union as, b => by cases b <;> simp [beq, beqAll_iff as]
  | object n ms, b => by cases b <;> simp [beq, beqMembers_iff ms]
  | named n m as, b => by cases b <;> simp [beq, beqAll_iff as, and_assoc]

theorem beqAll_iff : ∀ as bs : List Shape, beqAll as bs = true ↔ as = bs
  | [], bs => by cases bs <;> simp [beqAll]
  | a :: as, bs => by cases bs <;> simp [beqAll, beq_iff a, beqAll_iff as]

theorem beqMembers_iff : ∀ ms ns : List (Member Shape), beqMembers ms ns = true ↔ ms = ns
  | [], ns => by cases ns <;> simp [beqMembers]
  | ⟨n, s, o⟩ :: ms, ns => by
    cases ns with
    | nil => simp [beqMembers]
    | cons m ns => cases m; simp [beqMembers, beq_iff s, beqMembers_iff ms, and_assoc]
end

instance : DecidableEq Shape := fun a b => decidable_of_iff _ (beq_iff a b)

def unknown : Shape := primitive "unknown"

def any : Shape := primitive "any"

/-- A name that is not looked into. -/
def ofName (name : String) : Shape := named name none []

/-- Shapes that say that there is no value. -/
def isNullish : Shape → Bool
  | primitive p => p == "null" || p == "undefined"
  | _ => false

/-- The declared or referenced name. -/
def name? : Shape → Option String
  | object n _ => n
  | named n _ _ => some n
  | _ => none

/-- The alternatives of a shape: those of a union, or the shape alone. -/
def alternatives : Shape → List Shape
  | union vs => vs
  | s => [s]

/-- Adds an alternative that is not there yet. -/
def addAlternative (acc : List Shape) (s : Shape) : List Shape :=
  if s ∈ acc then acc else acc ++ [s]

/-- The shape with the given alternatives. -/
def ofAlternatives : List Shape → Shape
  | [] => unknown
  | [s] => s
  | vs => union vs

/-- A union of shapes without repetitions, unions among them taken apart. -/
def unionOf (variants : List Shape) : Shape :=
  ofAlternatives ((variants.flatMap alternatives).foldl addAlternative [])

/-- What a promise or observable delivers; every other shape is delivered as it is. -/
def delivered : Shape → Shape
  | named "Promise" _ [s] => s.delivered
  | named "Observable" _ [s] => s.delivered
  | s => s

/-- The member of an object with the given name. -/
def member? (s : Shape) (name : String) : Option (Member Shape) :=
  match s with
  | object _ ms => ms.find? fun m => m.name == name
  | _ => none

end Shape

namespace Member

/-- Adds a member at the end; an earlier one of the same name is dropped. -/
def put (ms : List (Member Shape)) (m : Member Shape) : List (Member Shape) :=
  (ms.filter fun n => n.name != m.name) ++ [m]

/-- Adds several members, one after the other. -/
def putAll (ms more : List (Member Shape)) : List (Member Shape) := more.foldl put ms

end Member

end RouteInventory
