import Mathlib
import RouteInventory.Proofs.CursorDescent
import RouteInventory.Shape.Resolve

/-!
# The expansion of types is bounded

A type may refer to itself in many ways: through a member, through an alias, through the types that
an interface extends.  Expansion ends all the same: a name is not expanded inside its own
expansion, and there is a last level.

`Shape.Way` follows a shape from its root downwards, with the declared names and the number of
layers that are passed.  `Shape.Bounded` says of every way that its names are new and its layers
few; each way to form a shape keeps this, and so does the resolver, level by level.

A field without a type that is initialized by an array has the shape `unknown[]` at whatever level
the class stands, also at the last one: this is one layer more than there are levels.

* `Resolve.Keeps` — work that leaves the stack of names as it was, with a property of its result.
* `Resolve.reads_shapeAt` — what every level reads is bounded, and the stack is left as it was.
-/

namespace RouteInventory

namespace Shape

/-! ## Ways through a shape -/

/-- The shapes that lie directly in a shape. -/
def parts : Shape → List Shape
  | primitive _ | literal _ => []
  | array s => [s]
  | union vs => vs
  | object _ ms => ms.map Member.shape
  | named _ _ args => args

/-- The name that an object was declared with. -/
def declared : Shape → List String
  | object n _ => n.toList
  | _ => []

/-- Objects, arrays and names with arguments are layers. -/
def layer : Shape → Nat
  | object _ _ | array _ | named _ _ (_ :: _) => 1
  | _ => 0

/-- A way from a shape down to a shape in it, both counted: the declared names on it, and the number
of its layers. -/
inductive Way : Shape → List String → Nat → Shape → Prop
  | stop (s : Shape) : Way s s.declared s.layer s
  | down {s part stop : Shape} {names : List String} {layers : Nat} :
    part ∈ s.parts → Way part names layers stop →
      Way s (s.declared ++ names) (s.layer + layers) stop

/-- On every way the names are new, none of them repeated, and there are no more layers than levels,
or one more, to the elements of an array that nothing is known of. -/
def Bounded (levels : Nat) (stack : List String) (s : Shape) : Prop :=
  ∀ names layers stop, Way s names layers stop →
    names.Nodup ∧ (∀ x ∈ names, x ∉ stack) ∧
      (layers ≤ levels ∨ layers = levels + 1 ∧ (stop = array unknown ∨ stop = unknown))

section
variable {n m : Nat} {stack : List String} {s t : Shape} {ms : List (Member Shape)}

theorem Bounded.mono (h : Bounded n stack s) (hnm : n ≤ m) : Bounded m stack s := by
  intro names layers stop hway
  obtain ⟨hnodup, hnew, hlayers⟩ := h names layers stop hway
  refine ⟨hnodup, hnew, ?_⟩
  rcases hlayers with hle | ⟨heq, hstop⟩
  · exact Or.inl (by omega)
  · by_cases hnm' : n = m
    · exact Or.inr ⟨hnm' ▸ heq, hstop⟩
    · exact Or.inl (by omega)

/-- With fewer names on the stack more names are new. -/
theorem Bounded.of_append (more : List String) (h : Bounded n (more ++ stack) s) :
    Bounded n stack s := by
  intro names layers stop hway
  obtain ⟨hnodup, hnew, hlayers⟩ := h names layers stop hway
  exact ⟨hnodup, fun x hx hmem => hnew x hx (List.mem_append_right more hmem), hlayers⟩

/-- What is bounded one level deeper makes up a layer. -/
theorem bounded_layer (hlayer : s.layer = 1) (hnodup : s.declared.Nodup)
    (hnew : ∀ x ∈ s.declared, x ∉ stack)
    (hparts : ∀ t ∈ s.parts, Bounded n (s.declared ++ stack) t) : Bounded (n + 1) stack s := by
  intro names layers stop hway
  cases hway with
  | stop => exact ⟨hnodup, hnew, Or.inl (by omega)⟩
  | @down _ part _ names layers hpart hway =>
    obtain ⟨hnodup', hnew', hlayers⟩ := hparts part hpart names layers stop hway
    refine ⟨?_, ?_, ?_⟩
    · refine List.nodup_append.2 ⟨hnodup, hnodup', fun x hx y hy hxy => ?_⟩
      exact hnew' y hy (List.mem_append_left stack (hxy ▸ hx))
    · intro x hx hmem
      rcases List.mem_append.1 hx with hx | hx
      · exact hnew x hx hmem
      · exact hnew' x hx (List.mem_append_right _ hmem)
    · rcases hlayers with hle | ⟨heq, hstop⟩
      · exact Or.inl (by omega)
      · exact Or.inr ⟨by omega, hstop⟩

/-- What is no layer is as bounded as its parts. -/
theorem bounded_of_layer_eq_zero (hlayer : s.layer = 0) (hdeclared : s.declared = [])
    (hparts : ∀ t ∈ s.parts, Bounded n stack t) : Bounded n stack s := by
  intro names layers stop hway
  cases hway with
  | stop =>
    rw [hdeclared, hlayer]
    exact ⟨List.nodup_nil, List.forall_mem_nil _, Or.inl (Nat.zero_le n)⟩
  | @down _ part _ names layers hpart hway =>
    rw [hdeclared, hlayer, Nat.zero_add]
    exact hparts part hpart names layers stop hway

theorem bounded_of_parts_eq_nil (hlayer : s.layer = 0) (hdeclared : s.declared = [])
    (hparts : s.parts = []) : Bounded n stack s :=
  bounded_of_layer_eq_zero hlayer hdeclared (hparts ▸ List.forall_mem_nil _)

theorem bounded_primitive (name : String) : Bounded n stack (primitive name) :=
  bounded_of_parts_eq_nil rfl rfl rfl

theorem bounded_literal (text : String) : Bounded n stack (literal text) :=
  bounded_of_parts_eq_nil rfl rfl rfl

theorem bounded_ofName (name : String) : Bounded n stack (ofName name) :=
  bounded_of_parts_eq_nil rfl rfl rfl

theorem bounded_array (h : Bounded n stack s) : Bounded (n + 1) stack (array s) :=
  bounded_layer rfl List.nodup_nil (List.forall_mem_nil _)
    (List.forall_mem_singleton.2 h)

theorem bounded_named {name : String} {module : Option String} {args : List Shape}
    (h : ∀ a ∈ args, Bounded n stack a) : Bounded (n + 1) stack (named name module args) := by
  cases args with
  | nil => exact bounded_of_parts_eq_nil rfl rfl rfl
  | cons a args => exact bounded_layer rfl List.nodup_nil (List.forall_mem_nil _) h

theorem bounded_union {vs : List Shape} :
    Bounded n stack (union vs) ↔ ∀ v ∈ vs, Bounded n stack v := by
  constructor
  · intro h v hv names layers stop hway
    have hunion := h _ _ _ (.down (s := union vs) hv hway)
    rwa [show (union vs).layer = 0 from rfl, Nat.zero_add] at hunion
  · intro h
    exact bounded_of_layer_eq_zero rfl rfl h

/-- An array that nothing is known of is a layer that no level stands for. -/
theorem bounded_array_unknown : Bounded n stack (array unknown) := by
  intro names layers stop hway
  have hone : 1 ≤ n ∨ 1 = n + 1 := by omega
  cases hway with
  | stop =>
    exact ⟨List.nodup_nil, List.forall_mem_nil _,
      hone.imp_right fun h => ⟨h, Or.inl rfl⟩⟩
  | down hpart hway =>
    cases List.mem_singleton.1 hpart
    cases hway with
    | stop =>
      exact ⟨List.nodup_nil, List.forall_mem_nil _,
        hone.imp_right fun h => ⟨h, Or.inr rfl⟩⟩
    | down hpart _ => exact absurd hpart List.not_mem_nil

theorem bounded_object {name : Option String} :
    Bounded (n + 1) stack (object name ms) ↔
      (∀ x ∈ name, x ∉ stack) ∧ ∀ m ∈ ms, Bounded n (name.toList ++ stack) m.shape := by
  constructor
  · intro h
    have hname : ∀ x ∈ name, x ∉ stack := fun x hx =>
      (h _ _ _ (.stop (object name ms))).2.1 x (Option.mem_toList.2 hx)
    refine ⟨hname, fun m hm names layers stop hway => ?_⟩
    have hpart : m.shape ∈ (object name ms).parts := List.mem_map_of_mem hm
    obtain ⟨hnodup, hnew, hlayers⟩ := h _ _ _ (.down hpart hway)
    obtain ⟨-, hnodup, hdisjoint⟩ := List.nodup_append.1 hnodup
    refine ⟨hnodup, ?_, ?_⟩
    · intro x hx hmem
      rcases List.mem_append.1 hmem with hmem | hmem
      · exact hdisjoint x hmem x hx rfl
      · exact hnew x (List.mem_append_right _ hx) hmem
    · have hlayer : (object name ms).layer = 1 := rfl
      rw [hlayer] at hlayers
      rcases hlayers with hle | ⟨heq, hstop⟩
      · exact Or.inl (by omega)
      · exact Or.inr ⟨by omega, hstop⟩
  · rintro ⟨hname, hms⟩
    refine bounded_layer rfl ?_ (fun x hx => hname x (Option.mem_toList.1 hx))
      (List.forall_mem_map.2 hms)
    cases name with
    | none => exact List.nodup_nil
    | some x => exact List.nodup_singleton x

/-! ## Forming shapes -/

theorem Bounded.members (h : Bounded (n + 1) stack s) {m : Member Shape} (hm : m ∈ s.members) :
    Bounded n stack m.shape := by
  cases s with
  | object name ms => exact Bounded.of_append _ ((bounded_object.1 h).2 m hm)
  | primitive | literal | array | union | named => exact absurd hm List.not_mem_nil

theorem Bounded.withOptional (h : Bounded (n + 1) stack s) (optional : Bool) :
    Bounded (n + 1) stack (s.withOptional optional) := by
  cases s with
  | object name ms =>
    obtain ⟨hname, hms⟩ := bounded_object.1 h
    exact bounded_object.2 ⟨hname, List.forall_mem_map.2 hms⟩
  | primitive | literal | array | union | named => exact h

theorem bounded_foldl_addAlternative {vs : List Shape} (hvs : ∀ v ∈ vs, Bounded n stack v) :
    ∀ acc : List Shape, (∀ v ∈ acc, Bounded n stack v) →
      ∀ v ∈ vs.foldl addAlternative acc, Bounded n stack v := by
  induction vs with
  | nil => exact fun _ hacc => hacc
  | cons v vs ih =>
    intro acc hacc
    obtain ⟨hv, hvs⟩ := List.forall_mem_cons.1 hvs
    refine ih hvs _ ?_
    unfold addAlternative
    split
    · exact hacc
    · exact List.forall_mem_append.2 ⟨hacc, List.forall_mem_singleton.2 hv⟩

theorem Bounded.alternatives (h : Bounded n stack s) : ∀ v ∈ s.alternatives, Bounded n stack v := by
  cases s with
  | union vs => exact bounded_union.1 h
  | primitive | literal | array | object | named => exact List.forall_mem_singleton.2 h

theorem bounded_unionOf {vs : List Shape} (h : ∀ v ∈ vs, Bounded n stack v) :
    Bounded n stack (unionOf vs) := by
  have hflat : ∀ v ∈ vs.flatMap alternatives, Bounded n stack v := by
    intro v hv
    obtain ⟨w, hw, hv⟩ := List.mem_flatMap.1 hv
    exact (h w hw).alternatives v hv
  have hall := bounded_foldl_addAlternative hflat [] (List.forall_mem_nil _)
  unfold unionOf ofAlternatives
  split
  · exact bounded_primitive _
  · rename_i heq
    exact List.forall_mem_singleton.1 (heq ▸ hall)
  · exact bounded_union.2 hall

theorem mem_putAll {more : List (Member Shape)} {m : Member Shape}
    (h : m ∈ Member.putAll ms more) : m ∈ ms ∨ m ∈ more := by
  induction more generalizing ms with
  | nil => exact Or.inl h
  | cons m' more ih =>
    rcases ih h with h | h
    · rcases List.mem_append.1 h with h | h
      · exact Or.inl (List.mem_filter.1 h).1
      · exact Or.inr (List.mem_singleton.1 h ▸ List.mem_cons_self)
    · exact Or.inr (List.mem_cons_of_mem m' h)

/-- The members that an intersection combines are among those of its parts. -/
theorem mem_of_mergeObjects? {parts : List Shape} (h : mergeObjects? parts = some ms)
    {m : Member Shape} (hm : m ∈ ms) : ∃ s ∈ parts, m ∈ s.members := by
  induction parts using List.reverseRecOn generalizing ms with
  | nil =>
    cases h
    exact absurd hm List.not_mem_nil
  | append_singleton parts s ih =>
    unfold mergeObjects? at h
    rw [List.foldl_append, List.foldl_cons, List.foldl_nil] at h
    split at h
    · rename_i before more hbefore
      cases h
      rcases mem_putAll hm with hm | hm
      · obtain ⟨t, ht, hm⟩ := ih hbefore hm
        exact ⟨t, List.mem_append_left _ ht, hm⟩
      · exact ⟨_, List.mem_append_right _ List.mem_cons_self, hm⟩
    · cases h

theorem bounded_intersectionOf {text : String} {parts : List Shape}
    (h : ∀ s ∈ parts, Bounded (n + 1) stack s) :
    Bounded (n + 1) stack (intersectionOf text parts) := by
  unfold intersectionOf
  split
  · rename_i ms hms
    refine bounded_object.2 ⟨by simp, fun m hm => ?_⟩
    obtain ⟨s, hs, hm⟩ := mem_of_mergeObjects? hms hm
    exact (h s hs).members hm
  · exact bounded_ofName text

theorem bounded_ofLiteral (t : Tree) : Bounded n stack (ofLiteral t) := by
  unfold ofLiteral
  split
  · exact bounded_primitive _
  · split
    · split
      · exact bounded_literal _
      · exact bounded_primitive _
    · exact bounded_primitive _
    · exact bounded_primitive _
    · exact bounded_literal _

theorem bounded_ofInitializer (t : Tree) : Bounded n stack (ofInitializer t) := by
  unfold ofInitializer
  split
  case h_6 => exact bounded_array_unknown
  all_goals exact bounded_primitive _

theorem bounded_ofText (text : String) : Bounded n stack (ofText text) := by
  unfold ofText
  split
  · exact bounded_primitive text
  · exact bounded_ofName text

/-- The name of an alias goes from the stack to the object that it stands for. -/
theorem Bounded.called {name : String} (hname : name ∉ stack)
    (h : Bounded (n + 1) (name :: stack) s) : Bounded (n + 1) stack (s.called name) := by
  have hself : Bounded (n + 1) stack s := Bounded.of_append [name] h
  cases s with
  | object own ms =>
    cases own with
    | none =>
      refine bounded_object.2 ⟨?_, (bounded_object.1 h).2⟩
      rintro x ⟨rfl⟩
      exact hname
    | some x => exact hself
  | primitive | literal | array | union | named => exact hself

end

end Shape

namespace Resolve

/-- The work leaves the stack as it was, and its result has the property. -/
def Keeps {α : Type} (stack : List String) (P : α → Prop) (x : Expanding α) : Prop :=
  (x.run stack).2 = stack ∧ P (x.run stack).1

section
variable {α β : Type} {stack : List String} {P : α → Prop} {Q : β → Prop} {x : Expanding α}
  {f : α → Expanding β}

theorem keeps_pure {a : α} (h : P a) : Keeps stack P (pure a) := ⟨rfl, h⟩

theorem Keeps.imp {P' : α → Prop} (hx : Keeps stack P x) (h : ∀ a, P a → P' a) :
    Keeps stack P' x := ⟨hx.1, h _ hx.2⟩

theorem Keeps.bind (hx : Keeps stack P x) (hf : ∀ a, P a → Keeps stack Q (f a)) :
    Keeps stack Q (x >>= f) := by
  have h := hf _ hx.2
  change (((f (x.run stack).1).run (x.run stack).2).2 = stack ∧
    Q ((f (x.run stack).1).run (x.run stack).2).1)
  rw [hx.1]
  exact h

theorem Keeps.map {g : α → β} (hx : Keeps stack P x) (hg : ∀ a, P a → Q (g a)) :
    Keeps stack Q (x >>= fun a => pure (g a)) :=
  hx.bind fun a ha => keeps_pure (hg a ha)

theorem keeps_mapM {xs : List α} (h : ∀ a ∈ xs, Keeps stack Q (f a)) :
    Keeps stack (fun bs => ∀ b ∈ bs, Q b) (xs.mapM f) := by
  induction xs with
  | nil => exact keeps_pure fun b hb => absurd hb List.not_mem_nil
  | cons a xs ih =>
    rw [List.mapM_cons]
    refine (h a List.mem_cons_self).bind fun b hb => ?_
    refine (ih fun c hc => h c (List.mem_cons_of_mem a hc)).map fun bs hbs => ?_
    exact List.forall_mem_cons.2 ⟨hb, hbs⟩

theorem keeps_get {f : List String → Expanding β} (h : Keeps stack Q (f stack)) :
    Keeps stack Q (get >>= f) := h

/-- The name is on the stack during the work, and off it afterwards. -/
theorem keeps_expanding {name : String} (h : Keeps (name :: stack) P x) :
    Keeps stack P (expanding name x) := by
  change ((x.run (name :: stack)).2.tail = stack ∧ P (x.run (name :: stack)).1)
  rw [h.1]
  exact ⟨rfl, h.2⟩

end

/-! ## Levels -/

/-- All that a level reads is bounded by so many levels. -/
def Reads (n : Nat) (level : Level) : Prop :=
  ∀ (file : SourceFile) (t : Tree) (stack : List String),
    Keeps stack (Shape.Bounded n stack) (level file t)

theorem reads_cut (n : Nat) : Reads n cut := fun _ _ _ => keeps_pure (Shape.bounded_ofName _)

theorem Reads.mono {n m : Nat} {level : Level} (h : Reads n level) (hnm : n ≤ m) :
    Reads m level := fun file t stack =>
  ⟨(h file t stack).1, (h file t stack).2.mono hnm⟩

section
variable {n : Nat} {level inner : Level} {file : SourceFile} {stack : List String}

/-- The shapes of all members are bounded. -/
def BoundedMembers (n : Nat) (stack : List String) (ms : List (Member Shape)) : Prop :=
  ∀ m ∈ ms, m.shape.Bounded n stack

theorem keeps_propertyShape (hinner : Reads n inner) (t : Tree) :
    Keeps stack (Shape.Bounded n stack) (propertyShape inner file t) := by
  unfold propertyShape
  split
  · exact hinner file _ stack
  · exact keeps_pure (Shape.bounded_primitive _)

theorem keeps_fieldShape (hinner : Reads n inner) (t : Tree) :
    Keeps stack (Shape.Bounded n stack) (fieldShape inner file t) := by
  unfold fieldShape
  split
  · exact hinner file _ stack
  · refine keeps_pure ?_
    cases t.role? .value with
    | none => exact Shape.bounded_primitive _
    | some v => exact Shape.bounded_ofInitializer v

theorem keeps_signatureMembers (hinner : Reads n inner) (body : Tree) :
    Keeps stack (BoundedMembers n stack) (signatureMembers inner file body) :=
  keeps_mapM fun a _ => (keeps_propertyShape hinner a.2).map fun _ h => h

theorem keeps_classFields (hinner : Reads n inner) (c : Tree) :
    Keeps stack (BoundedMembers n stack) (classFields inner file c) := by
  unfold classFields
  split
  · exact keeps_pure (List.forall_mem_nil _)
  · exact keeps_mapM fun a _ => (keeps_fieldShape hinner a.2).map fun _ h => h

theorem keeps_inheritedMembers (hlevel : Reads (n + 1) level) (t : Tree) :
    Keeps stack (BoundedMembers n stack) (inheritedMembers level file t) := by
  unfold inheritedMembers
  refine (keeps_mapM fun b _ => hlevel file b stack).map fun bases hbases m hm => ?_
  obtain ⟨s, hs, hm⟩ := List.mem_flatMap.1 hm
  exact (hbases s hs).members hm

theorem keeps_interfaceMembers (hlevel : Reads (n + 1) level) (hinner : Reads n inner) (t : Tree) :
    Keeps stack (BoundedMembers n stack) (interfaceMembers level inner file t) := by
  unfold interfaceMembers
  refine (keeps_inheritedMembers hlevel t).bind fun inherited hinherited => ?_
  split
  · exact keeps_pure hinherited
  · refine (keeps_signatureMembers hinner _).map fun own hown m hm => ?_
    exact (Shape.mem_putAll hm).elim (hinherited m) (hown m)

/-- While a name is expanded, it does not occur in what it stands for. -/
theorem keeps_declarationShape (hlevel : Reads (n + 1) level) (hinner : Reads n inner)
    {name : String} (hname : name ∉ stack) (d : TypeDeclaration) :
    Keeps (name :: stack) (Shape.Bounded (n + 1) stack) (declarationShape level inner name d) := by
  have hobject : ∀ ms, BoundedMembers n (name :: stack) ms →
      Shape.Bounded (n + 1) stack (.object (some name) ms) := by
    intro ms hms
    refine Shape.bounded_object.2 ⟨?_, hms⟩
    rintro x ⟨rfl⟩
    exact hname
  unfold declarationShape
  split
  · exact keeps_pure (Shape.bounded_ofName name)
  · dsimp only
    split
    · exact (keeps_interfaceMembers hlevel hinner _).map hobject
    · split
      · exact keeps_pure (Shape.bounded_ofName name)
      · exact (hlevel _ _ _).map fun s hs => hs.called hname
    · exact (keeps_classFields hinner _).map hobject
    · exact keeps_pure (Shape.bounded_ofName name)
    · exact keeps_pure (Shape.bounded_ofName name)

theorem bounded_builtin? {name : String} {args : List Shape} {s : Shape}
    (h : builtin? name args = some s) (hargs : ∀ a ∈ args, a.Bounded n stack) :
    s.Bounded (n + 1) stack := by
  unfold builtin? at h
  split at h
  · cases h
    exact Shape.bounded_array (hargs _ List.mem_cons_self)
  · cases h
    exact Shape.bounded_array (hargs _ List.mem_cons_self)
  · cases h
    exact ((hargs _ List.mem_cons_self).mono (Nat.le_succ n)).withOptional true
  · cases h
    exact ((hargs _ List.mem_cons_self).mono (Nat.le_succ n)).withOptional false
  · cases h
    exact (hargs _ List.mem_cons_self).mono (Nat.le_succ n)
  · cases h

theorem keeps_reference (p : Project) (hlevel : Reads (n + 1) level) (hinner : Reads n inner)
    (file : SourceFile) (stack : List String) (name : String) (args : List Shape) :
    Keeps stack (fun s => (∀ a ∈ args, a.Bounded n stack) → s.Bounded (n + 1) stack)
      (reference p level inner file name args) := by
  unfold reference
  split
  · exact keeps_pure fun _ => Shape.bounded_primitive name
  · split
    · rename_i hs
      exact keeps_pure (bounded_builtin? hs)
    · split
      · exact keeps_pure Shape.bounded_named
      · refine keeps_get ?_
        split
        · exact keeps_pure fun _ => Shape.bounded_ofName name
        · rename_i hname
          split
          · refine (keeps_expanding (keeps_declarationShape hlevel hinner ?_ _)).imp
              fun s hs _ => hs
            simpa using hname
          · exact keeps_pure Shape.bounded_named
          · exact keeps_pure Shape.bounded_named

mutual
/-- One step: what stands below a type is one level deeper, the type itself is not. -/
theorem keeps_step (p : Project) (hlevel : Reads n level) (hinner : Reads n inner) :
    ∀ t : Tree, Keeps stack (Shape.Bounded (n + 1) stack) (step p level inner file t)
  | .node h ts => by
    have hlevel' := hlevel.mono (Nat.le_succ n)
    unfold step
    split
    · exact (keeps_stepLast p hlevel hinner ts).map fun s hs => hs
    · exact (keeps_stepLast p hlevel hinner ts).map fun s hs => hs
    · exact (keeps_stepLast p hlevel hinner ts).map fun s hs => hs
    · exact keeps_pure (Shape.bounded_primitive _)
    · exact keeps_pure (Shape.bounded_ofLiteral _)
    · exact (keeps_reference p hlevel' hinner file stack _ []).imp fun s hs =>
        hs (List.forall_mem_nil _)
    · exact (keeps_reference p hlevel' hinner file stack _ []).imp fun s hs =>
        hs (List.forall_mem_nil _)
    · exact keeps_pure (Shape.bounded_ofName _)
    · exact (keeps_mapM fun a _ => hlevel file a stack).bind fun args hargs =>
        (keeps_reference p hlevel' hinner file stack _ args).imp fun s hs => hs hargs
    · split
      · exact (hlevel file _ stack).map fun s hs => Shape.bounded_array hs
      · exact keeps_pure Shape.bounded_array_unknown
    · exact (keeps_stepParts p hlevel hinner ts).map fun vs hvs => Shape.bounded_unionOf hvs
    · exact (keeps_stepParts p hlevel hinner ts).map fun ss hss =>
        Shape.bounded_intersectionOf hss
    · exact (keeps_signatureMembers hlevel _).map fun ms hms =>
        Shape.bounded_object.2 ⟨by simp, hms⟩
    · exact (keeps_signatureMembers hlevel _).map fun ms hms =>
        Shape.bounded_object.2 ⟨by simp, hms⟩
    · exact keeps_pure (Shape.bounded_ofText _)

theorem keeps_stepParts (p : Project) (hlevel : Reads n level) (hinner : Reads n inner) :
    ∀ ts : List Tree, Keeps stack (fun ss => ∀ s ∈ ss, s.Bounded (n + 1) stack)
      (stepParts p level inner file ts)
  | [] => keeps_pure (List.forall_mem_nil _)
  | t :: ts => by
    unfold stepParts
    split
    · refine (keeps_step p hlevel hinner t).bind fun s hs => ?_
      refine (keeps_stepParts p hlevel hinner ts).map fun ss hss => ?_
      exact List.forall_mem_cons.2 ⟨hs, hss⟩
    · exact keeps_stepParts p hlevel hinner ts

theorem keeps_stepLast (p : Project) (hlevel : Reads n level) (hinner : Reads n inner) :
    ∀ ts : List Tree, Keeps stack (fun s => (s.getD .unknown).Bounded (n + 1) stack)
      (stepLast p level inner file ts)
  | [] => keeps_pure (Shape.bounded_primitive _)
  | t :: ts => by
    unfold stepLast
    refine (keeps_stepLast p hlevel hinner ts).bind fun last hlast => ?_
    split
    · exact keeps_pure hlast
    · split
      · exact (keeps_step p hlevel hinner t).map fun s hs => hs
      · exact keeps_pure (Shape.bounded_primitive _)
end

/-- **Every level is bounded**, and leaves the stack as it was. -/
theorem reads_shapeAt (p : Project) : ∀ n, Reads n (shapeAt p n)
  | 0 => reads_cut 0
  | 1 => fun _ t _ => keeps_step p (reads_cut 0) (reads_cut 0) t
  | n + 2 => fun _ t _ =>
    keeps_step p (reads_shapeAt p (n + 1)) ((reads_shapeAt p n).mono (Nat.le_succ n)) t

end

end Resolve

/-! ## Types and names -/

open Resolve in
/-- **The expansion of types is safe from cycles.**  At every level, reading a type or following a
name leaves the stack of names as it was.  On no way through the shape of a type does a declared
name occur twice.  There are at most as many layers as levels, or one more to an array that nothing
is known of; the shape of a name has at most as many layers as levels. -/
theorem Project.expansion_bounded (p : Project) :
    (∀ n file t stack, ((shapeAt p n file t).run stack).2 = stack) ∧
    (∀ n file name args stack,
      ((reference p (shapeAt p n) (shapeAt p (n - 1)) file name args).run stack).2 = stack) ∧
    (∀ file t names layers stop, (p.typeShape file t).Way names layers stop →
      names.Nodup ∧
        (layers ≤ 13 ∨ layers = 14 ∧ (stop = .array .unknown ∨ stop = .unknown))) ∧
    ∀ file name names layers stop, (p.nameShape file name).Way names layers stop →
      names.Nodup ∧ layers ≤ 13 := by
  refine ⟨?_, ?_, ?_, ?_⟩
  · exact fun n file t stack => (reads_shapeAt p n file t stack).1
  · intro n file name args stack
    have hlevel := (reads_shapeAt p n).mono (Nat.le_succ n)
    have hinner := (reads_shapeAt p (n - 1)).mono (Nat.sub_le n 1)
    exact (keeps_reference p hlevel hinner file stack name args).1
  · intro file t names layers stop hway
    obtain ⟨hnodup, -, hlayers⟩ := (reads_shapeAt p maxDepth file t []).2 names layers stop hway
    exact ⟨hnodup, hlayers⟩
  · intro file name names layers stop hway
    have hreference := (keeps_reference p (reads_shapeAt p (maxDepth - 1))
      (reads_shapeAt p (maxDepth - 2)) file [] name []).2
    obtain ⟨hnodup, -, hlayers⟩ := hreference (List.forall_mem_nil _) names layers stop hway
    refine ⟨hnodup, ?_⟩
    rcases hlayers with hle | ⟨heq, -⟩
    · exact Nat.le_succ_of_le hle
    · exact le_of_eq heq

/-! ## One layer more than levels -/

namespace UntypedField

open RouteInventory.Tree (sketchAt)

/-- A class `Bag` with the field `items = []`. -/
def bag : Tree :=
  sketchAt .classDeclaration 0 24 ""
    [(sketchAt .typeIdentifier 6 9 "Bag" []).withRole .name,
      (sketchAt .classBody 10 24 ""
        [sketchAt .publicFieldDefinition 12 22 ""
          [(sketchAt .propertyIdentifier 12 17 "items" []).withRole .name,
            (sketchAt .array 20 22 "[]" []).withRole .value]]).withRole .body]

/-- `Bag` as the element of `n` arrays. -/
def bags : Nat → Tree
  | 0 => sketchAt .typeIdentifier 25 28 "Bag" []
  | n + 1 => sketchAt .arrayType 25 (28 + 2 * n) "" [bags n]

def path : Path := ⟨true, ["app", "a.ts"]⟩

def project : Project :=
  (Project.empty ⟨true, ["app"]⟩).insertTree path (sketchAt .program 0 24 "" [bag])

def file : SourceFile := (project.fileAt? path).getD default

theorem typeShape_bags :
    project.typeShape file (bags 12) =
      .array^[12] (.object (some "Bag") [⟨"items", .array .unknown, false⟩]) := by
  decide

theorem way_iterate_array {s stop : Shape} {names : List String} {layers : Nat}
    (h : s.Way names layers stop) (n : Nat) : (Shape.array^[n] s).Way names (n + layers) stop := by
  induction n with
  | zero => rwa [Nat.zero_add]
  | succ n ih =>
    rw [Function.iterate_succ_apply', show n + 1 + layers = 1 + (n + layers) by omega]
    exact .down List.mem_cons_self ih

/-- Below twelve arrays and the class itself, the field is the fourteenth layer. -/
theorem fourteen_layers :
    (project.typeShape file (bags 12)).Way ["Bag"] 14 (.array .unknown) := by
  have hfield : (Shape.array .unknown).Way [] 1 (.array .unknown) := .stop _
  have hbag : (Shape.object (some "Bag") [⟨"items", .array .unknown, false⟩]).Way ["Bag"] 2
      (.array .unknown) := .down List.mem_cons_self hfield
  rw [typeShape_bags]
  exact way_iterate_array hbag 12

end UntypedField

end RouteInventory
