import Mathlib
import RouteInventory.Proofs.LastMembers
import RouteInventory.Proofs.NodeProperties

/-!
# How shapes are formed

The shapes of types, names and expressions are formed in a few ways: from primitives and literals,
as arrays, unions and references with arguments, as objects that are declared, merged or inherited,
and as parts of shapes that are there already.  `Project.Forms` lists these ways, once and for all.
Whatever holds of all shapes that can be formed holds of every answer of the resolver and of the
typer, so that an invariant of shapes needs one case for each way, and no run to be looked at.

An interface that is expanded somewhere is described by a `Project.Reading`: what it extends, and
the names that it inherits and declares.

* `Project.Forms` — the ways to form a shape.
* `Resolve.forming_shapeAt` — every level of the resolver reads shapes that can be formed.
* `Typer.forms_answers` — so does every session of a typer, whatever it remembers.
* `Project.Invariant.throughout` — what every way to form a shape keeps holds throughout all.
-/

namespace RouteInventory

/-! ## Declared names -/

namespace Tree

/-- The names that an object type or an interface body declares. -/
def signatureNames (t : Tree) : List String :=
  (Resolve.withNames (t.parts.filter fun c => c.kind == .propertySignature)).map Prod.fst

/-- The names of the visible fields that a class body declares. -/
def fieldNames (t : Tree) : List String :=
  (Resolve.withNames (t.parts.filter fun f =>
    f.kind == .publicFieldDefinition && !f.isHiddenField)).map Prod.fst

end Tree

/-- The names of an object that is declared in one place: none, those of the body of an interface or
an object type, or those of the body of a class. -/
inductive Declared (G : Tree → Prop) : List String → Prop
  | nothing : Declared G []
  | signatures {body : Tree} : G body → Declared G body.signatureNames
  | fields {body : Tree} : G body → Declared G body.fieldNames

/-- An interface of a project as it is expanded: under which name, with how many levels to go for
the types that it extends, and inside which other names. -/
structure Project.Reading (p : Project) where
  file : SourceFile
  name : String
  declaration : TypeDeclaration
  node : Cursor
  levels : Nat
  stack : List String
  primitive : name ∉ primitiveNames
  opaqueName : name ∉ opaqueNames
  fresh : name ∉ stack
  found : p.resolveType file.path name = .found declaration
  kind : declaration.kind = .interface
  node_eq : declaration.node? = some node

namespace Project.Reading

variable {p : Project}

/-- The shapes of the types that the interface extends. -/
def bases (r : p.Reading) : List Shape :=
  r.node.focus.interfaceBases.map
    (Resolve.read p r.levels (r.name :: r.stack) r.declaration.file)

/-- The members that the interface takes over, those of one base after those of another. -/
def inherited (r : p.Reading) : List (Member Shape) := r.bases.flatMap Shape.members

/-- The names that the interface declares itself. -/
def own (r : p.Reading) : List String :=
  ((r.node.focus.role? .body).map Tree.signatureNames).getD []

/-- The names of all members of the interface: the inherited ones that it does not declare again,
and its own. -/
def names (r : p.Reading) : List String :=
  (Member.names r.inherited).filter (· ∉ r.own) ++ r.own

theorem declared_own {G : Tree → Prop} (r : p.Reading) (h : r.node.Grounded G) :
    Declared G r.own := by
  unfold own
  cases hbody : r.node.focus.role? .body with
  | none => exact .nothing
  | some body => exact .signatures (h.1.role hbody).self

end Project.Reading

/-! ## Ways to form a shape -/

/-- The shapes that can be formed in a project, from types whose nodes have the property `G`. -/
inductive Project.Forms (p : Project) (G : Tree → Prop) : Shape → Prop
  | primitive (name : String) : Forms p G (.primitive name)
  | literal (text : String) : Forms p G (.literal text)
  | array {s : Shape} : Forms p G s → Forms p G (.array s)
  | named {name : String} {module : Option String} {args : List Shape} :
    (∀ a ∈ args, Forms p G a) → Forms p G (.named name module args)
  | union {vs : List Shape} : (∀ v ∈ vs, Forms p G v) → Forms p G (.unionOf vs)
  /-- What lies in a shape can be taken out of it. -/
  | part {s t : Shape} : Forms p G s → t ∈ s.parts → Forms p G t
  | withOptional {s : Shape} (optional : Bool) : Forms p G s → Forms p G (s.withOptional optional)
  | called {s : Shape} (name : String) : Forms p G s → Forms p G (s.called name)
  /-- Members of several objects put together. -/
  | merged {ms : List (Member Shape)} :
    (∀ m ∈ ms, Forms p G m.shape) → Forms p G (.object none (Member.keepLast ms))
  | declared {name : Option String} {ms : List (Member Shape)} :
    Declared G (Member.names ms) → (∀ m ∈ ms, Forms p G m.shape) → Forms p G (.object name ms)
  /-- An interface: its own members over those that it inherits. -/
  | interface (r : p.Reading) {own : List (Member Shape)} :
    Declared G r.own → Member.names own = r.own → (∀ s ∈ r.bases, Forms p G s) →
      (∀ m ∈ own, Forms p G m.shape) →
        Forms p G (.object (some r.name) (Member.putAll r.inherited own))

namespace Project.Forms

variable {p : Project} {G : Tree → Prop} {s : Shape}

theorem ofName (name : String) : p.Forms G (.ofName name) := .named (List.forall_mem_nil _)

theorem members (h : p.Forms G s) {m : Member Shape} (hm : m ∈ s.members) : p.Forms G m.shape := by
  cases s with
  | object name ms => exact .part h (List.mem_map_of_mem hm)
  | primitive | literal | array | union | named => exact absurd hm List.not_mem_nil

theorem intersectionOf (text : String) {parts : List Shape} (h : ∀ s ∈ parts, p.Forms G s) :
    p.Forms G (.intersectionOf text parts) := by
  unfold Shape.intersectionOf
  split
  · rename_i ms hms
    -- a merge that succeeds is one of objects
    have hobjects : ∀ s ∈ parts, s.IsObject := Shape.isObject_of_mergeObjects? hms
    rw [Shape.mergeObjects?_eq hobjects] at hms
    cases hms
    refine .merged fun m hm => ?_
    obtain ⟨s, hs, hm⟩ := List.mem_flatMap.1 hm
    exact (h s hs).members hm
  · exact ofName text

theorem ofLiteral (t : Tree) : p.Forms G (.ofLiteral t) := by
  unfold Shape.ofLiteral
  split
  · exact .primitive _
  · split
    · split
      · exact .literal _
      · exact .primitive _
    · exact .primitive _
    · exact .primitive _
    · exact .literal _

theorem ofInitializer (t : Tree) : p.Forms G (.ofInitializer t) := by
  unfold Shape.ofInitializer
  split
  case h_6 => exact .array (.primitive _)
  all_goals exact .primitive _

theorem ofText (text : String) : p.Forms G (.ofText text) := by
  unfold Shape.ofText
  split
  · exact .primitive text
  · exact ofName text

theorem withoutNullish (h : p.Forms G s) : p.Forms G s.withoutNullish := by
  cases s with
  | union vs => exact .union fun v hv => .part h (List.mem_filter.1 hv).1
  | primitive | literal | array | object | named => exact h

theorem memberShape (h : p.Forms G s) (name : String) : p.Forms G (s.memberShape name) := by
  unfold Shape.memberShape
  split
  · rename_i m hm
    cases s with
    | object _ ms => exact h.members (List.mem_of_find?_eq_some hm)
    | primitive | literal | array | union | named => cases hm
  · split
    · exact .primitive _
    · exact .primitive _

theorem delivered (h : p.Forms G s) : p.Forms G s.delivered := by
  fun_induction Shape.delivered s with
  | case1 module s ih => exact ih (.part h List.mem_cons_self)
  | case2 module s ih => exact ih (.part h List.mem_cons_self)
  | case3 s => exact h

end Project.Forms

/-! ## Types -/

namespace Resolve

/-- All that the level reads can be formed. -/
def Forming (p : Project) (G : Tree → Prop) (level : Level) : Prop :=
  ∀ (file : SourceFile) (t : Tree) (stack : List String), t.AllNodes G →
    Keeps stack (p.Forms G) (level file t)

/-- The members have the names, and shapes that can be formed. -/
structure Carries (p : Project) (G : Tree → Prop) (names : List String)
    (ms : List (Member Shape)) : Prop where
  names_eq : Member.names ms = names
  forms : ∀ m ∈ ms, p.Forms G m.shape

section
variable {p : Project} {G : Tree → Prop} {n : Nat} {level inner : Level} {file : SourceFile}
  {stack : List String} {t : Tree}

theorem forms_propertyShape (hinner : Forming p G inner) (ht : t.AllNodes G) :
    Keeps stack (p.Forms G) (propertyShape inner file t) := by
  unfold propertyShape
  split
  · rename_i type htype
    exact hinner file type stack (ht.clauseType htype)
  · exact keeps_pure (.primitive _)

theorem forms_fieldShape (hinner : Forming p G inner) (ht : t.AllNodes G) :
    Keeps stack (p.Forms G) (fieldShape inner file t) := by
  unfold fieldShape
  split
  · rename_i type htype
    exact hinner file type stack (ht.clauseType htype)
  · refine keeps_pure ?_
    cases t.role? .value with
    | none => exact .primitive _
    | some v => exact .ofInitializer v

/-- Members that are made one by one of nodes with names. -/
theorem carries_mapM {f : String × Tree → Expanding (Member Shape)} {xs : List (String × Tree)}
    (h : ∀ a ∈ xs, Keeps stack (fun m => m.name = a.1 ∧ p.Forms G m.shape) (f a)) :
    Keeps stack (Carries p G (xs.map Prod.fst)) (xs.mapM f) := by
  induction xs with
  | nil => exact keeps_pure ⟨rfl, List.forall_mem_nil _⟩
  | cons a xs ih =>
    rw [List.mapM_cons]
    refine (h a List.mem_cons_self).bind fun m hm => ?_
    refine (ih fun b hb => h b (List.mem_cons_of_mem a hb)).map fun ms hms => ?_
    refine ⟨?_, List.forall_mem_cons.2 ⟨hm.2, hms.forms⟩⟩
    rw [Member.names_cons, hm.1, hms.names_eq, List.map_cons]

theorem mem_of_mem_withNames {ts : List Tree} {a : String × Tree} (h : a ∈ withNames ts) :
    a.2 ∈ ts := by
  obtain ⟨t, ht, ha⟩ := List.mem_filterMap.1 h
  obtain ⟨name, -, rfl⟩ := Option.map_eq_some_iff.1 ha
  exact ht

theorem carries_signatureMembers (hinner : Forming p G inner) (ht : t.AllNodes G) :
    Keeps stack (Carries p G t.signatureNames) (signatureMembers inner file t) := by
  refine carries_mapM fun a ha => ?_
  have hpart := (List.mem_filter.1 (mem_of_mem_withNames ha)).1
  exact (forms_propertyShape hinner (ht.part hpart)).map fun s hs => ⟨rfl, hs⟩

/-- The fields of a class are those that its body declares. -/
theorem carries_classFields (hinner : Forming p G inner) (ht : t.AllNodes G) :
    Keeps stack (fun ms => ∃ names, Declared G names ∧ Carries p G names ms)
      (classFields inner file t) := by
  unfold classFields
  split
  · exact keeps_pure ⟨[], .nothing, rfl, List.forall_mem_nil _⟩
  · rename_i body hbody
    have hbody' := ht.role hbody
    refine Keeps.imp ?_ fun ms hms => ⟨body.fieldNames, .fields hbody'.self, hms⟩
    refine carries_mapM fun a ha => ?_
    have hpart := (List.mem_filter.1 (mem_of_mem_withNames ha)).1
    exact (forms_fieldShape hinner (hbody'.part hpart)).map fun s hs => ⟨rfl, hs⟩

theorem mapM_shapeAt_run (p : Project) (n : Nat) (stack : List String) (file : SourceFile)
    (ts : List Tree) :
    (ts.mapM (shapeAt p n file)).run stack = (ts.map (read p n stack file), stack) := by
  induction ts with
  | nil => rfl
  | cons t ts ih =>
    rw [List.mapM_cons, run_bind_of_kept (shapeAt_run p n stack file t), run_bind_of_kept ih]
    rfl

/-- **The members of an interface**: its own over all that it inherits. -/
theorem keeps_interface (r : p.Reading) (hinner : Forming p G inner) (hnode : r.node.Grounded G) :
    Keeps (r.name :: r.stack)
      (fun ms => ∃ own, Carries p G r.own own ∧ ms = Member.putAll r.inherited own)
      (interfaceMembers (shapeAt p r.levels) inner r.declaration.file r.node.focus) := by
  have hinherited : Keeps (r.name :: r.stack) (fun ms => ms = r.inherited)
      (inheritedMembers (shapeAt p r.levels) r.declaration.file r.node.focus) := by
    have hbases := mapM_shapeAt_run p r.levels (r.name :: r.stack) r.declaration.file
      r.node.focus.interfaceBases
    unfold inheritedMembers Keeps
    rw [run_bind_of_kept hbases]
    exact ⟨rfl, rfl⟩
  unfold interfaceMembers
  refine hinherited.bind fun ms hms => ?_
  subst hms
  have hown : r.own = ((r.node.focus.role? .body).map Tree.signatureNames).getD [] := rfl
  split
  · rename_i hbody
    rw [hbody] at hown
    exact keeps_pure ⟨[], ⟨hown.symm, List.forall_mem_nil _⟩, rfl⟩
  · rename_i body hbody
    rw [hbody] at hown
    refine (carries_signatureMembers hinner (hnode.1.role hbody)).map fun own hms => ?_
    exact ⟨own, hown ▸ hms, rfl⟩

/-- A declaration that a name leads to, if all files of the project have the property. -/
theorem forms_declarationShape (hp : p.AllNodes G) (hlevel : Forming p G (shapeAt p n))
    (hinner : Forming p G inner) {name : String}
    (hprimitive : name ∉ primitiveNames) (hclosed : name ∉ opaqueNames) (hfresh : name ∉ stack)
    {d : TypeDeclaration} (hd : p.resolveType file.path name = .found d) :
    Keeps (name :: stack) (p.Forms G) (declarationShape (shapeAt p n) inner name d) := by
  unfold declarationShape
  split
  · exact keeps_pure (.ofName name)
  · rename_i node hnode
    have hgrounded := Project.grounded_node? hp hd hnode
    dsimp only
    split
    · -- what is read here, with these levels to go and inside these names, is a reading
      rename_i hkind
      let r : p.Reading :=
        ⟨file, name, d, node, n, stack, hprimitive, hclosed, hfresh, hd, hkind, hnode⟩
      have hbases : ∀ s ∈ r.bases, p.Forms G s := by
        intro s hs
        obtain ⟨t, ht, rfl⟩ := List.mem_map.1 hs
        exact (hlevel d.file t (name :: stack) (hgrounded.1.interfaceBase ht)).2
      refine (keeps_interface r hinner hgrounded).map ?_
      rintro _ ⟨own, hown, rfl⟩
      exact .interface r (r.declared_own hgrounded) hown.names_eq hbases hown.forms
    · split
      · exact keeps_pure (.ofName name)
      · rename_i v hv
        have hvalue := hgrounded.1.role hv
        exact (hlevel d.file v (name :: stack) hvalue).map fun s hs => .called name hs
    · refine (carries_classFields hinner hgrounded.1).map ?_
      rintro ms ⟨names, hnames, hms⟩
      exact .declared (hms.names_eq ▸ hnames) hms.forms
    · exact keeps_pure (.ofName name)
    · exact keeps_pure (.ofName name)

theorem forms_builtin? {name : String} {args : List Shape} {s : Shape}
    (h : builtin? name args = some s) (hargs : ∀ a ∈ args, p.Forms G a) : p.Forms G s := by
  unfold builtin? at h
  split at h
  · cases h
    exact .array (hargs _ List.mem_cons_self)
  · cases h
    exact .array (hargs _ List.mem_cons_self)
  · cases h
    exact .withOptional true (hargs _ List.mem_cons_self)
  · cases h
    exact .withOptional false (hargs _ List.mem_cons_self)
  · cases h
    exact hargs _ List.mem_cons_self
  · cases h

theorem forms_reference (hp : p.AllNodes G) (hlevel : Forming p G (shapeAt p n))
    (hinner : Forming p G inner) (name : String)
    {args : List Shape} (hargs : ∀ a ∈ args, p.Forms G a) :
    Keeps stack (p.Forms G) (reference p (shapeAt p n) inner file name args) := by
  unfold reference
  split
  · exact keeps_pure (.primitive name)
  · rename_i hprimitive
    split
    · rename_i hs
      exact keeps_pure (forms_builtin? hs hargs)
    · split
      · exact keeps_pure (.named hargs)
      · rename_i hclosed
        refine keeps_get ?_
        split
        · exact keeps_pure (.ofName name)
        · rename_i hfresh
          simp only [List.contains_iff_mem] at hprimitive hclosed hfresh
          split
          · rename_i d hd
            exact keeps_expanding
              (forms_declarationShape hp hlevel hinner hprimitive hclosed hfresh hd)
          · exact keeps_pure (.named hargs)
          · exact keeps_pure (.named hargs)

mutual
/-- One step: what is read one and two levels deeper can be formed, and so can the whole. -/
theorem forms_step (hp : p.AllNodes G) (hlevel : Forming p G (shapeAt p n))
    (hinner : Forming p G inner) :
    ∀ t : Tree, t.AllNodes G → Keeps stack (p.Forms G) (step p (shapeAt p n) inner file t)
  | .node h ts => by
    intro ht
    have hts : ∀ u ∈ ts, u.AllNodes G := fun u hu => ht.child hu
    have hlast := (forms_stepLast hp hlevel hinner ts hts).map fun (s : Option Shape) hs =>
      (hs : p.Forms G (s.getD .unknown))
    have hreference : Keeps stack (p.Forms G) (reference p (shapeAt p n) inner file h.text []) :=
      forms_reference hp hlevel hinner h.text (List.forall_mem_nil _)
    have hobject : Keeps stack (p.Forms G)
        (return .object none (← signatureMembers (shapeAt p n) file (.node h ts))) :=
      (carries_signatureMembers hlevel ht).map fun ms hms =>
        .declared (hms.names_eq ▸ .signatures ht.self) hms.forms
    unfold step
    split
    · exact hlast
    · exact hlast
    · exact hlast
    · exact keeps_pure (.primitive _)
    · exact keeps_pure (.ofLiteral _)
    · exact hreference
    · exact hreference
    · exact keeps_pure (.ofName _)
    · exact (keeps_mapM fun a ha => hlevel file a stack (ht.typeArgument ha)).bind
        fun args hargs => forms_reference hp hlevel hinner _ hargs
    · split
      · rename_i element helement
        exact (hlevel file element stack (ht.part (Tree.mem_parts_of_firstPart? helement))).map
          fun s hs => .array hs
      · exact keeps_pure (.array (.primitive _))
    · exact (forms_stepParts hp hlevel hinner ts hts).map fun vs hvs => .union hvs
    · exact (forms_stepParts hp hlevel hinner ts hts).map fun ss hss => .intersectionOf _ hss
    · exact hobject
    · exact hobject
    · exact keeps_pure (.ofText _)

theorem forms_stepParts (hp : p.AllNodes G) (hlevel : Forming p G (shapeAt p n))
    (hinner : Forming p G inner) :
    ∀ ts : List Tree, (∀ t ∈ ts, t.AllNodes G) →
      Keeps stack (fun ss => ∀ s ∈ ss, p.Forms G s) (stepParts p (shapeAt p n) inner file ts)
  | [] => fun _ => keeps_pure (List.forall_mem_nil _)
  | t :: ts => by
    intro h
    obtain ⟨ht, hts⟩ := List.forall_mem_cons.1 h
    unfold stepParts
    split
    · refine (forms_step hp hlevel hinner t ht).bind fun s hs => ?_
      refine (forms_stepParts hp hlevel hinner ts hts).map fun ss hss => ?_
      exact List.forall_mem_cons.2 ⟨hs, hss⟩
    · exact forms_stepParts hp hlevel hinner ts hts

theorem forms_stepLast (hp : p.AllNodes G) (hlevel : Forming p G (shapeAt p n))
    (hinner : Forming p G inner) :
    ∀ ts : List Tree, (∀ t ∈ ts, t.AllNodes G) →
      Keeps stack (fun s => p.Forms G (s.getD .unknown)) (stepLast p (shapeAt p n) inner file ts)
  | [] => fun _ => keeps_pure (.primitive _)
  | t :: ts => by
    intro h
    obtain ⟨ht, hts⟩ := List.forall_mem_cons.1 h
    unfold stepLast
    refine (forms_stepLast hp hlevel hinner ts hts).bind fun last hlast => ?_
    split
    · exact keeps_pure hlast
    · split
      · exact (forms_step hp hlevel hinner t ht).map fun s hs => hs
      · exact keeps_pure (.primitive _)
end

theorem forming_cut : Forming p G cut := fun _ _ _ _ => keeps_pure (.ofName _)

/-- **Every level reads shapes that can be formed.** -/
theorem forming_shapeAt (hp : p.AllNodes G) : ∀ n, Forming p G (shapeAt p n)
  | 0 => forming_cut
  | 1 => fun _ t _ ht => forms_step (n := 0) hp forming_cut forming_cut t ht
  | n + 2 => fun _ t _ ht =>
    forms_step hp (forming_shapeAt hp (n + 1)) (forming_shapeAt hp n) t ht

end

end Resolve

namespace Project

variable {p : Project} {G : Tree → Prop}

theorem forms_typeShape (hp : p.AllNodes G) (file : SourceFile) {t : Tree} (ht : t.AllNodes G) :
    p.Forms G (p.typeShape file t) :=
  (Resolve.forming_shapeAt hp Resolve.maxDepth file t [] ht).2

theorem forms_nameShape (hp : p.AllNodes G) (file : SourceFile) (name : String) :
    p.Forms G (p.nameShape file name) :=
  (Resolve.forms_reference hp (Resolve.forming_shapeAt hp _) (Resolve.forming_shapeAt hp _) name
    (List.forall_mem_nil _)).2

end Project

/-! ## Expressions -/

namespace Recipe

/-- What the recipe makes of shapes that can be formed can be formed. -/
def Forming (p : Project) (G : Tree → Prop) (r : Recipe) : Prop :=
  ∀ ss, (∀ s ∈ ss, p.Forms G s) → p.Forms G (r.make ss)

variable {p : Project} {G : Tree → Prop}

theorem forming_known {s : Shape} (h : p.Forms G s) : Forming p G (known s) := fun _ _ => h

theorem forming_ofNode (c : Option Cursor) {make : Shape → Shape}
    (h : ∀ s, p.Forms G s → p.Forms G (make s)) : Forming p G (ofNode c make) := by
  intro ss hss
  cases ss with
  | nil => exact .primitive _
  | cons s ss => exact h s (hss s List.mem_cons_self)

theorem forming_ofNodes (c d : Cursor) {make : Shape → Shape → Shape}
    (h : ∀ a b, p.Forms G a → p.Forms G b → p.Forms G (make a b)) :
    Forming p G (ofNodes c d make) := by
  intro ss hss
  unfold ofNodes
  dsimp only
  split
  · exact h _ _ (hss _ (by simp)) (hss _ (by simp))
  · exact .primitive _

end Recipe

namespace Typer

variable {t : Typer} {G : Tree → Prop} {c : Cursor}

theorem forms_resultShape (hp : t.project.AllNodes G) (file : SourceFile) (hc : c.Grounded G) :
    t.project.Forms G (t.resultShape file c) := by
  unfold resultShape
  split
  · rename_i type htype
    exact Project.forms_typeShape hp file (hc.1.clauseType htype)
  · exact .primitive _

theorem forms_importedResult (hp : t.project.AllNodes G) (name : String) :
    t.project.Forms G (t.importedResult name) := by
  unfold importedResult
  split
  · exact .primitive _
  · split
    · split
      · exact .primitive _
      · rename_i target htarget
        split
        · split
          · split
            · rename_i f hf
              have htree := hp target (Project.mem_files_of_fileAt? htarget)
              have hf' := Cursor.grounded_nodeAt? (Cursor.grounded_ofTree htree) hf
              exact forms_resultShape hp target hf'
            · exact .primitive _
          · exact .primitive _
        · exact .primitive _
    · exact .primitive _

theorem forms_callShape (hp : t.project.AllNodes G) (hc : c.Grounded G) :
    t.project.Forms G (t.callShape c) := by
  have hK := Cursor.shared_grounded G
  unfold callShape
  split
  · exact .primitive _
  · split
    · exact .primitive _
    · split
      · rename_i d hd
        exact forms_resultShape hp t.file (shared_of_binding hK hc hd)
      · rename_i v hv
        split
        · rename_i value hvalue
          split
          · exact forms_resultShape hp t.file (hK.role (shared_of_binding hK hc hv) hvalue)
          · exact .primitive _
        · exact .primitive _
      · exact .primitive _
      · exact forms_importedResult hp _

theorem forms_constructed (hp : t.project.AllNodes G) (c : Cursor) :
    t.project.Forms G (t.constructed c) := by
  unfold constructed
  split
  · split
    · exact Project.forms_nameShape hp t.file _
    · exact .primitive _
  · exact .primitive _

theorem forming_nameRecipe (hp : t.project.AllNodes G) (hc : c.Grounded G) :
    Recipe.Forming t.project G (t.nameRecipe c) := by
  have hK := Cursor.shared_grounded G
  unfold nameRecipe
  split
  · exact Recipe.forming_known (.primitive _)
  · split
    · rename_i d hd
      split
      · rename_i type htype
        exact Recipe.forming_known
          (Project.forms_typeShape hp t.file ((shared_of_binding hK hc hd).1.clauseType htype))
      · exact Recipe.forming_ofNode _ fun s hs => hs
    · rename_i q hq
      refine Recipe.forming_known ?_
      cases htype : q.focus.declaredType? with
      | none => exact .primitive _
      | some type =>
        exact Project.forms_typeShape hp t.file ((shared_of_binding hK hc hq).1.clauseType htype)
    · exact Recipe.forming_known (.ofName _)
    · exact Recipe.forming_known (.primitive _)

theorem forms_entryMembers {p : Project} {s : Shape} (h : p.Forms G s) {m : Member Shape}
    (hm : m ∈ entryMembers c s) : p.Forms G m.shape := by
  unfold entryMembers at hm
  split at hm
  · obtain ⟨key, -, rfl⟩ := List.mem_map.1 hm
    exact h
  · cases List.mem_singleton.1 hm
    exact h
  · split at hm
    · exact h.members hm
    · cases hm
  · cases hm

theorem forming_objectRecipe (p : Project) (c : Cursor) :
    Recipe.Forming p G (objectRecipe c) := by
  intro ss hss
  have hlast := Member.foldl_putAll (fun e : Cursor × Shape => entryMembers e.1 e.2)
    ((c.parts.filter fun e => (entryValue? e).isSome).zip ss) []
  have hmake : (objectRecipe c).make ss = _ := congrArg (Shape.object none) hlast
  rw [hmake]
  refine .merged fun m hm => ?_
  obtain ⟨e, he, hm⟩ := List.mem_flatMap.1 hm
  exact forms_entryMembers (hss e.2 (List.of_mem_zip he).2) hm

theorem forming_binaryRecipe (p : Project) (c : Cursor) :
    Recipe.Forming p G (binaryRecipe c) := by
  unfold binaryRecipe
  split
  · split
    · exact Recipe.forming_known (.primitive _)
    · exact Recipe.forming_known (.primitive _)
    · refine Recipe.forming_ofNodes _ _ fun a b _ _ => ?_
      dsimp only
      split
      · exact .primitive _
      · exact .primitive _
    · refine Recipe.forming_ofNodes _ _ fun a b ha hb => .union ?_
      exact List.forall_mem_cons.2 ⟨ha.withoutNullish, List.forall_mem_singleton.2 hb⟩
    · exact Recipe.forming_ofNode _ fun s hs => hs
    · exact Recipe.forming_known (.primitive _)
  · exact Recipe.forming_known (.primitive _)

theorem forms_ofUnary (p : Project) (op : Option String) : p.Forms G (.ofUnary op) := by
  unfold Shape.ofUnary
  split
  all_goals exact .primitive _

/-- **Every expression makes shapes that can be formed of shapes that can be formed.** -/
theorem forming_recipe (hp : t.project.AllNodes G) (hc : c.Grounded G) :
    Recipe.Forming t.project G (t.recipe c) := by
  unfold recipe
  split
  · exact forming_objectRecipe _ _
  · exact fun ss hss => .array (.union hss)
  · exact Recipe.forming_known (.primitive _)
  · exact Recipe.forming_known (.primitive _)
  · exact Recipe.forming_known (.primitive _)
  · exact Recipe.forming_known (.primitive _)
  · exact Recipe.forming_known (.primitive _)
  · exact Recipe.forming_known (.primitive _)
  · exact Recipe.forming_known (.primitive _)
  · exact forming_nameRecipe hp hc
  · exact forming_nameRecipe hp hc
  · exact Recipe.forming_ofNode _ fun s hs => hs.delivered
  · split
    · rename_i first type rest hparts
      have htype : type ∈ c.focus.parts := by
        rw [hparts]
        exact List.mem_cons_of_mem first List.mem_cons_self
      exact Recipe.forming_known (Project.forms_typeShape hp t.file (hc.1.part htype))
    · exact Recipe.forming_ofNode _ fun s hs => hs
  · exact Recipe.forming_ofNode _ fun s hs => hs
  · exact Recipe.forming_known (forms_callShape hp hc)
  · exact Recipe.forming_known (forms_constructed hp c)
  · exact fun ss hss => .union hss
  · exact forming_binaryRecipe _ _
  · exact Recipe.forming_known (forms_ofUnary _ _)
  · split
    · exact Recipe.forming_ofNode _ fun s hs => hs.memberShape _
    · exact Recipe.forming_known (.primitive _)
  · refine Recipe.forming_known ?_
    split
    · exact .ofName _
    · exact .primitive _

/-- All shapes that are remembered can be formed. -/
def Remembers (p : Project) (G : Tree → Prop) (m : Memo) : Prop := ∀ e ∈ m, p.Forms G e.2

theorem Remembers.get? {p : Project} {m : Memo} (h : Remembers p G m) {path : List Nat} {s : Shape}
    (hs : m.get? path = some s) : p.Forms G s := by
  obtain ⟨e, he, rfl⟩ := Option.map_eq_some_iff.1 hs
  exact h e (List.mem_of_find?_eq_some he)

theorem forms_mapM {α : Type} {p : Project} {f : α → Typing Shape} (cs : List α)
    (h : ∀ c ∈ cs, ∀ m, Remembers p G m → Remembers p G (f c m).2 ∧ p.Forms G (f c m).1) (m : Memo)
    (hm : Remembers p G m) :
    Remembers p G (cs.mapM f m).2 ∧ ∀ s ∈ (cs.mapM f m).1, p.Forms G s := by
  obtain ⟨hmemory, hanswers⟩ :=
    mapM_preserves (P := Remembers p G) (Q := fun _ s => p.Forms G s) cs h m hm
  have hall : ∀ {cs : List α} {ss : List Shape}, List.Forall₂ (fun _ s => p.Forms G s) cs ss →
      ∀ s ∈ ss, p.Forms G s := by
    intro cs ss h
    induction h with
    | nil => exact List.forall_mem_nil _
    | cons hs _ ih => exact List.forall_mem_cons.2 ⟨hs, ih⟩
  exact ⟨hmemory, hall hanswers⟩

/-- The typer finds and remembers shapes that can be formed, with any levels to go. -/
theorem forms_inferAt (hp : t.project.AllNodes G) (n : Nat) (hc : c.Grounded G) {m : Memo}
    (hm : Remembers t.project G m) :
    Remembers t.project G (t.inferAt n c m).2 ∧ t.project.Forms G (t.inferAt n c m).1 := by
  have hK := Cursor.shared_grounded G
  induction n generalizing c m with
  | zero => exact ⟨hm, .primitive _⟩
  | succ n ih =>
    have hnode : c.unwrapped.Grounded G := shared_unwrapped hK hc
    cases hget : m.get? c.unwrapped.path with
    | some s =>
      rw [inferAt_of_some hget]
      exact ⟨hm, hm.get? hget⟩
    | none =>
      obtain ⟨hmemory, hshapes⟩ := forms_mapM (t.recipe c.unwrapped).asks
        (fun e he m₁ hm₁ => ih (shared_of_asks hK hnode he) hm₁) m hm
      have hmade := forming_recipe hp hnode _ hshapes
      rw [inferAt_of_none hget]
      exact ⟨List.forall_mem_cons.2 ⟨hmade, hmemory⟩, hmade⟩

/-- **All answers of a typer can be formed**, whatever was asked before. -/
theorem forms_answers (hp : t.project.AllNodes G) {qs : List Query}
    (hqs : ∀ q ∈ qs, q.node.Grounded G) : ∀ s ∈ t.answers qs, t.project.Forms G s := by
  refine (forms_mapM qs (fun q hq m hm => ?_) [] (List.forall_mem_nil _)).2
  obtain ⟨hmemory, hshape⟩ := forms_inferAt hp maxDepth (hqs q hq) hm
  rw [answer_run]
  refine ⟨hmemory, ?_⟩
  cases q with
  | shape c => exact hshape
  | response c => exact hshape.delivered

end Typer

/-! ## Invariants of shapes -/

namespace Shape

/-- The shape occurs in the other one, or is it. -/
def Within (s t : Shape) : Prop := Relation.ReflTransGen (fun a b => b ∈ a.parts) t s

/-- The property holds of the shape and of all shapes that occur in it. -/
def Throughout (C : Shape → Prop) (s : Shape) : Prop := ∀ t, t.Within s → C t

variable {C : Shape → Prop} {s t : Shape}

theorem Throughout.self (h : s.Throughout C) : C s := h s .refl

theorem Throughout.part (h : s.Throughout C) (ht : t ∈ s.parts) : t.Throughout C :=
  fun u hu => h u (.head ht hu)

theorem Throughout.members (h : s.Throughout C) {m : Member Shape} (hm : m ∈ s.members) :
    m.shape.Throughout C := by
  cases s with
  | object name ms => exact h.part (List.mem_map_of_mem hm)
  | primitive | literal | array | union | named => exact absurd hm List.not_mem_nil

theorem throughout_of_parts (hs : C s) (hparts : ∀ t ∈ s.parts, t.Throughout C) :
    s.Throughout C := by
  intro u hu
  rcases Relation.ReflTransGen.cases_head hu with rfl | ⟨t, ht, hu⟩
  · exact hs
  · exact hparts t ht u hu

/-- The different alternatives of several shapes. -/
def alternativesOf (vs : List Shape) : List Shape :=
  (vs.flatMap alternatives).foldl addAlternative []

theorem mem_foldl_addAlternative {v : Shape} {vs acc : List Shape} :
    v ∈ vs.foldl addAlternative acc ↔ v ∈ acc ∨ v ∈ vs := by
  induction vs generalizing acc with
  | nil => simp
  | cons w vs ih =>
    rw [List.foldl_cons, ih, addAlternative]
    split
    · rename_i hw
      rw [List.mem_cons]
      constructor
      · rintro (h | h)
        · exact .inl h
        · exact .inr (.inr h)
      · rintro (h | rfl | h)
        · exact .inl h
        · exact .inl hw
        · exact .inr h
    · rw [List.mem_append, List.mem_singleton, List.mem_cons, or_assoc]

theorem mem_alternativesOf {v : Shape} {vs : List Shape} :
    v ∈ alternativesOf vs ↔ ∃ w ∈ vs, v ∈ w.alternatives := by
  rw [alternativesOf, mem_foldl_addAlternative, List.mem_flatMap]
  simp

theorem Throughout.alternatives (h : s.Throughout C) (ht : t ∈ s.alternatives) :
    t.Throughout C := by
  cases s with
  | union vs => exact h.part ht
  | primitive | literal | array | object | named => exact List.mem_singleton.1 ht ▸ h

/-- A union is made only of two or more alternatives. -/
theorem unionOf_cases (vs : List Shape) :
    alternativesOf vs = [] ∧ unionOf vs = unknown ∨
    (∃ s, alternativesOf vs = [s] ∧ unionOf vs = s) ∨
    2 ≤ (alternativesOf vs).length ∧ unionOf vs = union (alternativesOf vs) := by
  have hunion : unionOf vs = ofAlternatives (alternativesOf vs) := rfl
  rw [hunion]
  rcases alternativesOf vs with - | ⟨s, - | ⟨t, rest⟩⟩
  · exact .inl ⟨rfl, rfl⟩
  · exact .inr (.inl ⟨s, rfl, rfl⟩)
  · exact .inr (.inr ⟨by simp, rfl⟩)

end Shape

/-- A property that each way to form a shape establishes, if it holds of what the shape is made of.
It may depend on the names of an object's members, on its own name and on a union's variants. -/
structure Project.Invariant (p : Project) (G : Tree → Prop) (C : Shape → Prop) : Prop where
  primitive : ∀ name, C (.primitive name)
  literal : ∀ text, C (.literal text)
  array : ∀ s, C (.array s)
  named : ∀ name module args, C (.named name module args)
  union : ∀ vs, (∀ v ∈ vs, C v) → 2 ≤ (Shape.alternativesOf vs).length →
    C (.union (Shape.alternativesOf vs))
  withOptional : ∀ optional name ms, C (.object name ms) →
    C (Shape.withOptional optional (.object name ms))
  called : ∀ name ms, C (.object none ms) → C (.object (some name) ms)
  merged : ∀ ms, C (.object none (Member.keepLast ms))
  declared : ∀ name ms, Declared G (Member.names ms) → C (.object name ms)
  interface : ∀ (r : p.Reading) own, Declared G r.own → Member.names own = r.own →
    (∀ s ∈ r.bases, C s) → C (.object (some r.name) (Member.putAll r.inherited own))

/-- **An invariant holds throughout all shapes that can be formed.** -/
theorem Project.Invariant.throughout {p : Project} {G : Tree → Prop} {C : Shape → Prop} {s : Shape}
    (hC : p.Invariant G C) (h : p.Forms G s) : s.Throughout C := by
  -- `C` alone would not do: the case of a part needs it of all that lies in the whole
  induction h with
  | primitive name => exact Shape.throughout_of_parts (hC.primitive name) (List.forall_mem_nil _)
  | literal text => exact Shape.throughout_of_parts (hC.literal text) (List.forall_mem_nil _)
  | array _ ih => exact Shape.throughout_of_parts (hC.array _) (List.forall_mem_singleton.2 ih)
  | named _ ih => exact Shape.throughout_of_parts (hC.named _ _ _) ih
  | @union vs _ ih =>
    have halternatives : ∀ v ∈ Shape.alternativesOf vs, v.Throughout C := by
      intro v hv
      obtain ⟨w, hw, hv⟩ := Shape.mem_alternativesOf.1 hv
      exact (ih w hw).alternatives hv
    rcases Shape.unionOf_cases vs with ⟨-, heq⟩ | ⟨s, hs, heq⟩ | ⟨htwo, heq⟩
    · rw [heq]
      exact Shape.throughout_of_parts (hC.primitive _) (List.forall_mem_nil _)
    · rw [heq]
      exact halternatives s (hs ▸ List.mem_cons_self)
    · rw [heq]
      exact Shape.throughout_of_parts (hC.union vs (fun v hv => (ih v hv).self) htwo) halternatives
  | part _ ht ih => exact ih.part ht
  | @withOptional s optional _ ih =>
    cases s with
    | object name ms =>
      refine Shape.throughout_of_parts (hC.withOptional optional name ms ih.self) ?_
      refine List.forall_mem_map.2 (List.forall_mem_map.2 fun m hm => ?_)
      exact ih.members (m := m) hm
    | primitive | literal | array | union | named => exact ih
  | @called s name _ ih =>
    cases s with
    | object own ms =>
      cases own with
      | none => exact Shape.throughout_of_parts (hC.called name ms ih.self) fun t ht => ih.part ht
      | some _ => exact ih
    | primitive | literal | array | union | named => exact ih
  | @merged ms _ ih =>
    refine Shape.throughout_of_parts (hC.merged ms) (List.forall_mem_map.2 fun m hm => ?_)
    exact ih m (Member.mem_of_mem_keepLast hm)
  | @declared name ms hdeclared _ ih =>
    exact Shape.throughout_of_parts (hC.declared name ms hdeclared) (List.forall_mem_map.2 ih)
  | @interface r own hdeclared hown _ _ hbases ihown =>
    have hobject := hC.interface r own hdeclared hown fun s hs => (hbases s hs).self
    refine Shape.throughout_of_parts hobject (List.forall_mem_map.2 fun m hm => ?_)
    rcases Shape.mem_putAll hm with hm | hm
    · obtain ⟨s, hs, hm⟩ := List.mem_flatMap.1 hm
      exact (hbases s hs).members hm
    · exact ihown m hm

end RouteInventory
