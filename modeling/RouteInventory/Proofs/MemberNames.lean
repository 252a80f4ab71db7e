import Mathlib
import RouteInventory.Proofs.ShapeFormation

/-!
# When an object has two members of one name

Suppose that no body in a project declares a name twice.  Objects that are merged keep one member of
each name, and so does an interface that declares a name again which it inherits.  But what an
interface inherits from several types is put one after the other: a name that two of them have, and
that the interface does not declare itself, is there twice.

* `Tree.MembersApart` — no name is declared twice in a body.
* `Project.Gives` — the shapes that types, names and expressions of a project have.
* `Project.invariant_names` — all ways to form an object but the interface keep names apart.
* `Project.member_repeated_iff` — which names of which objects are repeated.
* `TwoBases.limit_repeated` — a name that comes from two interfaces.
-/

namespace RouteInventory

/-! ## Declared names -/

/-- The node declares no property and no visible field twice. -/
def Tree.MembersApart (t : Tree) : Prop := t.signatureNames.Nodup ∧ t.fieldNames.Nodup

instance : DecidablePred Tree.MembersApart := fun t =>
  inferInstanceAs (Decidable (t.signatureNames.Nodup ∧ t.fieldNames.Nodup))

theorem Declared.nodup {names : List String} (h : Declared Tree.MembersApart names) :
    names.Nodup := by
  cases h with
  | nothing => exact List.nodup_nil
  | signatures hbody => exact hbody.1
  | fields hbody => exact hbody.2

/-- Without arguments no name is one of the few generic ones. -/
theorem Resolve.builtin?_nil (name : String) : builtin? name [] = none := by
  unfold builtin?
  split <;> simp_all

namespace Project

variable {p : Project} {G : Tree → Prop} {s : Shape}

/-! ## Shapes of a project -/

/-- The shapes that a project gives to the types that are written in it, to names, and to its
expressions, whatever was asked before. -/
inductive Gives (p : Project) : Shape → Prop
  | type {file : SourceFile} {t : Tree} :
    file ∈ p.files → t ∈ file.tree.nodes → Gives p (p.typeShape file t)
  | name (file : SourceFile) (name : String) : Gives p (p.nameShape file name)
  | expression {file : SourceFile} {qs : List Typer.Query} {s : Shape} :
    file ∈ p.files → (∀ q ∈ qs, file.root.Descends q.node) → s ∈ Typer.answers ⟨p, file⟩ qs →
      Gives p s

theorem Gives.forms (h : p.Gives s) (hp : p.AllNodes G) : p.Forms G s := by
  cases h with
  | type hfile ht => exact forms_typeShape hp _ ((hp _ hfile).node ht)
  | name file name => exact forms_nameShape hp file name
  | expression hfile hqs hs =>
    have hroot := Cursor.grounded_ofTree (hp _ hfile)
    have hgrounded := fun q hq => (Cursor.shared_grounded G).descends hroot (hqs q hq)
    exact Typer.forms_answers (t := ⟨p, _⟩) hp hgrounded s hs

/-! ## Names of members -/

namespace Reading

/-- The members of an interface have the names that are inherited and those that are declared. -/
theorem names_putAll (r : p.Reading) {own : List (Member Shape)} (hown : Member.names own = r.own)
    (hnodup : r.own.Nodup) : Member.names (Member.putAll r.inherited own) = r.names := by
  rw [Member.putAll_eq, Member.keepLast_of_nodup (hown ▸ hnodup), Member.names_append,
    Member.names_without, hown, names]

/-- Only a name that is inherited twice and not declared again is repeated. -/
theorem one_lt_count_names (r : p.Reading) (hnodup : r.own.Nodup) (x : String) :
    1 < r.names.count x ↔ x ∉ r.own ∧ 1 < (Member.names r.inherited).count x := by
  rw [names, List.count_append]
  by_cases hx : x ∈ r.own
  · have hnone : x ∉ (Member.names r.inherited).filter (· ∉ r.own) := by simp [hx]
    rw [List.count_eq_zero_of_not_mem hnone, List.count_eq_one_of_mem hnodup hx]
    simp [hx]
  · have hfilter : ((Member.names r.inherited).filter (· ∉ r.own)).count x =
        (Member.names r.inherited).count x := List.count_filter (by simpa using hx)
    rw [hfilter, List.count_eq_zero_of_not_mem hx]
    simp [hx]

end Reading

/-- The names of the object's members are apart, or the object is one of the exceptions. -/
def NamesApartOr (D : Option String → List String → Prop) (s : Shape) : Prop :=
  ∀ name ms, s = .object name ms → (Member.names ms).Nodup ∨ D name (Member.names ms)

/-- **Names stay apart unless an interface is an exception.**  Every other object that can be formed
is merged, keeping one member of each name, or declared in one place. -/
theorem invariant_names {D : Option String → List String → Prop}
    (hdeclared : ∀ names, Declared G names → names.Nodup) (hnone : ∀ names, ¬ D none names)
    (hinterface : ∀ r : p.Reading, (∀ s ∈ r.bases, NamesApartOr D s) →
      r.names.Nodup ∨ D (some r.name) r.names) :
    p.Invariant G (NamesApartOr D) where
  primitive _ _ _ h := by cases h
  literal _ _ _ h := by cases h
  array _ _ _ h := by cases h
  named _ _ _ _ _ h := by cases h
  union _ _ _ _ _ h := by cases h
  withOptional optional name ms hobject _ _ h := by
    have hnames : Member.names (ms.map fun m => { m with optional := optional }) =
        Member.names ms := by
      simp [Member.names]
    cases h
    rw [hnames]
    exact hobject name ms rfl
  called name ms hobject _ _ h := by
    -- only an object without a name takes one, and those are no exceptions
    cases h
    exact .inl ((hobject none ms rfl).resolve_right (hnone _))
  merged ms _ _ h := by
    cases h
    exact .inl (Member.nodup_names_keepLast ms)
  declared name ms hnames _ _ h := by
    cases h
    exact .inl (hdeclared _ hnames)
  interface r own hdecl hown hbases _ _ h := by
    cases h
    rw [r.names_putAll hown (hdeclared _ hdecl)]
    exact hinterface r hbases

/-- With one base at most, names are inherited from there as they are. -/
theorem Reading.nodup_names (r : p.Reading) (hown : r.own.Nodup)
    (hone : r.node.focus.interfaceBases.length ≤ 1)
    (hbases : ∀ s ∈ r.bases, NamesApartOr (fun _ _ => False) s) : r.names.Nodup := by
  have hinherited : (Member.names r.inherited).Nodup := by
    have hlength : r.bases.length ≤ 1 := by rwa [bases, List.length_map]
    rw [inherited]
    cases hr : r.bases with
    | nil => exact List.nodup_nil
    | cons s rest =>
      obtain rfl : rest = [] := by simpa [hr] using hlength
      have hapart := hbases s (hr ▸ List.mem_cons_self)
      rw [List.flatMap_singleton]
      cases s with
      | object name ms => exact (hapart name ms rfl).resolve_right id
      | primitive | literal | array | union | named => exact List.nodup_nil
  rw [names]
  refine List.Nodup.append (hinherited.filter _) hown ?_
  intro x hx hmem
  simpa [hmem] using (List.mem_filter.1 hx).2

/-- **A name that leads to an interface has the members of the interface**, at every level. -/
theorem Reading.keeps_reference (r : p.Reading) {inner : Resolve.Level}
    (hinner : Resolve.Forming p G inner) (hnode : r.node.Grounded G) (hown : r.own.Nodup) :
    Resolve.Keeps r.stack
      (fun s => ∃ ms, s = .object (some r.name) ms ∧ Member.names ms = r.names)
      (Resolve.reference p (Resolve.shapeAt p r.levels) inner r.file r.name []) := by
  have hprimitive := r.primitive
  have hclosed := r.opaqueName
  have hfresh := r.fresh
  simp only [← List.contains_iff_mem] at hprimitive hclosed hfresh
  unfold Resolve.reference
  rw [if_neg hprimitive, Resolve.builtin?_nil]
  simp only [hclosed]
  refine Resolve.keeps_get ?_
  rw [if_neg hfresh, r.found]
  refine Resolve.keeps_expanding ?_
  unfold Resolve.declarationShape
  simp only [r.node_eq, r.kind]
  refine (Resolve.keeps_interface r hinner hnode).map ?_
  rintro _ ⟨own, hcarries, rfl⟩
  exact ⟨_, rfl, r.names_putAll hcarries.names_eq hown⟩

open Resolve in
/-- **Which names are repeated.**  Let no body in the project declare a name twice.  Wherever an
object occurs in a shape that the project gives, a name is repeated among its members exactly if the
object is an interface that inherits the name twice and does not declare it again.  A name that
leads to an interface has a shape with exactly the inherited names that are not declared again and
the declared ones, so such repetitions do occur.  If no interface extends two types, no name is
repeated anywhere. -/
theorem member_repeated_iff (p : Project) (hp : p.AllNodes Tree.MembersApart) :
    (∀ s, p.Gives s → ∀ name ms, (Shape.object name ms).Within s → ∀ x,
      (1 < (Member.names ms).count x ↔
        ∃ r : p.Reading, name = some r.name ∧ Member.names ms = r.names ∧
          x ∉ r.own ∧ 1 < (Member.names r.inherited).count x)) ∧
    (∀ r : p.Reading, r.levels = maxDepth - 1 → r.stack = [] →
      ∃ ms, p.nameShape r.file r.name = .object (some r.name) ms ∧ Member.names ms = r.names) ∧
    ((p.AllNodes fun t => t.interfaceBases.length ≤ 1) →
      ∀ s, p.Gives s → ∀ name ms, (Shape.object name ms).Within s → (Member.names ms).Nodup) := by
  have hnode : ∀ r : p.Reading, r.node.Grounded Tree.MembersApart := fun r =>
    grounded_node? hp r.found r.node_eq
  have hown : ∀ r : p.Reading, r.own.Nodup := fun r => (r.declared_own (hnode r)).nodup
  refine ⟨?_, ?_, ?_⟩
  · -- the exceptions are the interfaces, all of them
    intro s hs name ms hwithin x
    have hinvariant : p.Invariant Tree.MembersApart
        (NamesApartOr fun name names => ∃ r : p.Reading, name = some r.name ∧ names = r.names) :=
      invariant_names (fun _ h => h.nodup) (by simp) fun r _ => .inr ⟨r, rfl, rfl⟩
    constructor
    · intro hcount
      rcases hinvariant.throughout (hs.forms hp) _ hwithin name ms rfl with hnodup | ⟨r, hname, hr⟩
      · exact absurd hcount (by simpa using List.nodup_iff_count_le_one.1 hnodup x)
      · rw [hr] at hcount
        exact ⟨r, hname, hr, (r.one_lt_count_names (hown r) x).1 hcount⟩
    · rintro ⟨r, -, hr, hcount⟩
      rw [hr]
      exact (r.one_lt_count_names (hown r) x).2 hcount
  · intro r hlevels hstack
    have hkeeps := r.keeps_reference (forming_shapeAt hp (maxDepth - 2)) (hnode r) (hown r)
    rw [hlevels, hstack] at hkeeps
    exact hkeeps.2
  · -- with one base for each interface there are no exceptions
    intro hone s hs name ms hwithin
    have hsingle : ∀ r : p.Reading, r.node.focus.interfaceBases.length ≤ 1 := fun r =>
      (grounded_node? hone r.found r.node_eq).1.self
    have hinvariant : p.Invariant Tree.MembersApart (NamesApartOr fun _ _ => False) :=
      invariant_names (fun _ h => h.nodup) (by simp) fun r hbases =>
        .inl (r.nodup_names (hown r) (hsingle r) hbases)
    exact (hinvariant.throughout (hs.forms hp) _ hwithin name ms rfl).resolve_right id

end Project

/-! ## Two bases with one name -/

namespace TwoBases

open RouteInventory.Tree (sketchAt)

/-- A property of a primitive type. -/
def property (start : Nat) (name type : String) : Tree :=
  sketchAt .propertySignature start (start + 2) ""
    [(sketchAt .propertyIdentifier start (start + 1) name []).withRole .name,
      (sketchAt .typeClause (start + 1) (start + 2) ""
        [sketchAt .predefinedType (start + 1) (start + 2) type []]).withRole .type]

/-- An interface of ten characters that extends some types and has some properties. -/
def interface (start : Nat) (name : String) (bases : List String) (properties : List Tree) : Tree :=
  sketchAt .interfaceDeclaration start (start + 10) ""
    [(sketchAt .typeIdentifier start (start + 1) name []).withRole .name,
      sketchAt .extendsTypeClause (start + 1) (start + 3) ""
        (bases.map fun base => sketchAt .typeIdentifier (start + 1) (start + 2) base []),
      (sketchAt .interfaceBody (start + 3) (start + 9) "" properties).withRole .body]

/-- `Paging` and `Search` both have `limit`, and `Query` extends both. -/
def program : Tree :=
  sketchAt .program 0 30 ""
    [interface 0 "Paging" [] [property 3 "limit" "number", property 5 "page" "number"],
      interface 10 "Search" [] [property 13 "limit" "number", property 15 "text" "string"],
      interface 20 "Query" ["Paging", "Search"] []]

def path : Path := ⟨true, ["app", "a.ts"]⟩

def project : Project := (Project.empty ⟨true, ["app"]⟩).insertTree path program

def file : SourceFile := (project.fileAt? path).getD default

theorem membersApart : project.AllNodes Tree.MembersApart := by decide

theorem nameShape_query :
    project.nameShape file "Query" = .object (some "Query")
      [⟨"limit", .primitive "number", false⟩, ⟨"page", .primitive "number", false⟩,
        ⟨"limit", .primitive "number", false⟩, ⟨"text", .primitive "string", false⟩] := by
  decide

/-- No body declares a name twice, and still `Query` has `limit` twice, inherited and not declared
again. -/
theorem limit_repeated :
    project.AllNodes Tree.MembersApart ∧
    ∃ name ms, project.nameShape file "Query" = .object name ms ∧
      1 < (Member.names ms).count "limit" ∧
      ∃ r : project.Reading, name = some r.name ∧ Member.names ms = r.names ∧
        "limit" ∉ r.own ∧ 1 < (Member.names r.inherited).count "limit" := by
  have hshape := nameShape_query
  refine ⟨membersApart, _, _, hshape, by decide, ?_⟩
  have hgiven : project.Gives (project.nameShape file "Query") := .name file "Query"
  refine ((project.member_repeated_iff membersApart).1 _ hgiven _ _ ?_ "limit").1 (by decide)
  rw [hshape]
  exact .refl

end TwoBases

end RouteInventory
