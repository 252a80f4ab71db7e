import Mathlib
import RouteInventory.Proofs.ShapeFormation

/-!
# Unions stay canonical

`Shape.unionOf` takes apart the unions among the given shapes, but not what lies in these.  One
level is enough, since no union with a union directly in it is ever formed: a canonical union has
two or more variants, none of them a union and no two the same, and each way to form a shape keeps
all unions canonical.

Nothing gets lost on the way: a union has the alternatives of what it was made of.

* `Shape.Canonical` — what is asked of the variants of a union.
* `Shape.FlatIfUnion` — less is asked of operands: no union directly in a union.
* `Shape.canonical_alternativesOf` — a union of such operands is canonical.
* `Shape.mem_alternatives_unionOf` — the alternatives of a union.
* `Project.unions_canonical` — types, names and expressions have canonical unions only.
-/

namespace RouteInventory

namespace Shape

variable {s v : Shape} {vs : List Shape}

/-- Two or more variants, none of them a union, and no two the same. -/
structure Canonical (vs : List Shape) : Prop where
  several : 2 ≤ vs.length
  flat : ∀ v ∈ vs, ∀ ws, v ≠ union ws
  distinct : vs.Nodup

/-- The shape is a canonical union, or none. -/
def CanonicalIfUnion (s : Shape) : Prop := ∀ vs, s = union vs → Canonical vs

/-- The shape is a union of one or more shapes that are no unions, or is no union. -/
def FlatIfUnion (s : Shape) : Prop := ∀ vs, s = union vs → vs ≠ [] ∧ ∀ v ∈ vs, ∀ ws, v ≠ union ws

theorem CanonicalIfUnion.flatIfUnion (h : s.CanonicalIfUnion) : s.FlatIfUnion := by
  intro vs hvs
  have htwo := (h vs hvs).several
  refine ⟨?_, (h vs hvs).flat⟩
  rintro rfl
  simp at htwo

theorem FlatIfUnion.flat (h : s.FlatIfUnion) (hv : v ∈ s.alternatives) : ∀ ws, v ≠ union ws := by
  cases s with
  | union vs => exact (h vs rfl).2 v hv
  | primitive | literal | array | object | named =>
    rw [List.mem_singleton.1 hv]
    intro ws hws
    cases hws

theorem FlatIfUnion.exists_alternative (h : s.FlatIfUnion) : ∃ v, v ∈ s.alternatives := by
  cases s with
  | union vs => exact List.exists_mem_of_ne_nil vs (h vs rfl).1
  | primitive | literal | array | object | named => exact ⟨_, List.mem_singleton_self _⟩

theorem nodup_foldl_addAlternative {acc : List Shape} (h : acc.Nodup) :
    (vs.foldl addAlternative acc).Nodup := by
  induction vs generalizing acc with
  | nil => exact h
  | cons v vs ih =>
    rw [List.foldl_cons]
    apply ih
    unfold addAlternative
    split
    · exact h
    · rename_i hv
      exact List.Nodup.append h (List.nodup_singleton v) (by simpa using hv)

theorem flat_of_mem_alternativesOf (h : ∀ w ∈ vs, w.FlatIfUnion) (hv : v ∈ alternativesOf vs) :
    ∀ ws, v ≠ union ws := by
  obtain ⟨w, hw, hv⟩ := mem_alternativesOf.1 hv
  exact (h w hw).flat hv

/-- Where the given unions have no unions in them, one level of flattening is enough. -/
theorem canonical_alternativesOf (h : ∀ v ∈ vs, v.FlatIfUnion)
    (htwo : 2 ≤ (alternativesOf vs).length) : Canonical (alternativesOf vs) where
  several := htwo
  flat _ hv := flat_of_mem_alternativesOf h hv
  distinct := nodup_foldl_addAlternative List.nodup_nil

theorem alternatives_eq_of_flat (h : ∀ ws, s ≠ union ws) : s.alternatives = [s] := by
  cases s with
  | union vs => exact absurd rfl (h vs)
  | primitive | literal | array | object | named => rfl

theorem alternatives_unionOf (h : ∀ v ∈ vs, v.FlatIfUnion) (hne : vs ≠ []) :
    (unionOf vs).alternatives = alternativesOf vs := by
  rcases unionOf_cases vs with ⟨hnil, -⟩ | ⟨s, hs, heq⟩ | ⟨-, heq⟩
  · -- only unions without variants would leave no alternative
    obtain ⟨w, hw⟩ := List.exists_mem_of_ne_nil vs hne
    obtain ⟨u, hu⟩ := (h w hw).exists_alternative
    have hmem : u ∈ alternativesOf vs := mem_alternativesOf.2 ⟨w, hw, hu⟩
    rw [hnil] at hmem
    cases hmem
  · have hflat : ∀ ws, s ≠ union ws := flat_of_mem_alternativesOf h (hs ▸ List.mem_cons_self)
    rw [heq, hs, alternatives_eq_of_flat hflat]
  · rw [heq]
    rfl

/-- **A union has the alternatives of the shapes that it is made of.** -/
theorem mem_alternatives_unionOf (h : ∀ v ∈ vs, v.CanonicalIfUnion) (hne : vs ≠ []) :
    v ∈ (unionOf vs).alternatives ↔ ∃ w ∈ vs, v ∈ w.alternatives := by
  rw [alternatives_unionOf (fun w hw => (h w hw).flatIfUnion) hne, mem_alternativesOf]

end Shape

namespace Project

/-- Every way to form a shape keeps unions canonical. -/
theorem invariant_canonical (p : Project) (G : Tree → Prop) :
    p.Invariant G Shape.CanonicalIfUnion where
  primitive _ _ h := by cases h
  literal _ _ h := by cases h
  array _ _ h := by cases h
  named _ _ _ _ h := by cases h
  union vs hvs htwo ws h := by
    cases h
    exact Shape.canonical_alternativesOf (fun v hv => (hvs v hv).flatIfUnion) htwo
  withOptional _ _ _ _ _ h := by cases h
  called _ _ _ _ h := by cases h
  merged _ _ h := by cases h
  declared _ _ _ _ h := by cases h
  interface _ _ _ _ _ _ h := by cases h

theorem canonicalIfUnion_of_forms {p : Project} {G : Tree → Prop} {s : Shape} (h : p.Forms G s) :
    s.CanonicalIfUnion :=
  ((p.invariant_canonical G).throughout h).self

theorem canonical_of_within {p : Project} {G : Tree → Prop} {s : Shape} {vs : List Shape}
    (h : p.Forms G s) (hvs : (Shape.union vs).Within s) : Shape.Canonical vs :=
  (p.invariant_canonical G).throughout h _ hvs vs rfl

end Project

/-- The branches of a conditional expression. -/
def Cursor.branches (c : Cursor) : List Cursor :=
  [c.role? .consequence, c.role? .alternative].filterMap id

/-- The alternatives of a conditional expression are those of its branches, one after the other. -/
theorem Typer.mem_alternatives_ternary {t : Typer} {n : Nat} {c : Cursor} {v : Shape}
    (hkind : c.unwrapped.kind = .ternaryExpression) (hbranches : c.unwrapped.branches ≠ []) :
    v ∈ (t.inferAt (n + 1) c []).1.alternatives ↔
      ∃ s ∈ (c.unwrapped.branches.mapM (t.inferAt n) []).1, v ∈ s.alternatives := by
  have hrecipe : t.recipe c.unwrapped = ⟨c.unwrapped.branches, Shape.unionOf⟩ := by
    unfold recipe
    rw [hkind]
    rfl
  rw [inferAt_of_none (Memo.get?_nil _), hrecipe]
  have hforms := (forms_mapM c.unwrapped.branches
    (fun b _ m hm => forms_inferAt t.project.allNodes_true n b.grounded_true hm) [] (List.forall_mem_nil _)).2
  have hne : (c.unwrapped.branches.mapM (t.inferAt n) []).1 ≠ [] := by
    obtain ⟨b, bs, hcons⟩ := List.exists_cons_of_ne_nil hbranches
    rw [hcons, mapM_cons_run]
    exact List.cons_ne_nil _ _
  exact Shape.mem_alternatives_unionOf
    (fun s hs => Project.canonicalIfUnion_of_forms (hforms s hs)) hne

open Shape in
/-- **Unions stay canonical.**  Every union anywhere in the shape of a type, of a name or of an
expression, whatever was asked before, has two or more variants, none of them a union and no two the
same.  The alternatives of a union type are those of its parts, and the alternatives of a
conditional expression those of its branches. -/
theorem Project.unions_canonical (p : Project) :
    (∀ file t vs, (union vs).Within (p.typeShape file t) → Canonical vs) ∧
    (∀ file name vs, (union vs).Within (p.nameShape file name) → Canonical vs) ∧
    (∀ file qs vs, ∀ s ∈ Typer.answers ⟨p, file⟩ qs, (union vs).Within s → Canonical vs) ∧
    (∀ file t v, t.kind = .unionType → t.parts ≠ [] →
      (v ∈ (p.typeShape file t).alternatives ↔
        ∃ u ∈ t.parts, v ∈ (p.typeShape file u).alternatives)) ∧
    ∀ file n c v, c.unwrapped.kind = .ternaryExpression → c.unwrapped.branches ≠ [] →
      (v ∈ (Typer.inferAt ⟨p, file⟩ (n + 1) c []).1.alternatives ↔
        ∃ s ∈ (c.unwrapped.branches.mapM (Typer.inferAt ⟨p, file⟩ n) []).1,
          v ∈ s.alternatives) := by
  have hp := p.allNodes_true
  have htype : ∀ file t, p.Forms (fun _ => True) (p.typeShape file t) := fun file t =>
    forms_typeShape hp file t.allNodes_true
  refine ⟨?_, ?_, ?_, ?_, ?_⟩
  · intro file t vs hvs
    exact canonical_of_within (htype file t) hvs
  · intro file name vs hvs
    exact canonical_of_within (forms_nameShape hp file name) hvs
  · intro file qs vs s hs hvs
    have hforms := Typer.forms_answers (t := ⟨p, file⟩) hp (fun q _ => q.node.grounded_true) s hs
    exact canonical_of_within hforms hvs
  · intro file t v hkind hparts
    have hunion : p.typeShape file t = unionOf (t.parts.map (p.typeShape file)) :=
      Resolve.read_union (n := 12) hkind
    have hcanonical : ∀ w ∈ t.parts.map (p.typeShape file), w.CanonicalIfUnion :=
      List.forall_mem_map.2 fun u _ => canonicalIfUnion_of_forms (htype file u)
    rw [hunion, mem_alternatives_unionOf hcanonical (by simpa using hparts)]
    simp only [List.mem_map, exists_exists_and_eq_and]
  · intro file n c v hkind hbranches
    exact Typer.mem_alternatives_ternary hkind hbranches

/-! ## A union in parentheses -/

namespace NestedUnion

open RouteInventory.Tree (sketch)

/-- The type `string | (string | null)`. -/
def nested : Tree :=
  sketch .unionType ""
    [sketch .predefinedType "string" [],
      sketch .parenthesizedType ""
        [sketch .unionType ""
          [sketch .predefinedType "string" [],
            sketch .literalType "null" [sketch .nullLiteral "null" []]]]]

def project : Project := .empty ⟨true, ["app"]⟩

theorem typeShape_nested :
    project.typeShape default nested = .union [.primitive "string", .primitive "null"] := by
  decide

/-- The inner union is taken apart and `string` not repeated. -/
theorem nested_canonical :
    (Shape.union [.primitive "string", .primitive "null"]).Within
        (project.typeShape default nested) ∧
      Shape.Canonical [.primitive "string", .primitive "null"] := by
  have hwithin : (Shape.union [.primitive "string", .primitive "null"]).Within
      (project.typeShape default nested) := by
    rw [typeShape_nested]
    exact .refl
  exact ⟨hwithin, project.unions_canonical.1 default nested _ hwithin⟩

end NestedUnion

end RouteInventory
