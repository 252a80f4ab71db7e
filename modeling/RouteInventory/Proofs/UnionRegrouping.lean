import Mathlib
import RouteInventory.Proofs.CanonicalUnions

/-!
# Unions of unions

`Shape.unionOf` keeps each alternative of its operands where it occurs first.  Taking a union of
some of the operands beforehand drops repetitions only, and so does not change the result: the
alternatives that it leaves are the same, in the same order, and a result with one alternative is
that alternative.

* `Shape.alternativesOf_eq`: alternatives in the order of their first places.
* `Shape.unionOf_map_unionOf`: operands may be united in groups.
* `Shape.unionOf_eq_or_perm`: the order of the operands decides about the order only.
* `Shape.union_laws`: all of these.
-/

namespace RouteInventory

namespace Shape

variable {xs ys : List Shape}

/-! ## Alternatives in the order of their first places -/

theorem foldl_addAlternative_nil (vs : List Shape) : vs.foldl addAlternative [] = vs.eraseDups := by
  induction vs using List.reverseRecOn with
  | nil => rfl
  | append_singleton vs v ih =>
    rw [List.foldl_append, ih, List.eraseDups_append]
    by_cases hv : v ∈ vs <;> simp [addAlternative, List.removeAll, List.eraseDups_cons, hv]

/-- The alternatives of several shapes, each where it occurs first. -/
theorem alternativesOf_eq (vs : List Shape) :
    alternativesOf vs = (vs.flatMap alternatives).eraseDups :=
  foldl_addAlternative_nil _

/-- Repetitions that are dropped beforehand would be dropped anyway. -/
theorem foldl_addAlternative_eraseDups (acc vs : List Shape) :
    vs.eraseDups.foldl addAlternative acc = vs.foldl addAlternative acc := by
  rw [← foldl_addAlternative_nil]
  induction vs using List.reverseRecOn with
  | nil => rfl
  | append_singleton vs v ih =>
    -- `v` comes last on both sides, and is left out beforehand only if it would be left out later
    rw [List.foldl_append, List.foldl_append]
    change (addAlternative (vs.foldl addAlternative []) v).foldl addAlternative acc =
      addAlternative (vs.foldl addAlternative acc) v
    by_cases hv : v ∈ vs
    · have hfirst : v ∈ vs.foldl addAlternative [] := mem_foldl_addAlternative.2 (.inr hv)
      have hthere : v ∈ vs.foldl addAlternative acc := mem_foldl_addAlternative.2 (.inr hv)
      rw [addAlternative, if_pos hfirst, ih, addAlternative, if_pos hthere]
    · have hfirst : v ∉ vs.foldl addAlternative [] := by simpa [mem_foldl_addAlternative] using hv
      rw [addAlternative, if_neg hfirst, List.foldl_append, ih]
      rfl

theorem foldl_addAlternative_flatMap (acc : List Shape) (xss : List (List Shape)) :
    (xss.flatMap alternativesOf).foldl addAlternative acc =
      (xss.flatten.flatMap alternatives).foldl addAlternative acc := by
  induction xss generalizing acc with
  | nil => rfl
  | cons xs xss ih =>
    rw [List.flatMap_cons, List.foldl_append, alternativesOf_eq, foldl_addAlternative_eraseDups,
      ih, List.flatten_cons, List.flatMap_append, List.foldl_append]

/-! ## Uniting in groups -/

/-- **Operands may be united in groups.** -/
theorem unionOf_map_unionOf {xss : List (List Shape)}
    (h : ∀ xs ∈ xss, xs ≠ [] ∧ ∀ s ∈ xs, s.FlatIfUnion) :
    unionOf (xss.map unionOf) = unionOf xss.flatten := by
  have halternatives : (xss.map unionOf).flatMap alternatives = xss.flatMap alternativesOf := by
    rw [List.flatMap_map]
    exact List.flatMap_congr fun xs hxs => alternatives_unionOf (h xs hxs).2 (h xs hxs).1
  rw [unionOf, halternatives, foldl_addAlternative_flatMap, unionOf]

theorem canonicalIfUnion_unionOf (h : ∀ s ∈ xs, s.FlatIfUnion) :
    (unionOf xs).CanonicalIfUnion := by
  intro vs hvs
  rcases unionOf_cases xs with ⟨-, heq⟩ | ⟨s, hs, heq⟩ | ⟨htwo, heq⟩
  · rw [heq] at hvs
    cases hvs
  · exact absurd (heq ▸ hvs) (flat_of_mem_alternativesOf h (hs ▸ List.mem_cons_self) vs)
  · rw [heq] at hvs
    cases hvs
    exact canonical_alternativesOf h htwo

/-! ## Operands in another order -/

theorem perm_alternativesOf (h : ∀ s, s ∈ xs ↔ s ∈ ys) :
    (alternativesOf xs).Perm (alternativesOf ys) := by
  have hx : (alternativesOf xs).Nodup := nodup_foldl_addAlternative List.nodup_nil
  have hy : (alternativesOf ys).Nodup := nodup_foldl_addAlternative List.nodup_nil
  refine (List.perm_ext_iff_of_nodup hx hy).2 fun v => ?_
  simp only [mem_alternativesOf, h]

/-- Two unions of the same operands, each as often and in such order as may be, differ in the order
of their variants only. -/
theorem unionOf_eq_or_perm (h : ∀ s, s ∈ xs ↔ s ∈ ys) :
    unionOf xs = unionOf ys ∨
      ∃ vs ws, vs.Perm ws ∧ unionOf xs = union vs ∧ unionOf ys = union ws := by
  have hperm : (alternativesOf xs).Perm (alternativesOf ys) := perm_alternativesOf h
  have hsame (hx : alternativesOf xs = alternativesOf ys) : unionOf xs = unionOf ys :=
    congrArg ofAlternatives hx
  rcases unionOf_cases xs with ⟨hx, -⟩ | ⟨s, hx, -⟩ | ⟨hx, hxe⟩
  · rw [hx] at hperm hsame
    exact .inl (hsame hperm.nil_eq)
  · rw [hx] at hperm hsame
    exact .inl (hsame (List.singleton_perm.1 hperm))
  · have htwo : 2 ≤ (alternativesOf ys).length := hperm.length_eq ▸ hx
    rcases unionOf_cases ys with ⟨hy, -⟩ | ⟨s, hy, -⟩ | ⟨-, hye⟩
    · simp [hy] at htwo
    · simp [hy] at htwo
    · exact .inr ⟨_, _, hperm, hxe, hye⟩

/-- **The laws of unions.**  Shapes that are no unions, or unions of shapes that are none, may be
united in groups.  The alternatives of their union are their alternatives without repetitions, each
where it occurs first; none of them is a union, and a union is made of two or more.  Operands that
are repeated or stand in another order change the order of the variants at most. -/
theorem union_laws :
    (∀ xs ys : List Shape, xs ≠ [] → ys ≠ [] → (∀ s ∈ xs, s.FlatIfUnion) →
      (∀ s ∈ ys, s.FlatIfUnion) → unionOf [unionOf xs, unionOf ys] = unionOf (xs ++ ys)) ∧
    (∀ xs : List Shape, xs ≠ [] → (∀ s ∈ xs, s.FlatIfUnion) →
      (unionOf xs).alternatives = (xs.flatMap alternatives).eraseDups ∧
      (∀ v ∈ (unionOf xs).alternatives, ∀ ws, v ≠ union ws) ∧
      (unionOf xs).CanonicalIfUnion) ∧
    ∀ xs ys : List Shape, (∀ s, s ∈ xs ↔ s ∈ ys) →
      unionOf xs = unionOf ys ∨
        ∃ vs ws, vs.Perm ws ∧ unionOf xs = union vs ∧ unionOf ys = union ws := by
  refine ⟨?_, ?_, fun xs ys => unionOf_eq_or_perm⟩
  · intro xs ys hx hy hxs hys
    have hgroups : ∀ zs ∈ [xs, ys], zs ≠ [] ∧ ∀ s ∈ zs, s.FlatIfUnion :=
      List.forall_mem_cons.2 ⟨⟨hx, hxs⟩, List.forall_mem_singleton.2 ⟨hy, hys⟩⟩
    have hunited := unionOf_map_unionOf hgroups
    rwa [List.flatten_cons, List.flatten_singleton] at hunited
  · intro xs hx hxs
    have halternatives := alternatives_unionOf hxs hx
    refine ⟨halternatives.trans (alternativesOf_eq xs), fun v hv => ?_,
      canonicalIfUnion_unionOf hxs⟩
    exact flat_of_mem_alternativesOf hxs (halternatives ▸ hv)

/-- Of `(string | (number | null)) | (null | string)` three alternatives are left. -/
theorem nullable_regrouped :
    unionOf [unionOf [primitive "string", union [primitive "number", primitive "null"]],
        unionOf [union [primitive "null", primitive "string"]]] =
      union [primitive "string", primitive "number", primitive "null"] := by
  have hflat {p q : String} : (union [primitive p, primitive q]).FlatIfUnion := by
    intro vs hvs
    cases hvs
    simp
  have hplain {p : String} : (primitive p).FlatIfUnion := fun _ hvs => by cases hvs
  have hgroups := union_laws.1
    [primitive "string", union [primitive "number", primitive "null"]]
    [union [primitive "null", primitive "string"]] (by simp) (by simp)
    (List.forall_mem_cons.2 ⟨hplain, List.forall_mem_singleton.2 hflat⟩)
    (List.forall_mem_singleton.2 hflat)
  exact hgroups.trans (by decide)

end Shape

end RouteInventory
