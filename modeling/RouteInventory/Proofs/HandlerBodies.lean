import Mathlib
import RouteInventory.Fastify.Responses
import RouteInventory.Proofs.SourceOrder

/-!
# The nodes of a handler's body

A handler's own nodes are those of its body that lie in no further function.  The functions that are
recognised are those of `Kind.isFunction`; generators are functions of two further kinds.

* `Cursor.Own`, `Cursor.mem_ownNodes_iff`: the nodes that are kept, whatever their place.
* `Cursor.Returns`, `Cursor.Calls`: what counts as returned and as called by a handler, and that
  both are listed in source order.
* `Cursor.enclosing?_eq_some_iff`: for a node whose nearest recognised function is given, this is
  the nearest function of any kind exactly if no generator lies between them.
-/

namespace RouteInventory

namespace Cursor

variable {a c d f g r e body handler : Cursor}

/-! ## Own nodes -/

/-- The node lies in the body and in no recognised function there. -/
structure Own (body d : Cursor) : Prop where
  inside : body.Contains d
  free : ∀ g, body.Contains g → g.Contains d → g.isFunction = false

theorem mem_ownNodes_iff : d ∈ body.ownNodes ↔ body.Own d := by
  unfold ownNodes
  rw [List.mem_filter, mem_reach_iff]
  simp only [Bool.not_eq_true']
  constructor
  · rintro ⟨⟨hin, habove⟩, hd⟩
    refine ⟨hin, fun g hg hgd => ?_⟩
    by_cases heq : g = d
    · exact heq ▸ hd
    · exact habove g hg hgd heq
  · rintro ⟨hin, hfree⟩
    exact ⟨⟨hin, fun g hg hgd _ => hfree g hg hgd⟩, hfree d hin (.refl d)⟩

/-- The handler returns the value `e` at `r`: by a statement of its own, or as the whole body. -/
inductive Returns (handler r e : Cursor) : Prop
  | statement {body : Cursor} (hbody : handler.role? .body = some body)
      (hblock : body.kind = .statementBlock) (hown : body.Own r)
      (hkind : r.kind = .returnStatement) (hvalue : r.firstPart? = some e)
  | concise (hbody : handler.role? .body = some r) (hblock : r.kind ≠ .statementBlock)
      (hvalue : e = r)

/-- The handler makes the call itself. -/
def Calls (handler c : Cursor) : Prop :=
  ∃ body, handler.role? .body = some body ∧ body.Own c ∧ c.kind = .callExpression

theorem mem_returnedValues_iff : (r, e) ∈ handler.returnedValues ↔ handler.Returns r e := by
  unfold returnedValues
  split
  · rename_i hnone
    refine ⟨fun h => absurd h List.not_mem_nil, ?_⟩
    rintro (⟨hbody, -, -, -, -⟩ | ⟨hbody, -, -⟩) <;>
    · rw [hnone] at hbody
      cases hbody
  · rename_i body hbody
    split
    · rename_i hblock
      have hblock := beq_iff_eq.1 hblock
      simp only [List.mem_filterMap, List.mem_filter, mem_ownNodes_iff, beq_iff_eq,
        Option.map_eq_some_iff, Prod.mk.injEq]
      constructor
      · rintro ⟨s, ⟨hown, hkind⟩, value, hvalue, rfl, rfl⟩
        exact .statement hbody hblock hown hkind hvalue
      · rintro (⟨hbody', -, hown, hkind, hvalue⟩ | ⟨hbody', hne, -⟩)
        · obtain rfl := Option.some.inj (hbody.symm.trans hbody')
          exact ⟨r, ⟨hown, hkind⟩, e, hvalue, rfl, rfl⟩
        · obtain rfl := Option.some.inj (hbody.symm.trans hbody')
          exact absurd hblock hne
    · rename_i hblock
      have hblock : body.kind ≠ .statementBlock := fun h => hblock (beq_iff_eq.2 h)
      rw [List.mem_singleton, Prod.mk.injEq]
      constructor
      · rintro ⟨rfl, rfl⟩
        exact .concise hbody hblock rfl
      · rintro (⟨hbody', hblock', -, -, -⟩ | ⟨hbody', -, rfl⟩)
        · obtain rfl := Option.some.inj (hbody.symm.trans hbody')
          exact absurd hblock' hblock
        · obtain rfl := Option.some.inj (hbody.symm.trans hbody')
          exact ⟨rfl, rfl⟩

theorem mem_ownCalls_iff : c ∈ handler.ownCalls ↔ handler.Calls c := by
  unfold ownCalls Calls
  split
  · rename_i hnone
    refine ⟨fun h => absurd h List.not_mem_nil, ?_⟩
    rintro ⟨body, hbody, -⟩
    rw [hnone] at hbody
    cases hbody
  · rename_i body hbody
    rw [List.mem_filter, mem_ownNodes_iff, beq_iff_eq]
    constructor
    · rintro ⟨hown, hkind⟩
      exact ⟨body, hbody, hown, hkind⟩
    · rintro ⟨body', hbody', hown, hkind⟩
      obtain rfl := Option.some.inj (hbody.symm.trans hbody')
      exact ⟨hown, hkind⟩

/-- Generators are functions too, of two kinds of their own. -/
def isGenerator (c : Cursor) : Bool :=
  c.kind == .generatorFunction || c.kind == .generatorFunctionDeclaration

/-- The nearest function of any kind around a node. -/
def enclosing? (c : Cursor) : Option Cursor :=
  c.ancestors.find? fun a => a.isFunction || a.isGenerator

/-- A generator lies between the function and the node. -/
def InGenerator (f c : Cursor) : Prop := ∃ g ∈ c.ancestors, f ∈ g.ancestors ∧ g.isGenerator = true

/-- The function is the nearest recognised one around the node. -/
structure Nearest (f c : Cursor) : Prop where
  isFunction : f.isFunction = true
  around : f ∈ c.ancestors
  first : ∀ g ∈ c.ancestors, f ∈ g.ancestors → g.isFunction = false

/-- A function does not lie around itself or around what is above it. -/
theorem not_mem_ancestors_of_above (hg : g ∈ f :: f.ancestors) : f ∉ g.ancestors := by
  intro hfg
  have hdepth := depth_lt_of_mem_ancestors hfg
  rcases List.mem_cons.1 hg with rfl | hg
  · omega
  · have hdepth' := depth_lt_of_mem_ancestors hg
    omega

/-- **The nearest recognised function is the nearest function of any kind** exactly if no generator
lies between it and the node. -/
theorem enclosing?_eq_some_iff (h : Nearest f c) : c.enclosing? = some f ↔ ¬ InGenerator f c := by
  obtain ⟨inner, hsplit, hinner⟩ := ancestors_split h.around
  have hmem : ∀ g ∈ inner, g ∈ c.ancestors := by
    intro g hg
    rw [hsplit]
    exact List.mem_append_left _ hg
  unfold enclosing?
  rw [hsplit, List.find?_append, List.find?_cons, h.isFunction, Bool.true_or]
  constructor
  · rintro heq ⟨g, hg, hfg, hgenerator⟩
    rw [hsplit, List.mem_append] at hg
    rcases hg with hg | hg
    · -- the generator itself, or a function in it, would have been found first
      have hsome : (inner.find? fun a => a.isFunction || a.isGenerator).isSome :=
        List.find?_isSome.2 ⟨g, hg, Bool.or_eq_true_iff.2 (.inr hgenerator)⟩
      obtain ⟨a, ha⟩ := Option.isSome_iff_exists.1 hsome
      rw [ha, Option.some_or] at heq
      obtain rfl := Option.some.inj heq
      have hself := depth_lt_of_mem_ancestors (hinner a (List.mem_of_find?_eq_some ha))
      omega
    · exact not_mem_ancestors_of_above hg hfg
  · intro hgenerator
    have hnone : (inner.find? fun a => a.isFunction || a.isGenerator) = none := by
      rw [List.find?_eq_none]
      intro g hg htrue
      rcases Bool.or_eq_true_iff.1 htrue with hfunction | hgen
      · rw [h.first g (hmem g hg) (hinner g hg)] at hfunction
        cases hfunction
      · exact hgenerator ⟨g, hmem g hg, hinner g hg, hgen⟩
    rw [hnone, Option.none_or]

/-- What lies above a node inside another lies in that one or above it. -/
theorem Contains.mem_ancestors (h : Contains c d) (ha : a ∈ d.ancestors) :
    Contains c a ∧ Contains a d ∨ a ∈ c.ancestors := by
  induction h with
  | refl => exact .inr ha
  | @tail p d hcp hd ih =>
    rw [ancestors_of_mem_children hd.1, List.mem_cons] at ha
    rcases ha with rfl | ha
    · exact .inl ⟨hcp, .of_child hd⟩
    · exact (ih ha).imp_left fun hap => ⟨hap.1, hap.2.tail hd⟩

theorem Contains.ancestors_subset (h : Contains c d) (ha : a ∈ c.ancestors) : a ∈ d.ancestors := by
  induction h with
  | refl => exact ha
  | tail _ hd ih =>
    rw [ancestors_of_mem_children hd.1]
    exact List.mem_cons_of_mem _ ih

theorem nearest_of_own (hf : f.isFunction = true) (hbody : f.role? .body = some body)
    (hd : body.Own d) : Nearest f d := by
  have habove := ancestors_of_mem_children (mem_children_of_role? hbody)
  refine ⟨hf, hd.inside.ancestors_subset (habove ▸ List.mem_cons_self), fun g hg hfg => ?_⟩
  rcases hd.inside.mem_ancestors hg with ⟨hbg, hgd⟩ | hg
  · exact hd.free g hbg hgd
  · -- above the body lies the function, and what lies around that
    rw [habove] at hg
    exact absurd hfg (not_mem_ancestors_of_above hg)

theorem nearest_body (hf : f.isFunction = true) (hbody : f.role? .body = some body) :
    Nearest f body := by
  have habove := ancestors_of_mem_children (mem_children_of_role? hbody)
  refine ⟨hf, habove ▸ List.mem_cons_self, fun g hg hfg => ?_⟩
  rw [habove] at hg
  exact absurd hfg (not_mem_ancestors_of_above hg)

theorem Returns.nearest (hf : handler.isFunction = true) (h : handler.Returns r e) :
    Nearest handler r := by
  cases h with
  | statement hbody _ hown => exact nearest_of_own hf hbody hown
  | concise hbody => exact nearest_body hf hbody

theorem Calls.nearest (hf : handler.isFunction = true) (h : handler.Calls c) :
    Nearest handler c := by
  obtain ⟨body, hbody, hown, -⟩ := h
  exact nearest_of_own hf hbody hown

end Cursor

end RouteInventory
