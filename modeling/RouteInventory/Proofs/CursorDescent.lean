import Mathlib.Logic.Relation
import RouteInventory.Syntax.Literal

/-!
# Going down and up in a tree

`Cursor.Contains c d` says that `d` lies at or below `c`, reached over named nodes.  Since a cursor
knows its parent, the nodes that contain a given one form a chain.

* `mem_preorder_iff`, `mem_reach_iff`, `nodup_reach`: the walks of a tree list what a node contains,
  each node once; a node that is not to be entered hides everything below it.
* `Contains.comparable`: of two nodes that contain a third, one contains the other.
* `Descends.eq_of_path_eq`: nodes of one tree with the same path are the same.
* `ancestors_split`: an ancestor divides the ancestors of a node.
* `Shared`: properties that all nodes of a tree share.
* `Wraps`: how `unwrapped` goes down, one pair of parentheses or non-null mark at a time.
-/

namespace RouteInventory

/-- A node that is written by hand, on the first line. -/
def Tree.sketchAt (k : Kind) (start stop : Nat) (text : String) (children : List Tree) : Tree :=
  .node { kind := k, span := ⟨start, stop, 1, start + 1⟩, text := text } children

/-- A node that is written by hand and whose place does not matter. -/
def Tree.sketch (k : Kind) (text : String) (children : List Tree) : Tree :=
  sketchAt k 0 0 text children

namespace Cursor

/-- `d` is a named child of `c`. -/
def Child (c d : Cursor) : Prop := d ∈ c.children ∧ d.focus.isNamed = true

/-- `d` lies at or below `c`. -/
def Contains : Cursor → Cursor → Prop := Relation.ReflTransGen Child

/-- How many nodes lie above. -/
def depth (c : Cursor) : Nat := c.above.length

variable {a b c d e : Cursor}

/-! ## Parents -/

theorem mem_children_iff :
    d ∈ c.children ↔ ∃ i t, c.focus.children[i]? = some t ∧ d = c.down t i := by
  unfold children
  rw [List.mem_mapIdx]
  constructor
  · rintro ⟨i, hi, rfl⟩
    exact ⟨i, c.focus.children[i], List.getElem?_eq_getElem hi, rfl⟩
  · rintro ⟨i, t, ht, rfl⟩
    obtain ⟨hi, rfl⟩ := List.getElem?_eq_some_iff.1 ht
    exact ⟨i, hi, rfl⟩

theorem map_focus_children (c : Cursor) : c.children.map focus = c.focus.children := by
  apply List.ext_getElem
  · simp [children]
  · simp [children, down]

theorem parent?_of_mem_children (h : d ∈ c.children) : d.parent? = some c := by
  obtain ⟨i, t, -, rfl⟩ := mem_children_iff.1 h
  rfl

theorem ancestors_of_mem_children (h : d ∈ c.children) : d.ancestors = c :: c.ancestors := by
  obtain ⟨i, t, -, rfl⟩ := mem_children_iff.1 h
  rfl

theorem depth_of_mem_children (h : d ∈ c.children) : d.depth = c.depth + 1 := by
  obtain ⟨i, t, -, rfl⟩ := mem_children_iff.1 h
  rfl

theorem length_path (c : Cursor) : c.path.length = c.depth := List.length_map _

/-- A node has one parent. -/
theorem Child.unique (ha : Child a d) (hb : Child b d) : a = b :=
  Option.some.inj ((parent?_of_mem_children ha.1).symm.trans (parent?_of_mem_children hb.1))

theorem child_of_mem_parts (h : d ∈ c.parts) : Child c d := by
  obtain ⟨hmem, hpart⟩ := List.mem_filter.1 h
  exact ⟨hmem, (Bool.and_eq_true_iff.1 hpart).1⟩

/-! ## Nodes of a tree -/

/-- `d` is a node of the tree at `c`, named or not. -/
def Descends : Cursor → Cursor → Prop := Relation.ReflTransGen fun c d => d ∈ c.children

namespace Descends

theorem depth_le (h : Descends c d) : c.depth ≤ d.depth := by
  induction h with
  | refl => exact Nat.le_refl _
  | tail _ hchild ih =>
    rw [depth_of_mem_children hchild]
    exact Nat.le_succ_of_le ih

/-- The nodes that a given one lies below form a chain. -/
theorem comparable (ha : Descends a d) (hb : Descends b d) : Descends a b ∨ Descends b a := by
  induction ha generalizing b with
  | refl => exact .inr hb
  | @tail p d hap hd ih =>
    rcases Relation.ReflTransGen.cases_tail hb with rfl | ⟨q, hbq, hq⟩
    · exact .inl (hap.tail hd)
    · have hparents := (parent?_of_mem_children hq).symm.trans (parent?_of_mem_children hd)
      exact ih (Option.some.inj hparents ▸ hbq)

/-- Nodes of one tree with the same path are the same. -/
theorem eq_of_path_eq {r : Cursor} (hc : Descends r c) (hd : Descends r d)
    (hpath : c.path = d.path) : c = d := by
  have hdepth : c.depth = d.depth := by rw [← length_path, ← length_path, hpath]
  induction hc generalizing d with
  | refl =>
    rcases Relation.ReflTransGen.cases_tail hd with rfl | ⟨q, hrq, hd⟩
    · rfl
    · have hle := depth_le hrq
      have hlt := depth_of_mem_children hd
      omega
  | @tail p c hrp hc ih =>
    rcases Relation.ReflTransGen.cases_tail hd with rfl | ⟨q, hrq, hd⟩
    · have hle := depth_le hrp
      have hlt := depth_of_mem_children hc
      omega
    · obtain ⟨i, t, ht, rfl⟩ := mem_children_iff.1 hc
      obtain ⟨j, u, hu, rfl⟩ := mem_children_iff.1 hd
      have hboth : i = j ∧ p.path = q.path := List.cons_eq_cons.1 hpath
      obtain ⟨rfl, hpq⟩ := hboth
      obtain rfl := ih hrq hpq (Nat.succ.inj hdepth)
      obtain rfl : t = u := Option.some.inj (ht.symm.trans hu)
      rfl

/-- The ancestors of a node of a tree are nodes of the tree. -/
theorem ancestor {t : Tree} (h : Descends (ofTree t) d) :
    ∀ a ∈ d.ancestors, Descends (ofTree t) a := by
  induction h with
  | refl =>
    intro a ha
    cases ha
  | @tail p d hp hd ih =>
    intro a ha
    rw [ancestors_of_mem_children hd] at ha
    rcases List.mem_cons.1 ha with rfl | ha
    · exact hp
    · exact ih a ha

theorem part (h : Descends c d) (he : e ∈ d.parts) : Descends c e :=
  h.tail (List.mem_filter.1 he).1

theorem role {r : Role} (h : Descends c d) (he : d.role? r = some e) : Descends c e :=
  h.tail (List.mem_of_find?_eq_some he)

end Descends

/-! ## Ancestors -/

theorem mem_children_of_mem_parts (h : d ∈ c.parts) : d ∈ c.children := (List.mem_filter.1 h).1

theorem mem_children_of_role? {r : Role} (h : c.role? r = some d) : d ∈ c.children :=
  List.mem_of_find?_eq_some h

theorem role_of_role? {r : Role} (h : c.role? r = some d) : d.focus.head.role = some r := by
  simpa using List.find?_some h

/-- An ancestor divides the ancestors into those inside it, itself and its own. -/
theorem ancestors_split (h : a ∈ c.ancestors) :
    ∃ inner, c.ancestors = inner ++ a :: a.ancestors ∧ ∀ s ∈ inner, a ∈ s.ancestors := by
  obtain ⟨t, above⟩ := c
  induction above generalizing t with
  | nil => cases h
  | cons frame above ih =>
    have hcons : (⟨t, frame :: above⟩ : Cursor).ancestors =
        ⟨frame.parent, above⟩ :: (⟨frame.parent, above⟩ : Cursor).ancestors := rfl
    rw [hcons] at h ⊢
    rcases List.mem_cons.1 h with rfl | h
    · exact ⟨[], rfl, List.forall_mem_nil _⟩
    · obtain ⟨inner, heq, hinner⟩ := ih frame.parent h
      refine ⟨⟨frame.parent, above⟩ :: inner, by rw [heq, List.cons_append], ?_⟩
      exact List.forall_mem_cons.2 ⟨h, hinner⟩

theorem ancestors_trans (hab : a ∈ b.ancestors) (hbc : b ∈ c.ancestors) : a ∈ c.ancestors := by
  obtain ⟨inner, heq, -⟩ := ancestors_split hbc
  rw [heq]
  exact List.mem_append_right _ (List.mem_cons_of_mem b hab)

theorem depth_lt_of_mem_ancestors (h : a ∈ c.ancestors) : a.depth < c.depth := by
  have hlength : ∀ c : Cursor, c.ancestors.length = c.depth := by
    rintro ⟨t, above⟩
    induction above generalizing t with
    | nil => rfl
    | cons frame above ih => exact congrArg Nat.succ (ih frame.parent)
  obtain ⟨inner, heq, -⟩ := ancestors_split h
  have hlen := congrArg List.length heq
  rw [List.length_append, List.length_cons, hlength, hlength] at hlen
  omega

/-! ## Properties that all nodes of a tree share -/

/-- A property that passes from a node to its children and to its ancestors. -/
structure Shared (K : Cursor → Prop) : Prop where
  child : ∀ {c d}, K c → d ∈ c.children → K d
  ancestor : ∀ {c a}, K c → a ∈ c.ancestors → K a

namespace Shared

variable {K : Cursor → Prop}

theorem part (hK : Shared K) (hc : K c) (h : d ∈ c.parts) : K d :=
  hK.child hc (mem_children_of_mem_parts h)

theorem role (hK : Shared K) {r : Role} (hc : K c) (h : c.role? r = some d) : K d :=
  hK.child hc (mem_children_of_role? h)

theorem descends (hK : Shared K) (hc : K c) (h : Descends c d) : K d := by
  induction h with
  | refl => exact hc
  | tail _ hchild ih => exact hK.child ih hchild

end Shared

theorem shared_descends (t : Tree) : Shared (Descends (ofTree t)) where
  child hc hd := hc.tail hd
  ancestor hc ha := hc.ancestor _ ha

/-! ## Containment -/

namespace Contains

theorem refl (c : Cursor) : Contains c c := Relation.ReflTransGen.refl

theorem of_child (h : Child c d) : Contains c d := Relation.ReflTransGen.single h

theorem trans (hab : Contains a b) (hbc : Contains b c) : Contains a c :=
  Relation.ReflTransGen.trans hab hbc

theorem descends (h : Contains c d) : Descends c d := h.lift id fun _ _ hchild => hchild.1

theorem depth_le (h : Contains c d) : c.depth ≤ d.depth := h.descends.depth_le

/-- What lies at or above a node is the node itself or lies at or above its parent. -/
theorem eq_or_parent (h : Contains a d) (hd : Child c d) : a = d ∨ Contains a c := by
  rcases Relation.ReflTransGen.cases_tail h with rfl | ⟨b, hab, hb⟩
  · exact .inl rfl
  · exact .inr (hb.unique hd ▸ hab)

theorem eq_of_depth_le (h : Contains c d) (hdepth : d.depth ≤ c.depth) : c = d := by
  rcases Relation.ReflTransGen.cases_tail h with rfl | ⟨b, hcb, hb⟩
  · rfl
  · have hle := depth_le hcb
    have hlt := depth_of_mem_children hb.1
    omega

theorem antisymm (hab : Contains a b) (hba : Contains b a) : a = b :=
  hab.eq_of_depth_le hba.depth_le

/-- The nodes that contain a given one form a chain. -/
theorem comparable (ha : Contains a d) (hb : Contains b d) : Contains a b ∨ Contains b a := by
  induction ha generalizing b with
  | refl => exact .inr hb
  | @tail p d hap hd ih =>
    rcases hb.eq_or_parent hd with rfl | hbp
    · exact .inl (hap.tail hd)
    · exact ih hbp

theorem eq_of_path_eq {r : Cursor} (hc : Contains r c) (hd : Contains r d)
    (hpath : c.path = d.path) : c = d :=
  hc.descends.eq_of_path_eq hd.descends hpath

/-- If a chain of children satisfies a condition at each step, so does what stands between its
ends. -/
theorem between {R : Cursor → Cursor → Prop} {Q : Cursor → Prop}
    (hR : ∀ a b, R a b → Child a b ∧ Q a) (h : Relation.ReflTransGen R c d) (hce : Contains c e)
    (hed : Contains e d) : e = d ∨ Q e := by
  induction h with
  | refl => exact .inl (hed.antisymm hce)
  | @tail b d _ hbd ih =>
    obtain ⟨hchild, hb⟩ := hR b d hbd
    rcases hed.eq_or_parent hchild with rfl | heb
    · exact .inl rfl
    · rcases ih heb with rfl | he
      · exact .inr hb
      · exact .inr he

end Contains

/-! ## Walks -/

/-- A step of a walk that does not leave the nodes to be entered. -/
def Enters (enter : Cursor → Bool) (c d : Cursor) : Prop := enter c = true ∧ Child c d

mutual
theorem mem_reachFrom (enter : Cursor → Bool) (t : Tree) (above : List Frame) (d : Cursor) :
    d ∈ reachFrom enter t above ↔ Relation.ReflTransGen (Enters enter) ⟨t, above⟩ d := by
  obtain ⟨h, ts⟩ := t
  rw [reachFrom, List.mem_cons, Relation.ReflTransGen.cases_head_iff, eq_comm]
  refine or_congr_right ?_
  split
  · rename_i henter
    rw [mem_reachAmong]
    constructor
    · rintro ⟨j, u, hu, hnamed, hd⟩
      rw [Nat.zero_add] at hd
      exact ⟨_, ⟨henter, mem_children_iff.2 ⟨j, u, hu, rfl⟩, hnamed⟩, hd⟩
    · rintro ⟨e, ⟨-, he, hnamed⟩, hd⟩
      obtain ⟨j, u, hu, rfl⟩ := mem_children_iff.1 he
      refine ⟨j, u, hu, hnamed, ?_⟩
      rw [Nat.zero_add]
      exact hd
  · rename_i henter
    constructor
    · intro hd
      cases hd
    · rintro ⟨e, ⟨he, -⟩, -⟩
      exact absurd he henter

theorem mem_reachAmong (enter : Cursor → Bool) (ts : List Tree) (parent : Tree)
    (above : List Frame) (i : Nat) (d : Cursor) :
    d ∈ reachAmong enter ts parent above i ↔ ∃ j t, ts[j]? = some t ∧ t.isNamed = true ∧
      Relation.ReflTransGen (Enters enter) ⟨t, ⟨parent, i + j⟩ :: above⟩ d := by
  cases ts with
  | nil => simp [reachAmong]
  | cons t ts =>
    rw [reachAmong, List.mem_append, mem_reachAmong enter ts parent above (i + 1) d]
    constructor
    · rintro (hd | ⟨j, u, hu, hnamed, hd⟩)
      · split at hd
        · exact ⟨0, t, rfl, ‹_›, (mem_reachFrom enter t _ d).1 hd⟩
        · cases hd
      · refine ⟨j + 1, u, hu, hnamed, ?_⟩
        rwa [show i + (j + 1) = i + 1 + j by omega]
    · rintro ⟨j, u, hu, hnamed, hd⟩
      cases j with
      | zero =>
        obtain rfl : t = u := Option.some.inj hu
        rw [if_pos hnamed]
        exact .inl ((mem_reachFrom enter t _ d).2 hd)
      | succ j =>
        refine .inr ⟨j, u, hu, hnamed, ?_⟩
        rwa [show i + 1 + j = i + (j + 1) by omega]
end

theorem mem_preorder_iff : d ∈ c.preorder ↔ c.Contains d := by
  have hall : Enters (fun _ => true) = Child := by
    funext a b
    exact propext ⟨fun h => h.2, fun h => ⟨rfl, h⟩⟩
  unfold preorder reach Contains
  rw [mem_reachFrom, hall]

/-- A walk comes to a node exactly if it enters all nodes above. -/
theorem mem_reach_iff {enter : Cursor → Bool} :
    d ∈ c.reach enter ↔
      c.Contains d ∧ ∀ g, c.Contains g → g.Contains d → g ≠ d → enter g = true := by
  unfold reach
  rw [mem_reachFrom]
  constructor
  · intro h
    induction h with
    | refl => exact ⟨.refl c, fun g hcg hgc hne => absurd (hgc.antisymm hcg) hne⟩
    | @tail b d _ hbd ih =>
      refine ⟨ih.1.tail hbd.2, fun g hcg hgd hne => ?_⟩
      have hgb := (hgd.eq_or_parent hbd.2).resolve_left hne
      by_cases hg : g = b
      · exact hg ▸ hbd.1
      · exact ih.2 g hcg hgb hg
  · rintro ⟨hcd, henter⟩
    induction hcd with
    | refl => exact .refl
    | @tail b d hcb hbd ih =>
      have hb : b ≠ d := by
        rintro rfl
        have := depth_of_mem_children hbd.1
        omega
      refine .tail (ih fun g hcg hgb hne => henter g hcg (hgb.tail hbd) ?_)
        ⟨henter b hcb (.of_child hbd) hb, hbd⟩
      rintro rfl
      have hle := Contains.depth_le hgb
      have hlt := depth_of_mem_children hbd.1
      omega

mutual
theorem nodup_reachFrom (enter : Cursor → Bool) (t : Tree) (above : List Frame) :
    (reachFrom enter t above).Nodup := by
  obtain ⟨h, ts⟩ := t
  rw [reachFrom, List.nodup_cons]
  split
  · refine ⟨fun hmem => ?_, nodup_reachAmong enter ts (.node h ts) above 0⟩
    obtain ⟨j, u, -, -, hd⟩ := (mem_reachAmong ..).1 hmem
    have hle : above.length + 1 ≤ above.length :=
      Contains.depth_le (hd.lift id fun _ _ h => h.2)
    omega
  · exact ⟨List.not_mem_nil, List.nodup_nil⟩

theorem nodup_reachAmong (enter : Cursor → Bool) (ts : List Tree) (parent : Tree)
    (above : List Frame) (i : Nat) : (reachAmong enter ts parent above i).Nodup := by
  cases ts with
  | nil => exact List.nodup_nil
  | cons t ts =>
    rw [reachAmong, List.nodup_append]
    refine ⟨?_, nodup_reachAmong enter ts parent above (i + 1), ?_⟩
    · split
      · exact nodup_reachFrom enter t _
      · exact List.nodup_nil
    · rintro d hd _ hd' rfl
      split at hd
      · obtain ⟨j, u, -, -, hu⟩ := (mem_reachAmong ..).1 hd'
        have ht : Contains ⟨t, ⟨parent, i⟩ :: above⟩ d :=
          ((mem_reachFrom ..).1 hd).lift id fun _ _ h => h.2
        have hu : Contains ⟨u, ⟨parent, i + 1 + j⟩ :: above⟩ d := hu.lift id fun _ _ h => h.2
        have heq : (⟨t, ⟨parent, i⟩ :: above⟩ : Cursor) = ⟨u, ⟨parent, i + 1 + j⟩ :: above⟩ := by
          rcases ht.comparable hu with h | h
          · exact h.eq_of_depth_le (Nat.le_refl _)
          · exact (h.eq_of_depth_le (Nat.le_refl _)).symm
        injection heq with _ habove
        injection habove with hframe _
        injection hframe with _ hindex
        omega
      · cases hd
end

/-- No walk comes to a node twice. -/
theorem nodup_reach (enter : Cursor → Bool) (c : Cursor) : (c.reach enter).Nodup :=
  nodup_reachFrom enter c.focus c.above

theorem mem_descendants_iff {k : Kind} : d ∈ c.descendants k ↔ c.Contains d ∧ d.kind = k := by
  unfold descendants
  rw [List.mem_filter, mem_preorder_iff, beq_iff_eq]

/-! ## Parentheses and non-null marks -/

/-- Nodes that `unwrapped` strips. -/
def isWrapper (c : Cursor) : Bool :=
  c.kind == .parenthesizedExpression || c.kind == .nonNullExpression

/-- `d` is what stands in the parentheses, or before the mark, that `c` is. -/
def Wraps (c d : Cursor) : Prop := c.isWrapper = true ∧ c.firstPart? = some d

theorem Wraps.child (h : Wraps c d) : Child c d := child_of_mem_parts (List.mem_of_mem_head? h.2)

theorem unwrapFirst_eq (ts : List Tree) (parent : Tree) (above : List Frame) (i : Nat) :
    unwrapFirst ts parent above i =
      ((ts.mapIdx fun j t => (⟨t, ⟨parent, i + j⟩ :: above⟩ : Cursor)).filter fun d =>
        d.focus.isPart).head?.map unwrapped := by
  induction ts generalizing i with
  | nil => simp [unwrapFirst]
  | cons t ts ih =>
    rw [unwrapFirst, List.mapIdx_cons, List.filter_cons]
    split
    · rfl
    · rw [ih]
      simp only [Nat.add_assoc, Nat.add_comm 1]

theorem unwrapped_eq (c : Cursor) :
    c.unwrapped = if c.isWrapper then (c.firstPart?.map unwrapped).getD c else c := by
  obtain ⟨⟨h, ts⟩, above⟩ := c
  change unwrapFrom (.node h ts) above = _
  rw [unwrapFrom, unwrapFirst_eq]
  simp only [Nat.zero_add]
  rfl

theorem Wraps.unwrapped_eq (h : Wraps c d) : c.unwrapped = d.unwrapped := by
  rw [Cursor.unwrapped_eq c, if_pos h.1, h.2]
  rfl

theorem unwrapped_of_not_isWrapper (h : c.isWrapper = false) : c.unwrapped = c := by
  rw [unwrapped_eq, h]
  rfl

theorem wraps_unwrapped (c : Cursor) : Relation.ReflTransGen Wraps c c.unwrapped := by
  induction hn : c.focus.size using Nat.strongRecOn generalizing c with
  | ind n ih =>
    rw [unwrapped_eq]
    split
    · rename_i hwrap
      cases hfirst : c.firstPart? with
      | none => exact .refl
      | some d =>
        have hsize : d.focus.size < c.focus.size :=
          size_lt_of_mem_parts (List.mem_of_mem_head? hfirst)
        exact .head ⟨hwrap, hfirst⟩ (ih _ (hn ▸ hsize) d rfl)
    · exact .refl

/-- What stands inside wrappers is unwrapped like the whole. -/
theorem unwrapped_congr (h : Relation.ReflTransGen Wraps c d) : c.unwrapped = d.unwrapped := by
  induction h with
  | refl => rfl
  | tail _ hwrap ih => exact ih.trans hwrap.unwrapped_eq

theorem unwrapped_unwrapped (c : Cursor) : c.unwrapped.unwrapped = c.unwrapped :=
  (unwrapped_congr (wraps_unwrapped c)).symm

theorem unwrapped_eq_of_wraps (h : Relation.ReflTransGen Wraps c d) (hd : d.isWrapper = false) :
    c.unwrapped = d :=
  (unwrapped_congr h).trans (unwrapped_of_not_isWrapper hd)

theorem Contains.of_wraps (h : Relation.ReflTransGen Wraps c d) : Contains c d :=
  h.lift id fun _ _ => Wraps.child

/-- Between an expression and what it wraps stand wrappers only. -/
theorem isWrapper_of_between (h : Relation.ReflTransGen Wraps c d) (hce : Contains c e)
    (hed : Contains e d) : e = d ∨ e.isWrapper = true :=
  Contains.between (fun _ _ hw => ⟨hw.child, hw.1⟩) h hce hed

end Cursor

end RouteInventory
