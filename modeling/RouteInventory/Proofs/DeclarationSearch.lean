import Mathlib
import RouteInventory.Proofs.ClassIndex
import RouteInventory.Proofs.ParsedLayout

/-!
# Declarations are found again

A record of a declaration holds the stretch of source that the declaration covers, but not its node.
`Cursor.nodeAt?` looks for the node: it goes down from the root to the smallest node that covers the
stretch, and from there up as long as nodes cover exactly the stretch.

* `Cursor.IsDeepest` — a node covers a range and none of its children does.  In a nested tree all
  nodes that cover the range lie at or above such a node (`IsDeepest.descends_of_covers`), so there
  is exactly one, the one that `Cursor.covering` goes to (`isDeepest_covering`).
* `Cursor.nodeFrom?_eq_some_iff` — from a deepest node upwards the search returns the lowest node of
  the kind that covers exactly the range.
* `SourceFile.Searchable` — files whose trees are nested and in which no declaration lies within
  another one of its kind and range.  Whatever a searchable file records is found again.
* `Grammar.discerns_parse`, `SourceFile.Parsed` — parsed files are of this sort; a declaration in
  them covers more than anything below it, so each record comes from one node.
* `Project.declarations_found_again` — all of this together.
-/

namespace RouteInventory

/-! ## Nested trees -/

namespace Cursor

variable {r a c d s : Cursor} {t : Tree} {k : Kind} {start stop : Nat}

/-- The node covers the bytes from `start` to `stop`. -/
def Covers (c : Cursor) (start stop : Nat) : Prop := c.span.start ≤ start ∧ stop ≤ c.span.stop

/-- A deepest node at or below `r` that covers the range: none of its children does. -/
structure IsDeepest (r : Cursor) (start stop : Nat) (s : Cursor) : Prop where
  descends : Descends r s
  covers : s.Covers start stop
  least : ∀ d ∈ s.children, ¬d.Covers start stop

theorem Descends.nested (h : Descends c d) (hc : c.focus.Nested) : d.focus.Nested := by
  induction h with
  | refl => exact hc
  | tail _ hchild ih => exact ih.child (focus_mem_children hchild)

/-- A node lies inside the nodes above it. -/
theorem Descends.inside (h : Descends c d) (hc : c.focus.Nested) :
    c.span.start ≤ d.span.start ∧ d.span.stop ≤ c.span.stop := by
  induction h with
  | refl => exact ⟨Nat.le_refl _, Nat.le_refl _⟩
  | @tail p d hp hchild ih =>
    obtain ⟨hinside, -⟩ := (Descends.nested hp hc).self
    obtain ⟨hstart, hstop⟩ := hinside _ (focus_mem_children hchild)
    exact ⟨Nat.le_trans ih.1 hstart, Nat.le_trans hstop ih.2⟩

theorem Covers.of_descends (hd : d.Covers start stop) (h : Descends c d) (hc : c.focus.Nested) :
    c.Covers start stop :=
  ⟨Nat.le_trans (h.inside hc).1 hd.1, Nat.le_trans hd.2 (h.inside hc).2⟩

/-- Siblings lie one behind the other, so one of them at most covers a range that is not empty. -/
theorem Covers.eq_of_siblings (hc : c.Covers start stop) (hd : d.Covers start stop)
    (hr : r.focus.Nested) (hlt : start < stop) (hrc : c ∈ r.children) (hrd : d ∈ r.children) :
    c = d := by
  obtain ⟨-, hsuccessive⟩ := hr.self
  obtain ⟨i, t, ht, rfl⟩ := mem_children_iff.1 hrc
  obtain ⟨j, u, hu, rfl⟩ := mem_children_iff.1 hrd
  have hapart : ∀ {i j : Nat} {t u : Tree}, r.focus.children[i]? = some t →
      r.focus.children[j]? = some u → i < j → t.span.stop ≤ u.span.start := by
    intro i j t u ht hu hij
    obtain ⟨hi, rfl⟩ := List.getElem?_eq_some_iff.1 ht
    obtain ⟨hj, rfl⟩ := List.getElem?_eq_some_iff.1 hu
    exact (List.pairwise_iff_getElem.1 hsuccessive i j hi hj hij).2
  have hct : stop ≤ t.span.stop := hc.2
  have hcs : t.span.start ≤ start := hc.1
  have hdt : stop ≤ u.span.stop := hd.2
  have hds : u.span.start ≤ start := hd.1
  rcases Nat.lt_trichotomy i j with hij | rfl | hij
  · have hle := hapart ht hu hij
    omega
  · obtain rfl : t = u := Option.some.inj (ht.symm.trans hu)
    rfl
  · have hle := hapart hu ht hij
    omega

/-- **Every node that covers the range lies at or above a deepest one.** -/
theorem IsDeepest.descends_of_covers (hs : IsDeepest r start stop s) (hr : r.focus.Nested)
    (hlt : start < stop) (hrc : Descends r c) (hc : c.Covers start stop) : Descends c s := by
  induction hrc using Relation.ReflTransGen.head_induction_on with
  | refl => exact hs.descends
  | @head r p hchild hp ih =>
    have hnested := hr.child (focus_mem_children hchild)
    have hpcovers := hc.of_descends hp hnested
    -- The way to the deepest node passes through the same child.
    rcases Relation.ReflTransGen.cases_head hs.descends with rfl | ⟨q, hq, hqs⟩
    · exact absurd hpcovers (hs.least p hchild)
    · have hqcovers := hs.covers.of_descends hqs (hr.child (focus_mem_children hq))
      obtain rfl := hpcovers.eq_of_siblings hqcovers hr hlt hchild hq
      exact ih ⟨hqs, hs.covers, hs.least⟩ hnested

theorem IsDeepest.unique (hs : IsDeepest r start stop s) (hd : IsDeepest r start stop d)
    (hr : r.focus.Nested) (hlt : start < stop) : s = d := by
  have hsd := hd.descends_of_covers hr hlt hs.descends hs.covers
  rcases Relation.ReflTransGen.cases_head hsd with rfl | ⟨q, hq, hqd⟩
  · rfl
  · have hnested := (hs.descends.nested hr).child (focus_mem_children hq)
    exact absurd (hd.covers.of_descends hqd hnested) (hs.least q hq)

/-! ## The way down -/

theorem covering_eq_getD (c : Cursor) (start stop : Nat) :
    c.covering start stop =
      (coveringAmong start stop c.focus.children c.focus c.above 0).getD c := by
  obtain ⟨⟨h, ts⟩, above⟩ := c
  unfold covering
  rw [coveringFrom]
  rfl

section
variable {parent : Tree} {ts : List Tree} {above : List Frame} {i n : Nat}

/-- The trees before the one that covers the range are passed. -/
theorem coveringAmong_eq_some (hts : Tree.Successive ts) (ht : ts[i]? = some t)
    (hstart : t.span.start ≤ start) (hstop : stop ≤ t.span.stop) (hlt : start < stop) :
    coveringAmong start stop ts parent above n =
      some (coveringFrom start stop t (⟨parent, n + i⟩ :: above)) := by
  induction ts generalizing i n with
  | nil => cases ht
  | cons u us ih =>
    obtain ⟨hfirst, hrest⟩ := List.pairwise_cons.1 hts
    rw [coveringAmong]
    cases i with
    | zero =>
      obtain rfl : u = t := Option.some.inj ht
      have hreaches : ¬(decide (u.span.stop < stop) || decide (u.span.stop ≤ start)) = true := by
        simp only [Bool.or_eq_true, decide_eq_true_eq]
        omega
      rw [if_neg hreaches, if_neg (Nat.not_lt.2 hstart)]
      rfl
    | succ i =>
      have hbefore := (hfirst t (List.mem_of_getElem? ht)).2
      have hpassed : (decide (u.span.stop < stop) || decide (u.span.stop ≤ start)) = true := by
        simp only [Bool.or_eq_true, decide_eq_true_eq]
        omega
      rw [if_pos hpassed, ih hrest ht, Nat.add_right_comm n 1 i]
      rfl

/-- No tree covers the range if each of them begins too late or ends too early. -/
theorem coveringAmong_eq_none (h : ∀ t ∈ ts, start < t.span.start ∨ t.span.stop < stop) :
    coveringAmong start stop ts parent above n = none := by
  induction ts generalizing n with
  | nil => rfl
  | cons u us ih =>
    obtain ⟨hfirst, hrest⟩ := List.forall_mem_cons.1 h
    rw [coveringAmong]
    split
    · exact ih hrest
    · rename_i hreaches
      have hlate : start < u.span.start := by
        refine hfirst.resolve_right fun hearly => hreaches ?_
        exact Bool.or_eq_true_iff.2 (.inl (decide_eq_true hearly))
      rw [if_pos hlate]

end

theorem covering_of_mem_children (hr : r.focus.Nested) (hlt : start < stop) (hd : d ∈ r.children)
    (hcovers : d.Covers start stop) : r.covering start stop = d.covering start stop := by
  obtain ⟨i, t, ht, rfl⟩ := mem_children_iff.1 hd
  rw [covering_eq_getD, coveringAmong_eq_some hr.self.2 ht hcovers.1 hcovers.2 hlt, Nat.zero_add]
  rfl

theorem covering_of_least (h : ∀ d ∈ r.children, ¬d.Covers start stop) :
    r.covering start stop = r := by
  have hnone : coveringAmong start stop r.focus.children r.focus r.above 0 = none := by
    refine coveringAmong_eq_none fun t ht => ?_
    obtain ⟨i, hi⟩ := List.getElem?_of_mem ht
    have hcovers := h _ (mem_children_iff.2 ⟨i, t, hi, rfl⟩)
    rcases Nat.lt_or_ge start t.span.start with hlate | hstart
    · exact .inl hlate
    · exact .inr (Nat.lt_of_not_le fun hstop => hcovers ⟨hstart, hstop⟩)
  rw [covering_eq_getD, hnone]
  rfl

/-- **The way down ends at a deepest node that covers the range.** -/
theorem isDeepest_covering (hr : r.focus.Nested) (hlt : start < stop)
    (hcovers : r.Covers start stop) : IsDeepest r start stop (r.covering start stop) := by
  induction hn : r.focus.size using Nat.strongRecOn generalizing r with
  | ind n ih =>
    by_cases hchild : ∃ d ∈ r.children, d.Covers start stop
    · obtain ⟨d, hd, hdcovers⟩ := hchild
      have hfocus := focus_mem_children hd
      rw [covering_of_mem_children hr hlt hd hdcovers]
      obtain ⟨hdescends, hcovering, hleast⟩ :=
        ih _ (hn ▸ Tree.size_lt_of_mem_children hfocus) (hr.child hfocus) hdcovers rfl
      exact ⟨.head hd hdescends, hcovering, hleast⟩
    · have hleast : ∀ d ∈ r.children, ¬d.Covers start stop :=
        fun d hd hdcovers => hchild ⟨d, hd, hdcovers⟩
      rw [covering_of_least hleast]
      exact ⟨.refl, hcovers, hleast⟩

/-! ## The way up -/

theorem spans_iff : c.spans start stop = true ↔ c.span.start = start ∧ c.span.stop = stop := by
  unfold spans
  rw [Bool.and_eq_true, beq_iff_eq, beq_iff_eq]

theorem covers_of_spans (h : c.spans start stop = true) : c.Covers start stop := by
  obtain ⟨rfl, rfl⟩ := spans_iff.1 h
  exact ⟨Nat.le_refl _, Nat.le_refl _⟩

theorem Descends.eq_or_mem_ancestors (h : Descends c d) : c = d ∨ c ∈ d.ancestors := by
  induction h with
  | refl => exact .inl rfl
  | @tail p d _ hchild ih =>
    rw [ancestors_of_mem_children hchild]
    rcases ih with rfl | hp
    · exact .inr List.mem_cons_self
    · exact .inr (List.mem_cons_of_mem _ hp)

theorem descends_of_mem_ancestors (hc : Descends (ofTree t) c) (ha : a ∈ c.ancestors) :
    Descends a c := by
  induction hc with
  | refl => cases ha
  | @tail p c _ hchild ih =>
    rw [ancestors_of_mem_children hchild] at ha
    rcases List.mem_cons.1 ha with rfl | ha
    · exact .single hchild
    · exact (ih ha).tail hchild

/-- On the way up every node lies above the ones before it. -/
theorem pairwise_ancestors (c : Cursor) :
    (c :: c.ancestors).Pairwise fun a b => b ∈ a.ancestors := by
  obtain ⟨t, above⟩ := c
  induction above generalizing t with
  | nil => exact List.pairwise_singleton _ _
  | cons frame above ih => exact List.pairwise_cons.2 ⟨fun _ ha => ha, ih frame.parent⟩

/-- Where the way up leads: from a node up as long as nodes cover exactly the range. -/
def climb (s : Cursor) (start stop : Nat) : List Cursor :=
  s :: s.ancestors.takeWhile fun a => a.spans start stop

theorem pairwise_climb (s : Cursor) (start stop : Nat) :
    (s.climb start stop).Pairwise fun a b => b ∈ a.ancestors :=
  s.pairwise_ancestors.sublist ((List.takeWhile_sublist _).cons_cons s)

theorem fits_iff : (c.kind == k && c.spans start stop) = true ↔
    c.kind = k ∧ c.spans start stop = true := by
  rw [Bool.and_eq_true, beq_iff_eq]

section
variable (ht : t.Nested) (hlt : start < stop) (hs : (ofTree t).IsDeepest start stop s)
include ht hlt hs

/-- **The way up from a deepest node passes all nodes that cover exactly the range.** -/
theorem mem_climb_iff (hc : c.spans start stop = true) :
    c ∈ s.climb start stop ↔ Descends (ofTree t) c := by
  constructor
  · intro hmem
    rcases List.mem_cons.1 hmem with rfl | hmem
    · exact hs.descends
    · exact hs.descends.ancestor c ((List.takeWhile_sublist _).subset hmem)
  · intro hdescends
    have hcs := hs.descends_of_covers ht hlt hdescends (covers_of_spans hc)
    rcases hcs.eq_or_mem_ancestors with rfl | hancestor
    · exact List.mem_cons_self
    · obtain ⟨inner, heq, hinner⟩ := ancestors_split hancestor
      -- What lies between the two nodes is inside the one and around the other.
      have hbetween : ∀ x ∈ inner, x.spans start stop = true := by
        intro x hx
        have hxs : x ∈ s.ancestors := heq ▸ List.mem_append_left _ hx
        have htx := hs.descends.ancestor x hxs
        have hcx := (descends_of_mem_ancestors htx (hinner x hx)).inside (hdescends.nested ht)
        have hxcovers :=
          hs.covers.of_descends (descends_of_mem_ancestors hs.descends hxs) (htx.nested ht)
        obtain ⟨rfl, rfl⟩ := spans_iff.1 hc
        exact spans_iff.2 ⟨Nat.le_antisymm hxcovers.1 hcx.1, Nat.le_antisymm hcx.2 hxcovers.2⟩
      unfold climb
      rw [heq, List.takeWhile_append_of_pos hbetween, List.takeWhile_cons, if_pos hc]
      exact List.mem_cons_of_mem _ (List.mem_append_right _ List.mem_cons_self)

theorem lowest_of_nodeFrom? (hfound : s.nodeFrom? start stop k = some c) :
    Descends (ofTree t) c ∧ c.kind = k ∧ c.spans start stop = true ∧
      ∀ d, Descends c d → d.kind = k → d.spans start stop = true → d = c := by
  obtain ⟨hfits, before, behind, heq, hbefore⟩ := List.find?_eq_some_iff_append.1 hfound
  have hclimb : s.climb start stop = before ++ c :: behind := heq
  obtain ⟨hkind, hspans⟩ := fits_iff.1 hfits
  have htc := (mem_climb_iff ht hlt hs hspans).1 (List.mem_of_find?_eq_some hfound)
  refine ⟨htc, hkind, hspans, fun d hcd hdkind hdspans => ?_⟩
  have hd : d ∈ s.climb start stop := (mem_climb_iff ht hlt hs hdspans).2 (htc.trans hcd)
  have hpairwise := s.pairwise_climb start stop
  rw [hclimb] at hd hpairwise
  rcases List.mem_append.1 hd with hd | hd
  · -- The nodes before the first one that fits do not fit.
    have hnot := hbefore d hd
    rw [fits_iff.2 ⟨hdkind, hdspans⟩] at hnot
    cases hnot
  · rcases List.mem_cons.1 hd with rfl | hd
    · rfl
    · -- The nodes behind it lie above it.
      have habove := (List.pairwise_cons.1 (List.pairwise_append.1 hpairwise).2.1).1 d hd
      exact absurd (Descends.depth_le hcd) (Nat.not_le.2 (depth_lt_of_mem_ancestors habove))

theorem exists_nodeFrom? (hc : Descends (ofTree t) c) (hkind : c.kind = k)
    (hspans : c.spans start stop = true) : ∃ d, s.nodeFrom? start stop k = some d := by
  cases hfound : s.nodeFrom? start stop k with
  | none =>
    have hclimb := (mem_climb_iff ht hlt hs hspans).2 hc
    exact absurd (fits_iff.2 ⟨hkind, hspans⟩) (List.find?_eq_none.1 hfound c hclimb)
  | some d => exact ⟨d, rfl⟩

/-- **The search returns the lowest node of the kind that covers exactly the range.** -/
theorem nodeFrom?_eq_some_iff :
    s.nodeFrom? start stop k = some c ↔
      Descends (ofTree t) c ∧ c.kind = k ∧ c.spans start stop = true ∧
        ∀ d, Descends c d → d.kind = k → d.spans start stop = true → d = c := by
  refine ⟨lowest_of_nodeFrom? ht hlt hs, fun ⟨htc, hkind, hspans, hlowest⟩ => ?_⟩
  obtain ⟨d, hfound⟩ := exists_nodeFrom? ht hlt hs htc hkind hspans
  obtain ⟨htd, hdkind, hdspans, hdlowest⟩ := lowest_of_nodeFrom? ht hlt hs hfound
  have hcs := hs.descends_of_covers ht hlt htc (covers_of_spans hspans)
  have hds := hs.descends_of_covers ht hlt htd (covers_of_spans hdspans)
  rw [hfound]
  rcases hcs.comparable hds with hcd | hdc
  · rw [hlowest d hcd hdkind hdspans]
  · rw [hdlowest c hdc hkind hspans]

end

end Cursor

/-! ## Declarations -/

theorem Kind.eq_of_isClassDeclaration {k : Kind} (h : k.isClassDeclaration = true) :
    k = .classDeclaration ∨ k = .abstractClassDeclaration := by
  simpa [isClassDeclaration] using h

theorem Kind.isRecorded_of_isClassDeclaration {k : Kind} (h : k.isClassDeclaration = true) :
    k.isRecorded = true := by
  rcases eq_of_isClassDeclaration h with rfl | rfl
  · rfl
  · rfl

namespace Tree

variable {t : Tree} {ts : List Tree}

/-- Nodes that records are made of: declarations that have a name. -/
def IsDeclaration (t : Tree) : Prop := t.kind.isRecorded = true ∧ (t.role? .name).isSome = true

/-- Both cover the same range. -/
def Coincides (t u : Tree) : Prop := u.span.start = t.span.start ∧ u.span.stop = t.span.stop

/-- The node is not empty, and no node of its kind below it covers the same range. -/
structure Distinct (t : Tree) : Prop where
  nonempty : t.span.start < t.span.stop
  single : ∀ u ∈ nodesOf t.children, u.kind = t.kind → ¬t.Coincides u

/-- The declarations in the tree can be told apart by kind and range. -/
def Discerns (t : Tree) : Prop := t.AllNodes fun u => u.IsDeclaration → u.Distinct

/-- The node is not empty, and no node below it covers the same range. -/
structure Exceeds (t : Tree) : Prop where
  nonempty : t.span.start < t.span.stop
  single : ∀ u ∈ nodesOf t.children, ¬t.Coincides u

theorem Exceeds.distinct (h : t.Exceeds) : t.Distinct :=
  ⟨h.nonempty, fun u hu _ => h.single u hu⟩

theorem Shows.exists_split {n : Nat} (hts : Shows (n + 1) ts) :
    ∃ us t vs, ts = us ++ t :: vs ∧ t.text ≠ "" ∧ Shows n vs := by
  induction ts with
  | nil => cases hts
  | cons t ts ih =>
    unfold Shows at hts
    rw [List.countP_cons] at hts
    by_cases ht : t.text = ""
    · rw [if_neg (by simp [ht])] at hts
      obtain ⟨us, u, vs, rfl, hu, hvs⟩ := ih hts
      exact ⟨t :: us, u, vs, rfl, hu, hvs⟩
    · rw [if_pos (bne_iff_ne.2 ht)] at hts
      exact ⟨[], t, ts, rfl, ht, Nat.le_of_succ_le_succ hts⟩

/-- A node covers more than each of its children if two of them have text. -/
theorem exceeds_children {src : Grammar.Source} {comments : List (Nat × Nat)}
    (ht : t.AllNodes (Placed src comments)) (hshows : Shows 2 t.children) :
    t.span.start < t.span.stop ∧
      ∀ u ∈ t.children, t.span.start < u.span.start ∨ u.span.stop < t.span.stop := by
  obtain ⟨inside, successive⟩ := ht.self.encloses
  have below : ∀ u ∈ t.children, u.text ≠ "" → u.span.start < u.span.stop :=
    fun u hu => (ht.child hu).self.visible
  obtain ⟨us, v, vs, heq, hv, hvs⟩ := hshows.exists_split
  obtain ⟨vs₁, w, vs₂, rfl, hw, -⟩ := hvs.exists_split
  rw [heq] at inside successive below ⊢
  have hmemv : v ∈ us ++ v :: (vs₁ ++ w :: vs₂) := by simp
  have hmemw : w ∈ us ++ v :: (vs₁ ++ w :: vs₂) := by simp
  have hvlt := below v hmemv hv
  have hwlt := below w hmemw hw
  obtain ⟨-, hrest, hbefore⟩ := List.pairwise_append.1 successive
  obtain ⟨hbehind, -⟩ := List.pairwise_cons.1 hrest
  have hvw := (hbehind w (by simp)).2
  have hvin := inside v hmemv
  have hwin := inside w hmemw
  refine ⟨by omega, fun x hx => ?_⟩
  rcases List.mem_append.1 hx with hx | hx
  · have hxv := (hbefore x hx v List.mem_cons_self).2
    exact .inr (by omega)
  · rcases List.mem_cons.1 hx with rfl | hx
    · exact .inr (by omega)
    · have hvx := (hbehind x hx).2
      exact .inl (by omega)

theorem Nested.inside_nodes (ht : t.Nested) {u : Tree} (hu : u ∈ t.nodes) :
    t.span.start ≤ u.span.start ∧ u.span.stop ≤ t.span.stop := by
  have hstep : ∀ v : Tree, v.Encloses →
      (t.span.start ≤ v.span.start ∧ v.span.stop ≤ t.span.stop) →
      ∀ w ∈ v.children, t.span.start ≤ w.span.start ∧ w.span.stop ≤ t.span.stop := by
    intro v hv hin w hw
    obtain ⟨hstart, hstop⟩ := hv.1 w hw
    exact ⟨Nat.le_trans hin.1 hstart, Nat.le_trans hstop hin.2⟩
  exact AllNodes.descend hstep ht ⟨Nat.le_refl _, Nat.le_refl _⟩ u hu

/-- What covers more than each of its children covers more than everything below it. -/
theorem exceeds_of_shows {src : Grammar.Source} {comments : List (Nat × Nat)}
    (ht : t.AllNodes (Placed src comments)) (hshows : Shows 2 t.children) : t.Exceeds := by
  obtain ⟨hlt, hmore⟩ := exceeds_children ht hshows
  have hnested : t.Nested := ht.mono fun _ h => h.encloses
  refine ⟨hlt, fun u hu => ?_⟩
  obtain ⟨v, hv, huv⟩ := mem_nodesOf_iff.1 hu
  obtain ⟨hstart, hstop⟩ := Nested.inside_nodes (hnested.child hv) huv
  rintro ⟨hsame, hsame'⟩
  rcases hmore v hv with h | h
  · omega
  · omega

/-- A declaration holds its name, which is not a comment. -/
theorem IsDeclaration.exists_child (h : t.IsDeclaration) : ∃ u ∈ t.children, u.isRemark = false := by
  obtain ⟨n, hn⟩ := Option.isSome_iff_exists.1 h.2
  have hrole : n.head.role = some .name := by simpa using List.find?_some hn
  refine ⟨n, List.mem_of_find?_eq_some hn, ?_⟩
  unfold isRemark
  rw [hrole, Bool.and_eq_false_iff]
  exact .inr rfl

end Tree

namespace Grammar

theorem allNodes_formed_parse (markup : Bool) (text : String) :
    (parse markup text).AllNodes Tree.Formed :=
  (Tree.allNodes_true _).descend (fun _ _ ht _ hu => ht.of_mem_children hu)
    (parse_formed markup text)

/-- **A parsed declaration covers more than anything below it**, whatever the text. -/
theorem exceeds_parse {markup : Bool} {text : String} {t : Tree}
    (ht : t ∈ (parse markup text).nodes) (hrecorded : t.kind.isRecorded = true)
    (hown : ∃ u ∈ t.children, u.isRemark = false) : t.Exceeds := by
  have hadmits := (allNodes_formed_parse markup text t ht).admits
  exact Tree.exceeds_of_shows ((placed_parse markup text).node ht) (hadmits.shows hrecorded hown)

theorem discerns_parse (markup : Bool) (text : String) : (parse markup text).Discerns :=
  fun _ ht hdeclaration =>
    (exceeds_parse ht hdeclaration.1 hdeclaration.exists_child).distinct

end Grammar

namespace Cursor

variable {r c d : Cursor} {t : Tree} {file : Path}

theorem Descends.focus_mem_nodes (h : Descends c d) : d.focus ∈ c.focus.nodes := by
  have hall : c.focus.AllNodes (· ∈ c.focus.nodes) := fun _ hu => hu
  induction h with
  | refl => exact hall.self
  | tail _ hchild ih => exact (hall.node ih).child (focus_mem_children hchild) |>.self

theorem Descends.eq_or_mem_nodesOf (h : Descends c d) :
    d = c ∨ d.focus ∈ Tree.nodesOf c.focus.children := by
  rcases Relation.ReflTransGen.cases_head h with rfl | ⟨p, hp, hpd⟩
  · exact .inl rfl
  · exact .inr (Tree.mem_nodesOf_iff.2 ⟨p.focus, focus_mem_children hp, focus_mem_nodes hpd⟩)

/-- **A declaration is found from every deepest node that covers its range.** -/
theorem nodeFrom?_of_distinct (ht : t.Nested) (hc : Descends (ofTree t) c)
    (hdistinct : c.focus.Distinct) {s : Cursor}
    (hs : (ofTree t).IsDeepest c.span.start c.span.stop s) :
    s.nodeFrom? c.span.start c.span.stop c.kind = some c := by
  refine (nodeFrom?_eq_some_iff ht hdistinct.nonempty hs).2
    ⟨hc, rfl, spans_iff.2 ⟨rfl, rfl⟩, fun d hcd hkind hspans => ?_⟩
  rcases hcd.eq_or_mem_nodesOf with rfl | hd
  · rfl
  · exact absurd (spans_iff.1 hspans) (hdistinct.single _ hd hkind)

/-- The way down from the root ends at a deepest node for the range of a node. -/
theorem isDeepest_covering_span (ht : t.Nested) (hc : Descends (ofTree t) c)
    (hlt : c.span.start < c.span.stop) :
    (ofTree t).IsDeepest c.span.start c.span.stop
      ((ofTree t).covering c.span.start c.span.stop) :=
  isDeepest_covering ht hlt ((covers_of_spans (spans_iff.2 ⟨rfl, rfl⟩)).of_descends hc ht)

theorem isDeclaration_of_name {n : Tree} (hrecorded : c.kind.isRecorded = true)
    (hn : c.focus.role? .name = some n) : c.focus.IsDeclaration :=
  ⟨hrecorded, Option.isSome_iff_exists.2 ⟨n, hn⟩⟩

/-- What a class record tells about the node that it was read off. -/
theorem isDeclaration_of_classFacts? {k : ClassFacts} (h : c.classFacts? file = some k) :
    (c.focus.IsDeclaration ∧ k.span = c.span) ∧ c.kind.isClassDeclaration = true := by
  unfold classFacts? at h
  split at h
  · rename_i hclass
    obtain ⟨n, hn, rfl⟩ := Option.map_eq_some_iff.1 h
    exact ⟨⟨isDeclaration_of_name (Kind.isRecorded_of_isClassDeclaration hclass) hn, rfl⟩, hclass⟩
  · cases h

theorem kind_of_declarationKind? {k : DeclarationKind} (h : c.declarationKind? = some k) :
    c.kind = k.nodeKind ∧ c.kind.isRecorded = true := by
  unfold declarationKind? at h
  split at h <;> cases h <;> rename_i hk
  all_goals exact ⟨hk, by rw [hk]⟩

theorem isDeclaration_of_declaration? {d : Declaration} (h : c.declaration? = some d) :
    (c.focus.IsDeclaration ∧ d.span = c.span) ∧ c.kind = d.kind.nodeKind := by
  obtain ⟨k, hk, h⟩ := Option.bind_eq_some_iff.1 h
  obtain ⟨n, hn, h⟩ := Option.bind_eq_some_iff.1 h
  obtain ⟨hkind, hrecorded⟩ := kind_of_declarationKind? hk
  split at h
  · cases h
    exact ⟨⟨isDeclaration_of_name hrecorded hn, rfl⟩, hkind⟩
  · cases h

end Cursor

/-! ## Files -/

/-- Files in which records lead back to their nodes: the children of every node lie inside it and in
order, the declarations can be told apart, and the records were read off the tree. -/
structure SourceFile.Searchable (f : SourceFile) : Prop where
  nested : f.tree.Nested
  discerns : f.tree.Discerns
  facts_eq : f.facts = .ofTree f.path f.tree

namespace SourceFile

variable {f : SourceFile} {c : Cursor} {span : Span} {α : Type} {read : Cursor → Option α} {x : α}

/-- The record `x` with its range was read off some node, and every node that it was read off is
found again by the range and its kind: from any deepest node that covers the range, and so by
`Cursor.nodeAt?`. -/
structure Recovers (f : SourceFile) (read : Cursor → Option α) (x : α) (span : Span) : Prop where
  source : ∃ c ∈ f.root.preorder, read c = some x
  found : ∀ c ∈ f.root.preorder, read c = some x →
    (∀ s, f.root.IsDeepest span.start span.stop s →
      s.nodeFrom? span.start span.stop c.kind = some c) ∧
    f.root.nodeAt? span.start span.stop c.kind = some c

theorem Searchable.distinct (hf : f.Searchable) (hc : f.root.Descends c)
    (hdeclaration : c.focus.IsDeclaration) : c.focus.Distinct :=
  hf.discerns _ (Cursor.Descends.focus_mem_nodes hc) hdeclaration

theorem Searchable.found (hf : f.Searchable) (hc : f.root.Descends c)
    (hdeclaration : c.focus.IsDeclaration) :
    (∀ s, f.root.IsDeepest c.span.start c.span.stop s →
      s.nodeFrom? c.span.start c.span.stop c.kind = some c) ∧
    f.root.nodeAt? c.span.start c.span.stop c.kind = some c := by
  have hdistinct := hf.distinct hc hdeclaration
  refine ⟨fun s hs => Cursor.nodeFrom?_of_distinct hf.nested hc hdistinct hs, ?_⟩
  have hcovering := Cursor.isDeepest_covering_span hf.nested hc hdistinct.nonempty
  exact Cursor.nodeFrom?_of_distinct hf.nested hc hdistinct hcovering

theorem Searchable.recovers (hf : f.Searchable)
    (hread : ∀ c, read c = some x → c.focus.IsDeclaration ∧ span = c.span)
    (hx : x ∈ f.root.preorder.filterMap read) : f.Recovers read x span where
  source := List.mem_filterMap.1 hx
  found c hc hcx := by
    obtain ⟨hdeclaration, rfl⟩ := hread c hcx
    exact hf.found (Cursor.mem_preorder_iff.1 hc).descends hdeclaration

theorem Searchable.recovers_class (hf : f.Searchable) {k : ClassFacts} (hk : k ∈ f.facts.classes) :
    f.Recovers (Cursor.classFacts? f.path) k k.span := by
  rw [hf.facts_eq] at hk
  exact hf.recovers (fun c hc => (Cursor.isDeclaration_of_classFacts? hc).1) hk

theorem Searchable.recovers_declaration (hf : f.Searchable) {d : Declaration}
    (hd : d ∈ f.facts.declarations) : f.Recovers Cursor.declaration? d d.span := by
  rw [hf.facts_eq] at hd
  exact hf.recovers (fun c hc => (Cursor.isDeclaration_of_declaration? hc).1) hd

/-- A class is looked for as a plain one first and then as an abstract one, and there is one. -/
theorem Searchable.node?_class (hf : f.Searchable) {k : ClassFacts} (hk : k ∈ f.facts.classes) :
    ∃ n, (⟨f, .classType, k.span⟩ : TypeDeclaration).node? = some n ∧ f.root.Descends n ∧
      n.kind.isClassDeclaration = true ∧ n.spans k.span.start k.span.stop = true := by
  obtain ⟨⟨c, hc, hread⟩, hfound⟩ := hf.recovers_class hk
  obtain ⟨-, hnode⟩ := hfound c hc hread
  obtain ⟨⟨hdeclaration, hspan⟩, hclass⟩ := Cursor.isDeclaration_of_classFacts? hread
  have hc := (Cursor.mem_preorder_iff.1 hc).descends
  cases hplain : f.root.nodeAt? k.span.start k.span.stop .classDeclaration with
  | some n =>
    rw [hspan] at hplain
    have hdistinct := hf.distinct hc hdeclaration
    have hdeepest := Cursor.isDeepest_covering_span hf.nested hc hdistinct.nonempty
    obtain ⟨hn, hkind, hspans, -⟩ :=
      Cursor.lowest_of_nodeFrom? hf.nested hdistinct.nonempty hdeepest hplain
    rw [hspan]
    exact ⟨n, Option.or_eq_some_iff.2 (.inl hplain), hn, by rw [hkind]; rfl, hspans⟩
  | none =>
    rcases Kind.eq_of_isClassDeclaration hclass with hkind | hkind
    · rw [hkind, hplain] at hnode
      cases hnode
    · rw [hkind] at hnode
      refine ⟨c, Option.or_eq_some_iff.2 (.inr ⟨hplain, hnode⟩), hc, hclass, ?_⟩
      rw [hspan]
      exact Cursor.spans_iff.2 ⟨rfl, rfl⟩

theorem Searchable.node?_declaration (hf : f.Searchable) {d : Declaration}
    (hd : d ∈ f.facts.declarations) (hc : c ∈ f.root.preorder) (hread : c.declaration? = some d) :
    (⟨f, d.kind, d.span⟩ : TypeDeclaration).node? = some c := by
  obtain ⟨-, hnode⟩ := (hf.recovers_declaration hd).found c hc hread
  obtain ⟨-, hkind⟩ := Cursor.isDeclaration_of_declaration? hread
  rw [hkind] at hnode
  exact Option.or_eq_some_iff.2 (.inl hnode)

/-- What a type name refers to within a file is recorded there. -/
theorem mem_facts_of_typeIn? {name : String} {d : TypeDeclaration}
    (h : Project.typeIn? f name = some d) :
    (∃ e ∈ f.facts.declarations, d = ⟨f, e.kind, e.span⟩) ∨
      ∃ k ∈ f.facts.classes, d = ⟨f, .classType, k.span⟩ := by
  unfold Project.typeIn? at h
  split at h
  · rename_i e he
    cases h
    exact .inl ⟨e, List.mem_of_find?_eq_some he, rfl⟩
  · obtain ⟨k, hk, rfl⟩ := Option.map_eq_some_iff.1 h
    exact .inr ⟨k, List.mem_of_find?_eq_some hk, rfl⟩

/-! ## Parsed files -/

/-- The tree of the file was parsed from some text, and the records were read off it. -/
structure Parsed (f : SourceFile) : Prop where
  tree_eq : ∃ markup text, f.tree = Grammar.parse markup text
  facts_eq : f.facts = .ofTree f.path f.tree

theorem Parsed.searchable (hf : f.Parsed) : f.Searchable := by
  obtain ⟨⟨markup, text, htree⟩, hfacts⟩ := hf
  refine ⟨?_, ?_, hfacts⟩
  · rw [htree]
    exact Grammar.nested_parse markup text
  · rw [htree]
    exact Grammar.discerns_parse markup text

/-- Nothing but comments lies below a comment. -/
theorem Parsed.kind_ne_comment (hf : f.Parsed) {d : Cursor} (hc : f.root.Descends c)
    (h : Cursor.Descends c d) (hd : d.kind ≠ .comment) : c.kind ≠ .comment := by
  obtain ⟨⟨markup, text, htree⟩, -⟩ := hf
  have hformed : f.tree.AllNodes Tree.Formed := htree ▸ Grammar.allNodes_formed_parse markup text
  induction h with
  | refl => exact hd
  | @tail p d hp hchild ih =>
    refine ih fun hk => hd ?_
    have hadmits := (hformed _ (Cursor.Descends.focus_mem_nodes (hc.trans hp))).admits
    have hpkind : p.focus.kind = .comment := hk
    rw [hpkind] at hadmits
    exact hadmits _ (Cursor.focus_mem_children hchild)

/-- A declaration is not the only thing in the range of another one. -/
theorem Parsed.eq_of_descends (hf : f.Parsed) {e : Cursor} (hc : f.root.Descends c)
    (hrecorded : c.kind.isRecorded = true) (hce : Cursor.Descends c e) (he : e.kind ≠ .comment)
    (hstart : e.span.start = c.span.start) (hstop : e.span.stop = c.span.stop) : e = c := by
  rcases Relation.ReflTransGen.cases_head hce with rfl | ⟨d, hd, hde⟩
  · rfl
  · have hkind := hf.kind_ne_comment (hc.tail hd) hde he
    have hown : ∃ u ∈ c.focus.children, u.isRemark = false := by
      refine ⟨d.focus, Cursor.focus_mem_children hd, ?_⟩
      unfold Tree.isRemark
      rw [Bool.and_eq_false_iff]
      exact .inl (beq_eq_false_iff_ne.2 hkind)
    obtain ⟨⟨markup, text, htree⟩, -⟩ := hf
    have hmem : c.focus ∈ (Grammar.parse markup text).nodes :=
      htree ▸ Cursor.Descends.focus_mem_nodes hc
    have hmore := Grammar.exceeds_parse hmem hrecorded hown
    refine (Cursor.Descends.eq_or_mem_nodesOf hce).resolve_right fun hbelow => ?_
    exact hmore.single _ hbelow ⟨hstart, hstop⟩

/-- Two declarations do not cover the same range. -/
theorem Parsed.eq_of_spans (hf : f.Parsed) {e : Cursor} (hc : f.root.Descends c)
    (he : f.root.Descends e) (hcrecorded : c.kind.isRecorded = true)
    (herecorded : e.kind.isRecorded = true) (hlt : c.span.start < c.span.stop)
    (hspans : e.spans c.span.start c.span.stop = true) : e = c := by
  have hown {x : Cursor} (hx : x.kind.isRecorded = true) : x.kind ≠ .comment := by
    intro hk
    rw [hk] at hx
    cases hx
  have hnested := hf.searchable.nested
  have hdeepest := Cursor.isDeepest_covering_span hnested hc hlt
  have hcs := hdeepest.descends_of_covers hnested hlt hc
    (Cursor.covers_of_spans (Cursor.spans_iff.2 ⟨rfl, rfl⟩))
  have hes := hdeepest.descends_of_covers hnested hlt he (Cursor.covers_of_spans hspans)
  obtain ⟨hstart, hstop⟩ := Cursor.spans_iff.1 hspans
  rcases hcs.comparable hes with hce | hec
  · exact hf.eq_of_descends hc hcrecorded hce (hown herecorded) hstart hstop
  · exact (hf.eq_of_descends he herecorded hec (hown hcrecorded) hstart.symm hstop.symm).symm

/-- Of a parsed file a record is read off one node only. -/
theorem Parsed.mem_preorder_and_read_iff (hf : f.Parsed)
    (hread : ∀ e, read e = some x → e.focus.IsDeclaration ∧ span = e.span)
    (hc : c ∈ f.root.preorder) (hx : read c = some x) (e : Cursor) :
    e ∈ f.root.preorder ∧ read e = some x ↔ e = c := by
  constructor
  · rintro ⟨he, hex⟩
    obtain ⟨hcdeclaration, rfl⟩ := hread c hx
    obtain ⟨hedeclaration, hspan⟩ := hread e hex
    have hc := (Cursor.mem_preorder_iff.1 hc).descends
    have he := (Cursor.mem_preorder_iff.1 he).descends
    have hdistinct := hf.searchable.distinct hc hcdeclaration
    exact hf.eq_of_spans hc he hcdeclaration.1 hedeclaration.1 hdistinct.nonempty
      (Cursor.spans_iff.2 ⟨by rw [hspan], by rw [hspan]⟩)
  · rintro rfl
    exact ⟨hc, hx⟩

theorem Parsed.class_found_again (hf : f.Parsed) {k : ClassFacts} (hk : k ∈ f.facts.classes) :
    ∃ c, (∀ e, e ∈ f.root.preorder ∧ e.classFacts? f.path = some k ↔ e = c) ∧
      f.root.nodeAt? k.span.start k.span.stop c.kind = some c ∧
      (⟨f, .classType, k.span⟩ : TypeDeclaration).node? = some c := by
  obtain ⟨⟨c, hc, hread⟩, hfound⟩ := hf.searchable.recovers_class hk
  refine ⟨c, hf.mem_preorder_and_read_iff
    (fun e he => (Cursor.isDeclaration_of_classFacts? he).1) hc hread, (hfound c hc hread).2, ?_⟩
  obtain ⟨n, hn, hdescends, hclass, hspans⟩ := hf.searchable.node?_class hk
  obtain ⟨⟨hdeclaration, hspan⟩, -⟩ := Cursor.isDeclaration_of_classFacts? hread
  have hc := (Cursor.mem_preorder_iff.1 hc).descends
  have hdistinct := hf.searchable.distinct hc hdeclaration
  rw [hspan] at hspans
  rw [hn, hf.eq_of_spans hc hdescends hdeclaration.1 (Kind.isRecorded_of_isClassDeclaration hclass)
    hdistinct.nonempty hspans]

theorem Parsed.declaration_found_again (hf : f.Parsed) {d : Declaration}
    (hd : d ∈ f.facts.declarations) :
    ∃ c, (∀ e, e ∈ f.root.preorder ∧ e.declaration? = some d ↔ e = c) ∧
      f.root.nodeAt? d.span.start d.span.stop d.kind.nodeKind = some c ∧
      (⟨f, d.kind, d.span⟩ : TypeDeclaration).node? = some c := by
  obtain ⟨⟨c, hc, hread⟩, hfound⟩ := hf.searchable.recovers_declaration hd
  obtain ⟨-, hkind⟩ := Cursor.isDeclaration_of_declaration? hread
  refine ⟨c, hf.mem_preorder_and_read_iff
    (fun e he => (Cursor.isDeclaration_of_declaration? he).1) hc hread, ?_,
    hf.searchable.node?_declaration hd hc hread⟩
  rw [← hkind]
  exact (hfound c hc hread).2

end SourceFile

namespace Project

theorem parsed_of_mem_files {base : Path} {adds : List (Path × String)} {f : SourceFile}
    (hf : f ∈ (addAll base adds).files) : f.Parsed := by
  obtain ⟨source, -, hstored⟩ := mem_files_addAll.1 hf
  rw [hstored]
  exact ⟨⟨_, _, rfl⟩, rfl⟩

/-- What a type name refers to has a node, in all projects whose files are searchable. -/
theorem exists_node?_of_found {p : Project} (hp : ∀ f ∈ p.files, f.Searchable) {origin : Path}
    {name : String} {d : TypeDeclaration} (h : p.resolveType origin name = .found d) :
    ∃ c, d.node? = some c := by
  obtain ⟨f, hf, declared, hd⟩ := exists_typeIn?_of_found h
  rcases SourceFile.mem_facts_of_typeIn? hd with ⟨e, he, rfl⟩ | ⟨k, hk, rfl⟩
  · obtain ⟨⟨c, hc, hread⟩, -⟩ := (hp f hf).recovers_declaration he
    exact ⟨c, (hp f hf).node?_declaration he hc hread⟩
  · obtain ⟨n, hn, -⟩ := (hp f hf).node?_class hk
    exact ⟨n, hn⟩

/-- **Every recorded declaration is found again in its tree.**  In a tree whose children lie inside
their parents and in order, one node is the deepest that covers a range, and the search upwards from
it returns the lowest node of the kind that covers exactly the range.  So in every file whose
declarations can be told apart by kind and range, looking for the range of a record and the kind of
a node that it was read off returns the node, and the type that a record stands for has a node; in a
project of such files every type name that is found has one.  Files that were parsed are of this
sort after any history of adding them, and each of their records was read off one node only. -/
theorem declarations_found_again :
    (∀ (t : Tree) (start stop : Nat) (s : Cursor), t.Nested → start < stop →
      (Cursor.ofTree t).IsDeepest start stop s →
      (Cursor.ofTree t).covering start stop = s ∧
      ∀ k c, s.nodeFrom? start stop k = some c ↔
        (Cursor.ofTree t).Descends c ∧ c.kind = k ∧ c.spans start stop = true ∧
          ∀ d, c.Descends d → d.kind = k → d.spans start stop = true → d = c) ∧
    (∀ f : SourceFile, f.Searchable →
      (∀ k ∈ f.facts.classes, f.Recovers (Cursor.classFacts? f.path) k k.span ∧
        ∃ n, (⟨f, .classType, k.span⟩ : TypeDeclaration).node? = some n ∧ f.root.Descends n ∧
          n.kind.isClassDeclaration = true ∧ n.spans k.span.start k.span.stop = true) ∧
      ∀ d ∈ f.facts.declarations, f.Recovers Cursor.declaration? d d.span ∧
        ∀ c ∈ f.root.preorder, c.declaration? = some d → c.kind = d.kind.nodeKind ∧
          (⟨f, d.kind, d.span⟩ : TypeDeclaration).node? = some c) ∧
    (∀ p : Project, (∀ f ∈ p.files, f.Searchable) →
      ∀ origin name d, p.resolveType origin name = .found d → ∃ c, d.node? = some c) ∧
    ∀ base adds, ∀ f ∈ (addAll base adds).files, f.Searchable ∧
      (∀ k ∈ f.facts.classes, ∃ c,
        (∀ e, e ∈ f.root.preorder ∧ e.classFacts? f.path = some k ↔ e = c) ∧
        f.root.nodeAt? k.span.start k.span.stop c.kind = some c ∧
        (⟨f, .classType, k.span⟩ : TypeDeclaration).node? = some c) ∧
      (∀ d ∈ f.facts.declarations, ∃ c,
        (∀ e, e ∈ f.root.preorder ∧ e.declaration? = some d ↔ e = c) ∧
        f.root.nodeAt? d.span.start d.span.stop d.kind.nodeKind = some c ∧
        (⟨f, d.kind, d.span⟩ : TypeDeclaration).node? = some c) := by
  refine ⟨fun t start stop s ht hlt hs => ?_, fun f hf => ⟨fun k hk => ?_, fun d hd => ?_⟩,
    fun p hp origin name d hfound => exists_node?_of_found hp hfound, fun base adds f hf => ?_⟩
  · have hcovers : (Cursor.ofTree t).Covers start stop := hs.covers.of_descends hs.descends ht
    exact ⟨(Cursor.isDeepest_covering ht hlt hcovers).unique hs ht hlt,
      fun k c => Cursor.nodeFrom?_eq_some_iff ht hlt hs⟩
  · exact ⟨hf.recovers_class hk, hf.node?_class hk⟩
  · refine ⟨hf.recovers_declaration hd, fun c hc hread => ?_⟩
    obtain ⟨-, hkind⟩ := Cursor.isDeclaration_of_declaration? hread
    exact ⟨hkind, hf.node?_declaration hd hc hread⟩
  · have hparsed := parsed_of_mem_files hf
    exact ⟨hparsed.searchable, fun k hk => hparsed.class_found_again hk,
      fun d hd => hparsed.declaration_found_again hd⟩

end Project

end RouteInventory
