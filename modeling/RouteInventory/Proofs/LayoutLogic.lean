import Mathlib
import RouteInventory.Proofs.NodeProperties
import RouteInventory.Proofs.RuleLogic
import RouteInventory.Proofs.Scanning

/-!
# Where rules find their nodes

Reading only goes forward.  The nodes of a run begin in the order in which a walk of their trees
meets them, each lies inside its parent, and none begins before the one in front of it has ended.
The comments that are passed lie before a node, behind it or inside it.  `Laid` states this for the
nodes that were read between two states.

* `Tree.Nested` — the nodes of a tree lie inside each other and one behind the other.
* `Tree.Placed` — what `Laid` says about a single node.
* `Lays` — a rule lays what it reads between where it starts and where it stops.
* `Continues` — the same for a rule that is given the nodes read since an earlier state, and puts
  them into what it returns.
* `Still` — reading that stays where it is.

As with `Yields`, there is one instance for each way to build a rule.
-/

namespace RouteInventory

/-! ## Where nodes begin -/

namespace Tree

mutual
/-- The heads of a tree's nodes, named or not, each before those of its descendants. -/
def heads : Tree → List Head
  | .node h ts => h :: headsAll ts

/-- The heads of the nodes of a run of trees. -/
def headsAll : List Tree → List Head
  | [] => []
  | t :: ts => t.heads ++ headsAll ts
end

/-- The byte offsets where the nodes of a run of trees begin. -/
def starts (ts : List Tree) : List Nat := (headsAll ts).map fun h => h.span.start

@[simp] theorem starts_nil : starts [] = [] := rfl

theorem starts_node (h : Head) (ts us : List Tree) :
    starts (.node h ts :: us) = h.span.start :: (starts ts ++ starts us) := by
  simp [starts, headsAll, heads]

@[simp] theorem starts_append (ts us : List Tree) : starts (ts ++ us) = starts ts ++ starts us := by
  induction ts with
  | nil => rfl
  | cons t ts ih =>
    obtain ⟨h, cs⟩ := t
    rw [List.cons_append, starts_node, starts_node, ih, List.cons_append, List.append_assoc]

mutual
theorem heads_eq : ∀ t : Tree, t.heads = t.nodes.map head
  | .node h ts => by rw [heads, nodes, List.map_cons, headsAll_eq ts, head]

theorem headsAll_eq : ∀ ts : List Tree, headsAll ts = (nodesOf ts).map head
  | [] => rfl
  | t :: ts => by rw [headsAll, nodesOf, List.map_append, heads_eq t, headsAll_eq ts]
end

theorem start_mem_starts_of_mem_nodes {t u : Tree} {ts : List Tree} (ht : t ∈ ts)
    (hu : u ∈ t.nodes) : u.span.start ∈ starts ts := by
  rw [starts, headsAll_eq, List.map_map]
  exact List.mem_map.2 ⟨u, mem_nodesOf_iff.2 ⟨t, ht, hu⟩, rfl⟩

theorem start_mem_starts {t : Tree} {ts : List Tree} (h : t ∈ ts) : t.span.start ∈ starts ts :=
  start_mem_starts_of_mem_nodes h t.self_mem_nodes

/-- Where the first nodes of the trees begin, without those below them. -/
theorem map_start_sublist (ts : List Tree) :
    (ts.map fun t => t.span.start).Sublist (starts ts) := by
  induction ts with
  | nil => exact List.nil_sublist _
  | cons t ts ih =>
    obtain ⟨h, cs⟩ := t
    rw [starts_node, List.map_cons]
    exact (ih.trans (List.sublist_append_right _ _)).cons_cons _

theorem starts_sublist {ts us : List Tree} (h : ts.Sublist us) :
    (starts ts).Sublist (starts us) := by
  induction h with
  | slnil => exact List.Sublist.refl _
  | cons t _ ih =>
    obtain ⟨h, cs⟩ := t
    rw [starts_node]
    exact (ih.trans (List.sublist_append_right _ _)).cons _
  | cons_cons t _ ih =>
    obtain ⟨h, cs⟩ := t
    rw [starts_node, starts_node]
    exact (ih.append_left _).cons_cons _

/-! ## Nesting -/

/-- Trees that begin in order, each where or after the one in front of it ends. -/
def Successive (ts : List Tree) : Prop :=
  ts.Pairwise fun t u => t.span.start ≤ u.span.start ∧ t.span.stop ≤ u.span.start

/-- The children of the node lie inside it and one behind the other. -/
def Encloses (t : Tree) : Prop :=
  (∀ u ∈ t.children, t.span.start ≤ u.span.start ∧ u.span.stop ≤ t.span.stop) ∧
    Successive t.children

instance (ts : List Tree) : Decidable (Successive ts) :=
  inferInstanceAs (Decidable (ts.Pairwise _))

instance : DecidablePred Encloses := fun t =>
  inferInstanceAs (Decidable ((∀ u ∈ t.children, _) ∧ Successive t.children))

/-- Throughout the tree children lie inside their parents, in source order. -/
def Nested (t : Tree) : Prop := t.AllNodes Encloses

instance (t : Tree) : Decidable t.Nested := inferInstanceAs (Decidable (t.AllNodes Encloses))

/-- The bytes from `x` to `y` lie before the node, behind it or inside it. -/
def Parts (x y : Nat) (t : Tree) : Prop :=
  y ≤ t.span.start ∨ t.span.start ≤ x ∧ (t.span.stop ≤ x ∨ y ≤ t.span.stop)

/-- A node that was read from a source, together with the comments that have been passed. -/
structure Placed (src : Grammar.Source) (comments : List (Nat × Nat)) (t : Tree) : Prop where
  encloses : t.Encloses
  /-- Where there is text, there is room for it. -/
  visible : t.text ≠ "" → t.span.start < t.span.stop
  parts : ∀ c ∈ comments, t.Parts (src.offset c.1) (src.offset c.2)

/-- The same node without its kind and its role. -/
def unlabelled : Tree → Tree
  | .node h ts => .node { h with kind := .token, role := none } ts

@[simp] theorem span_unlabelled (t : Tree) : t.unlabelled.span = t.span := by
  cases t
  rfl

@[simp] theorem unlabelled_comp_withRole (r : Role) : unlabelled ∘ withRole r = unlabelled := by
  funext t
  cases t
  rfl

@[simp] theorem unlabelled_comp_withKind (k : Kind) : unlabelled ∘ withKind k = unlabelled := by
  funext t
  cases t
  rfl

/-- Labels do not matter for where a tree lies. -/
theorem allNodes_placed_unlabelled {src : Grammar.Source} {comments : List (Nat × Nat)} {t : Tree} :
    t.unlabelled.AllNodes (Placed src comments) ↔ t.AllNodes (Placed src comments) := by
  rw [allNodes_iff, allNodes_iff]
  cases t with
  | node h ts =>
    refine and_congr_left' ⟨fun hplaced => ?_, fun hplaced => ?_⟩
    · exact ⟨hplaced.encloses, hplaced.visible, hplaced.parts⟩
    · exact ⟨hplaced.encloses, hplaced.visible, hplaced.parts⟩

/-- Labels do not matter for where nodes begin. -/
@[simp] theorem starts_map_unlabelled (ts : List Tree) :
    starts (ts.map unlabelled) = starts ts := by
  induction ts with
  | nil => rfl
  | cons t ts ih =>
    obtain ⟨h, cs⟩ := t
    rw [List.map_cons, unlabelled, starts_node, starts_node, ih]

end Tree

namespace Grammar

/-! ## Going forward -/

/-- Reading stands behind the last token.  The comments that were passed lie one behind the other,
the latest first, and on one side of the end of that token. -/
structure State.Sound (s : State) : Prop where
  last_le : s.last ≤ s.pos
  passed : ∀ c ∈ s.comments, c.1 ≤ c.2 ∧ c.2 ≤ s.pos ∧ (c.2 ≤ s.last ∨ s.last ≤ c.1)
  apart : s.comments.Pairwise fun c d => d.2 ≤ c.1

/-- Reading went forward from one state to the other. -/
structure State.Onward (s s' : State) : Prop where
  before : s.Sound
  pos_le : s.pos ≤ s'.pos
  last_le : s.last ≤ s'.last
  after : s'.Sound
  fresh : ∀ c ∈ s'.comments, c ∈ s.comments ∨ s.pos ≤ c.1

/-- The state with the same comments that stands at an index, directly behind a token. -/
def State.standing (s : State) (i : Nat) : State := ⟨i, i, false, s.comments⟩

/-- What reading may rely on. -/
structure Ready (src : Source) (s : State) : Prop where
  ascends : src.Ascends
  sound : s.Sound

section
variable {src : Source} {s s₁ s₂ : State} {i j : Nat}

theorem State.Sound.standing (hs : s.Sound) (hi : s.pos ≤ i) : (s.standing i).Sound where
  last_le := Nat.le_refl i
  passed c hc := by
    obtain ⟨hproper, hbehind, -⟩ := hs.passed c hc
    exact ⟨hproper, Nat.le_trans hbehind hi, .inl (Nat.le_trans hbehind hi)⟩
  apart := hs.apart

theorem State.Onward.refl (hs : s.Sound) : s.Onward s :=
  ⟨hs, Nat.le_refl _, Nat.le_refl _, hs, fun _ hc => .inl hc⟩

theorem State.Onward.trans (h : s.Onward s₁) (h' : s₁.Onward s₂) : s.Onward s₂ where
  before := h.before
  pos_le := Nat.le_trans h.pos_le h'.pos_le
  last_le := Nat.le_trans h.last_le h'.last_le
  after := h'.after
  fresh c hc := by
    rcases h'.fresh c hc with hc | hc
    · exact h.fresh c hc
    · exact .inr (Nat.le_trans h.pos_le hc)

theorem State.Sound.onward_standing (hs : s.Sound) (hi : s.pos ≤ i) : s.Onward (s.standing i) :=
  ⟨hs, hi, Nat.le_trans hs.last_le hi, hs.standing hi, fun _ hc => .inl hc⟩

theorem State.Sound.standing_onward_standing (hs : s.Sound) (hi : s.pos ≤ i) (hij : i ≤ j) :
    (s.standing i).Onward (s.standing j) :=
  (hs.standing hi).onward_standing hij

/-- A comment that was passed behind a state lies behind all that was read before. -/
theorem State.Onward.passed_or_behind (h : s.Onward s₁) {c : Nat × Nat} (hc : c ∈ s₁.comments) :
    c.2 ≤ s.pos ∨ s.pos ≤ c.1 :=
  (h.fresh c hc).imp_left fun hc => (h.before.passed c hc).2.1

end

/-- The run of nodes was read between two states: its nodes begin in order and lie in their places,
those of the run itself one behind the other. -/
structure Laid (src : Source) (s s' : State) (ts : List Tree) : Prop where
  onward : s.Onward s'
  sorted : (Tree.starts ts).Pairwise (· ≤ ·)
  above : ∀ x ∈ Tree.starts ts, src.offset s.pos ≤ x
  below : ∀ x ∈ Tree.starts ts, x ≤ src.offset s'.pos
  ended : ∀ t ∈ ts, t.span.stop ≤ src.offset s'.last
  apart : ts.Pairwise fun t u => t.span.stop ≤ u.span.start
  placed : ∀ t ∈ ts, t.AllNodes (Tree.Placed src s'.comments)

section
variable {src : Source} {s s₁ s₂ s₃ : State} {t : Tree} {ts us : List Tree} {h : Head}

theorem Laid.ready (hsrc : src.Ascends) (hts : Laid src s s₁ ts) : Ready src s₁ :=
  ⟨hsrc, hts.onward.after⟩

theorem Laid.nil (src : Source) (h : s.Onward s₁) : Laid src s s₁ [] where
  onward := h
  sorted := List.Pairwise.nil
  above _ hx := absurd hx List.not_mem_nil
  below _ hx := absurd hx List.not_mem_nil
  ended _ ht := absurd ht List.not_mem_nil
  apart := List.Pairwise.nil
  placed _ ht := absurd ht List.not_mem_nil

theorem Laid.refl (src : Source) (hs : s.Sound) : Laid src s s [] := .nil src (.refl hs)

/-- Comments that are passed later lie behind the nodes that were read. -/
theorem Laid.placed_onward (hsrc : src.Ascends) (hts : Laid src s s₁ ts) (hs : s₁.Onward s₂)
    (ht : t ∈ ts) : t.AllNodes (Tree.Placed src s₂.comments) := by
  have hended : t.AllNodes fun u => u.span.stop ≤ src.offset s₁.last :=
    (hts.placed t ht).descend (fun v hv hstop u hu =>
      Nat.le_trans (hv.encloses.1 u hu).2 hstop) (hts.ended t ht)
  intro u hu
  obtain ⟨encloses, visible, parts⟩ := hts.placed t ht u hu
  refine ⟨encloses, visible, fun c hc => ?_⟩
  rcases hs.fresh c hc with hc | hbehind
  · exact parts c hc
  · have hpos := hsrc.offset_le hbehind
    refine .inr ⟨Nat.le_trans (hts.below _ (Tree.start_mem_starts_of_mem_nodes ht hu)) hpos, .inl ?_⟩
    calc u.span.stop ≤ src.offset s₁.last := hended u hu
      _ ≤ src.offset s₁.pos := hsrc.offset_le hts.onward.after.last_le
      _ ≤ src.offset c.1 := hpos

theorem Laid.append (hsrc : src.Ascends) (hts : Laid src s s₁ ts) (hus : Laid src s₁ s₂ us) :
    Laid src s s₂ (ts ++ us) where
  onward := hts.onward.trans hus.onward
  sorted := by
    rw [Tree.starts_append]
    refine List.pairwise_append.2 ⟨hts.sorted, hus.sorted, fun x hx y hy => ?_⟩
    exact Nat.le_trans (hts.below x hx) (hus.above y hy)
  above x hx := by
    rw [Tree.starts_append] at hx
    rcases List.mem_append.1 hx with hx | hx
    · exact hts.above x hx
    · exact Nat.le_trans (hsrc.offset_le hts.onward.pos_le) (hus.above x hx)
  below x hx := by
    rw [Tree.starts_append] at hx
    rcases List.mem_append.1 hx with hx | hx
    · exact Nat.le_trans (hts.below x hx) (hsrc.offset_le hus.onward.pos_le)
    · exact hus.below x hx
  ended t ht := by
    rcases List.mem_append.1 ht with ht | ht
    · exact Nat.le_trans (hts.ended t ht) (hsrc.offset_le hus.onward.last_le)
    · exact hus.ended t ht
  apart := by
    refine List.pairwise_append.2 ⟨hts.apart, hus.apart, fun t ht u hu => ?_⟩
    calc t.span.stop ≤ src.offset s₁.last := hts.ended t ht
      _ ≤ src.offset s₁.pos := hsrc.offset_le hts.onward.after.last_le
      _ ≤ u.span.start := hus.above _ (Tree.start_mem_starts hu)
  placed := List.forall_mem_append.2
    ⟨fun _ ht => hts.placed_onward hsrc hus.onward ht, hus.placed⟩

theorem Laid.after (hsrc : src.Ascends) (hs : s.Onward s₁) (hts : Laid src s₁ s₂ ts) :
    Laid src s s₂ ts :=
  (Laid.nil src hs).append hsrc hts

theorem Laid.before (hsrc : src.Ascends) (hts : Laid src s s₁ ts) (hs : s₁.Onward s₂) :
    Laid src s s₂ ts :=
  ts.append_nil ▸ hts.append hsrc (.nil src hs)

theorem Laid.successive (hts : Laid src s s₁ ts) : Tree.Successive ts := by
  have hstarts : (ts.map fun t => t.span.start).Pairwise (· ≤ ·) :=
    hts.sorted.sublist (Tree.map_start_sublist ts)
  exact (List.pairwise_map.1 hstarts).and hts.apart

/-- A comment lies before what was read between two states, behind its last token, or inside. -/
theorem Laid.parts (hsrc : src.Ascends) (hts : Laid src s s₁ ts) {t : Tree}
    (hspan : t.span = src.span s.pos s₁.last) {c : Nat × Nat} (hc : c ∈ s₁.comments) :
    t.Parts (src.offset c.1) (src.offset c.2) := by
  unfold Tree.Parts
  rw [hspan]
  refine (hts.onward.passed_or_behind hc).imp hsrc.offset_le fun hbehind => ?_
  obtain ⟨-, -, hside⟩ := hts.onward.after.passed c hc
  exact ⟨hsrc.offset_le hbehind, hside.symm.imp hsrc.offset_le hsrc.offset_le⟩

/-- A node around a run, from where it starts to the end of the last token. -/
theorem Laid.node (hsrc : src.Ascends) (hts : Laid src s s₁ ts)
    (hspan : h.span = src.span s.pos s₁.last) (htext : h.text = src.slice s.pos s₁.last) :
    Laid src s s₁ [.node h ts] := by
  have hstart : h.span.start = src.offset s.pos := congrArg Span.start hspan
  have hstop : h.span.stop = src.offset s₁.last := congrArg Span.stop hspan
  have hstarts : Tree.starts [.node h ts] = src.offset s.pos :: Tree.starts ts := by
    rw [Tree.starts_node, hstart, Tree.starts_nil, List.append_nil]
  have hplaced : Tree.Placed src s₁.comments (.node h ts) := by
    refine ⟨⟨fun t ht => ?_, hts.successive⟩, fun hvisible => ?_, fun c hc => ?_⟩
    · exact ⟨Nat.le_trans (Nat.le_of_eq hstart) (hts.above _ (Tree.start_mem_starts ht)),
        Nat.le_trans (hts.ended t ht) (Nat.le_of_eq hstop.symm)⟩
    · have hsome : src.slice s.pos s₁.last ≠ "" := htext ▸ (show h.text ≠ "" from hvisible)
      obtain ⟨hlt, hsize⟩ := Source.slice_ne_empty_iff.1 hsome
      calc h.span.start = src.offset s.pos := hstart
        _ < src.offset s₁.last := hsrc.offset_lt hlt hsize
        _ = h.span.stop := hstop.symm
    · exact hts.parts (t := .node h ts) hsrc hspan hc
  constructor
  · exact hts.onward
  · rw [hstarts]
    exact List.pairwise_cons.2 ⟨hts.above, hts.sorted⟩
  · rw [hstarts]
    exact List.forall_mem_cons.2 ⟨Nat.le_refl _, hts.above⟩
  · rw [hstarts]
    exact List.forall_mem_cons.2 ⟨hsrc.offset_le hts.onward.pos_le, hts.below⟩
  · exact List.forall_mem_singleton.2 (Nat.le_of_eq hstop)
  · exact List.pairwise_singleton _ _
  · exact List.forall_mem_singleton.2 (Tree.allNodes_iff.2 ⟨hplaced, hts.placed⟩)

end

/-! ## What rules may assume and must keep -/

/-- A table under which rules lay what they read. -/
structure Spaced (table : Goal → Base (List Tree)) : Prop where
  laid : ∀ {g setting s ts s'}, Ready setting.source s → table g setting s = some (ts, s') →
    Laid setting.source s s' ts

/-- What the rule reads lies between where it starts and where it stops. -/
class Lays (r : Rule) : Prop where
  lays : ∀ {table setting s ts s'}, Spaced table → Ready setting.source s →
    r table setting s = some (ts, s') → Laid setting.source s s' ts

/-- Reading that stays where it is. -/
class Still {α : Type} (x : Reading α) : Prop where
  still : ∀ {table setting s a s'}, x table setting s = some (a, s') → s' = s

/-- The nodes of the first run are among those of the second, in the same order and perhaps with
other labels. -/
class Within (us acc : List Tree) : Prop where
  sublist : (us.map Tree.unlabelled).Sublist (acc.map Tree.unlabelled)

/-- After the run `acc` was read from index `start` on, the rule goes on and returns a run that
lies behind `start` as well. -/
class Continues (start : Nat) (acc : List Tree) (r : Rule) : Prop where
  continues : ∀ {table setting s₀ s us s'}, Spaced table → setting.source.Ascends →
    s₀.pos = start → Laid setting.source s₀ s acc → r table setting s = some (us, s') →
    Laid setting.source s₀ s' us

theorem Laid.within {src : Source} {s s' : State} {us acc : List Tree} (h : Laid src s s' acc)
    (hw : Within us acc) : Laid src s s' us := by
  have hstarts : (Tree.starts us).Sublist (Tree.starts acc) := by
    rw [← Tree.starts_map_unlabelled us, ← Tree.starts_map_unlabelled acc]
    exact Tree.starts_sublist hw.sublist
  have hmem (t : Tree) (ht : t ∈ us) : ∃ u ∈ acc, u.unlabelled = t.unlabelled :=
    List.mem_map.1 (hw.sublist.mem (List.mem_map_of_mem ht))
  have hapart : (us.map Tree.unlabelled).Pairwise fun t u => t.span.stop ≤ u.span.start := by
    refine List.Pairwise.sublist hw.sublist (List.pairwise_map.2 ?_)
    simpa only [Tree.span_unlabelled] using h.apart
  constructor
  · exact h.onward
  · exact h.sorted.sublist hstarts
  · exact fun x hx => h.above x (hstarts.mem hx)
  · exact fun x hx => h.below x (hstarts.mem hx)
  · intro t ht
    obtain ⟨u, hu, hut⟩ := hmem t ht
    rw [← t.span_unlabelled, ← hut, u.span_unlabelled]
    exact h.ended u hu
  · simpa only [Tree.span_unlabelled] using List.pairwise_map.1 hapart
  · intro t ht
    obtain ⟨u, hu, hut⟩ := hmem t ht
    rw [← Tree.allNodes_placed_unlabelled, ← hut, Tree.allNodes_placed_unlabelled]
    exact h.placed u hu

/-! ## Runs within runs -/

section
variable {ts us vs acc : List Tree} {role : Role} {k : Kind}

instance : Within ts ts := ⟨List.Sublist.refl _⟩

instance : Within [] ts := ⟨List.nil_sublist _⟩

instance [h : Within us acc] : Within (us.map (Tree.withRole role)) acc := by
  constructor
  simpa using h.sublist

instance [h : Within us acc] : Within (us.map (Tree.withKind k)) acc := by
  constructor
  simpa using h.sublist

instance [h : Within us ts] [h' : Within vs acc] : Within (us ++ vs) (ts ++ acc) := by
  constructor
  rw [List.map_append, List.map_append]
  exact h.sublist.append h'.sublist

instance (priority := low) [h : Within us ts] : Within us (ts ++ vs) := by
  constructor
  rw [List.map_append]
  exact h.sublist.trans (List.sublist_append_left _ _)

instance (priority := low) [h : Within us vs] : Within us (ts ++ vs) := by
  constructor
  rw [List.map_append]
  exact h.sublist.trans (List.sublist_append_right _ _)

end

/-! ## Staying -/

section
variable {α β : Type} {x y : Reading α} {f : α → Reading β} {a : α} {w : String} {n : Nat}

instance : Still (pure a) where
  still h := by
    cases h
    rfl

instance : Still (failure : Reading α) where
  still h := nomatch h

theorem still_bind (hx : Still x) (hf : ∀ a, Still (f a)) : Still (x >>= f) where
  still h := by
    obtain ⟨a, s₁, ha, hb⟩ := bind_eq_some h
    exact ((hf a).still hb).trans (hx.still ha)

instance [hx : Still x] [hf : ∀ a, Still (f a)] : Still (x >>= f) := still_bind hx hf

instance {c : Prop} [Decidable c] [h : Still x] [h' : Still y] : Still (if c then x else y) := by
  split
  · exact h
  · exact h'

instance : Still (read : Base Setting) where
  still h := by
    cases h
    rfl

instance : Still (get : Reading State) where
  still h := by
    cases h
    rfl

instance : Still source where
  still h := by
    cases h
    rfl

instance : Still pos where
  still h := by
    cases h
    rfl

instance : Still (peekAt n) := by
  unfold peekAt
  infer_instance

instance : Still peek := by
  unfold peek
  infer_instance

instance : Still atEnd := by
  unfold atEnd
  infer_instance

instance : Still punctuator := by
  unfold punctuator
  refine still_bind inferInstance fun _ => still_bind inferInstance fun _ => ?_
  split
  · infer_instance
  · split <;> infer_instance

instance : Still (atSym w) := by
  unfold atSym
  infer_instance

instance : Still word := by
  unfold word
  infer_instance

instance : Still (atKey w) := by
  unfold atKey
  infer_instance

instance : Still onNewLine := by
  unfold onNewLine
  infer_instance

instance : Still atImpliedEnd := by
  unfold atImpliedEnd
  infer_instance

instance : Still operandCut := by
  unfold operandCut
  refine still_bind inferInstance fun _ => ?_
  split
  · infer_instance
  · refine still_bind inferInstance fun _ => ?_
    split
    · infer_instance
    · refine still_bind inferInstance fun _ => still_bind inferInstance fun _ => ?_
      split <;> infer_instance

end

/-! ## Going on -/

section
variable {r r' : Rule} {rs : List Rule} {f : List Tree → Rule} {start : Nat}
  {ts us acc : List Tree} {k : Kind} {role : Role} {g : Goal}

/-- A rule that goes on from nothing. -/
theorem lays_of_continues (h : ∀ i, Continues i [] r) : Lays r where
  lays ht hs hr := (h _).continues ht hs.ascends rfl (.refl _ hs.sound) hr

/-- What was read before is dropped. -/
instance (priority := low) [h : Lays r] : Continues start acc r where
  continues ht hsrc _ hacc hr := (h.lays ht (hacc.ready hsrc) hr).after hsrc hacc.onward

instance [hw : Within us acc] : Continues start acc (pure us) where
  continues _ _ _ hacc hr := by
    cases hr
    exact hacc.within hw

instance : Lays (pure []) := lays_of_continues fun _ => inferInstance

instance : Lays failure where
  lays _ _ h := nomatch h

instance : Continues start acc failure where
  continues _ _ _ _ h := nomatch h

/-! ### One after the other -/

section
variable {α : Type} {x : Reading α} {f : α → Rule}

theorem lays_bind (hx : Still x) (hf : ∀ a, Lays (f a)) : Lays (x >>= f) where
  lays ht hs h := by
    obtain ⟨a, s₁, ha, hb⟩ := bind_eq_some h
    cases hx.still ha
    exact (hf a).lays ht hs hb

instance [hx : Still x] [hf : ∀ a, Lays (f a)] : Lays (x >>= f) := lays_bind hx hf

theorem continues_bind (hx : Still x) (hf : ∀ a, Continues start acc (f a)) :
    Continues start acc (x >>= f) where
  continues ht hsrc hstart hacc h := by
    obtain ⟨a, s₁, ha, hb⟩ := bind_eq_some h
    cases hx.still ha
    exact (hf a).continues ht hsrc hstart hacc hb

instance [hx : Still x] [hf : ∀ a, Continues start acc (f a)] : Continues start acc (x >>= f) :=
  continues_bind hx hf

end

/-- From here on, what is read lies behind this index. -/
instance (priority := high) {f : Nat → Rule} [hf : ∀ i, Continues i [] (f i)] :
    Lays (pos >>= f) where
  lays ht hs h := by
    obtain ⟨i, s₁, hi, hb⟩ := bind_eq_some h
    cases hi
    exact (hf _).continues ht hs.ascends rfl (.refl _ hs.sound) hb

instance [hr : Lays r] [hf : ∀ i ts, Continues i ts (f ts)] : Lays (r >>= f) where
  lays ht hs h := by
    obtain ⟨ts, s₁, hts, hb⟩ := bind_eq_some h
    exact (hf _ ts).continues ht hs.ascends rfl (hr.lays ht hs hts) hb

instance (priority := high) [hr : Lays r] [hf : ∀ ts, Continues start (acc ++ ts) (f ts)] :
    Continues start acc (r >>= f) where
  continues ht hsrc hstart hacc h := by
    obtain ⟨ts, s₁, hts, hb⟩ := bind_eq_some h
    have hboth := hacc.append hsrc (hr.lays ht (hacc.ready hsrc) hts)
    exact (hf ts).continues ht hsrc hstart hboth hb

instance [hr : Continues start acc r] [hf : ∀ us, Continues start us (f us)] :
    Continues start acc (r >>= f) where
  continues ht hsrc hstart hacc h := by
    obtain ⟨us, s₁, hus, hb⟩ := bind_eq_some h
    exact (hf us).continues ht hsrc hstart (hr.continues ht hsrc hstart hacc hus) hb

instance : Lays (seq []) := inferInstanceAs (Lays (pure []))

instance [hr : Lays r] [hrs : Lays (seq rs)] : Lays (seq (r :: rs)) where
  lays ht hs h := by
    obtain ⟨ts, s₁, hts, h⟩ := bind_eq_some h
    obtain ⟨us, s₂, hus, h⟩ := bind_eq_some h
    cases h
    have hfirst := hr.lays ht hs hts
    exact hfirst.append hs.ascends (hrs.lays ht (hfirst.ready hs.ascends) hus)

/-! ### One of several -/

instance [h : Lays r] [h' : Lays r'] : Lays (r <|> r') where
  lays ht hs hr := (orElse_eq_some hr).elim (h.lays ht hs) (h'.lays ht hs)

instance [h : Continues start acc r] [h' : Continues start acc r'] :
    Continues start acc (r <|> r') where
  continues ht hsrc hstart hacc hr :=
    (orElse_eq_some hr).elim (h.continues ht hsrc hstart hacc) (h'.continues ht hsrc hstart hacc)

instance {c : Prop} [Decidable c] [h : Lays r] [h' : Lays r'] : Lays (if c then r else r') := by
  split
  · exact h
  · exact h'

instance {c : Prop} [Decidable c] [h : Continues start acc r] [h' : Continues start acc r'] :
    Continues start acc (if c then r else r') := by
  split
  · exact h
  · exact h'

instance : Lays (choice []) := inferInstanceAs (Lays failure)

instance [Lays r] [Lays (choice rs)] : Lays (choice (r :: rs)) :=
  inferInstanceAs (Lays (r <|> choice rs))

instance : Continues start acc (choice []) := inferInstanceAs (Continues start acc failure)

instance [Continues start acc r] [Continues start acc (choice rs)] :
    Continues start acc (choice (r :: rs)) :=
  inferInstanceAs (Continues start acc (r <|> choice rs))

instance [Lays r] : Lays (opt r) := inferInstanceAs (Lays (r <|> pure []))

instance {test : Reading Bool} [Still test] : Lays (require test) := by
  unfold require
  infer_instance

instance {auto : Bool} [h : Lays r] : Lays (withAuto auto r) where
  lays ht hs hr := by
    have hlaid := h.lays ht (by exact hs) hr
    exact hlaid

instance [h : Lays r] : Lays (withoutArrowResult r) where
  lays ht hs hr := by
    have hlaid := h.lays ht (by exact hs) hr
    exact hlaid

/-! ### Repetition -/

theorem continues_iterate {step : List Tree → Rule} (hstep : ∀ us, Continues start us (step us))
    (n : Nat) (acc : List Tree) : Continues start acc (iterate step n acc) where
  continues {_ setting s₀ _ _ _} ht hsrc hstart hacc h :=
    iterate_preserves (I := fun us s => Laid setting.source s₀ s us)
      (fun us _ hus _ _ hread => (hstep us).continues ht hsrc hstart hus hread) n hacc h

instance {step : List Tree → Rule} [hw : Within us acc]
    [hstep : ∀ vs, Continues start vs (step vs)] : Continues start acc (loop step us) where
  continues ht hsrc hstart hacc h := by
    obtain ⟨src, s₁, hread, h⟩ := bind_eq_some h
    cases hread
    exact (continues_iterate hstep _ us).continues ht hsrc hstart (hacc.within hw) h

instance [Lays r] : Lays (many r) := by
  unfold many
  exact lays_of_continues fun _ => inferInstance

/-! ### Nodes -/

instance [hw : Within us acc] : Continues start acc (wrap k start us) where
  continues _ hsrc hstart hacc h := by
    cases h
    cases hstart
    exact (hacc.within hw).node hsrc rfl rfl

instance [Lays r] : Lays (node k r) := by
  unfold node
  infer_instance

instance [Lays r] : Lays (field role r) := by
  unfold field
  infer_instance

instance : Lays (sub g) where
  lays ht hs h := ht.laid hs h

end

/-! ## Tokens -/

/-- What the rule reads from the given index on lies behind it. -/
class LaysAt (i : Nat) (r : Rule) : Prop where
  lays : ∀ {table setting s ts s'}, Ready setting.source s → s.pos = i →
    r table setting s = some (ts, s') → Laid setting.source s s' ts

section
variable {r r' : Rule} {i j n : Nat} {k : Kind} {w : String}

theorem lays_of_laysAt (h : ∀ i, LaysAt i r) : Lays r where
  lays _ hs hr := (h _).lays hs rfl hr

section
variable {table : Goal → Base (List Tree)} {setting : Setting} {s s' : State} {u : Unit}

/-- Behind a token only a gap is passed. -/
theorem standing_onward_advance (hs : s.Sound) (hj : s.pos ≤ j)
    (h : advance j table setting s = some (u, s')) : (s.standing j).Onward s' := by
  cases h
  have hpassed : ∀ c ∈ s.comments, c.2 ≤ j := fun c hc =>
    Nat.le_trans (hs.passed c hc).2.1 hj
  have hstop := setting.source.le_gap j false s.comments
  obtain ⟨fresh, apart⟩ := setting.source.follows_gap j false s.comments hpassed hs.apart
  refine ⟨hs.standing hj, hstop, Nat.le_refl j, ⟨hstop, fun c hc => ?_, apart⟩, fun c hc => ?_⟩
  · rcases fresh c hc with hc | ⟨hstart, hproper, hend⟩
    · exact ⟨(hs.passed c hc).1, Nat.le_trans (hpassed c hc) hstop, .inl (hpassed c hc)⟩
    · exact ⟨hproper, hend, .inr hstart⟩
  · exact (fresh c hc).imp_right And.left

theorem onward_advance (hs : s.Sound) (hj : s.pos ≤ j)
    (h : advance j table setting s = some (u, s')) : s.Onward s' :=
  (hs.onward_standing hj).trans (standing_onward_advance hs hj h)

end

theorem laysAt_leaf (hij : i ≤ j) : LaysAt i (leaf k j) where
  lays hs hpos h := by
    obtain ⟨start, s₁, hstart, h⟩ := bind_eq_some h
    cases hstart
    obtain ⟨src, s₂, hread, h⟩ := bind_eq_some h
    cases hread
    obtain ⟨u, s₃, hadvance, h⟩ := bind_eq_some h
    cases h
    have honward := onward_advance hs.sound (hpos ▸ hij) hadvance
    cases hadvance
    exact (Laid.nil _ honward).node hs.ascends rfl rfl

instance : LaysAt i (leaf k (i + n)) := laysAt_leaf (Nat.le_add_right i n)

theorem laysAt_pos {f : Nat → Rule} (h : LaysAt i (f i)) : LaysAt i (pos >>= f) where
  lays hs hpos hr := by
    obtain ⟨a, s₁, ha, hb⟩ := bind_eq_some hr
    cases ha
    cases hpos
    exact h.lays hs rfl hb

instance (priority := high) {f : Nat → Rule} [h : LaysAt i (f i)] : LaysAt i (pos >>= f) :=
  laysAt_pos h

theorem laysAt_bind {α : Type} {x : Reading α} {f : α → Rule} (hx : Still x)
    (hf : ∀ a, LaysAt i (f a)) : LaysAt i (x >>= f) where
  lays hs hpos hr := by
    obtain ⟨a, s₁, ha, hb⟩ := bind_eq_some hr
    cases hx.still ha
    exact (hf a).lays hs hpos hb

instance {α : Type} {x : Reading α} {f : α → Rule} [hx : Still x] [hf : ∀ a, LaysAt i (f a)] :
    LaysAt i (x >>= f) := laysAt_bind hx hf

instance : LaysAt i failure where
  lays _ _ h := nomatch h

instance {c : Prop} [Decidable c] [h : LaysAt i r] [h' : LaysAt i r'] :
    LaysAt i (if c then r else r') := by
  split
  · exact h
  · exact h'

theorem laysAt_anyName : LaysAt i (anyName k) := by
  unfold anyName
  refine laysAt_bind inferInstance fun _ => laysAt_pos ?_
  split
  · exact laysAt_leaf (Source.le_of_nameEnd? ‹_›)
  · infer_instance

instance : LaysAt i (anyName k) := laysAt_anyName

instance : Lays (sym w) := lays_of_laysAt fun _ => by
  unfold sym
  infer_instance

instance : Lays closeAngle := lays_of_laysAt fun _ => by
  unfold closeAngle
  infer_instance

instance : Lays (keyAs k w) := lays_of_laysAt fun _ => by
  unfold keyAs
  infer_instance

instance : Lays (key w) := by
  unfold key
  infer_instance

instance : Lays (anyName k) := lays_of_laysAt inferInstance

instance : Lays (identifierAs k) := by
  unfold identifierAs
  refine lays_bind inferInstance fun _ => ?_
  split <;> infer_instance

instance : Lays identifier := by
  unfold identifier
  infer_instance

instance : Lays typeIdentifier := by
  unfold typeIdentifier
  infer_instance

instance : Lays predefinedType := by
  unfold predefinedType
  refine lays_bind inferInstance fun _ => ?_
  split <;> infer_instance

instance : Lays numberLiteral := lays_of_laysAt fun i => by
  unfold numberLiteral
  refine laysAt_bind inferInstance fun _ => laysAt_pos ?_
  split
  · exact laysAt_leaf (Source.le_of_numberEnd? ‹_›)
  · infer_instance

instance : Lays stringLiteral := lays_of_laysAt fun i => by
  unfold stringLiteral
  refine laysAt_bind inferInstance fun _ => ?_
  split
  · split
    · refine laysAt_bind inferInstance fun _ => laysAt_pos ?_
      split
      · exact laysAt_leaf (Nat.le_of_succ_le (Source.le_of_stringEnd? ‹_›))
      · infer_instance
    · infer_instance
  · infer_instance

instance : Lays regexLiteral := lays_of_laysAt fun i => by
  unfold regexLiteral
  refine laysAt_bind inferInstance fun _ => ?_
  split
  · refine laysAt_bind inferInstance fun _ => laysAt_pos ?_
    split
    · refine laysAt_bind inferInstance fun src => laysAt_leaf ?_
      have hbody := Nat.le_of_succ_le (Source.le_of_regexEnd? ‹_›)
      exact Nat.le_trans hbody (src.le_skipWhile _ _)
    · infer_instance
  · infer_instance

instance : Lays privateName := lays_of_laysAt fun i => by
  unfold privateName
  refine laysAt_bind inferInstance fun _ => ?_
  split
  · refine laysAt_bind inferInstance fun _ => laysAt_pos ?_
    split
    · exact laysAt_leaf (Nat.le_of_succ_le (Source.le_of_nameEnd? ‹_›))
    · infer_instance
  · infer_instance

instance : Lays (markupName k) := lays_of_laysAt fun i => by
  unfold markupName
  refine laysAt_bind inferInstance fun _ => laysAt_pos ?_
  split
  · refine laysAt_bind inferInstance fun src => laysAt_leaf ?_
    exact Nat.le_trans (Source.le_of_nameEnd? ‹_›) (src.le_skipWhile _ _)
  · infer_instance

instance : Lays markupString := lays_of_laysAt fun i => by
  unfold markupString
  refine laysAt_bind inferInstance fun _ => ?_
  split
  · rename_i q
    refine laysAt_bind inferInstance fun src => laysAt_pos ?_
    have hstop := src.le_skipWhile (· != q) (i + 1)
    dsimp only
    split
    · exact laysAt_leaf (by omega)
    · infer_instance
  · infer_instance

instance : Lays optionalChain := lays_of_laysAt fun _ => by
  unfold optionalChain
  infer_instance

instance : Lays (operatorToken w) := lays_of_laysAt fun _ => by
  unfold operatorToken
  infer_instance

end

section
variable {r : Rule} [Lays r] {l l' : String}

instance : Lays (commaList r) := by
  unfold commaList
  infer_instance

instance : Lays (commaList1 r) := by
  unfold commaList1
  infer_instance

instance : Lays (enclosed l r l') := by
  unfold enclosed
  infer_instance

instance : Lays semicolon := by
  unfold semicolon
  infer_instance

end

end Grammar

end RouteInventory
