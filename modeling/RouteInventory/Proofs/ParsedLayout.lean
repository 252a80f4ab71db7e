import Mathlib
import RouteInventory.Proofs.CursorDescent
import RouteInventory.Proofs.GrammarLayout
import RouteInventory.Proofs.ParsedShape

/-!
# The layout of parsed trees

* `Grammar.goal_spaced`: every goal lays what it reads, by induction on how deeply goals nest.
* `Grammar.filter_heads_placeComment`: putting a comment back moves no other node.
* `Grammar.sorted_parse`: so the nodes of a parsed tree, comments aside, begin in the order in which
  a walk meets them.
* `Grammar.sorted_preorder`: the same for the nodes in their places.
* `Grammar.placed_parse`, `Grammar.nested_parse`: in a parsed tree, comments included, children lie
  inside their parents and one behind the other.
-/

namespace RouteInventory

namespace Grammar

/-! ## Goals -/

instance goalRule_lays (g : Goal) : Lays (goalRule g) := by
  cases g <;> unfold goalRule <;> infer_instance

/-- Every goal lays what it reads, however deeply goals nest. -/
theorem goal_spaced (n : Nat) : Spaced (goal n) := by
  induction n with
  | zero => exact ⟨fun _ h => nomatch h⟩
  | succ n ih => exact ⟨fun {g _ _ _ _} hs h => (goalRule_lays g).lays ih hs h⟩

theorem laid_of_read? {markup : Bool} {src : Source} (hsrc : src.Ascends) {ts : List Tree}
    {comments : List (Nat × Nat)} (h : read? markup src = some (ts, comments)) :
    ∃ s s', Laid src s s' ts ∧ comments = s'.comments := by
  unfold read? at h
  obtain ⟨⟨us, s'⟩, hus, heq⟩ := Option.map_eq_some_iff.1 h
  cases heq
  have hstatements : Lays statements := by
    unfold statements
    infer_instance
  obtain ⟨fresh, apart⟩ :=
    src.follows_gap (programStart src) false [] (List.forall_mem_nil _) List.Pairwise.nil
  refine ⟨_, s', hstatements.lays (goal_spaced _) ⟨hsrc, Nat.zero_le _, fun c hc => ?_, apart⟩ hus,
    rfl⟩
  rcases fresh c hc with hc | ⟨-, hproper, hend⟩
  · cases hc
  · exact ⟨hproper, hend, .inr (Nat.zero_le _)⟩

/-- Before anything is read. -/
theorem State.sound_start : (⟨0, 0, false, []⟩ : State).Sound :=
  ⟨Nat.le_refl 0, List.forall_mem_nil _, List.Pairwise.nil⟩

/-! ## Comments -/

section
variable {p : Head → Bool} {c : Tree}

mutual
theorem filter_heads_placeInside (hc : c.heads.filter p = []) (t : Tree) :
    (placeInside c t).heads.filter p = t.heads.filter p := by
  obtain ⟨h, ts⟩ := t
  rw [placeInside, Tree.heads, Tree.heads, List.filter_cons, List.filter_cons,
    filter_heads_placeComment hc ts]

/-- Putting a node that does not count among others leaves those that do. -/
theorem filter_heads_placeComment (hc : c.heads.filter p = []) (ts : List Tree) :
    (Tree.headsAll (placeComment c ts)).filter p = (Tree.headsAll ts).filter p := by
  cases ts with
  | nil => simp [placeComment, Tree.headsAll, hc]
  | cons t ts =>
    rw [placeComment]
    split
    · simp [Tree.headsAll, hc]
    · split
      · simp [Tree.headsAll, filter_heads_placeInside hc t]
      · simp [Tree.headsAll, filter_heads_placeComment hc ts]
end

end

theorem filter_heads_placeComments (src : Source) (ts : List Tree)
    (comments : List (Nat × Nat)) :
    (Tree.headsAll (comments.foldr (fun c acc => placeComment (commentNode src c) acc) ts)).filter
        (fun h => h.kind != .comment) =
      (Tree.headsAll ts).filter fun h => h.kind != .comment := by
  induction comments with
  | nil => rfl
  | cons c cs ih => rw [List.foldr_cons, filter_heads_placeComment rfl, ih]

/-! ## Programs -/

/-- The nodes of a program begin in order if those of its statements do. -/
theorem sorted_program {src : Source} (hsrc : src.Ascends) {ts us : List Tree} {s s' : State}
    (hts : Laid src s s' ts)
    (hus : (Tree.headsAll us).filter (fun h => h.kind != .comment) =
      (Tree.headsAll ts).filter fun h => h.kind != .comment) :
    ((program src us).heads.filter fun h => h.kind != .comment).Pairwise
      fun h h' => h.span.start ≤ h'.span.start := by
  have hprogram : (Tree.starts [program src ts]).Pairwise (· ≤ ·) := by
    unfold program
    rw [Tree.starts_node, Tree.starts_nil, List.append_nil]
    refine List.pairwise_cons.2 ⟨fun x hx => ?_, hts.sorted⟩
    exact Nat.le_trans (hsrc.offset_le (Nat.zero_le s.pos)) (hts.above x hx)
  have hheads : (Tree.headsAll [program src ts]).Pairwise
      fun h h' => h.span.start ≤ h'.span.start := List.pairwise_map.1 hprogram
  have hsame : (program src us).heads.filter (fun h => h.kind != .comment) =
      (Tree.headsAll [program src ts]).filter fun h => h.kind != .comment := by
    unfold program
    rw [Tree.headsAll, Tree.headsAll, List.append_nil, Tree.heads, Tree.heads, List.filter_cons,
      List.filter_cons, hus]
  rw [hsame]
  exact hheads.filter _

/-- **The nodes of a parsed tree begin in the order in which a walk meets them**, comments aside. -/
theorem sorted_parse (markup : Bool) (text : String) :
    ((parse markup text).heads.filter fun h => h.kind != .comment).Pairwise
      fun h h' => h.span.start ≤ h'.span.start := by
  have hsrc := Source.ascends_ofString text
  unfold parse
  dsimp only
  split
  · rename_i ts comments h
    obtain ⟨s, s', hlaid, -⟩ := laid_of_read? hsrc h
    exact sorted_program hsrc hlaid (filter_heads_placeComments _ ts comments)
  · exact sorted_program hsrc (Laid.refl _ State.sound_start) rfl

/-! ## Comments in their places -/

theorem span_congr {t u : Tree} (h : t.head = u.head) : t.span = u.span := congrArg Head.span h

section
variable {c : Tree} {ts : List Tree}

/-- A comment goes before the first tree that begins behind it, and behind the others. -/
theorem successive_placeComment (hc : c.span.start ≤ c.span.stop)
    (hparts : ∀ t ∈ ts, t.Parts c.span.start c.span.stop) (h : Tree.Successive ts) :
    Tree.Successive (placeComment c ts) := by
  induction ts with
  | nil => exact List.pairwise_singleton _ _
  | cons t ts ih =>
    obtain ⟨ht, hts⟩ := List.forall_mem_cons.1 hparts
    obtain ⟨hfirst, hrest⟩ := List.pairwise_cons.1 h
    rw [placeComment]
    split
    · rename_i hbefore
      refine List.pairwise_cons.2 ⟨List.forall_mem_cons.2 ⟨?_, fun u hu => ?_⟩, h⟩
      · exact ⟨Nat.le_trans hc hbefore, hbefore⟩
      · have hle := Nat.le_trans hbefore (hfirst u hu).1
        exact ⟨Nat.le_trans hc hle, hle⟩
    · rename_i hbefore
      split
      · refine List.pairwise_cons.2 ⟨fun u hu => ?_, hrest⟩
        rw [span_congr (head_placeInside c t)]
        exact hfirst u hu
      · rename_i hinside
        -- The comment is neither before the tree nor inside it.
        obtain ⟨hstart, hside⟩ := ht.resolve_left hbefore
        have hbehind : t.span.stop ≤ c.span.start := by
          refine hside.resolve_right fun hstop => hinside ?_
          exact Bool.and_eq_true_iff.2 ⟨decide_eq_true hstart, decide_eq_true hstop⟩
        refine List.pairwise_cons.2 ⟨fun u hu => ?_, ih hts hrest⟩
        rcases head_of_mem_placeComment hu with hhead | ⟨v, hv, hhead⟩
        · rw [span_congr hhead]
          exact ⟨hstart, hbehind⟩
        · rw [← span_congr hhead]
          exact hfirst v hv

variable {src : Source} {comments : List (Nat × Nat)}

mutual
theorem placed_placeInside (hc : c.span.start ≤ c.span.stop)
    (hcomment : c.AllNodes (Tree.Placed src comments))
    (hparts : ∀ t, Tree.Placed src comments t → t.Parts c.span.start c.span.stop) (t : Tree)
    (ht : t.AllNodes (Tree.Placed src comments)) (hstart : t.span.start ≤ c.span.start)
    (hstop : c.span.stop ≤ t.span.stop) :
    (placeInside c t).AllNodes (Tree.Placed src comments) := by
  obtain ⟨h, ts⟩ := t
  obtain ⟨⟨⟨inside, successive⟩, visible, parts⟩, hts⟩ := Tree.allNodes_iff.1 ht
  rw [placeInside]
  refine Tree.allNodes_iff.2 ⟨⟨⟨fun u hu => ?_, ?_⟩, visible, parts⟩,
    placed_placeComment hc hcomment hparts ts hts⟩
  · rcases head_of_mem_placeComment hu with hhead | ⟨v, hv, hhead⟩
    · rw [span_congr hhead]
      exact ⟨hstart, hstop⟩
    · rw [← span_congr hhead]
      exact inside v hv
  · exact successive_placeComment hc (fun u hu => hparts u (hts u hu).self) successive

theorem placed_placeComment (hc : c.span.start ≤ c.span.stop)
    (hcomment : c.AllNodes (Tree.Placed src comments))
    (hparts : ∀ t, Tree.Placed src comments t → t.Parts c.span.start c.span.stop) (ts : List Tree)
    (hts : ∀ t ∈ ts, t.AllNodes (Tree.Placed src comments)) :
    ∀ t ∈ placeComment c ts, t.AllNodes (Tree.Placed src comments) := by
  cases ts with
  | nil => exact List.forall_mem_singleton.2 hcomment
  | cons u us =>
    obtain ⟨hu, hus⟩ := List.forall_mem_cons.1 hts
    rw [placeComment]
    split
    · exact List.forall_mem_cons.2 ⟨hcomment, hts⟩
    · split
      · rename_i hinside
        obtain ⟨hstart, hstop⟩ := Bool.and_eq_true_iff.1 hinside
        exact List.forall_mem_cons.2 ⟨placed_placeInside hc hcomment hparts u hu
          (of_decide_eq_true hstart) (of_decide_eq_true hstop), hus⟩
      · exact List.forall_mem_cons.2 ⟨hu, placed_placeComment hc hcomment hparts us hus⟩
end

/-- The trees lie one behind the other within the source, and all their nodes in their places. -/
structure Settled (src : Source) (comments : List (Nat × Nat)) (ts : List Tree) : Prop where
  successive : Tree.Successive ts
  inside : ∀ t ∈ ts, src.offset 0 ≤ t.span.start ∧ t.span.stop ≤ src.offset src.size
  placed : ∀ t ∈ ts, t.AllNodes (Tree.Placed src comments)

theorem Laid.settled (hsrc : src.Ascends) {s s' : State} (h : Laid src s s' ts) :
    Settled src s'.comments ts where
  successive := h.successive
  inside t ht :=
    ⟨Nat.le_trans (hsrc.offset_le (Nat.zero_le s.pos)) (h.above _ (Tree.start_mem_starts ht)),
      Nat.le_trans (h.ended t ht) (hsrc.offset_le_size s'.last)⟩
  placed := h.placed

/-- One of several comments that lie one behind the other. -/
theorem placed_commentNode (hsrc : src.Ascends) {s : State} (hs : s.Sound) {k : Nat × Nat}
    (hk : k ∈ s.comments) : (commentNode src k).AllNodes (Tree.Placed src s.comments) := by
  refine Tree.allNodes_iff.2 ⟨⟨⟨List.forall_mem_nil _, List.Pairwise.nil⟩, fun hvisible => ?_,
    fun c hc => ?_⟩, List.forall_mem_nil _⟩
  · obtain ⟨hlt, hsize⟩ := Source.slice_ne_empty_iff.1 hvisible
    exact hsrc.offset_lt hlt hsize
  · have : Std.Symm fun a b : Nat × Nat => b.2 ≤ a.1 ∨ a.2 ≤ b.1 := ⟨fun _ _ => Or.symm⟩
    have hdisjoint : s.comments.Pairwise fun a b => b.2 ≤ a.1 ∨ a.2 ≤ b.1 := hs.apart.imp .inl
    by_cases hck : c = k
    · subst hck
      exact .inr ⟨Nat.le_refl _, .inr (Nat.le_refl _)⟩
    · rcases hdisjoint.forall hc hk hck with hbehind | hbefore
      · have hstop := hsrc.offset_le hbehind
        exact .inr ⟨Nat.le_trans (hsrc.offset_le (hs.passed k hk).1) hstop, .inl hstop⟩
      · exact .inl (hsrc.offset_le hbefore)

theorem Settled.placeComment (hsrc : src.Ascends) {s : State} (hs : s.Sound) {k : Nat × Nat}
    (hk : k ∈ s.comments) (h : Settled src s.comments ts) :
    Settled src s.comments (placeComment (commentNode src k) ts) := by
  have hproper : src.offset k.1 ≤ src.offset k.2 := hsrc.offset_le (hs.passed k hk).1
  refine ⟨successive_placeComment hproper (fun t ht => (h.placed t ht).self.parts k hk) h.successive,
    fun t ht => ?_, placed_placeComment (c := commentNode src k) hproper
      (placed_commentNode hsrc hs hk) (fun t ht => ht.parts k hk) ts h.placed⟩
  rcases head_of_mem_placeComment ht with hhead | ⟨u, hu, hhead⟩
  · rw [span_congr hhead]
    exact ⟨hsrc.offset_le (Nat.zero_le k.1), hsrc.offset_le_size k.2⟩
  · rw [← span_congr hhead]
    exact h.inside u hu

theorem Settled.placeComments (hsrc : src.Ascends) {s : State} (hs : s.Sound)
    (h : Settled src s.comments ts) :
    Settled src s.comments
      (s.comments.foldr (fun c acc => Grammar.placeComment (commentNode src c) acc) ts) := by
  have hfold : ∀ ks ⊆ s.comments, Settled src s.comments
      (ks.foldr (fun c acc => Grammar.placeComment (commentNode src c) acc) ts) := by
    intro ks
    induction ks with
    | nil => exact fun _ => h
    | cons k ks ih =>
      intro hks
      obtain ⟨hk, hks⟩ := List.cons_subset.1 hks
      exact (ih hks).placeComment hsrc hs hk
  exact hfold _ (List.Subset.refl _)

theorem Settled.program (hsrc : src.Ascends) (h : Settled src comments ts) :
    (program src ts).AllNodes (Tree.Placed src []) := by
  refine Tree.allNodes_iff.2 ⟨⟨⟨h.inside, h.successive⟩, fun hvisible => ?_,
    List.forall_mem_nil _⟩, fun t ht => ?_⟩
  · obtain ⟨hlt, hsize⟩ := Source.slice_ne_empty_iff.1 hvisible
    exact hsrc.offset_lt hlt hsize
  · exact (h.placed t ht).mono fun u hu => ⟨hu.encloses, hu.visible, List.forall_mem_nil _⟩

end

/-- **The nodes of a parsed tree lie in their places**, comments included. -/
theorem placed_parse (markup : Bool) (text : String) :
    (parse markup text).AllNodes (Tree.Placed (.ofString text) []) := by
  have hsrc := Source.ascends_ofString text
  unfold parse
  dsimp only
  split
  · rename_i ts comments h
    obtain ⟨s, s', hlaid, rfl⟩ := laid_of_read? hsrc h
    exact ((hlaid.settled hsrc).placeComments hsrc hlaid.onward.after).program hsrc
  · exact ((Laid.refl _ State.sound_start).settled hsrc).program hsrc

/-- **In a parsed tree children lie inside their parents, in source order**, whatever the text. -/
theorem nested_parse (markup : Bool) (text : String) : (parse markup text).Nested :=
  (placed_parse markup text).mono fun _ h => h.encloses

end Grammar

/-! ## Walks -/

namespace Cursor

mutual
theorem heads_reachFrom (enter : Cursor → Bool) (t : Tree) (above : List Frame) :
    ((reachFrom enter t above).map fun c => c.focus.head).Sublist t.heads := by
  obtain ⟨h, ts⟩ := t
  rw [reachFrom, Tree.heads, List.map_cons]
  refine List.Sublist.cons_cons h ?_
  split
  · exact heads_reachAmong enter ts (.node h ts) above 0
  · exact List.nil_sublist _

theorem heads_reachAmong (enter : Cursor → Bool) (ts : List Tree) (parent : Tree)
    (above : List Frame) (i : Nat) :
    ((reachAmong enter ts parent above i).map fun c => c.focus.head).Sublist
      (Tree.headsAll ts) := by
  cases ts with
  | nil => exact List.nil_sublist _
  | cons t ts =>
    rw [reachAmong, Tree.headsAll, List.map_append]
    refine List.Sublist.append ?_ (heads_reachAmong enter ts parent above (i + 1))
    split
    · exact heads_reachFrom enter t _
    · exact List.nil_sublist _
end

end Cursor

/-- The nodes of a parsed tree in their places begin in the order of a walk, comments aside. -/
theorem Grammar.sorted_preorder (markup : Bool) (text : String) :
    ((Cursor.ofTree (parse markup text)).preorder.filter fun c => c.kind != .comment).Pairwise
      fun c d => c.span.start ≤ d.span.start := by
  have hwalk := Cursor.heads_reachFrom (fun _ => true) (parse markup text) []
  have hsorted := (sorted_parse markup text).sublist (hwalk.filter fun h => h.kind != .comment)
  rw [List.filter_map, List.pairwise_map] at hsorted
  exact hsorted

end RouteInventory
