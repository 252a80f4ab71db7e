import RouteInventory.Proofs.GrammarShape

/-!
# The shape of parsed trees

* `Grammar.goal_respects`: every goal keeps the form, by induction on how deeply goals nest.
* `Grammar.formed_placeComment`: so does putting comments back, since a comment is no part of a
  node and plays no role in it.
* `Grammar.parse_formed`: every parsed tree is formed, and so it is shaped.
-/

namespace RouteInventory

namespace Grammar

/-! ## Goals -/

instance goalRule_formed (g : Goal) : Yields AllFormed (goalRule g) := by
  cases g <;> unfold goalRule <;> infer_instance

theorem goalRule_single {g : Goal} (hg : g.isSingle = true) : Yields AtMostOne (goalRule g) := by
  unfold Goal.isSingle at hg
  split at hg
  · exact inferInstanceAs (Yields AtMostOne expressions)
  · exact inferInstanceAs (Yields AtMostOne expression)
  · exact inferInstanceAs (Yields AtMostOne operand)
  · exact inferInstanceAs (Yields AtMostOne element)
  · cases hg

/-- Every goal keeps the form, however deeply goals nest. -/
theorem goal_respects (n : Nat) : Respects (goal n) := by
  induction n with
  | zero => exact ⟨fun h => (nomatch h), fun _ h => nomatch h⟩
  | succ n ih =>
    exact ⟨fun {g _ _ _ _} h => (goalRule_formed g).reads ih h,
      fun hg h => (goalRule_single hg).reads ih h⟩

theorem allFormed_of_read? {markup : Bool} {src : Source} {ts : List Tree}
    {comments : List (Nat × Nat)} (h : read? markup src = some (ts, comments)) : AllFormed ts := by
  unfold read? at h
  obtain ⟨⟨us, s⟩, hus, heq⟩ := Option.map_eq_some_iff.1 h
  cases heq
  have hstatements : Yields AllFormed statements := by
    unfold statements
    infer_instance
  exact hstatements.reads (goal_respects _) hus

/-! ## Comments -/

theorem head_placeInside (c t : Tree) : (placeInside c t).head = t.head := by
  cases t
  rw [placeInside]
  rfl

theorem isPart_placeInside (c t : Tree) : (placeInside c t).isPart = t.isPart := by
  unfold Tree.isPart Tree.isNamed Tree.kind
  rw [head_placeInside]

theorem isPart_comment {c : Tree} (hc : c.kind = .comment) : c.isPart = false := by
  unfold Tree.isPart
  rw [hc, Bool.and_eq_false_iff]
  exact .inr rfl

theorem isRemark_comment {c : Tree} (hc : c.kind = .comment) (hrole : c.head.role = none) :
    c.isRemark = true := by
  unfold Tree.isRemark
  rw [hc, hrole]
  rfl

/-- A comment is no part of a node. -/
theorem parts_placeComment {c : Tree} (hc : c.isPart = false) (ts : List Tree) :
    ((placeComment c ts).filter Tree.isPart).map Tree.head =
      (ts.filter Tree.isPart).map Tree.head := by
  induction ts with
  | nil => simp [placeComment, hc]
  | cons t ts ih =>
    rw [placeComment]
    split
    · simp [List.filter_cons, hc]
    · split
      · simp only [List.filter_cons, isPart_placeInside]
        split <;> simp [head_placeInside]
      · simp only [List.filter_cons]
        split <;> simp [ih]

theorem head_of_mem_placeComment {c t : Tree} {ts : List Tree} (h : t ∈ placeComment c ts) :
    t.head = c.head ∨ ∃ u ∈ ts, u.head = t.head := by
  induction ts with
  | nil =>
    simp only [placeComment, List.mem_singleton] at h
    exact .inl (h ▸ rfl)
  | cons u us ih =>
    rw [placeComment] at h
    split at h
    · rcases List.mem_cons.1 h with rfl | h
      · exact .inl rfl
      · exact .inr ⟨t, h, rfl⟩
    · split at h
      · rcases List.mem_cons.1 h with rfl | h
        · exact .inr ⟨u, List.mem_cons_self, (head_placeInside c u).symm⟩
        · exact .inr ⟨t, List.mem_cons_of_mem _ h, rfl⟩
      · rcases List.mem_cons.1 h with rfl | h
        · exact .inr ⟨t, List.mem_cons_self, rfl⟩
        · rcases ih h with ih | ⟨v, hv, hv'⟩
          · exact .inl ih
          · exact .inr ⟨v, List.mem_cons_of_mem _ hv, hv'⟩

/-- Putting a comment among the children of a node leaves the heads of the others. -/
theorem heads_sublist_placeComment (c : Tree) (ts : List Tree) :
    (ts.map Tree.head).Sublist ((placeComment c ts).map Tree.head) := by
  induction ts with
  | nil => exact List.nil_sublist _
  | cons t ts ih =>
    rw [placeComment]
    split
    · exact List.sublist_cons_self _ _
    · split
      · rw [List.map_cons, List.map_cons, head_placeInside]
      · exact ih.cons_cons _

theorem Shows.placeComment {n : Nat} {ts : List Tree} (h : Tree.Shows n ts) (c : Tree) :
    Tree.Shows n (placeComment c ts) := by
  have hcount (us : List Tree) : us.countP (fun t => t.text != "") =
      (us.map Tree.head).countP fun hd => hd.text != "" := by
    rw [List.countP_map]
    rfl
  unfold Tree.Shows at h ⊢
  rw [hcount] at h ⊢
  exact Nat.le_trans h (heads_sublist_placeComment c ts).countP_le

theorem isRemark_congr {t u : Tree} (h : t.head = u.head) : t.isRemark = u.isRemark := by
  unfold Tree.isRemark Tree.kind
  rw [h]

/-- What is not a comment was there before. -/
theorem exists_of_mem_placeComment {c t : Tree} {ts : List Tree} (hc : c.isRemark = true)
    (ht : t ∈ placeComment c ts) (hremark : t.isRemark = false) :
    ∃ u ∈ ts, u.head = t.head := by
  rcases head_of_mem_placeComment ht with hhead | h
  · rw [isRemark_congr hhead, hc] at hremark
    cases hremark
  · exact h

theorem kind_of_mem_map_head {P : Kind → Prop} {ts us : List Tree}
    (h : ts.map Tree.head = us.map Tree.head) (hus : ∀ u ∈ us, P u.kind) :
    ∀ t ∈ ts, P t.kind := by
  intro t ht
  have hmem : t.head ∈ us.map Tree.head := h ▸ List.mem_map_of_mem ht
  obtain ⟨u, hu, hut⟩ := List.mem_map.1 hmem
  have hkind : u.kind = t.kind := congrArg Head.kind hut
  exact hkind ▸ hus u hu

theorem Admits.placeComment {k : Kind} {c : Tree} {ts : List Tree} (hc : c.kind = .comment)
    (hrole : c.head.role = none) (h : Tree.Admits k ts) : Tree.Admits k (placeComment c ts) := by
  have hparts := parts_placeComment (isPart_comment hc) ts
  have hshows := h.shows
  unfold Tree.Admits at h ⊢
  split
  · refine kind_of_mem_map_head (P := fun k => k = .typeClause) ?_ h
    rw [List.map_tail, List.map_tail, hparts]
  · intro t ht hargs
    rcases head_of_mem_placeComment ht with hhead | ⟨u, hu, hhead⟩
    · rw [hhead, hrole] at hargs
      cases hargs
    · have hkind : u.kind = t.kind := congrArg Head.kind hhead
      exact hkind ▸ h u hu (by rw [hhead, hargs])
  · exact kind_of_mem_map_head (P := fun k => k = .stringFragment ∨ k = .escapeSequence
      ∨ k = .templateSubstitution) hparts h
  · intro t ht
    rcases head_of_mem_placeComment ht with hhead | ⟨u, hu, hhead⟩
    · exact (congrArg Head.kind hhead).trans hc
    · exact (congrArg Head.kind hhead).symm.trans (h u hu)
  · rintro hrecorded ⟨t, ht, hremark⟩
    obtain ⟨u, hu, hhead⟩ := exists_of_mem_placeComment (isRemark_comment hc hrole) ht hremark
    refine Shows.placeComment (hshows hrecorded ⟨u, hu, ?_⟩) c
    rw [isRemark_congr hhead, hremark]

/-- Comments play no role, and what plays one keeps its head. -/
theorem head_find?_placeComment {c : Tree} (hrole : c.head.role = none) (r : Role)
    (ts : List Tree) :
    ((placeComment c ts).find? fun t => t.head.role == some r).map Tree.head =
      (ts.find? fun t => t.head.role == some r).map Tree.head := by
  induction ts with
  | nil => simp [placeComment, hrole]
  | cons t ts ih =>
    rw [placeComment]
    split
    · simp [List.find?_cons, hrole]
    · split
      · simp only [List.find?_cons, head_placeInside]
        split <;> simp [head_placeInside]
      · simp only [List.find?_cons]
        split
        · rfl
        · exact ih

theorem Level.placeComment {hd : Head} {c : Tree} {ts : List Tree} (hrole : c.head.role = none)
    (h : Tree.Level hd ts) : Tree.Level hd (placeComment c ts) := by
  intro hlink t ht
  have hhead := head_find?_placeComment hrole hd.kind.linkRole ts
  rw [show List.find? _ _ = some t from ht, Option.map_some] at hhead
  obtain ⟨u, hu, hut⟩ := Option.map_eq_some_iff.1 hhead.symm
  have hline : u.line = t.line := congrArg (fun h : Head => h.span.line) hut
  exact hline ▸ h hlink u hu

mutual
theorem formed_placeInside {c : Tree} (hc : c.kind = .comment) (hrole : c.head.role = none)
    (hform : c.Formed) (t : Tree) (h : t.Formed) : (placeInside c t).Formed := by
  cases h with
  | @node hd ts hk hlevel hts =>
    rw [placeInside]
    exact .node (Admits.placeComment hc hrole hk) (Level.placeComment hrole hlevel)
      (formed_placeComment hc hrole hform ts hts)

theorem formed_placeComment {c : Tree} (hc : c.kind = .comment) (hrole : c.head.role = none)
    (hform : c.Formed) (ts : List Tree) (h : ∀ t ∈ ts, t.Formed) :
    ∀ t ∈ placeComment c ts, t.Formed := by
  cases ts with
  | nil => simpa [placeComment] using hform
  | cons u us =>
    obtain ⟨hu, hus⟩ := List.forall_mem_cons.1 h
    rw [placeComment]
    split
    · exact List.forall_mem_cons.2 ⟨hform, h⟩
    · split
      · exact List.forall_mem_cons.2 ⟨formed_placeInside hc hrole hform u hu, hus⟩
      · exact List.forall_mem_cons.2 ⟨hu, formed_placeComment hc hrole hform us hus⟩
end

theorem formed_commentNode (src : Source) (c : Nat × Nat) : (commentNode src c).Formed :=
  .node (Tree.admits_nil _) (Tree.level_nil _) (Additive.nil (P := AllFormed))

/-! ## Programs -/

theorem allFormed_placeComments (src : Source) {ts : List Tree} (h : AllFormed ts)
    (comments : List (Nat × Nat)) :
    AllFormed (comments.foldr (fun c acc => placeComment (commentNode src c) acc) ts) := by
  induction comments with
  | nil => exact h
  | cons c cs ih => exact formed_placeComment rfl rfl (formed_commentNode src c) _ ih

/-- **Every parsed tree is formed**, whatever the text. -/
theorem parse_formed (markup : Bool) (text : String) : (parse markup text).Formed := by
  unfold parse
  dsimp only
  split
  · rename_i ts comments h
    exact .node (Tree.admits_of_not_restricted rfl _) (Tree.level_of_not_isLink rfl _)
      (allFormed_placeComments _ (allFormed_of_read? h) comments)
  · exact .node (Tree.admits_nil _) (Tree.level_nil _) (Additive.nil (P := AllFormed))

/-- **Every parsed tree is shaped**, whatever the text. -/
theorem parse_shaped (markup : Bool) (text : String) : (parse markup text).Shaped :=
  (parse_formed markup text).shaped

end Grammar

end RouteInventory
