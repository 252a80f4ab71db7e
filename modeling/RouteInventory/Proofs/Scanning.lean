import Mathlib
import RouteInventory.Grammar.Rule

/-!
# Scanning goes forward

* `Source.le_gap` and its kin — no scanning function returns an index before the one it is given.
* `Source.follows_gap` — the comments that are passed between two tokens lie between them.
* `Source.slice_ne_empty_iff` — which stretches of a source hold text.
* `Source.point_ofString` — the place of a character is found by passing those before it.
* `Source.ascends_ofString` — so the byte offsets of a text ascend with its indices.
-/

namespace RouteInventory

namespace Grammar

namespace Source

/-! ## Ends -/

section
variable (s : Source) (p : Char → Bool) (i : Nat)

theorem le_skipWhile : i ≤ s.skipWhile p i := by
  fun_induction skipWhile s p i with
  | case1 i h hp ih => omega
  | case2 => exact Nat.le_refl _
  | case3 => exact Nat.le_refl _

theorem le_digitsEnd : i ≤ s.digitsEnd p i := by
  fun_induction digitsEnd s p i with
  | case1 i h hp ih => omega
  | case2 i h hp hc ih => omega
  | case3 => exact Nat.le_refl _
  | case4 => exact Nat.le_refl _

theorem le_exponentEnd : i ≤ s.exponentEnd i := by
  unfold exponentEnd
  split
  · extract_lets j
    have hj : i ≤ j := by
      dsimp only [j]
      split <;> omega
    clear_value j
    split
    · exact Nat.le_trans hj (s.le_digitsEnd _ j)
    · exact Nat.le_refl _
  · exact Nat.le_refl _

theorem le_nameEnd : i ≤ s.nameEnd i := by
  fun_induction nameEnd s i with
  | case1 i h hp ih => omega
  | case2 i h hp j hj hlt ih => omega
  | case3 => exact Nat.le_refl _
  | case4 => exact Nat.le_refl _
  | case5 => exact Nat.le_refl _

theorem le_gap (newline : Bool) (comments : List (Nat × Nat)) :
    i ≤ (s.gap i newline comments).stop := by
  fun_induction gap s i newline comments with
  | case1 i newline comments h c hblank ih => omega
  | case2 i newline comments h c hblank hline j hj ih => omega
  | case3 => exact Nat.le_refl _
  | case4 i newline comments h c hblank hline hblock j hj ih => omega
  | case5 => exact Nat.le_refl _
  | case6 => exact Nat.le_refl _
  | case7 => exact Nat.le_refl _

end

/-- The comments of a gap that begins at `i` are those passed before it and some inside it, and they
come one behind the other. -/
structure Gap.Follows (g : Gap) (i : Nat) (comments : List (Nat × Nat)) : Prop where
  fresh : ∀ c ∈ g.comments, c ∈ comments ∨ i ≤ c.1 ∧ c.1 ≤ c.2 ∧ c.2 ≤ g.stop
  apart : g.comments.Pairwise fun c d => d.2 ≤ c.1

section
variable {g : Gap} {i j : Nat} {comments : List (Nat × Nat)}

theorem Gap.Follows.refl (hapart : comments.Pairwise fun c d => d.2 ≤ c.1) (i : Nat)
    (newline : Bool) : Gap.Follows ⟨i, newline, comments⟩ i comments :=
  ⟨fun _ hc => .inl hc, hapart⟩

/-- A blank before a gap. -/
theorem Gap.Follows.blank (h : g.Follows (i + 1) comments) : g.Follows i comments where
  fresh c hc := (h.fresh c hc).imp_right (And.imp_left Nat.le_of_succ_le)
  apart := h.apart

/-- A comment from `i` to `j` before a gap. -/
theorem Gap.Follows.comment (hij : i < j) (hstop : j ≤ g.stop)
    (h : g.Follows j ((i, j) :: comments)) : g.Follows i comments where
  fresh c hc := by
    rcases h.fresh c hc with hc | ⟨hstart, hend⟩
    · rcases List.mem_cons.1 hc with rfl | hc
      · exact .inr ⟨Nat.le_refl i, Nat.le_of_lt hij, hstop⟩
      · exact .inl hc
    · exact .inr ⟨Nat.le_trans (Nat.le_of_lt hij) hstart, hend⟩
  apart := h.apart

end

/-- The comments that are passed come one behind the other, and behind those passed before. -/
theorem follows_gap (s : Source) (i : Nat) (newline : Bool) (comments : List (Nat × Nat))
    (hpassed : ∀ c ∈ comments, c.2 ≤ i) (hapart : comments.Pairwise fun c d => d.2 ≤ c.1) :
    (s.gap i newline comments).Follows i comments := by
  -- What holds at `i` holds at the end `j` of a comment that begins there.
  have hcomment {i j : Nat} {comments : List (Nat × Nat)} (hij : i < j)
      (hpassed : ∀ c ∈ comments, c.2 ≤ i) : ∀ c ∈ (i, j) :: comments, c.2 ≤ j :=
    List.forall_mem_cons.2 ⟨Nat.le_refl j, fun c hc =>
      Nat.le_trans (hpassed c hc) (Nat.le_of_lt hij)⟩
  fun_induction gap s i newline comments with
  | case1 i newline comments hi c hblank ih =>
    exact (ih (fun c hc => Nat.le_succ_of_le (hpassed c hc)) hapart).blank
  | case2 i newline comments hi c hblank hline j hj ih =>
    exact (ih (hcomment hj hpassed) (List.pairwise_cons.2 ⟨hpassed, hapart⟩)).comment hj
      (s.le_gap j _ _)
  | case3 => exact .refl hapart _ _
  | case4 i newline comments hi c hblank hline hblock j hj ih =>
    exact (ih (hcomment hj hpassed) (List.pairwise_cons.2 ⟨hpassed, hapart⟩)).comment hj
      (s.le_gap j _ _)
  | case5 => exact .refl hapart _ _
  | case6 => exact .refl hapart _ _
  | case7 => exact .refl hapart _ _

section
variable {s : Source} {p : Char → Bool} {q : Char} {i j : Nat}

theorem le_of_radixEnd (h : s.radixEnd p i = some j) : i ≤ j := by
  have hdigits := s.le_digitsEnd p (i + 2)
  unfold radixEnd at h
  split at h
  · cases h
    split <;> omega
  · cases h

/-- A number without its base goes at least as far as its digits. -/
theorem le_of_numberEnd? (h : s.numberEnd? i = some j) : i ≤ j := by
  have hdigits := s.le_digitsEnd Char.isDigit i
  unfold numberEnd? at h
  split at h
  · exact le_of_radixEnd h
  · exact le_of_radixEnd h
  · exact le_of_radixEnd h
  · exact le_of_radixEnd h
  · exact le_of_radixEnd h
  · exact le_of_radixEnd h
  · split at h
    · cases h
      have hfraction := s.le_digitsEnd Char.isDigit (i + 1)
      exact Nat.le_trans (by omega) (s.le_exponentEnd _)
    · cases h
  · split at h
    · cases h
    · dsimp only at h
      split at h
      · cases h
        omega
      · split at h
        · cases h
          refine Nat.le_trans ?_ (s.le_exponentEnd _)
          split
          · exact Nat.le_trans (by omega) (s.le_digitsEnd _ (s.digitsEnd Char.isDigit i + 1))
          · omega
        · split at h
          · cases h
            exact Nat.le_trans hdigits (s.le_exponentEnd _)
          · cases h
            exact hdigits
  · cases h

theorem le_of_stringEnd? (h : s.stringEnd? q i = some j) : i ≤ j := by
  fun_induction stringEnd? s q i with
  | case1 => cases h; omega
  | case2 i h' c hq hc ih => have := ih h; omega
  | case3 => cases h
  | case4 i h' c hq hc hn ih => have := ih h; omega
  | case5 => cases h

theorem le_of_regexEnd? {inClass : Bool} (h : s.regexEnd? inClass i = some j) : i ≤ j := by
  fun_induction regexEnd? s inClass i with
  | case1 => cases h
  | case2 inClass i h' c hn hc ih => have := ih h; omega
  | case3 i h' c hn hc ih => have := ih h; omega
  | case4 => cases h; omega
  | case5 inClass i h' c hn hc hin hs ih => have := ih h; omega
  | case6 => cases h

theorem lt_of_nameEscapeEnd? (h : s.nameEscapeEnd? i = some j) : i < j := by
  unfold nameEscapeEnd? at h
  split at h
  · split at h
    · have hdigits := s.le_skipWhile isHexDigit (i + 3)
      dsimp only at h
      split at h
      · cases h
        omega
      · cases h
    · dsimp only at h
      split at h
      · cases h
        omega
      · cases h
  · cases h

/-- A name holds at least one character. -/
theorem lt_of_nameEnd? (h : s.nameEnd? i = some j) : i < j := by
  unfold nameEnd? at h
  split at h
  · split at h
    · cases h
      exact s.le_nameEnd _
    · obtain ⟨k, hk, rfl⟩ := Option.map_eq_some_iff.1 h
      exact Nat.lt_of_lt_of_le (lt_of_nameEscapeEnd? hk) (s.le_nameEnd _)
  · cases h

theorem le_of_nameEnd? (h : s.nameEnd? i = some j) : i ≤ j := Nat.le_of_lt (lt_of_nameEnd? h)

theorem lt_size_of_nameEnd? (h : s.nameEnd? i = some j) : i < s.size := by
  unfold nameEnd? at h
  split at h
  · exact (Array.getElem?_eq_some_iff.1 ‹_›).1
  · cases h

theorem lt_size_of_hasAt {cs : List Char} (hcs : cs ≠ []) (h : s.hasAt i cs = true) :
    i < s.size := by
  obtain ⟨c, cs, rfl⟩ := List.exists_cons_of_ne_nil hcs
  have hfirst := (Bool.and_eq_true_iff.1 h).1
  exact (Array.getElem?_eq_some_iff.1 (beq_iff_eq.1 hfirst)).1

theorem le_escapeEnd (src : Source) (i : Nat) : i ≤ escapeEnd src i := by
  unfold escapeEnd
  dsimp only
  split
  · split <;> omega
  · have hbraced := src.le_skipWhile
      (fun c => c.isDigit || ('a' ≤ c.toLower && c.toLower ≤ 'f')) (i + 3)
    split
    · omega
    · split <;> omega
  · have hoctal := src.le_skipWhile (fun c => '0' ≤ c && c ≤ '7') (i + 1)
    split
    · exact Nat.le_min.2 ⟨by omega, by omega⟩
    · omega
  · omega

/-- The characters between two indices are none only if there are none to take. -/
theorem slice_ne_empty_iff : s.slice i j ≠ "" ↔ i < j ∧ i < s.size := by
  have hlength : (s.chars.extract i j).toList.length = min j s.size - i := by
    rw [Array.length_toList, Array.size_extract]
    rfl
  have hempty : s.slice i j = "" ↔ (s.chars.extract i j).toList = [] := by
    unfold slice
    exact String.ofList_eq_empty_iff
  rw [Ne, hempty, ← List.length_eq_zero_iff, hlength]
  omega

end

/-! ## Offsets -/

/-- The byte offset of an index. -/
def offset (s : Source) (i : Nat) : Nat := (s.point i).byte

/-- Byte offsets ascend with the indices, and from one character to the next they grow. -/
structure Ascends (s : Source) : Prop where
  offset_le : ∀ {i j : Nat}, i ≤ j → s.offset i ≤ s.offset j
  offset_lt : ∀ {i j : Nat}, i < j → i < s.size → s.offset i < s.offset j

/-- Nothing lies behind the end. -/
theorem Ascends.offset_le_size {s : Source} (hs : s.Ascends) (i : Nat) :
    s.offset i ≤ s.offset s.size := by
  rcases Nat.le_total i s.size with hi | hi
  · exact hs.offset_le hi
  · unfold offset point
    rw [Nat.min_eq_right hi, Nat.min_self]

end Source

/-- The place after a run of characters. -/
def Point.afterAll (p : Point) (cs : List Char) : Point := cs.foldl Point.after p

theorem Point.byte_lt_after (p : Point) (c : Char) : p.byte < (p.after c).byte := by
  unfold Point.after
  split <;> exact Nat.lt_add_of_pos_right c.utf8Size_pos

theorem Point.byte_le_afterAll (p : Point) (cs : List Char) : p.byte ≤ (p.afterAll cs).byte := by
  induction cs generalizing p with
  | nil => exact Nat.le_refl _
  | cons c cs ih => exact Nat.le_trans (Nat.le_of_lt (p.byte_lt_after c)) (ih (p.after c))

/-- Some character lies between two different places. -/
theorem Point.byte_lt_afterAll (p : Point) {cs : List Char} (hcs : cs ≠ []) :
    p.byte < (p.afterAll cs).byte := by
  obtain ⟨c, cs, rfl⟩ := List.exists_cons_of_ne_nil hcs
  exact Nat.lt_of_lt_of_le (p.byte_lt_after c) ((p.after c).byte_le_afterAll cs)

namespace Source

/-- The places of characters, as they are collected from left to right. -/
theorem collected_points (cs : List Char) :
    cs.foldl (fun a c => (a.1.push a.2, a.2.after c)) ((#[] : Array Point), (⟨0, 0, 0⟩ : Point)) =
      (((List.range cs.length).map fun k => Point.afterAll ⟨0, 0, 0⟩ (cs.take k)).toArray,
        Point.afterAll ⟨0, 0, 0⟩ cs) := by
  induction cs using List.reverseRecOn with
  | nil => rfl
  | append_singleton cs c ih =>
    have htake : ∀ k ∈ List.range cs.length, (cs ++ [c]).take k = cs.take k := fun k hk =>
      List.take_append_of_le_length (Nat.le_of_lt (List.mem_range.1 hk))
    rw [List.foldl_append, ih, List.length_append, List.length_singleton, List.range_succ,
      List.map_append, List.map_congr_left fun k hk => congrArg _ (htake k hk)]
    simp [Point.afterAll]

/-- The place of a character is found by passing those before it. -/
theorem point_ofString (text : String) (i : Nat) :
    (ofString text).point i = Point.afterAll ⟨0, 0, 0⟩ (text.toList.take i) := by
  generalize hcs : text.toList = cs
  have hpoints : (ofString text).points =
      ((List.range (cs.length + 1)).map fun k => Point.afterAll ⟨0, 0, 0⟩ (cs.take k)).toArray := by
    calc (ofString text).points
        = (cs.foldl (fun a c => (a.1.push a.2, a.2.after c)) (#[], ⟨0, 0, 0⟩)).1.push
            (cs.foldl (fun a c => (a.1.push a.2, a.2.after c)) (#[], ⟨0, 0, 0⟩)).2 := by
          rw [← hcs]
          rfl
      _ = _ := by
          rw [collected_points, List.push_toArray, List.range_succ, List.map_append,
            List.map_singleton, List.take_length]
  have hsize : (ofString text).size = cs.length := by
    rw [← hcs]
    rfl
  unfold point
  rw [hpoints, hsize]
  simp [Array.getD_eq_getD_getElem?, ← List.take_eq_take_min]

/-- The place of a later character is found by going on from an earlier one. -/
theorem point_ofString_of_le (text : String) {i j : Nat} (hij : i ≤ j) :
    (ofString text).point j =
      ((ofString text).point i).afterAll ((text.toList.take j).drop i) := by
  have hsplit : text.toList.take j = text.toList.take i ++ (text.toList.take j).drop i := by
    conv_lhs => rw [← List.take_append_drop i (text.toList.take j)]
    rw [List.take_take, Nat.min_eq_left hij]
  rw [point_ofString, point_ofString, hsplit]
  unfold Point.afterAll
  rw [List.foldl_append, ← hsplit]

/-- **Byte offsets ascend**, whatever the text. -/
theorem ascends_ofString (text : String) : (ofString text).Ascends where
  offset_le hij := by
    unfold offset
    rw [point_ofString_of_le text hij]
    exact Point.byte_le_afterAll _ _
  offset_lt {i j} hij hi := by
    have hsize : (ofString text).size = text.toList.length := rfl
    have hsome : (text.toList.take j).drop i ≠ [] := by
      rw [← List.length_pos_iff, List.length_drop, List.length_take]
      omega
    unfold offset
    rw [point_ofString_of_le text (Nat.le_of_lt hij)]
    exact Point.byte_lt_afterAll _ hsome

end Source

end Grammar

end RouteInventory
