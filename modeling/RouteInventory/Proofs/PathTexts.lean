import Mathlib
import RouteInventory.Path

/-!
# Paths as texts

A path is written as its names with slashes between them.  Cutting a text at its slashes gives the
names back, provided that they hold no slash, are not empty and are not a single dot.

* `Text.splitOn_singleton`: cutting a text at a character is cutting the list of its characters.
* `Path.IsName`: what can be a name of a path; `Path.isName_of_mem_namesOf`: all that is read is.
* `Path.namesOf_intercalate`, `Path.namesOf_here`: what is written is read back, also behind `./`.
* `Path.ofString_toString`: a path from the root is what its text spells out.
-/

namespace RouteInventory

/-! ## Cutting at a character -/

namespace Text

open String in
/-- The index after two pieces is the end exactly if nothing follows them. -/
theorem atEnd_append_iff (l m r : List Char) :
    (⟨utf8Len l + utf8Len m⟩ : Pos.Raw).atEnd (ofList (l ++ m ++ r)) = true ↔ r = [] := by
  rw [atEnd_iff, rawEndPos_ofList, utf8Len_append, utf8Len_append, Pos.Raw.mk_le_mk,
    ← utf8Len_eq_zero]
  omega

open String in
/-- The loop of `splitOn`: `l` has been cut, `m` is the piece that is being read and `r` is left. -/
theorem splitOnAux_singleton (a : Char) (l m r : List Char) (acc : List String) :
    splitOnAux (ofList (l ++ m ++ r)) (ofList [a]) ⟨utf8Len l⟩ ⟨utf8Len l + utf8Len m⟩ 0 acc =
      acc.reverse ++ (List.splitOnPPrepend (· == a) r m.reverse).map ofList := by
  induction r generalizing l m acc with
  | nil =>
    unfold splitOnAux
    rw [if_pos ((atEnd_append_iff l m []).2 rfl)]
    simp only [extract_of_valid l m [], List.reverse_cons, List.splitOnPPrepend_nil,
      List.reverse_reverse, List.map_cons, List.map_nil]
  | cons c r ih =>
    have hget : (⟨utf8Len l + utf8Len m⟩ : Pos.Raw).get (ofList (l ++ m ++ c :: r)) = c := by
      rw [← utf8Len_append]
      exact get_of_valid (l ++ m) (c :: r)
    have hnext : (⟨utf8Len l + utf8Len m⟩ : Pos.Raw).next (ofList (l ++ m ++ c :: r)) =
        ⟨utf8Len l + utf8Len m + c.utf8Size⟩ := by
      rw [← utf8Len_append]
      exact next_of_valid (l ++ m) c r
    have hmark : (0 : Pos.Raw).get (ofList [a]) = a := get_of_valid [] [a]
    have hpast : (0 : Pos.Raw).next (ofList [a]) = ⟨a.utf8Size⟩ := by
      simpa using next_of_valid [] a []
    have hdone : (⟨a.utf8Size⟩ : Pos.Raw).atEnd (ofList [a]) = true := by
      simpa using (atEnd_append_iff [] [a] []).2 rfl
    unfold splitOnAux
    rw [if_neg (mt (atEnd_append_iff l m (c :: r)).1 (List.cons_ne_nil c r)), hget, hmark, hnext,
      hpast, List.splitOnPPrepend_cons_eq_if]
    by_cases hc : c = a
    · subst hc
      have hback : (⟨utf8Len l + utf8Len m + c.utf8Size⟩ : Pos.Raw).unoffsetBy ⟨c.utf8Size⟩ =
          ⟨utf8Len l + utf8Len m⟩ := by
        ext
        simp
      simp only [beq_self_eq_true, if_true, hdone, hback, extract_of_valid l m (c :: r)]
      simpa [Nat.add_assoc] using ih (l ++ m ++ [c]) [] (ofList m :: acc)
    · have hback : (⟨utf8Len l + utf8Len m⟩ : Pos.Raw).unoffsetBy 0 =
          ⟨utf8Len l + utf8Len m⟩ := by
        ext
        simp
      simp only [beq_iff_eq, hc, if_false, hback, hnext]
      simpa [Nat.add_assoc] using ih l (m ++ [c]) acc

/-- **Cutting a text at a character** is cutting the list of its characters. -/
theorem splitOn_singleton (a : Char) (s : String) :
    s.splitOn (String.ofList [a]) = (s.toList.splitOn a).map String.ofList := by
  have hne : (String.ofList [a] == "") = false := by
    rw [beq_eq_false_iff_ne]
    intro h
    simpa using congrArg String.toList h
  have hrun := splitOnAux_singleton a [] [] s.toList []
  unfold String.splitOn
  rw [hne, List.splitOn_eq_splitOnP]
  simpa using hrun

theorem splitOn_slash (s : String) : s.splitOn "/" = (s.toList.splitOn '/').map String.ofList :=
  splitOn_singleton '/' s

/-- No piece holds the character that was cut at. -/
theorem notMem_of_mem_splitOn {a : Char} {cs piece : List Char} (h : piece ∈ cs.splitOn a) :
    a ∉ piece := by
  induction cs generalizing piece with
  | nil =>
    rw [List.splitOn_nil, List.mem_singleton] at h
    exact h ▸ List.not_mem_nil
  | cons c cs ih =>
    rw [List.splitOn_cons_eq_if_modifyHead] at h
    split at h
    · rcases List.mem_cons.1 h with rfl | h
      · exact List.not_mem_nil
      · exact ih h
    · rename_i hc
      obtain ⟨first, rest, hpieces⟩ := List.exists_cons_of_ne_nil (List.splitOn_ne_nil a cs)
      rw [hpieces] at h ih
      rcases List.mem_cons.1 h with rfl | h
      · rw [List.mem_cons, not_or]
        exact ⟨fun heq => hc (beq_iff_eq.2 heq.symm), ih List.mem_cons_self⟩
      · exact ih (List.mem_cons_of_mem first h)

end Text

/-! ## Names -/

namespace Path

/-- What can stand between two slashes of a path and counts there. -/
structure IsName (n : String) : Prop where
  noSlash : '/' ∉ n.toList
  ne_empty : n ≠ ""
  ne_dot : n ≠ "."

variable {n : String} {names : List String}

theorem isName_of_mem_namesOf {text : String} (h : n ∈ namesOf text) : IsName n := by
  obtain ⟨hpiece, hcounts⟩ := List.mem_filter.1 h
  rw [Text.splitOn_slash, List.mem_map] at hpiece
  obtain ⟨piece, hpiece, rfl⟩ := hpiece
  obtain ⟨hempty, hdot⟩ := Bool.and_eq_true_iff.1 hcounts
  refine ⟨?_, bne_iff_ne.1 hempty, bne_iff_ne.1 hdot⟩
  rw [String.toList_ofList]
  exact Text.notMem_of_mem_splitOn hpiece

theorem isName_parent : IsName ".." := ⟨by decide, by decide, by decide⟩

theorem IsName.counts (h : IsName n) : (n != "" && n != ".") = true :=
  Bool.and_eq_true_iff.2 ⟨bne_iff_ne.2 h.ne_empty, bne_iff_ne.2 h.ne_dot⟩

/-- Names that are written with slashes between them are cut apart again. -/
theorem splitOn_intercalate (h : ∀ n ∈ names, IsName n) (hnames : names ≠ []) :
    (String.intercalate "/" names).splitOn "/" = names := by
  have hslash : ∀ piece ∈ names.map String.toList, '/' ∉ piece :=
    List.forall_mem_map.2 fun m hm => (h m hm).noSlash
  have hcut : (String.intercalate "/" names).toList.splitOn '/' = names.map String.toList := by
    rw [String.toList_intercalate]
    exact List.splitOn_intercalate '/' hslash (by simpa using hnames)
  rw [Text.splitOn_slash, hcut, List.map_map]
  simp

/-- Names that are written with slashes between them are read back. -/
theorem namesOf_intercalate (h : ∀ n ∈ names, IsName n) :
    namesOf (String.intercalate "/" names) = names := by
  cases names with
  | nil =>
    rw [String.intercalate_nil, namesOf, Text.splitOn_slash]
    rfl
  | cons n names =>
    rw [namesOf, splitOn_intercalate h (List.cons_ne_nil n names), List.filter_eq_self]
    exact fun m hm => (h m hm).counts

/-- A slash in front cuts off an empty name. -/
theorem splitOn_slash_append (text : String) :
    ("/" ++ text).splitOn "/" = "" :: text.splitOn "/" := by
  have hcut : ("/" ++ text).toList.splitOn '/' = [] :: text.toList.splitOn '/' := by
    rw [String.toList_append]
    exact List.splitOn_append_cons_self_of_not_mem List.not_mem_nil _
  rw [Text.splitOn_slash, hcut, Text.splitOn_slash, List.map_cons]

/-- A dot at the beginning stays in place. -/
theorem namesOf_here (text : String) : namesOf ("./" ++ text) = namesOf text := by
  have hdot : '/' ∉ ['.'] := by decide
  have hcut : ("./" ++ text).toList.splitOn '/' = ['.'] :: text.toList.splitOn '/' := by
    rw [String.toList_append]
    exact List.splitOn_append_cons_self_of_not_mem hdot _
  rw [namesOf, Text.splitOn_slash, hcut, namesOf, Text.splitOn_slash, List.map_cons,
    List.filter_cons]
  rfl

/-- A text is read as a path from the root exactly if it begins with a slash. -/
theorem absolute_ofString_iff (text : String) :
    (ofString text).absolute = true ↔ text.toList.head? = some '/' := by
  change text.startsWith "/" = true ↔ _
  rw [String.startsWith_string_iff]
  cases text.toList with
  | nil => simp
  | cons c cs => simp [List.cons_prefix_cons, eq_comm]

/-- A slash in front adds no name. -/
theorem namesOf_slash (text : String) : namesOf ("/" ++ text) = namesOf text := by
  rw [namesOf, splitOn_slash_append, List.filter_cons]
  rfl

/-- A slash in front makes a path start at the root. -/
theorem ofString_slash (text : String) : ofString ("/" ++ text) = ⟨true, namesOf text⟩ := by
  have habsolute : (ofString ("/" ++ text)).absolute = true := by
    rw [absolute_ofString_iff, String.toList_append]
    rfl
  rw [← habsolute, ← namesOf_slash]
  rfl

/-- A path from the root is what its text spells out. -/
theorem ofString_toString {p : Path} (habsolute : p.absolute = true) (h : ∀ n ∈ p.names, IsName n) :
    ofString p.toString = p := by
  rw [toString, if_pos habsolute, ofString_slash, namesOf_intercalate h, ← habsolute]

theorem ofString_root : ofString "/" = ⟨true, []⟩ :=
  ofString_toString (p := ⟨true, []⟩) rfl (List.forall_mem_nil _)

theorem ofString_of_isName (h : IsName n) : ofString n = ⟨false, [n]⟩ := by
  have hrelative : (ofString n).absolute = false := by
    rw [← Bool.not_eq_true, absolute_ofString_iff]
    exact fun hhead => h.noSlash (List.mem_of_mem_head? hhead)
  have hnames : (ofString n).names = [n] := by
    have hread := namesOf_intercalate (List.forall_mem_singleton.2 h)
    rwa [String.intercalate_singleton] at hread
  rw [← hrelative, ← hnames]

end Path

end RouteInventory
