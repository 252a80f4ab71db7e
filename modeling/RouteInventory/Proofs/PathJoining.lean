import Mathlib
import RouteInventory.Proofs.Placeholders
import RouteInventory.Proofs.RegistrationChains

/-!
# Joining paths

Joining cuts paths at their slashes, drops what is empty and puts single slashes between the rest.
Whatever is read from a text piece by piece between its slashes is therefore read from a joined path
part by part; `RoutePath.Piecewise` says of a reading that it goes piece by piece.  Segments are
read in this way, and so are placeholders, whose names never go over a slash.

* `RoutePath.Piecewise.join`: what is read from a joined path.
* `RoutePath.segments_join`, `RoutePath.join_append`: joining joins segments.
* `RoutePath.Normal`: single slashes, one at the beginning and none at the end.
* `RoutePath.piecewise_placeholderNames`: placeholders are read piece by piece.
* `RoutePath.join_laws`: what joining does to paths and to their placeholders.
-/

namespace RouteInventory

namespace RoutePath

variable {β : Type} {f : String → List β} {isWord : Char → Bool}

/-! ## Reading piece by piece -/

/-- A reading of texts that goes piece by piece between slashes and reads nothing from nothing. -/
structure Piecewise (f : String → List β) : Prop where
  empty : f "" = []
  slash : ∀ s t, f (s ++ "/" ++ t) = f s ++ f t

theorem Piecewise.intercalate (h : Piecewise f) (pieces : List String) :
    f (String.intercalate "/" pieces) = pieces.flatMap f := by
  induction pieces with
  | nil => rw [String.intercalate_nil, h.empty, List.flatMap_nil]
  | cons piece pieces ih =>
    cases pieces with
    | nil => rw [String.intercalate_singleton, List.flatMap_singleton]
    | cons next pieces =>
      rw [String.intercalate_cons_cons, h.slash, ih]
      exact List.flatMap_cons.symm

theorem intercalate_splitOn (path : String) :
    String.intercalate "/" (path.splitOn "/") = path := by
  rw [Text.splitOn_slash, ← String.toList_inj, String.toList_intercalate, List.map_map]
  have hsame : (path.toList.splitOn '/').map (String.toList ∘ String.ofList) =
      path.toList.splitOn '/' := by simp
  rw [hsame]
  exact List.intercalate_splitOn '/'

/-- Empty pieces do not matter. -/
theorem Piecewise.segments (h : Piecewise f) (path : String) :
    (segments path).flatMap f = f path := by
  have hempty (pieces : List String) : (pieces.filter (· != "")).flatMap f = pieces.flatMap f := by
    induction pieces with
    | nil => rfl
    | cons piece pieces ih =>
      by_cases hpiece : piece = ""
      · simp [hpiece, h.empty, ih]
      · simp [hpiece, ih]
  rw [RoutePath.segments, hempty, ← h.intercalate, intercalate_splitOn]

/-- **What is read piece by piece is read from a joined path part by part.** -/
theorem Piecewise.join (h : Piecewise f) (parts : List String) :
    f (join parts) = parts.flatMap f := by
  have hslash (t : String) : f ("/" ++ t) = f t := by
    have hjoined := h.slash "" t
    rwa [h.empty, List.nil_append, String.empty_append] at hjoined
  rw [RoutePath.join, hslash, h.intercalate, List.flatMap_assoc]
  exact congrArg (List.flatMap · parts) (funext h.segments)

/-! ## Segments -/

theorem piecewise_segments : Piecewise segments where
  empty := by
    rw [segments_eq]
    rfl
  slash s t := by
    have hchars : (s ++ "/" ++ t).toList = s.toList ++ '/' :: t.toList := by simp
    rw [segments_eq, segments_eq, segments_eq, hchars, List.splitOn_append_cons_self,
      List.map_append, List.filter_append]

theorem segments_join (parts : List String) : segments (join parts) = parts.flatMap segments :=
  piecewise_segments.join parts

/-- Paths with the same segments are joined to the same path. -/
theorem join_congr {a b : List String} (h : a.flatMap segments = b.flatMap segments) :
    join a = join b :=
  congrArg ("/" ++ String.intercalate "/" ·) h

theorem join_append (a b : List String) : join (a ++ b) = join [join a, join b] :=
  join_congr (by simp [segments_join])

theorem join_singleton_join (parts : List String) : join [join parts] = join parts :=
  join_congr (by simp [segments_join])

/-- Paths that are joined to a path one after the other are joined to it all at once. -/
theorem foldl_join (first next : String) (rest : List String) :
    (next :: rest).foldl (fun outer part => join [outer, part]) first =
      join (first :: next :: rest) := by
  induction rest generalizing first next with
  | nil => rfl
  | cons part rest ih =>
    rw [List.foldl_cons, ih]
    exact join_congr (by simp [segments_join])

/-- The prefix of a chain of two or more registrations is that of all its parts. -/
theorem joinMounts_cons_cons (first next : String) (rest : List String) :
    joinMounts (first :: next :: rest) = some (join (first :: next :: rest)) :=
  congrArg some (foldl_join first next rest)

/-! ## Normal forms -/

/-- A path that begins with a slash, has no two slashes in a row, and ends with a slash only if it
is nothing else. -/
structure Normal (path : String) : Prop where
  slash_first : path.toList.head? = some '/'
  no_double : ¬ ['/', '/'] <:+: path.toList
  slash_last : path.toList.getLast? = some '/' → path = "/"

theorem ne_empty_of_mem_segments {path s : String} (h : s ∈ segments path) : s ≠ "" :=
  bne_iff_ne.1 (List.mem_filter.1 h).2

theorem notMem_of_mem_segments {path s : String} (h : s ∈ segments path) : '/' ∉ s.toList := by
  rw [segments_eq] at h
  obtain ⟨piece, hpiece, rfl⟩ := List.mem_map.1 (List.mem_filter.1 h).1
  rw [String.toList_ofList]
  exact Text.notMem_of_mem_splitOn hpiece

/-- If all pieces but the first are filled, something else follows on each slash. -/
theorem exists_after_slash {cs x y first : List Char} {pieces : List (List Char)}
    (hcut : cs.splitOn '/' = first :: pieces) (hfilled : [] ∉ pieces) (h : cs = x ++ '/' :: y) :
    ∃ c rest, y = c :: rest ∧ c ≠ '/' := by
  obtain ⟨p, ps, hx⟩ := List.exists_cons_of_ne_nil (List.splitOn_ne_nil '/' x)
  rw [h, List.splitOn_append_cons_self, hx, List.cons_append, List.cons.injEq] at hcut
  have hpieces : ∀ q ∈ y.splitOn '/', q ≠ [] := fun q hq hnil =>
    hfilled (hcut.2 ▸ List.mem_append_right ps (hnil ▸ hq))
  cases y with
  | nil => exact absurd rfl (hpieces [] (by simp))
  | cons c rest =>
    refine ⟨c, rest, rfl, fun hc => hpieces [] ?_ rfl⟩
    rw [List.splitOn_cons_eq_if_modifyHead, if_pos (beq_iff_eq.2 hc)]
    exact List.mem_cons_self

theorem toList_join (parts : List String) : (join parts).toList =
    '/' :: ['/'].intercalate ((parts.flatMap segments).map String.toList) := by
  simp [join]

theorem normal_root : Normal "/" where
  slash_first := rfl
  no_double h := absurd h.length_le (by decide)
  slash_last _ := rfl

theorem normal_join (parts : List String) : Normal (join parts) := by
  -- without segments there is nothing to cut; otherwise only the first piece is empty
  by_cases hnil : parts.flatMap segments = []
  · have hroot : join parts = "/" := by simp [join, hnil]
    exact hroot ▸ normal_root
  have hcut : (join parts).toList.splitOn '/' =
      [] :: (parts.flatMap segments).map String.toList := by
    have hpieces : ∀ piece ∈ (parts.flatMap segments).map String.toList, '/' ∉ piece := by
      refine List.forall_mem_map.2 fun s hs => ?_
      obtain ⟨part, -, hs⟩ := List.mem_flatMap.1 hs
      exact notMem_of_mem_segments hs
    rw [toList_join, List.splitOn_cons_eq_if_modifyHead, if_pos (beq_self_eq_true _),
      List.splitOn_intercalate '/' hpieces (by simpa using hnil)]
  have hfilled : [] ∉ (parts.flatMap segments).map String.toList := by
    intro hmem
    obtain ⟨s, hs, hempty⟩ := List.mem_map.1 hmem
    obtain ⟨part, -, hs⟩ := List.mem_flatMap.1 hs
    exact ne_empty_of_mem_segments hs (String.toList_eq_nil_iff.1 hempty)
  refine ⟨by rw [toList_join]; rfl, ?_, ?_⟩
  · rintro ⟨x, y, hsplit⟩
    have hchars : (join parts).toList = x ++ '/' :: '/' :: y := by simpa using hsplit.symm
    obtain ⟨c, rest, hrest, hc⟩ := exists_after_slash hcut hfilled hchars
    cases hrest
    exact hc rfl
  · intro hlast
    obtain ⟨x, hchars⟩ := List.getLast?_eq_some_iff.1 hlast
    obtain ⟨c, rest, hrest, -⟩ := exists_after_slash hcut hfilled hchars
    cases hrest

/-! ## Placeholders -/

theorem nameAt?_append_slash (hslash : isWord '/' = false) (cs ds : List Char) :
    nameAt? isWord (cs ++ '/' :: ds) = nameAt? isWord cs := by
  cases cs with
  | nil => simp [nameAt?]
  | cons c cs =>
    have hrun : (cs ++ '/' :: ds).takeWhile isWord = cs.takeWhile isWord := by
      induction cs with
      | nil => simp [hslash]
      | cons d cs ih => simp [List.takeWhile_cons, ih]
    simp [nameAt?, hrun]

theorem piecewise_placeholderNames (hcolon : isWord ':' = false) (hslash : isWord '/' = false) :
    Piecewise (placeholderNames isWord) where
  empty := rfl
  slash s t := by
    have hchars : (s ++ "/" ++ t).toList = s.toList ++ '/' :: t.toList := by simp
    simp only [placeholderNames_eq hcolon, hchars, List.tails_append, List.filterMap_append,
      List.filterMap_map, List.tails_cons, List.tail_cons]
    congr 2
    exact funext fun cs => nameAt?_append_slash hslash cs _

/-- **What joining does.**  Parts may be joined beforehand in groups, so the prefix of a chain of
registrations, to which each further one is joined, is that of all its parts joined at once; the
first prefix is as it was given as long as it stands alone.  A joined path is in normal form, has
the segments of its parts, and stays as it is when it is joined again.  Its placeholders are those
of its parts, for any class of word characters without the colon and the slash. -/
theorem join_laws :
    (∀ a b : List String, join (a ++ b) = join [join a, join b]) ∧
    (∀ first next rest,
      joinMounts (first :: next :: rest) = some (join (first :: next :: rest))) ∧
    (∀ parts, Normal (join parts) ∧ segments (join parts) = parts.flatMap segments ∧
      join [join parts] = join parts) ∧
    (∀ isWord : Char → Bool, isWord ':' = false → isWord '/' = false → ∀ parts,
      placeholderNames isWord (join parts) = parts.flatMap (placeholderNames isWord)) ∧
    ∀ parts, placeholders (join parts) = parts.flatMap placeholders := by
  refine ⟨join_append, joinMounts_cons_cons,
    fun parts => ⟨normal_join parts, segments_join parts, join_singleton_join parts⟩,
    fun isWord hcolon hslash => (piecewise_placeholderNames hcolon hslash).join, fun parts => ?_⟩
  have hcolon : Text.isWord ':' = false := by decide
  have hslash : Text.isWord '/' = false := by decide
  rw [placeholders, (piecewise_placeholderNames hcolon hslash).join, List.map_flatMap]
  rfl

end RoutePath

end RouteInventory
