import Mathlib
import RouteInventory.Proofs.ModuleSpecifiers

/-!
# Resolving `..` by the text

To resolve a path by its text alone is to take out, again and again, a name together with the `..`
right behind it.  In whatever order that is done, the same names are left, and before them every
`..` that had no name to cancel.  A relative path has to keep these; at the root they lead nowhere.

`Path.normalize` keeps its result on a stack and lets `..` cancel whatever is on top, also an
earlier `..` that was put there for want of a name.

* `settles_iff` — what is left by cancelling, told by counting along the names.
* `foldl_normalizeStep_eq` — the stack holds the names that are left and, below them, one `..` if
  the number of those that are left is odd.
* `normalize_resolves_iff` — so a path from the root is resolved exactly if that number is even, and
  a relative path exactly if it is at most one.
-/

namespace RouteInventory.Path

/-! ## Cancelling -/

/-- One name goes together with the `..` behind it. -/
inductive Cancels : List String → List String → Prop
  | pair (before after : List String) {name : String} (h : name ≠ "..") :
      Cancels (before ++ name :: ".." :: after) (before ++ after)

/-- What is left of some names when nothing can be cancelled any more. -/
def Settles (names left : List String) : Prop :=
  Relation.ReflTransGen Cancels names left ∧ ∀ next, ¬ Cancels left next

/-- A path that stands for another one: what is left of its names, and from the root without the
`..` among them. -/
def Resolves (p q : Path) : Prop :=
  ∃ left, Settles p.names left ∧
    q = ⟨p.absolute, if p.absolute then left.filter (· ≠ "..") else left⟩

variable {names left rest done : List String} {name : String} {up : Nat}

theorem Cancels.append (h : Cancels names left) (more : List String) :
    Cancels (names ++ more) (left ++ more) := by
  obtain ⟨before, after, hname⟩ := h
  have hpair := Cancels.pair before (after ++ more) hname
  simpa using hpair

/-- Nothing can be cancelled if every `..` stands in front. -/
theorem not_cancels_of_straight (h : ".." ∉ rest) (up : Nat) (next : List String) :
    ¬ Cancels (List.replicate up ".." ++ rest) next := by
  intro hcancels
  generalize hnames : List.replicate up ".." ++ rest = names at hcancels
  obtain ⟨before, after, hname⟩ := hcancels
  induction up generalizing before with
  | zero =>
    apply h
    rw [List.replicate_zero, List.nil_append] at hnames
    simp [hnames]
  | succ up ih =>
    rw [List.replicate_succ, List.cons_append] at hnames
    cases before with
    | nil => exact hname (List.cons.inj hnames).1.symm
    | cons _ before => exact ih before (List.cons.inj hnames).2

/-! ## Counting along the names -/

/-- The number of `..` without a name to cancel, and the names that are left, the latest first;
after one more name. -/
def tally (state : Nat × List String) (name : String) : Nat × List String :=
  if name ≠ ".." then (state.1, name :: state.2)
  else if state.2 = [] then (state.1 + 1, [])
  else (state.1, state.2.tail)

theorem tally_name (h : name ≠ "..") (state : Nat × List String) :
    tally state name = (state.1, name :: state.2) := if_pos h

@[simp] theorem tally_parent_nil (up : Nat) : tally (up, []) ".." = (up + 1, []) := rfl

@[simp] theorem tally_parent_cons (up : Nat) (name : String) (done : List String) :
    tally (up, name :: done) ".." = (up, done) := rfl

/-- Cancelling does not change the count. -/
theorem Cancels.foldl_tally (h : Cancels names left) (state : Nat × List String) :
    names.foldl tally state = left.foldl tally state := by
  obtain ⟨before, after, hname⟩ := h
  simp only [List.foldl_append, List.foldl_cons, tally_name hname, tally_parent_cons]

theorem foldl_tally_of_reaches (h : Relation.ReflTransGen Cancels names left)
    (state : Nat × List String) : names.foldl tally state = left.foldl tally state := by
  induction h with
  | refl => rfl
  | tail _ hstep ih => rw [ih, hstep.foldl_tally]

theorem notMem_tally {state : Nat × List String} (h : ".." ∉ state.2) (name : String) :
    ".." ∉ (tally state name).2 := by
  unfold tally
  split
  · rename_i hname
    simp [h, Ne.symm hname]
  · split
    · exact List.not_mem_nil
    · intro hmem
      exact h (List.mem_of_mem_tail hmem)

theorem notMem_foldl_tally (names : List String) {state : Nat × List String}
    (h : ".." ∉ state.2) : ".." ∉ (names.foldl tally state).2 := by
  induction names generalizing state with
  | nil => exact h
  | cons name names ih => exact ih (notMem_tally h name)

/-- The `..` of some names that have no name to cancel. -/
def unmatched (names : List String) : Nat := (names.foldl tally (0, [])).1

/-- The names that no `..` cancels. -/
def surviving (names : List String) : List String := (names.foldl tally (0, [])).2.reverse

theorem notMem_surviving (names : List String) : ".." ∉ surviving names := by
  rw [surviving, List.mem_reverse]
  exact notMem_foldl_tally names List.not_mem_nil

/-- Cancelling leads to the names that are counted as left. -/
theorem reaches_surviving (names : List String) :
    Relation.ReflTransGen Cancels names
      (List.replicate (unmatched names) ".." ++ surviving names) := by
  unfold unmatched surviving
  induction names using List.reverseRecOn with
  | nil => exact .refl
  | append_singleton names name ih =>
    have hstraight : ".." ∉ (names.foldl tally (0, [])).2 :=
      notMem_foldl_tally names List.not_mem_nil
    rw [List.foldl_append, List.foldl_cons, List.foldl_nil]
    generalize names.foldl tally (0, []) = state at ih hstraight ⊢
    obtain ⟨up, done⟩ := state
    have hreach : Relation.ReflTransGen Cancels (names ++ [name])
        (List.replicate up ".." ++ done.reverse ++ [name]) :=
      ih.lift (· ++ [name]) fun _ _ h => h.append [name]
    by_cases hname : name = ".."
    · subst hname
      cases done with
      | nil => simpa [List.replicate_succ'] using hreach
      | cons top done =>
        have htop : top ≠ ".." := by
          rintro rfl
          exact hstraight List.mem_cons_self
        have hpair := Cancels.pair (List.replicate up ".." ++ done.reverse) [] htop
        exact hreach.tail (by simpa using hpair)
    · rw [tally_name hname]
      simpa using hreach

/-- **What is left by cancelling** does not depend on how it is done. -/
theorem settles_iff :
    Settles names left ↔ left = List.replicate (unmatched names) ".." ++ surviving names := by
  constructor
  · rintro ⟨hreach, hend⟩
    have hself : left = List.replicate (unmatched left) ".." ++ surviving left := by
      rcases (reaches_surviving left).cases_head with heq | ⟨next, hstep, -⟩
      · exact heq
      · exact absurd hstep (hend next)
    have hcount := foldl_tally_of_reaches hreach (0, [])
    rw [hself, unmatched, unmatched, surviving, surviving, hcount]
  · rintro rfl
    exact ⟨reaches_surviving names, not_cancels_of_straight (notMem_surviving names) _⟩

/-! ## The stack -/

/-- One step on a stack that has the names that are left above at most one `..`. -/
theorem normalizeStep_tally (up : Nat) (done : List String) (name : String) :
    normalizeStep (done ++ List.replicate (up % 2) "..") name =
      (tally (up, done) name).2 ++ List.replicate ((tally (up, done) name).1 % 2) ".." := by
  by_cases hname : name = ".."
  · subst hname
    cases done with
    | cons top done => rfl
    | nil =>
      rw [tally_parent_nil, List.nil_append, List.nil_append]
      -- A `..` with no name below it is put there or cancels the one that is there already.
      rcases Nat.mod_two_eq_zero_or_one up with heven | hodd
      · have hnext : (up + 1) % 2 = 1 := by omega
        simp only [heven, hnext]
        rfl
      · have hnext : (up + 1) % 2 = 0 := by omega
        simp only [hodd, hnext]
        rfl
  · unfold normalizeStep
    rw [tally_name hname, if_neg (by simpa using hname)]
    rfl

theorem foldl_normalizeStep_eq (names : List String) (up : Nat) (done : List String) :
    names.foldl normalizeStep (done ++ List.replicate (up % 2) "..") =
      (names.foldl tally (up, done)).2 ++
        List.replicate ((names.foldl tally (up, done)).1 % 2) ".." := by
  induction names generalizing up done with
  | nil => rfl
  | cons name names ih => rw [List.foldl_cons, List.foldl_cons, normalizeStep_tally, ih]

/-- Of the `..` that are left every second one is kept. -/
theorem normalize_eq (p : Path) :
    p.normalize =
      ⟨p.absolute, List.replicate (unmatched p.names % 2) ".." ++ surviving p.names⟩ := by
  have hstack := foldl_normalizeStep_eq p.names 0 []
  rw [Nat.zero_mod, List.replicate_zero, List.append_nil] at hstack
  rw [normalize, hstack, List.reverse_append, List.reverse_replicate]
  rfl

/-! ## Which paths are resolved -/

theorem resolves_iff {p q : Path} :
    p.Resolves q ↔ q = ⟨p.absolute, if p.absolute then surviving p.names
      else List.replicate (unmatched p.names) ".." ++ surviving p.names⟩ := by
  have hnone : (List.replicate (unmatched p.names) "..").filter (· ≠ "..") = [] := by
    simp
  have hall : (surviving p.names).filter (· ≠ "..") = surviving p.names := by
    rw [List.filter_eq_self]
    intro name hmem
    have hne : name ≠ ".." := by
      rintro rfl
      exact notMem_surviving p.names hmem
    simpa using hne
  unfold Resolves
  simp only [settles_iff, exists_eq_left, List.filter_append, hnone, hall, List.nil_append]

/-- **Which paths `normalize` resolves.**  No dot is left, and each `..` behind a name that is not
cancelled yet cancels that name.  The `..` without such a name cancel each other in pairs: a path
from the root is resolved exactly if their number is even, a relative one exactly if there are no
two of them. -/
theorem normalize_resolves_iff (text : String) :
    "." ∉ (ofString text).normalize.names ∧
    ∃ up rest, ".." ∉ rest ∧
      (∀ left, Settles (ofString text).names left ↔ left = List.replicate up ".." ++ rest) ∧
      (ofString text).normalize =
        ⟨(ofString text).absolute, List.replicate (up % 2) ".." ++ rest⟩ ∧
      ((ofString text).Resolves (ofString text).normalize ↔
        if (ofString text).absolute then up % 2 = 0 else up ≤ 1) := by
  refine ⟨?_, unmatched (ofString text).names, surviving (ofString text).names,
    notMem_surviving _, fun left => settles_iff, normalize_eq _, ?_⟩
  · intro hdot
    rcases mem_foldl_normalizeStep (List.mem_reverse.1 hdot) with hmem | hmem
    · exact List.not_mem_nil hmem
    · exact (isName_of_mem_namesOf hmem).ne_dot rfl
  · rw [resolves_iff, normalize_eq]
    generalize unmatched (ofString text).names = up
    by_cases habsolute : (ofString text).absolute = true <;> simp [habsolute]

/-- Two steps up cancel each other, and one at the root stays. -/
example : (⟨false, ["..", "..", "lib"]⟩ : Path).normalize = ⟨false, ["lib"]⟩ ∧
    (⟨true, ["..", "x.ts"]⟩ : Path).normalize = ⟨true, ["..", "x.ts"]⟩ := by decide

end RouteInventory.Path
