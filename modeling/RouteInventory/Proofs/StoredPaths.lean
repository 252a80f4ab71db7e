import Mathlib
import RouteInventory.Extract.Run

/-!
# The paths that files are stored under

A project in an absolute directory stores every file under the path that all spellings of it lead
to.  So a path that is not its own absolute form is never the path of a stored file.

* `Path.normalize_normalize` — a path without detours has none to take out.
* `Project.Keyed` — every stored file is found under its own path; `keyed_addSource`, `keyed_build`
  and `Disk.keyed_indexWith` say that this is so however the files were added.
* `Disk.indexWith_eq_ok_iff` — what a run works with.
-/

namespace RouteInventory

namespace Path

/-- Names other than `..` are only put on the stack. -/
theorem foldl_normalizeStep_of_notMem {names : List String} (h : ".." ∉ names) :
    ∀ done, names.foldl normalizeStep done = names.reverse ++ done := by
  induction names with
  | nil => intro done; rfl
  | cons name names ih =>
    intro done
    rw [List.mem_cons, not_or] at h
    have hstep : normalizeStep done name = name :: done := by
      unfold normalizeStep
      rw [if_neg (by simpa using Ne.symm h.1)]
    rw [List.foldl_cons, hstep, ih h.2, List.reverse_cons, List.append_assoc]
    rfl

/-- On the stack only the name at the bottom can be `..`. -/
theorem notMem_dropLast_normalizeStep {done : List String} (h : ".." ∉ done.dropLast)
    (name : String) : ".." ∉ (normalizeStep done name).dropLast := by
  unfold normalizeStep
  split
  · cases done with
    | nil => exact List.not_mem_nil
    | cons top rest =>
      intro hmem
      cases rest with
      | nil => exact List.not_mem_nil hmem
      | cons next rest => exact h (List.mem_cons_of_mem _ hmem)
  · rename_i hname
    cases done with
    | nil => exact List.not_mem_nil
    | cons top rest =>
      intro hmem
      rcases List.mem_cons.1 hmem with heq | hmem
      · exact hname (by simp [heq.symm])
      · exact h hmem

theorem notMem_dropLast_foldl (names : List String) :
    ∀ done : List String, ".." ∉ done.dropLast →
      ".." ∉ (names.foldl normalizeStep done).dropLast := by
  induction names with
  | nil => exact fun _ h => h
  | cons name names ih =>
    intro done h
    exact ih _ (notMem_dropLast_normalizeStep h name)

/-- Names of which only the first can be `..` are left as they are. -/
theorem foldl_normalizeStep_of_tail {names : List String} (h : ".." ∉ names.tail) :
    names.foldl normalizeStep [] = names.reverse := by
  cases names with
  | nil => rfl
  | cons name names =>
    have hstep : normalizeStep [] name = [name] := by
      unfold normalizeStep
      split
      · rename_i hname
        rw [beq_iff_eq.1 hname]
      · rfl
    have hrest : ".." ∉ names := h
    rw [List.foldl_cons, hstep, foldl_normalizeStep_of_notMem hrest, List.reverse_cons]

theorem normalize_normalize (p : Path) : p.normalize.normalize = p.normalize := by
  have hbottom := notMem_dropLast_foldl p.names [] List.not_mem_nil
  have htail : ".." ∉ (p.names.foldl normalizeStep []).reverse.tail := by
    rwa [List.tail_reverse, List.mem_reverse]
  unfold normalize
  simp only [foldl_normalizeStep_of_tail htail, List.reverse_reverse]

end Path

namespace Project

variable {p q : Project}

/-- In an absolute directory every path has an absolute form. -/
theorem absolute_absolute (hbase : p.base.absolute = true) (path : Path) :
    (p.absolute path).absolute = true := by
  unfold absolute
  split
  · assumption
  · rename_i hpath
    unfold Path.join
    rw [if_neg hpath]
    exact hbase

theorem absolute_idem (hbase : p.base.absolute = true) (path : Path) :
    p.absolute (p.absolute path) = p.absolute path := by
  have hnormal : (p.absolute path).normalize = p.absolute path := by
    unfold absolute
    split <;> exact Path.normalize_normalize _
  have habs : p.absolute (p.absolute path) = (p.absolute path).normalize :=
    if_pos (absolute_absolute hbase path)
  rw [habs, hnormal]

/-- Every stored file is found under its own path. -/
def Keyed (p : Project) : Prop := ∀ f ∈ p.files, p.absolute f.path = f.path

theorem keyed_empty (base : Path) : (empty base).Keyed := by
  intro f hf
  cases hf

theorem mem_insertFile {f g : SourceFile} :
    ∀ {files : List SourceFile}, g ∈ insertFile f files → g = f ∨ g ∈ files
  | [], h => Or.inl (List.mem_singleton.1 h)
  | g' :: files, h => by
    unfold insertFile at h
    split at h
    · exact List.mem_cons.1 h
    · exact (List.mem_cons.1 h).imp_right (List.mem_cons_of_mem _)
    · rcases List.mem_cons.1 h with rfl | h
      · exact Or.inr List.mem_cons_self
      · exact (mem_insertFile h).imp_right (List.mem_cons_of_mem _)

/-- Adding a file keeps the files under their own paths, whatever path it is added by. -/
theorem keyed_addSource {path : Path} {source : String} (hbase : p.base.absolute = true)
    (hp : p.Keyed) (h : p.addSource path source = .ok q) : q.base = p.base ∧ q.Keyed := by
  unfold addSource at h
  simp only at h
  split at h
  · cases h
    refine ⟨rfl, fun f hf => ?_⟩
    rcases mem_insertFile hf with rfl | hf
    · exact absolute_idem hbase path
    · exact hp f hf
  · cases h

theorem keyed_load {d : Disk} {path : Path} (hbase : p.base.absolute = true) (hp : p.Keyed)
    (h : p.load d path = .ok q) : q.base = p.base ∧ q.Keyed := by
  unfold load at h
  dsimp only at h
  split at h
  · cases h
  · split at h
    · rename_i hadd
      cases h
      exact keyed_addSource hbase hp hadd
    · cases h

theorem keyed_indexFile (hbase : p.base.absolute = true) (hp : p.Keyed) (d : Disk)
    (excluded : String → Bool) (path : Path) :
    (p.indexFile d excluded path).base = p.base ∧ (p.indexFile d excluded path).Keyed := by
  unfold indexFile
  dsimp only
  split
  · exact ⟨rfl, hp⟩
  · split
    · exact keyed_load hbase hp ‹_›
    · exact ⟨rfl, hp⟩

/-- An index of an absolute directory keeps every file under its own path. -/
theorem keyed_build {base : Path} (hbase : base.absolute = true) (d : Disk)
    (excluded : String → Bool) (files : List Path) :
    (build d base excluded files).base.absolute = true ∧ (build d base excluded files).Keyed := by
  have hfold : ∀ (files : List Path) (p : Project), p.base.absolute = true → p.Keyed →
      (files.foldl (indexFile d excluded) p).base.absolute = true ∧
        (files.foldl (indexFile d excluded) p).Keyed := by
    intro files
    induction files with
    | nil => exact fun _ hbase hp => ⟨hbase, hp⟩
    | cons path files ih =>
      intro p hbase hp
      obtain ⟨hsame, hkeyed⟩ := keyed_indexFile hbase hp d excluded path
      exact ih _ (by rwa [hsame]) hkeyed
  exact hfold files (empty base) hbase (keyed_empty base)

theorem absolute_of_isSome (hp : p.Keyed) {path : Path} (h : (p.fileAt? path).isSome) :
    p.absolute path = path := by
  obtain ⟨f, hf⟩ := Option.isSome_iff_exists.1 h
  have habs := hp f (mem_files_of_fileAt? hf)
  rwa [path_eq_of_fileAt? hf] at habs

/-- A path that is not its own absolute form is not the path of a stored file. -/
theorem fileAt?_eq_none_of_ne (hp : p.Keyed) {path : Path} (h : path ≠ p.absolute path) :
    p.fileAt? path = none := by
  rw [← Option.not_isSome_iff_eq_none]
  exact fun hsome => h (absolute_of_isSome hp hsome).symm

/-- A path that is stored is not one that is not. -/
theorem ne_of_stored {path path' : Path} (h : (p.fileAt? path).isSome)
    (h' : p.fileAt? path' = none) : path ≠ path' := by
  rintro rfl
  rw [h'] at h
  cases h

end Project

namespace Disk

/-- The index of a directory, whatever is excluded from it. -/
def projectIn (d : Disk) (base : Path) (excluded : String → Bool) : Project :=
  .build d base excluded (d.sources base.normalize)

/-- When a run goes on, and what it works with. -/
theorem indexWith_eq_ok_iff {d : Disk} {r : Request} {entry : String} {p : Project} :
    d.indexWith r entry = .ok p ↔ d.isFile entry = true ∧
      ∃ patterns, readExcludes r.config.common.excludePaths = .ok patterns ∧
        (let indexed := d.projectIn (.ofString r.root) (excludedBy patterns)
         if (indexed.file? (.ofString entry)).isSome then indexed = p
         else indexed.load d (.ofString entry) = .ok p) := by
  cases hfile : d.isFile entry with
  | false => simp [indexWith, hfile, throw, throwThe, MonadExceptOf.throw, bind, Except.bind]
  | true =>
    cases hread : readExcludes r.config.common.excludePaths with
    | error e =>
      have hindex : d.index (.ofString r.root) r.config.common.excludePaths = .error e := by
        rw [index, hread]
        rfl
      simp [indexWith, hfile, hindex, throw, throwThe, MonadExceptOf.throw]
    | ok patterns =>
      have hindex : d.index (.ofString r.root) r.config.common.excludePaths =
          .ok (d.projectIn (.ofString r.root) (excludedBy patterns)) := by
        rw [index, hread]
        rfl
      simp only [indexWith, hfile, hindex, true_and, Except.ok.injEq, exists_eq_left']
      generalize d.projectIn _ _ = indexed
      by_cases hstored : (indexed.file? (.ofString entry)).isSome = true
      · simp [hstored, pure, Except.pure]
      · cases hload : indexed.load d (.ofString entry) with
        | error cause => simp [hstored, throw, throwThe, MonadExceptOf.throw]
        | ok q => simp [hstored, pure, Except.pure]

/-- The project that a run works with, to which the entry may have been added, is keyed as well. -/
theorem keyed_indexWith {d : Disk} {r : Request} {entry : String} {p : Project}
    (hroot : (Path.ofString r.root).absolute = true) (h : d.indexWith r entry = .ok p) :
    p.Keyed := by
  obtain ⟨-, patterns, -, hentry⟩ := indexWith_eq_ok_iff.1 h
  have hbuilt : (d.projectIn (.ofString r.root) (excludedBy patterns)).base.absolute = true ∧
      (d.projectIn (.ofString r.root) (excludedBy patterns)).Keyed :=
    Project.keyed_build hroot d _ _
  dsimp only at hentry
  split at hentry
  · exact hentry ▸ hbuilt.2
  · exact (Project.keyed_load hbuilt.1 hbuilt.2 hentry).2

end Disk

end RouteInventory
