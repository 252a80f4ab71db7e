import Mathlib
import RouteInventory.Extract.Run
import RouteInventory.Proofs.DiskGrowth
import RouteInventory.Proofs.RelativePaths

/-!
# Files that cannot be used

A file that cannot be read, or not as a source file, is recorded when a project is indexed and has
no other effect: it fails before anything is stored.

* `Project.outcome` — what becomes of one file, whatever the project holds already.
* `Project.build_insert` — an index with one more file that fails is the same index with one more
  diagnostic.
* `Project.accounts_build` — every file is stored, or named by exactly one diagnostic.
* `Disk.unusable_file_isolated` — both for the files on a disk, and for whole runs.
-/

namespace RouteInventory

namespace Project

variable {d : Disk} {p q : Project} {base path key : Path} {excluded : String → Bool}
  {notice : Diagnostic}

/-! ## One file -/

/-- A file is read in the same way by all projects in one directory. -/
theorem load_cases (d : Disk) (q : Project) (path : Path) :
    (∃ tree, ∀ p : Project, p.base = q.base →
      p.load d path = .ok (p.insertTree (q.absolute (q.absolute path)) tree)) ∨
    ∃ cause, ∀ p : Project, p.base = q.base → p.load d path = .error cause := by
  cases hread : d.read (q.absolute path).toString with
  | error e =>
    refine Or.inr ⟨.unreadable e, fun p hp => ?_⟩
    simp only [load, absolute_congr hp, hread]
  | ok source =>
    by_cases hsource : (q.absolute (q.absolute path)).isSource = true
    · refine Or.inl ⟨Grammar.parse ((q.absolute (q.absolute path)).extension? == some "tsx") source,
        fun p hp => ?_⟩
      simp only [load, addSource, absolute_congr hp, hread, if_pos hsource]
    · refine Or.inr ⟨.notSource (q.absolute (q.absolute path)).toString, fun p hp => ?_⟩
      simp only [load, addSource, absolute_congr hp, hread, if_neg hsource]

/-- A file that reads the same on two disks is loaded in the same way from both. -/
theorem load_congr {d' : Disk}
    (h : d'.read (p.absolute path).toString = d.read (p.absolute path).toString) :
    p.load d' path = p.load d path := by
  unfold load
  dsimp only
  rw [h]

/-- The path under which a file that was found is stored. -/
def storedPath (base path : Path) : Path := (empty base).absolute ((empty base).absolute path)

/-- What is recorded about a file that was found. -/
def noticed (d : Disk) (base : Path) (excluded : String → Bool) (path : Path) : List Diagnostic :=
  ((empty base).indexFile d excluded path).diagnostics

/-- What becomes of a file that was found, in every project in the directory. -/
inductive Outcome (d : Disk) (base : Path) (excluded : String → Bool) (path : Path) : Prop
  | skipped (hexcluded : excluded ((empty base).relative path) = true)
      (hnone : noticed d base excluded path = [])
      (hindex : ∀ p : Project, p.base = base.normalize → p.indexFile d excluded path = p)
  | stored (hexcluded : excluded ((empty base).relative path) = false)
      (hnone : noticed d base excluded path = []) (tree : Tree)
      (hload : (empty base).load d path =
        .ok ((empty base).insertTree (storedPath base path) tree))
      (hindex : ∀ p : Project, p.base = base.normalize →
        p.indexFile d excluded path = p.insertTree (storedPath base path) tree)
  | failed (hexcluded : excluded ((empty base).relative path) = false) (cause : UnusableFile)
      (hone : noticed d base excluded path =
        [⟨.parseFailure, (empty base).relative path, cause.message⟩])
      (hload : (empty base).load d path = .error cause)
      (hindex : ∀ p : Project, p.base = base.normalize → p.indexFile d excluded path =
        { p with diagnostics := p.diagnostics ++ noticed d base excluded path })

theorem outcome (d : Disk) (base : Path) (excluded : String → Bool) (path : Path) :
    Outcome d base excluded path := by
  have hrelative (p : Project) (hp : p.base = base.normalize) :
      p.relative path = (empty base).relative path := relative_congr hp _
  cases hexcluded : excluded ((empty base).relative path) with
  | true =>
    have hindex (p : Project) (hp : p.base = base.normalize) :
        p.indexFile d excluded path = p := by
      rw [indexFile, hrelative p hp, if_pos hexcluded]
    exact .skipped hexcluded (congrArg diagnostics (hindex _ rfl)) hindex
  | false =>
    have hincluded : ¬ excluded ((empty base).relative path) = true := by simp [hexcluded]
    obtain ⟨tree, hload⟩ | ⟨cause, hload⟩ := load_cases d (empty base) path
    · have hindex (p : Project) (hp : p.base = base.normalize) : p.indexFile d excluded path =
          p.insertTree (storedPath base path) tree := by
        rw [indexFile, hrelative p hp, if_neg hincluded, hload p hp]
        rfl
      exact .stored hexcluded (congrArg diagnostics (hindex _ rfl)) tree (hload _ rfl) hindex
    · have hindex (p : Project) (hp : p.base = base.normalize) : p.indexFile d excluded path =
          { p with diagnostics := p.diagnostics ++
            [⟨.parseFailure, (empty base).relative path, cause.message⟩] } := by
        rw [indexFile, hrelative p hp, if_neg hincluded, hload p hp]
      have hone := congrArg diagnostics (hindex (empty base) rfl)
      exact .failed hexcluded cause hone (hload _ rfl) fun p hp =>
        (hindex p hp).trans (by rw [noticed, hone]; rfl)

theorem base_indexFile (hp : p.base = base.normalize) (d : Disk) (excluded : String → Bool)
    (path : Path) : (p.indexFile d excluded path).base = base.normalize := by
  cases outcome d base excluded path with
  | skipped _ _ hindex => rwa [hindex p hp]
  | stored _ _ tree _ hindex => rwa [hindex p hp]
  | failed _ cause _ _ hindex => rwa [hindex p hp]

/-- A file is indexed in the same way whatever was recorded before. -/
theorem indexFile_diagnostics (hp : p.base = base.normalize) (d : Disk)
    (excluded : String → Bool) (path : Path) (ds : List Diagnostic) :
    ({ p with diagnostics := ds } : Project).indexFile d excluded path =
      { p.indexFile d excluded path with
        diagnostics := ds ++ noticed d base excluded path } := by
  cases outcome d base excluded path with
  | skipped _ hnone hindex =>
    rw [hindex p hp, hindex { p with diagnostics := ds } hp, hnone, List.append_nil]
  | stored _ hnone tree _ hindex =>
    rw [hindex p hp, hindex { p with diagnostics := ds } hp, hnone, List.append_nil]
    rfl
  | failed _ cause _ _ hindex => rw [hindex p hp, hindex { p with diagnostics := ds } hp]

theorem path_of_mem_noticed (h : notice ∈ noticed d base excluded path) :
    notice.path = (empty base).relative path := by
  cases outcome d base excluded path with
  | skipped _ hnone => rw [hnone] at h; cases h
  | stored _ hnone => rw [hnone] at h; cases h
  | failed _ cause hone =>
    rw [hone] at h
    rw [List.mem_singleton.1 h]

theorem mem_paths_indexFile (hp : p.base = base.normalize) :
    key ∈ (p.indexFile d excluded path).files.map SourceFile.path ↔
      key ∈ p.files.map SourceFile.path ∨
        excluded ((empty base).relative path) = false ∧ noticed d base excluded path = [] ∧
          storedPath base path = key := by
  cases outcome d base excluded path with
  | skipped hexcluded _ hindex => simp [hindex p hp, hexcluded]
  | stored hexcluded hnone tree _ hindex =>
    rw [hindex p hp, insertTree, map_path_insertFile, mem_insertPath, or_comm, eq_comm]
    exact or_congr_right ⟨fun h => ⟨hexcluded, hnone, h⟩, fun h => h.2.2⟩
  | failed _ cause hone _ hindex => simp [hindex p hp, hone]

theorem indexFile_of_error {cause : UnusableFile}
    (hexcluded : excluded ((empty base).relative path) = false)
    (hload : (empty base).load d path = .error cause) :
    noticed d base excluded path =
        [⟨.parseFailure, (empty base).relative path, cause.message⟩] ∧
      ∀ p : Project, p.base = base.normalize → p.indexFile d excluded path =
        { p with diagnostics := p.diagnostics ++ noticed d base excluded path } := by
  cases outcome d base excluded path with
  | skipped hskipped => rw [hexcluded] at hskipped; cases hskipped
  | stored _ _ tree hstored => rw [hload] at hstored; cases hstored
  | failed _ cause' hone hfailed hindex =>
    cases hload.symm.trans hfailed
    exact ⟨hone, hindex⟩

/-! ## All files -/

theorem foldl_indexFile (hp : p.base = base.normalize) (d : Disk) (excluded : String → Bool)
    (files : List Path) (ds : List Diagnostic) :
    files.foldl (indexFile d excluded) { p with diagnostics := ds } =
      { files.foldl (indexFile d excluded) p with
        diagnostics := ds ++ files.flatMap (noticed d base excluded) } := by
  induction files generalizing p ds with
  | nil => exact congrArg (Project.mk _ _ _) (List.append_nil ds).symm
  | cons path files ih =>
    rw [List.foldl_cons, List.foldl_cons, indexFile_diagnostics hp,
      ih (base_indexFile hp d excluded path), List.flatMap_cons, List.append_assoc]

theorem base_build (d : Disk) (base : Path) (excluded : String → Bool) (files : List Path) :
    (build d base excluded files).base = base.normalize := by
  have hfold : ∀ (files : List Path) (p : Project), p.base = base.normalize →
      (files.foldl (indexFile d excluded) p).base = base.normalize := by
    intro files
    induction files with
    | nil => exact fun p hp => hp
    | cons path files ih => exact fun p hp => ih _ (base_indexFile hp d excluded path)
  exact hfold files _ rfl

theorem diagnostics_build (d : Disk) (base : Path) (excluded : String → Bool)
    (files : List Path) :
    (build d base excluded files).diagnostics = files.flatMap (noticed d base excluded) := by
  have h := foldl_indexFile (p := empty base) rfl d excluded files []
  exact congrArg Project.diagnostics h

/-- Files that read the same on two disks are indexed in the same way. -/
theorem build_congr {d' : Disk} {files : List Path}
    (h : ∀ path ∈ files, d'.read ((empty base).absolute path).toString =
      d.read ((empty base).absolute path).toString) :
    build d' base excluded files = build d base excluded files := by
  have hfold : ∀ (files : List Path) (p : Project), p.base = base.normalize →
      (∀ path ∈ files, d'.read ((empty base).absolute path).toString =
        d.read ((empty base).absolute path).toString) →
      files.foldl (indexFile d' excluded) p = files.foldl (indexFile d excluded) p := by
    intro files
    induction files with
    | nil => exact fun _ _ _ => rfl
    | cons path files ih =>
      intro p hp h
      obtain ⟨hpath, hfiles⟩ := List.forall_mem_cons.1 h
      have hsame : p.indexFile d' excluded path = p.indexFile d excluded path := by
        have habsolute : p.absolute path = (empty base).absolute path := absolute_congr hp path
        have hload : p.load d' path = p.load d path := load_congr (by rw [habsolute, hpath])
        simp only [indexFile, hload]
      rw [List.foldl_cons, List.foldl_cons, hsame]
      exact ih _ (base_indexFile hp d excluded path) hfiles
  exact hfold files _ rfl h

/-! ## One diagnostic more -/

/-- The second project is the first with one more diagnostic. -/
def Noted (notice : Diagnostic) (p q : Project) : Prop :=
  ∃ before after, p.diagnostics = before ++ after ∧
    q = { p with diagnostics := before ++ notice :: after }

/-- A file that can be loaded is loaded in the same way after one more diagnostic. -/
theorem Noted.load {p' : Project} (h : Noted notice p q) (hload : p.load d path = .ok p') :
    ∃ q', q.load d path = .ok q' ∧ Noted notice p' q' := by
  obtain ⟨before, after, hp, rfl⟩ := h
  obtain ⟨tree, hloads⟩ | ⟨cause, hfails⟩ := load_cases d p path
  · rw [hloads p rfl] at hload
    cases hload
    exact ⟨_, hloads _ rfl, before, after, hp, rfl⟩
  · rw [hfails p rfl] at hload
    cases hload

/-- Diagnostics are not asked for when questions about the files are answered. -/
theorem Noted.answers (h : Noted notice p q) :
    q.base = p.base ∧ q.files = p.files ∧ q.classIndex = p.classIndex ∧
      (∀ path, q.file? path = p.file? path) ∧
      (∀ name, q.classesNamed name = p.classesNamed name) ∧
      (∀ origin module, q.resolveModule origin module = p.resolveModule origin module) ∧
      ∀ origin name, q.resolveType origin name = p.resolveType origin name := by
  obtain ⟨before, after, hp, rfl⟩ := h
  exact ⟨rfl, rfl, rfl, fun _ => rfl, fun _ => rfl, fun _ _ => rfl, fun _ _ => rfl⟩

/-- **A file that fails does not affect the others**, wherever it is found among them. -/
theorem build_insert {cause : UnusableFile}
    (hexcluded : excluded ((empty base).relative path) = false)
    (hload : (empty base).load d path = .error cause) (before after : List Path) :
    Noted ⟨.parseFailure, (empty base).relative path, cause.message⟩
      (build d base excluded (before ++ after))
      (build d base excluded (before ++ path :: after)) := by
  obtain ⟨hone, hindex⟩ := indexFile_of_error hexcluded hload
  have hbase := base_build d base excluded before
  refine ⟨before.flatMap (noticed d base excluded), after.flatMap (noticed d base excluded), ?_, ?_⟩
  · rw [diagnostics_build, List.flatMap_append]
  · rw [build, build, List.foldl_append, List.foldl_append, List.foldl_cons]
    change after.foldl (indexFile d excluded) ((build d base excluded before).indexFile _ _ _) = _
    rw [hindex _ hbase, foldl_indexFile hbase, diagnostics_build, hone, List.append_assoc]
    rfl

/-! ## Every file is accounted for -/

/-- A file is stored unless it is excluded or fails. -/
theorem mem_paths_build {files : List Path} :
    key ∈ (build d base excluded files).files.map SourceFile.path ↔
      ∃ path ∈ files, excluded ((empty base).relative path) = false ∧
        noticed d base excluded path = [] ∧ storedPath base path = key := by
  induction files using List.reverseRecOn with
  | nil => simp [build, empty]
  | append_singleton files path ih =>
    have hlast : build d base excluded (files ++ [path]) =
        (build d base excluded files).indexFile d excluded path := by
      rw [build, List.foldl_append]
      rfl
    rw [hlast, mem_paths_indexFile (base_build d base excluded files), ih]
    simp only [List.mem_append, List.mem_singleton, or_and_right, exists_or, exists_eq_left]

theorem absolute_of_regular (hkey : key.Regular) : p.absolute key = key :=
  (if_pos hkey.absolute).trans hkey.normalize_eq

theorem storedPath_of_regular (hpath : path.Regular) : storedPath base path = path := by
  rw [storedPath, absolute_of_regular hpath, absolute_of_regular hpath]

/-- Different files go by different texts. -/
theorem eq_of_relative_eq (hbase : p.base.Regular) {a b : Path} (ha : a.Regular) (hb : b.Regular)
    (h : p.relative a = p.relative b) : a = b := by
  have hback {c : Path} (hc : c.Regular) : p.absolute (.ofString (p.relative c)) = c := by
    rw [absolute_relative hbase (by rwa [absolute_of_regular hc]), absolute_of_regular hc]
  rw [← hback ha, h, hback hb]

theorem isSome_fileAt?_iff :
    (p.fileAt? key).isSome = true ↔ key ∈ p.files.map SourceFile.path := by
  simp [fileAt?]

/-- A file is stored or named by exactly one diagnostic, and never both. -/
def Accounts (p : Project) (path : Path) : Prop :=
  (p.file? path).isSome = true ∧ (∀ notice ∈ p.diagnostics, notice.path ≠ p.relative path) ∨
    p.file? path = none ∧ ∃ message, p.diagnostics.filter (fun d => d.path = p.relative path) =
      [⟨.parseFailure, p.relative path, message⟩]

/-- As files are found: by paths from the root, and none of them twice. -/
structure Listed (files : List Path) : Prop where
  regular : ∀ path ∈ files, path.Regular
  nodup : files.Nodup

variable {files : List Path}

/-- What is recorded in the end about one of the files is what is recorded about it alone. -/
theorem filter_diagnostics_build (d : Disk) (excluded : String → Bool)
    (hbase : base.normalize.Regular) (h : Listed files) (hpath : path ∈ files) :
    (build d base excluded files).diagnostics.filter
      (fun notice => notice.path = (empty base).relative path) = noticed d base excluded path := by
  obtain ⟨before, after, rfl⟩ := List.append_of_mem hpath
  have hnotMem : path ∉ before ++ after := (List.nodup_middle.1 h.nodup).notMem
  have hothers {others : List Path} (hsub : others ⊆ before ++ after) :
      (others.flatMap (noticed d base excluded)).filter
        (fun notice => notice.path = (empty base).relative path) = [] := by
    rw [List.filter_eq_nil_iff]
    intro notice hnotice hsame
    obtain ⟨other, hother, hnotice⟩ := List.mem_flatMap.1 hnotice
    have hmem : other ∈ before ++ path :: after :=
      ((List.sublist_cons_self path after).append_left before).subset (hsub hother)
    have hrelative : (empty base).relative other = (empty base).relative path :=
      (path_of_mem_noticed hnotice).symm.trans (of_decide_eq_true hsame)
    have hkey : other = path := eq_of_relative_eq (p := empty base) hbase (h.regular other hmem)
      (h.regular path hpath) hrelative
    exact hnotMem (hkey ▸ hsub hother)
  have hown : (noticed d base excluded path).filter
      (fun notice => notice.path = (empty base).relative path) = noticed d base excluded path := by
    rw [List.filter_eq_self]
    exact fun notice hnotice => decide_eq_true (path_of_mem_noticed hnotice)
  rw [diagnostics_build, List.flatMap_append, List.flatMap_cons, List.filter_append,
    List.filter_append, hothers (List.subset_append_left _ _),
    hothers (List.subset_append_right _ _), hown, List.nil_append, List.append_nil]

/-- A file is found in the index if nothing is recorded about it. -/
theorem isSome_file?_build_iff (h : Listed files) (hpath : path ∈ files)
    (hexcluded : excluded ((empty base).relative path) = false) :
    ((build d base excluded files).file? path).isSome = true ↔
      noticed d base excluded path = [] := by
  rw [file?, absolute_of_regular (h.regular path hpath), isSome_fileAt?_iff, mem_paths_build]
  constructor
  · rintro ⟨other, hother, -, hnone, hkey⟩
    rw [storedPath_of_regular (h.regular other hother)] at hkey
    rwa [hkey] at hnone
  · intro hnone
    exact ⟨path, hpath, hexcluded, hnone, storedPath_of_regular (h.regular path hpath)⟩

/-- **Every file that is not excluded is stored, or named by exactly one diagnostic.** -/
theorem accounts_build (d : Disk) (hbase : base.normalize.Regular) (h : Listed files)
    (hpath : path ∈ files) (hexcluded : excluded ((empty base).relative path) = false) :
    (build d base excluded files).Accounts path := by
  have hnotices := filter_diagnostics_build d excluded hbase h hpath
  have hstored := isSome_file?_build_iff (d := d) h hpath hexcluded
  have hrelative : (build d base excluded files).relative path = (empty base).relative path :=
    relative_congr (base_build d base excluded files) _
  unfold Accounts
  rw [hrelative]
  cases outcome d base excluded path with
  | skipped hskipped => rw [hexcluded] at hskipped; cases hskipped
  | stored _ hnone =>
    rw [hnone, List.filter_eq_nil_iff] at hnotices
    exact Or.inl ⟨hstored.2 hnone, fun notice hnotice hsame =>
      hnotices notice hnotice (decide_eq_true hsame)⟩
  | failed _ cause hone =>
    refine Or.inr ⟨?_, cause.message, hnotices.trans hone⟩
    rw [← Option.not_isSome_iff_eq_none, hstored, hone]
    exact List.cons_ne_nil _ _

end Project

/-! ## Files on a disk -/

namespace Disk

variable {d : Disk} {base file : Path} {excluded : String → Bool}

theorem sources_eq {l : Location} (h : d.find base.toString = .ok l) :
    d.sources base = (l.entry.filesBelow isSourceDirectory base).filter Path.isSource := by
  rw [sources, Disk.filesBelow, h]

/-- The source files are some of those below what a path leads to. -/
theorem exists_of_mem_sources (h : file ∈ d.sources base) :
    ∃ l, d.find base.toString = .ok l ∧ file ∈ l.entry.filesBelow isSourceDirectory base := by
  cases hfind : d.find base.toString with
  | error =>
    rw [sources, Disk.filesBelow, hfind] at h
    cases h
  | ok l =>
    rw [sources_eq hfind] at h
    exact ⟨l, rfl, List.mem_of_mem_filter h⟩

theorem nodup_sources (hd : d.root.WellFormed) (base : Path) : (d.sources base).Nodup := by
  cases hfind : d.find base.toString with
  | error =>
    rw [sources, Disk.filesBelow, hfind]
    exact List.nodup_nil
  | ok l =>
    rw [sources_eq hfind]
    exact (Entry.nodup_filesBelow ((find_put hfind).1.wellFormed hd) _ _).filter _

/-- What is found below a directory lies there, and is a file. -/
theorem regular_of_mem_sources (hd : d.root.WellFormed) (hbase : base.Regular)
    (h : file ∈ d.sources base) : file.Regular ∧ d.isFile file.toString = true := by
  obtain ⟨l, hfind, hmem⟩ := exists_of_mem_sources h
  obtain ⟨names, rfl, hnames, contents, hbelow⟩ :=
    Entry.exists_names_of_mem ((find_put hfind).1.wellFormed hd) hmem
  constructor
  · have hdown : ".." ∉ names := fun hmem => (hnames _ hmem).2 rfl
    refine ⟨hbase.absolute,
      List.forall_mem_append.2 ⟨hbase.isName, fun n hn => (hnames n hn).1⟩, ?_⟩
    cases hdir : base.names with
    | nil => exact fun hmem => hdown (List.mem_of_mem_tail hmem)
    | cons name rest =>
      have hstraight := hbase.straight
      rw [hdir] at hstraight
      exact fun hmem => (List.mem_append.1 hmem).elim hstraight hdown
  · obtain ⟨m, hm, hentry⟩ := find_below hbase.absolute hbase.isName hfind hnames hbelow
    rw [isFile, hm]
    simp [hentry, Entry.isDirectory]

theorem listed_sources (hd : d.root.WellFormed) (hbase : base.Regular) :
    Project.Listed (d.sources base) :=
  ⟨fun _ hfile => (regular_of_mem_sources hd hbase hfile).1, nodup_sources hd base⟩

theorem accounts_projectIn (hd : d.root.WellFormed) (hbase : base.normalize.Regular)
    (hfile : file ∈ d.sources base.normalize)
    (hexcluded : excluded ((Project.empty base).relative file) = false) :
    (d.projectIn base excluded).Accounts file :=
  Project.accounts_build d hbase (listed_sources hd hbase) hfile hexcluded

/-! ## A new file on the disk -/

/-- A place for a new source file below a directory: nothing stands there, and the directories on
the way hold sources. -/
structure Vacancy (d : Disk) (base : Path) where
  directory : Location
  found : d.find base.toString = .ok directory
  /-- The names from the directory to the new file. -/
  names : List String
  free : directory.entry.Free names
  named : ∀ n ∈ names, Path.IsName n ∧ n ≠ ".."
  entered : ∀ n ∈ names.dropLast, isSourceDirectory n = true
  isSource : Path.isSource ⟨base.absolute, base.names ++ names⟩ = true

namespace Vacancy

variable (v : d.Vacancy base) (contents : Except FileError String)

/-- The path of the new file. -/
def path : Path := ⟨base.absolute, base.names ++ v.names⟩

/-- The disk with the new file. -/
def fill : Disk := d.put (v.directory.names ++ v.names) (.file contents)

theorem free_root : d.root.Free (v.directory.names ++ v.names) :=
  ((find_put v.found).1.free_iff v.names).2 v.free

theorem wellFormed_fill (hd : d.root.WellFormed) : (v.fill contents).root.WellFormed :=
  .put (.file contents)
    (List.forall_mem_append.2 ⟨(find_put v.found).1.named hd, v.named⟩) hd

/-- The directory with the new file in it. -/
theorem find_fill : ∃ l, (v.fill contents).find base.toString = .ok l ∧
    l.entry = Entry.put (.file contents) v.names v.directory.entry :=
  ⟨_, (find_put v.found).2 _ contents v.free_root, Entry.grow_append _⟩

/-- The new file is found at its place among the others. -/
theorem sources_fill (hd : d.root.WellFormed) :
    ∃ before after, d.sources base = before ++ after ∧
      (v.fill contents).sources base = before ++ v.path :: after := by
  obtain ⟨before, after, hold, hnew⟩ := Entry.filesBelow_put
    ((find_put v.found).1.wellFormed hd) v.free v.entered contents base
  obtain ⟨l, hfound, hentry⟩ := v.find_fill contents
  refine ⟨before.filter Path.isSource, after.filter Path.isSource, ?_, ?_⟩
  · rw [sources_eq v.found, hold, List.filter_append]
  · rw [sources_eq hfound, hentry, hnew, List.filter_append, List.filter_cons, if_pos v.isSource]
    rfl

/-- Reading the new file gives what was put into it. -/
theorem read_fill (hbase : base.Regular) : (v.fill contents).read v.path.toString = contents := by
  obtain ⟨l, hfound, hentry⟩ := v.find_fill contents
  have hbelow : l.entry.below? v.names = some (.file contents) := by
    rw [hentry, Entry.below?_put]
  obtain ⟨m, hm, hfile⟩ := find_below hbase.absolute hbase.isName hfound v.named hbelow
  rw [read, path, hm]
  simp only [hfile]

end Vacancy

/-- The files that were there before are indexed as before. -/
theorem build_fill (hd : d.root.WellFormed) (hbase : base.normalize.Regular)
    (v : d.Vacancy base.normalize) (contents : Except FileError String) :
    Project.build (v.fill contents) base excluded (d.sources base.normalize) =
      d.projectIn base excluded := by
  refine Project.build_congr fun path hpath => ?_
  obtain ⟨hregular, hfile⟩ := regular_of_mem_sources hd hbase hpath
  rw [Project.absolute_of_regular hregular]
  exact read_put v.free_root contents hfile

theorem noted_projectIn (hd : d.root.WellFormed) (hbase : base.normalize.Regular)
    (v : d.Vacancy base.normalize) {contents : Except FileError String} {cause : UnusableFile}
    (hload : (Project.empty base).load (v.fill contents) v.path = .error cause)
    (hexcluded : excluded ((Project.empty base).relative v.path) = false) :
    Project.Noted ⟨.parseFailure, (Project.empty base).relative v.path, cause.message⟩
      (d.projectIn base excluded) ((v.fill contents).projectIn base excluded) := by
  obtain ⟨before, after, hold, hnew⟩ := v.sources_fill contents hd
  rw [← build_fill hd hbase v contents, projectIn, hold, hnew]
  exact Project.build_insert hexcluded hload before after

/-- The new file is named by one diagnostic only. -/
theorem filter_diagnostics_fill (hd : d.root.WellFormed) (hbase : base.normalize.Regular)
    (v : d.Vacancy base.normalize) {contents : Except FileError String} {cause : UnusableFile}
    (hload : (Project.empty base).load (v.fill contents) v.path = .error cause)
    (hexcluded : excluded ((Project.empty base).relative v.path) = false) :
    ((v.fill contents).projectIn base excluded).diagnostics.filter
        (fun notice => notice.path = (Project.empty base).relative v.path) =
      [⟨.parseFailure, (Project.empty base).relative v.path, cause.message⟩] := by
  obtain ⟨before, after, -, hsources⟩ := v.sources_fill contents hd
  have hpath : v.path ∈ (v.fill contents).sources base.normalize := by
    rw [hsources]
    exact List.mem_append_right _ List.mem_cons_self
  have hlisted := listed_sources (v.wellFormed_fill contents hd) hbase
  obtain ⟨hone, -⟩ := Project.indexFile_of_error hexcluded hload
  exact (Project.filter_diagnostics_build _ excluded hbase hlisted hpath).trans hone

/-! ## Whole runs -/

/-- What could be read is a file. -/
theorem isFile_of_read {path source : String} (h : d.read path = .ok source) :
    d.isFile path = true := by
  unfold read at h
  unfold isFile
  cases hfind : d.find path with
  | error e => rw [hfind] at h; cases h
  | ok l =>
    rw [hfind] at h
    cases hentry : l.entry with
    | file => simp [hentry, Entry.isDirectory]
    | directory entries => simp [hentry] at h

/-- What could be loaded before is loaded as before. -/
theorem load_fill (v : d.Vacancy base) (contents : Except FileError String) {p q : Project}
    (h : p.load d file = .ok q) : p.load (v.fill contents) file = .ok q := by
  rw [← h]
  refine Project.load_congr ?_
  unfold Project.load at h
  dsimp only at h
  split at h
  · cases h
  · rename_i source hread
    exact read_put v.free_root contents (isFile_of_read hread)

/-- **A new file that fails leaves a run as it was**, up to one diagnostic. -/
theorem indexWith_fill (hd : d.root.WellFormed) {r : Request} {entry : String} {p : Project}
    (hbase : (Path.ofString r.root).normalize.Regular)
    (v : d.Vacancy (Path.ofString r.root).normalize) {contents : Except FileError String}
    {cause : UnusableFile}
    (hload : (Project.empty (.ofString r.root)).load (v.fill contents) v.path = .error cause)
    (hincluded : ∀ patterns, readExcludes r.config.common.excludePaths = .ok patterns →
      excludedBy patterns ((Project.empty (.ofString r.root)).relative v.path) = false)
    (h : d.indexWith r entry = .ok p) :
    ∃ q, (v.fill contents).indexWith r entry = .ok q ∧
      Project.Noted ⟨.parseFailure, (Project.empty (.ofString r.root)).relative v.path,
        cause.message⟩ p q := by
  obtain ⟨hfile, patterns, hread, hentry⟩ := indexWith_eq_ok_iff.1 h
  have hnoted := noted_projectIn hd hbase v hload (hincluded patterns hread)
  have hfilled : (v.fill contents).isFile entry = true := isFile_put v.free_root contents hfile
  obtain ⟨-, -, -, hfile?, -⟩ := hnoted.answers
  by_cases hstored : ((d.projectIn (.ofString r.root) (excludedBy patterns)).file?
      (.ofString entry)).isSome = true
  · simp only [if_pos hstored] at hentry
    refine ⟨_, indexWith_eq_ok_iff.2 ⟨hfilled, patterns, hread, ?_⟩, hentry ▸ hnoted⟩
    simp only [hfile?, if_pos hstored]
  · simp only [if_neg hstored] at hentry
    obtain ⟨q, hq, hnoted⟩ := hnoted.load (load_fill v contents hentry)
    refine ⟨q, indexWith_eq_ok_iff.2 ⟨hfilled, patterns, hread, ?_⟩, hnoted⟩
    simp only [hfile?, if_neg hstored]
    exact hq

/-- **A file that cannot be used affects nothing but itself.**  Every file of a project that is not
excluded is stored or named by exactly one diagnostic; and where a file that fails comes to those of
the disk, the index has the same files, classes and answers as before, the same diagnostics in the
same order, and one more that names the new file, once. -/
theorem unusable_file_isolated (d : Disk) (hd : d.root.WellFormed) (base : String)
    (hbase : base.toList.head? = some '/') :
    (∀ excluded, ∀ file ∈ d.sources (Path.ofString base).normalize,
      excluded ((Project.empty (.ofString base)).relative file) = false →
      (d.projectIn (.ofString base) excluded).Accounts file) ∧
    ∀ (v : d.Vacancy (Path.ofString base).normalize) (contents : Except FileError String)
      (cause : UnusableFile),
      (Project.empty (.ofString base)).load (v.fill contents) v.path = .error cause →
      let notice : Diagnostic :=
        ⟨.parseFailure, (Project.empty (.ofString base)).relative v.path, cause.message⟩
      (∀ excluded, excluded notice.path = false →
        let p := d.projectIn (.ofString base) excluded
        let q := (v.fill contents).projectIn (.ofString base) excluded
        (∃ before after, p.diagnostics = before ++ after ∧
          q.diagnostics = before ++ notice :: after) ∧
        q.diagnostics.filter (fun other => other.path = notice.path) = [notice] ∧
        q.base = p.base ∧ q.files = p.files ∧ q.classIndex = p.classIndex ∧
        (∀ path, q.file? path = p.file? path) ∧
        (∀ name, q.classesNamed name = p.classesNamed name) ∧
        (∀ origin module, q.resolveModule origin module = p.resolveModule origin module) ∧
        ∀ origin name, q.resolveType origin name = p.resolveType origin name) ∧
      ∀ (r : Request) (entry : String) (p : Project), r.root = base →
        (∀ patterns, readExcludes r.config.common.excludePaths = .ok patterns →
          excludedBy patterns notice.path = false) →
        d.indexWith r entry = .ok p →
        ∃ q, (v.fill contents).indexWith r entry = .ok q ∧ p.Noted notice q := by
  have hregular : (Path.ofString base).normalize.Regular :=
    (Project.Made.orderly hbase .start).base
  refine ⟨fun excluded file hfile hincluded => accounts_projectIn hd hregular hfile hincluded, ?_⟩
  intro v contents cause hload notice
  constructor
  · intro excluded hincluded p q
    have hnoted : p.Noted notice q := noted_projectIn hd hregular v hload hincluded
    refine ⟨?_, filter_diagnostics_fill hd hregular v hload hincluded, hnoted.answers⟩
    obtain ⟨before, after, hp, hq⟩ := hnoted
    exact ⟨before, after, hp, by rw [hq]⟩
  · rintro r entry p rfl hincluded h
    exact indexWith_fill hd hregular v hload hincluded h

end Disk

/-! ## A file that is no text -/

namespace NoText

/-- The directory `/s` with the empty file `a.ts` in it. -/
def disk : Disk := ⟨.directory [("s", .directory [("a.ts", .file (.ok ""))])], []⟩

theorem wellFormed_root : disk.root.WellFormed := by
  have hbelow : Entry.WellFormed (.directory [("a.ts", .file (.ok ""))]) := by
    refine .directory (List.pairwise_singleton _ _) ?_ (List.forall_mem_singleton.2 (.file _))
    exact List.forall_mem_singleton.2 ⟨⟨by decide, by decide, by decide⟩, by decide⟩
  refine .directory (List.pairwise_singleton _ _) ?_ (List.forall_mem_singleton.2 hbelow)
  exact List.forall_mem_singleton.2 ⟨⟨by decide, by decide, by decide⟩, by decide⟩

theorem normalize_root : (Path.ofString "/").normalize = ⟨true, []⟩ := by
  rw [Path.ofString_root]
  rfl

/-- A place for `b.ts` beside it. -/
def place : disk.Vacancy (Path.ofString "/").normalize where
  directory := ⟨disk.root, [], []⟩
  found := by
    rw [normalize_root]
    cbv
  names := ["s", "b.ts"]
  free := by
    refine ⟨rfl, fun below hbelow => ?_⟩
    cases hbelow
    refine ⟨rfl, fun file hfile => ?_⟩
    cases hfile
  named := by
    refine List.forall_mem_cons.2 ⟨⟨⟨by decide, by decide, by decide⟩, by decide⟩, ?_⟩
    exact List.forall_mem_singleton.2 ⟨⟨by decide, by decide, by decide⟩, by decide⟩
  entered := List.forall_mem_singleton.2 (by cbv)
  isSource := by
    rw [normalize_root]
    decide

theorem place_path : place.path = ⟨true, ["s", "b.ts"]⟩ := by
  simp only [Disk.Vacancy.path, place, normalize_root, List.nil_append]

theorem relative_place : (Project.empty (.ofString "/")).relative place.path = "s/b.ts" := by
  have hempty : Project.empty (.ofString "/") = ⟨⟨true, []⟩, [], [], []⟩ := by
    rw [Project.empty, normalize_root]
  rw [place_path, hempty]
  decide

theorem load_place (e : FileError) :
    (Project.empty (.ofString "/")).load (place.fill (.error e)) place.path =
      .error (.unreadable e) := by
  have hregular : (Path.ofString "/").normalize.Regular := (Project.Made.orderly rfl .start).base
  have hread := place.read_fill (.error e) hregular
  have habsolute : (Project.empty (.ofString "/")).absolute place.path = place.path := by
    rw [place_path, Project.empty, normalize_root]
    decide
  simp only [Project.load, habsolute, hread]

/-- Where `s/b.ts` comes to the disk and is no text, or may not be read, it is recorded with the
reason and the stored files stay as they are. -/
theorem recorded_only : disk.root.WellFormed ∧ "/".toList.head? = some '/' ∧
    ∀ e ∈ [FileError.notText, .refused "Permission denied (os error 13)"],
      (∃ before after,
        (disk.projectIn (.ofString "/") fun _ => false).diagnostics = before ++ after ∧
        ((place.fill (.error e)).projectIn (.ofString "/") fun _ => false).diagnostics =
          before ++ ⟨.parseFailure, "s/b.ts", e.message⟩ :: after) ∧
      ((place.fill (.error e)).projectIn (.ofString "/") fun _ => false).files =
        (disk.projectIn (.ofString "/") fun _ => false).files := by
  refine ⟨wellFormed_root, rfl, fun e _ => ?_⟩
  obtain ⟨-, hplace⟩ := disk.unusable_file_isolated wellFormed_root "/" rfl
  obtain ⟨hindex, -⟩ := hplace place (.error e) (.unreadable e) (load_place e)
  obtain ⟨hdiagnostics, -, -, hfiles, -⟩ := hindex (fun _ => false) rfl
  rw [relative_place] at hdiagnostics
  exact ⟨hdiagnostics, hfiles⟩

end NoText

end RouteInventory
