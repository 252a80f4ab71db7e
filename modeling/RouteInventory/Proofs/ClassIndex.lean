import Mathlib
import RouteInventory.Proofs.ParsedLayout
import RouteInventory.Proofs.StoredPaths

/-!
# The index of classes

The index from class names to files is only ever added to: a file that is replaced leaves the names
of its old classes behind.  What is found through it is right all the same, since every name of a
stored class leads to its file and names that are out of date lead to no class.

* `Path.compare` is a lawful order, so that files and index entries are sorted lists.
* `Project.Indexed` — the invariant, kept by every `Project.addSource`.
* `Project.classesNamed_eq` — the answer of the index is that of a search through all files.
* `Project.fileAt?_addAll` — the stored files are the last ones that were added.
* `Project.classesNamed_addAll` — after any history the answers are those of the stored files.
-/

namespace RouteInventory

/-! ## The order of paths -/

namespace Path

theorem compareNames_eq (a b : String) :
    compareNames a b = (Ord.compare (a != "..") (b != "..")).then (Ord.compare a b) := by
  have hdots : ∀ s : String, s = ".." ∨ (s == "..") = false := by
    intro s
    by_cases h : s = ".."
    · exact Or.inl h
    · exact Or.inr (beq_eq_false_iff_ne.2 h)
  unfold compareNames
  rcases hdots a with rfl | ha <;> rcases hdots b with rfl | hb
  · rw [Std.ReflOrd.compare_self]
    rfl
  · simp only [bne, hb]
    rfl
  · simp only [bne, ha]
    rfl
  · simp only [bne, ha, hb]
    change _ = Ord.compare a b
    split
    · exact (compare_lt_iff_lt.2 ‹_›).symm
    · split
      · exact (compare_gt_iff_gt.2 ‹_›).symm
      · exact (compare_eq_iff_eq.2 (le_antisymm (not_lt.1 ‹_›) (not_lt.1 ‹_›))).symm

instance : Std.TransCmp compareNames := by
  have h : compareNames = compareLex (compareOn (· != "..")) Ord.compare := by
    funext a b
    exact compareNames_eq a b
  rw [h]
  infer_instance

instance : Std.LawfulEqCmp compareNames where
  compare_self {a} := by simp [compareNames_eq]
  eq_of_compare {a b} h := by
    rw [compareNames_eq, Ordering.then_eq_eq] at h
    exact compare_eq_iff_eq.1 h.2

theorem compareAll_eq : ∀ as bs : List String, compareAll as bs = as.compareLex compareNames bs
  | [], [] => rfl
  | [], _ :: _ => rfl
  | _ :: _, [] => rfl
  | a :: as, b :: bs => by
    rw [compareAll, compareAll_eq as bs, List.compareLex_cons_cons]

theorem compare_eq (a b : Path) :
    a.compare b = (Ord.compare (!a.absolute) (!b.absolute)).then
      (a.names.compareLex compareNames b.names) := by
  unfold compare
  rw [compareAll_eq]
  cases a.absolute <;> cases b.absolute <;> rfl

instance : Std.TransCmp compare := by
  have hnames : Std.TransCmp fun a b : Path => a.names.compareLex compareNames b.names :=
    { eq_swap := Std.OrientedCmp.eq_swap, isLE_trans := Std.TransCmp.isLE_trans }
  have h : compare = compareLex (compareOn fun p : Path => !p.absolute)
      fun a b => a.names.compareLex compareNames b.names := by
    funext a b
    exact compare_eq a b
  rw [h]
  infer_instance

instance : Std.LawfulEqCmp compare where
  compare_self {a} := by simp [compare_eq]
  eq_of_compare {a b} h := by
    rw [compare_eq, Ordering.then_eq_eq] at h
    have habs : a.absolute = b.absolute := by simpa using h.1
    have hnames : a.names = b.names := Std.LawfulEqCmp.eq_of_compare h.2
    cases a
    cases b
    cases habs
    cases hnames
    rfl

/-- The paths are in order, each of them once. -/
def Ascend (ps : List Path) : Prop := ps.Pairwise fun a b => a.compare b = .lt

theorem ne_of_compare_lt {a b : Path} (h : a.compare b = .lt) : a ≠ b := by
  rintro rfl
  have hself : a.compare a = .eq := Std.ReflCmp.compare_self
  rw [h] at hself
  cases hself

theorem compare_lt_of_gt {a b : Path} (h : a.compare b = .gt) : b.compare a = .lt :=
  Std.OrientedCmp.lt_of_gt h

end Path

namespace Project

section
variable {path key : Path} {ps : List Path} {f g : SourceFile} {files : List SourceFile}

theorem mem_insertPath : key ∈ insertPath path ps ↔ key = path ∨ key ∈ ps := by
  induction ps with
  | nil => simp [insertPath]
  | cons q qs ih =>
    unfold insertPath
    split
    · exact List.mem_cons
    · rename_i heq
      rw [Std.LawfulEqCmp.eq_of_compare heq]
      simp
    · rw [List.mem_cons, ih, List.mem_cons]
      exact or_left_comm

theorem ascend_insertPath (h : Path.Ascend ps) : Path.Ascend (insertPath path ps) := by
  induction ps with
  | nil => exact List.pairwise_singleton _ _
  | cons q qs ih =>
    obtain ⟨hfirst, hrest⟩ := List.pairwise_cons.1 h
    unfold insertPath
    split
    · rename_i hlt
      exact List.pairwise_cons.2 ⟨List.forall_mem_cons.2
        ⟨hlt, fun r hr => Std.TransCmp.lt_trans hlt (hfirst r hr)⟩, h⟩
    · exact h
    · rename_i hgt
      refine List.pairwise_cons.2 ⟨fun r hr => ?_, ih hrest⟩
      rcases mem_insertPath.1 hr with rfl | hr
      · exact Path.compare_lt_of_gt hgt
      · exact hfirst r hr

theorem map_path_insertFile :
    (insertFile f files).map SourceFile.path = insertPath f.path (files.map SourceFile.path) := by
  induction files with
  | nil => rfl
  | cons g gs ih =>
    rw [List.map_cons, insertFile, insertPath]
    split
    · rfl
    · rename_i heq
      rw [List.map_cons, Std.LawfulEqCmp.eq_of_compare heq]
    · rw [List.map_cons, ih]

/-- An inserted file is the one that is found under its path. -/
theorem find?_insertFile (h : Path.Ascend (files.map SourceFile.path)) :
    (insertFile f files).find? (fun g => g.path == key) =
      if f.path = key then some f else files.find? fun g => g.path == key := by
  induction files with
  | nil =>
    by_cases hkey : f.path = key <;> simp [insertFile, hkey]
  | cons g gs ih =>
    obtain ⟨hfirst, hrest⟩ := List.pairwise_cons.1 h
    unfold insertFile
    split
    · by_cases hkey : f.path = key <;> simp [List.find?_cons, hkey]
    · rename_i heq
      have hpath : f.path = g.path := Std.LawfulEqCmp.eq_of_compare heq
      by_cases hkey : f.path = key
      · simp [hkey]
      · simp [← hpath, hkey]
    · rename_i hgt
      have hne : g.path ≠ f.path := Path.ne_of_compare_lt (Path.compare_lt_of_gt hgt)
      rw [List.find?_cons, List.find?_cons, ih hrest]
      by_cases hkey : f.path = key
      · have hg : (g.path == key) = false := beq_eq_false_iff_ne.2 (hkey ▸ hne)
        rw [if_pos hkey, if_pos hkey, hg]
      · rw [if_neg hkey, if_neg hkey]

end

/-! ## The index -/

/-- The files that the index names for a class. -/
def indexed (index : List (String × List Path)) (name : String) : List Path :=
  ((index.find? fun e => e.1 == name).map Prod.snd).getD []

theorem indexed_indexClass (path : Path) (name key : String) (index : List (String × List Path)) :
    indexed (indexClass path name index) key =
      if name = key then insertPath path (indexed index key) else indexed index key := by
  induction index with
  | nil => by_cases h : name = key <;> simp [indexClass, indexed, insertPath, h]
  | cons e rest ih =>
    obtain ⟨n, ps⟩ := e
    unfold indexed at ih ⊢
    unfold indexClass
    by_cases hn : n = name
    · subst hn
      by_cases h : n = key <;> simp [h]
    · rw [if_neg (by simpa using hn), List.find?_cons, List.find?_cons]
      by_cases h : n = key
      · have hname : name ≠ key := fun heq => hn (h.trans heq.symm)
        simp [h, hname]
      · have hkey : (n == key) = false := beq_eq_false_iff_ne.2 h
        simp only [hkey]
        exact ih

section
variable {path q : Path} {name : String} {index : List (String × List Path)}

theorem mem_indexed_foldl (classes : List ClassFacts) :
    q ∈ indexed (classes.foldl (fun idx c => indexClass path c.name idx) index) name ↔
      q ∈ indexed index name ∨ q = path ∧ ∃ c ∈ classes, c.name = name := by
  induction classes generalizing index with
  | nil => simp
  | cons c classes ih =>
    rw [List.foldl_cons, ih, indexed_indexClass]
    by_cases h : c.name = name
    · simp [h, mem_insertPath]
      tauto
    · simp [h]

theorem ascend_indexed_foldl (classes : List ClassFacts)
    (h : ∀ name, Path.Ascend (indexed index name)) (name : String) :
    Path.Ascend
      (indexed (classes.foldl (fun idx c => indexClass path c.name idx) index) name) := by
  induction classes generalizing index with
  | nil => exact h name
  | cons c classes ih =>
    refine ih fun key => ?_
    rw [indexed_indexClass]
    split
    · exact ascend_insertPath (h key)
    · exact h key

end

/-- The index is fit for use: files and entries are in order, and every class of a stored file leads
to it.  Entries may be out of date. -/
structure Indexed (p : Project) : Prop where
  files : Path.Ascend (p.files.map SourceFile.path)
  entries : ∀ name, Path.Ascend (indexed p.classIndex name)
  complete : ∀ f ∈ p.files, ∀ c ∈ f.facts.classes, f.path ∈ indexed p.classIndex c.name

theorem indexed_empty (base : Path) : (empty base).Indexed where
  files := List.Pairwise.nil
  entries _ := List.Pairwise.nil
  complete _ h := absurd h List.not_mem_nil

/-- Storing a file keeps the index fit for use, whether or not it replaces another one. -/
theorem Indexed.insertTree {p : Project} (h : p.Indexed) (path : Path) (tree : Tree) :
    (p.insertTree path tree).Indexed where
  files := by
    unfold Project.insertTree
    rw [map_path_insertFile]
    exact ascend_insertPath h.files
  entries := ascend_indexed_foldl _ h.entries
  complete f hf c hc := by
    refine (mem_indexed_foldl _).2 ?_
    rcases mem_insertFile hf with rfl | hf
    · exact Or.inr ⟨rfl, c, hc, rfl⟩
    · exact Or.inl (h.complete f hf c hc)

variable {p q : Project}

/-- In order, a stored file is the one that is found under its path. -/
theorem fileAt?_eq_some_iff (h : Path.Ascend (p.files.map SourceFile.path)) {key : Path}
    {f : SourceFile} : p.fileAt? key = some f ↔ f ∈ p.files ∧ f.path = key := by
  constructor
  · exact fun hf => ⟨mem_files_of_fileAt? hf, path_eq_of_fileAt? hf⟩
  · rintro ⟨hf, rfl⟩
    have hsome : (p.fileAt? f.path).isSome := List.find?_isSome.2 ⟨f, hf, by simp⟩
    obtain ⟨g, hg⟩ := Option.isSome_iff_exists.1 hsome
    have hinj : Set.InjOn SourceFile.path {f | f ∈ p.files} := by
      have hnodup : (p.files.map SourceFile.path).Nodup := h.imp Path.ne_of_compare_lt
      exact List.inj_on_of_nodup_map hnodup
    rw [hg, hinj (mem_files_of_fileAt? hg) hf (path_eq_of_fileAt? hg)]

/-- Lists of files in order are equal if they hold the same files. -/
theorem files_ext {fs gs : List SourceFile}
    (hfs : fs.Pairwise fun f g => f.path.compare g.path = .lt)
    (hgs : gs.Pairwise fun f g => f.path.compare g.path = .lt) (h : ∀ f, f ∈ fs ↔ f ∈ gs) :
    fs = gs := by
  have hnodup {fs : List SourceFile}
      (hfs : fs.Pairwise fun f g => f.path.compare g.path = .lt) : fs.Nodup :=
    hfs.imp fun hlt heq => Path.ne_of_compare_lt hlt (congrArg SourceFile.path heq)
  refine List.Perm.eq_of_pairwise (fun f g _ _ hfg hgf => ?_) hfs hgs
    ((List.perm_ext_iff_of_nodup (hnodup hfs) (hnodup hgs)).2 h)
  exact absurd hgf (Std.OrientedCmp.not_lt_of_lt hfg)

/-- The files that paths in order lead to. -/
theorem filterMap_fileAt? (h : Path.Ascend (p.files.map SourceFile.path)) {ps : List Path}
    (hps : Path.Ascend ps) : ps.filterMap p.fileAt? = p.files.filter fun f => f.path ∈ ps := by
  refine files_ext ?_ ((List.pairwise_map.1 h).filter _) fun f => ?_
  · refine List.pairwise_filterMap.2 (hps.imp fun hlt f hf g hg => ?_)
    rwa [path_eq_of_fileAt? hf, path_eq_of_fileAt? hg]
  · simp only [List.mem_filterMap, fileAt?_eq_some_iff h, List.mem_filter, decide_eq_true_eq]
    constructor
    · rintro ⟨path, hpath, hf, rfl⟩
      exact ⟨hf, hpath⟩
    · exact fun ⟨hf, hpath⟩ => ⟨f.path, hpath, hf, rfl⟩

/-- **The answer of the index is that of a search through all files.** -/
theorem classesNamed_eq (h : p.Indexed) (name : String) :
    p.classesNamed name =
      p.files.flatMap fun f => f.facts.classes.filter fun c => c.name == name := by
  have hlookup : p.classesNamed name = ((indexed p.classIndex name).filterMap p.fileAt?).flatMap
      fun f => f.facts.classes.filter fun c => c.name == name := by
    unfold classesNamed indexed
    cases p.classIndex.find? fun e => e.1 == name <;> rfl
  have hfilter : ∀ f ∈ p.files, f.path ∉ indexed p.classIndex name →
      (f.facts.classes.filter fun c => c.name == name) = [] := by
    intro f hf hpath
    refine List.filter_eq_nil_iff.2 fun c hc hname => hpath ?_
    exact beq_iff_eq.1 hname ▸ h.complete f hf c hc
  rw [hlookup, filterMap_fileAt? h.files (h.entries name)]
  generalize p.files = files at hfilter
  induction files with
  | nil => rfl
  | cons f files ih =>
    have hrest := ih fun g hg => hfilter g (List.mem_cons_of_mem f hg)
    rw [List.filter_cons, List.flatMap_cons]
    split
    · rw [List.flatMap_cons, hrest]
    · rename_i hpath
      rw [hfilter f List.mem_cons_self (by simpa using hpath), hrest, List.nil_append]

/-! ## Histories -/

/-- Adds a file, or leaves the project as it was where the file is rejected. -/
def add (p : Project) (a : Path × String) : Project := (p.addSource a.1 a.2).toOption.getD p

/-- The project after a history of adding files. -/
def addAll (base : Path) (adds : List (Path × String)) : Project := adds.foldl add (empty base)

/-- The text that was last added under a path and not rejected. -/
def latest (base : Path) (adds : List (Path × String)) (key : Path) : Option String :=
  if key.isSource then
    (adds.reverse.find? fun a => (empty base).absolute a.1 == key).map Prod.snd
  else none

/-- The file that is stored for a source text. -/
def stored (base key : Path) (source : String) : SourceFile :=
  let tree := Grammar.parse (key.extension? == some "tsx") source
  ⟨key, (empty base).relative key, tree, FileFacts.ofTree key tree⟩

theorem absolute_congr (h : p.base = q.base) (path : Path) : p.absolute path = q.absolute path := by
  unfold absolute
  rw [h]

theorem relative_congr (h : p.base = q.base) (path : Path) : p.relative path = q.relative path := by
  unfold relative
  rw [absolute_congr h, h]

/-- A file is added under the path that its spelling leads to, or not at all. -/
theorem add_eq (p : Project) (a : Path × String) :
    p.add a = if (p.absolute a.1).isSource then
      p.insertTree (p.absolute a.1)
        (Grammar.parse ((p.absolute a.1).extension? == some "tsx") a.2) else p := by
  unfold add addSource
  dsimp only
  split <;> rfl

theorem add_of_error {a : Path × String} {key : Path} (h : p.addSource a.1 a.2 = .error key) :
    p.add a = p := by
  unfold add
  rw [h]
  rfl

/-- A file is rejected exactly if its path is not that of a source file. -/
theorem exists_error_iff (p : Project) (a : Path × String) :
    (∃ key, p.addSource a.1 a.2 = .error key) ↔ (p.absolute a.1).isSource = false := by
  unfold addSource
  dsimp only
  split
  · rename_i hsource
    simp [hsource]
  · rename_i hsource
    simp [hsource]

theorem base_add (p : Project) (a : Path × String) : (p.add a).base = p.base := by
  rw [add_eq]
  split <;> rfl

theorem Indexed.add (h : p.Indexed) (a : Path × String) : (p.add a).Indexed := by
  rw [add_eq]
  split
  · exact h.insertTree _ _
  · exact h

theorem addAll_concat (base : Path) (adds : List (Path × String)) (a : Path × String) :
    addAll base (adds ++ [a]) = (addAll base adds).add a := List.foldl_append

theorem base_addAll (base : Path) (adds : List (Path × String)) :
    (addAll base adds).base = (empty base).base := by
  induction adds using List.reverseRecOn with
  | nil => rfl
  | append_singleton adds a ih => rw [addAll_concat, base_add, ih]

theorem indexed_addAll (base : Path) (adds : List (Path × String)) :
    (addAll base adds).Indexed := by
  induction adds using List.reverseRecOn with
  | nil => exact indexed_empty base
  | append_singleton adds a ih =>
    rw [addAll_concat]
    exact ih.add a

theorem latest_concat (base : Path) (adds : List (Path × String)) (a : Path × String) (key : Path) :
    latest base (adds ++ [a]) key =
      if (empty base).absolute a.1 = key ∧ key.isSource then some a.2
      else latest base adds key := by
  unfold latest
  rw [List.reverse_concat, List.find?_cons]
  by_cases hsource : key.isSource
  · by_cases hkey : (empty base).absolute a.1 = key
    · simp [hsource, hkey]
    · simp [hsource, hkey, beq_eq_false_iff_ne.2 hkey]
  · simp [hsource]

/-- **The stored files are the last ones that were added.** -/
theorem fileAt?_addAll (base : Path) (adds : List (Path × String)) (key : Path) :
    (addAll base adds).fileAt? key = (latest base adds key).map (stored base key) := by
  induction adds using List.reverseRecOn with
  | nil =>
    unfold latest
    split <;> rfl
  | append_singleton adds a ih =>
    have hbase := base_addAll base adds
    rw [addAll_concat, latest_concat, add_eq, absolute_congr hbase]
    by_cases hsource : ((empty base).absolute a.1).isSource
    · rw [if_pos hsource]
      unfold fileAt? insertTree
      rw [find?_insertFile (indexed_addAll base adds).files]
      by_cases hkey : (empty base).absolute a.1 = key
      · subst hkey
        rw [if_pos rfl, if_pos ⟨rfl, hsource⟩, relative_congr hbase]
        rfl
      · have hnot : ¬((empty base).absolute a.1 = key ∧ key.isSource) := fun h => hkey h.1
        rw [if_neg hkey, if_neg hnot]
        exact ih
    · have hnot : ¬((empty base).absolute a.1 = key ∧ key.isSource) :=
        fun h => hsource (h.1 ▸ h.2)
      rw [if_neg hsource, if_neg hnot]
      exact ih

/-- What is stored is settled by what was last added under each path. -/
theorem files_addAll_congr {base : Path} {adds adds' : List (Path × String)}
    (h : ∀ key, latest base adds key = latest base adds' key) :
    (addAll base adds).files = (addAll base adds').files := by
  have hadds := (indexed_addAll base adds).files
  have hadds' := (indexed_addAll base adds').files
  refine files_ext (List.pairwise_map.1 hadds) (List.pairwise_map.1 hadds') fun f => ?_
  have hfile : (addAll base adds).fileAt? f.path = (addAll base adds').fileAt? f.path := by
    rw [fileAt?_addAll, fileAt?_addAll, h]
  calc f ∈ (addAll base adds).files
      ↔ (addAll base adds).fileAt? f.path = some f := by
        rw [fileAt?_eq_some_iff hadds, and_iff_left rfl]
    _ ↔ f ∈ (addAll base adds').files := by
        rw [hfile, fileAt?_eq_some_iff hadds', and_iff_left rfl]

/-- The files after a history are those last added under their paths. -/
theorem mem_files_addAll {base : Path} {adds : List (Path × String)} {f : SourceFile} :
    f ∈ (addAll base adds).files ↔
      ∃ source, latest base adds f.path = some source ∧ f = stored base f.path source := by
  have hfile : f ∈ (addAll base adds).files ↔ (addAll base adds).fileAt? f.path = some f := by
    rw [fileAt?_eq_some_iff (indexed_addAll base adds).files, and_iff_left rfl]
  rw [hfile, fileAt?_addAll, Option.map_eq_some_iff]
  simp only [eq_comm]

end Project

/-! ## Classes of a file -/

/-- The first class stands in an earlier file, or no later in the same one. -/
def ClassFacts.Before (a b : ClassFacts) : Prop :=
  a.file.compare b.file = .lt ∨ a.file = b.file ∧ a.span.start ≤ b.span.start

/-- The node declares a class of that name. -/
def Cursor.declaresClass (c : Cursor) (name : String) : Bool :=
  c.kind.isClassDeclaration && (c.focus.role? .name).map Tree.text == some name

/-- The node is one of the file's and declares a class of that name. -/
def SourceFile.Declares (f : SourceFile) (c : Cursor) (name : String) : Prop :=
  f.root.Contains c ∧ c.declaresClass name = true

theorem Cursor.classFacts?_eq_some {file : Path} {c : Cursor} {facts : ClassFacts}
    (h : c.classFacts? file = some facts) :
    facts.file = file ∧ facts.span = c.span ∧ c.kind.isClassDeclaration = true := by
  unfold Cursor.classFacts? at h
  split at h
  · rename_i hkind
    obtain ⟨n, -, rfl⟩ := Option.map_eq_some_iff.1 h
    exact ⟨rfl, rfl, hkind⟩
  · cases h

theorem Cursor.declaresClass_eq (file : Path) (c : Cursor) (name : String) :
    c.declaresClass name = (c.classFacts? file).any fun facts => facts.name == name := by
  unfold Cursor.declaresClass Cursor.classFacts?
  cases c.kind.isClassDeclaration with
  | false => rfl
  | true => cases c.focus.role? .name <;> rfl

namespace FileFacts

theorem file_of_mem_classes {path : Path} {tree : Tree} {facts : ClassFacts}
    (h : facts ∈ (ofTree path tree).classes) : facts.file = path := by
  obtain ⟨c, -, hc⟩ := List.mem_filterMap.1 h
  exact (Cursor.classFacts?_eq_some hc).1

/-- The classes of a name are the facts of the nodes that declare one. -/
theorem map_some_classes (path : Path) (tree : Tree) (name : String) :
    ((ofTree path tree).classes.filter fun facts => facts.name == name).map some =
      ((Cursor.ofTree tree).preorder.filter fun c => c.declaresClass name).map
        fun c => c.classFacts? path := by
  unfold ofTree
  simp only [Cursor.declaresClass_eq path]
  induction (Cursor.ofTree tree).preorder with
  | nil => rfl
  | cons c nodes ih =>
    cases hfacts : c.classFacts? path with
    | none => simpa [hfacts] using ih
    | some facts =>
      by_cases hname : facts.name = name
      · simpa [hfacts, hname] using ih
      · simpa [hfacts, hname] using ih

/-- The classes of a parsed file begin in order. -/
theorem sorted_classes (path : Path) (markup : Bool) (text : String) :
    (ofTree path (Grammar.parse markup text)).classes.Pairwise
      fun a b => a.span.start ≤ b.span.start := by
  have hkind : ∀ k : Kind, k.isClassDeclaration = true → (k != .comment) = true := by
    intro k hk
    refine bne_iff_ne.2 fun hcomment => ?_
    subst hcomment
    cases hk
  have hsorted := List.pairwise_filter.1 (Grammar.sorted_preorder markup text)
  refine List.pairwise_filterMap.2 (hsorted.imp fun {c d} hcd a ha b hb => ?_)
  obtain ⟨-, hspan, hc⟩ := Cursor.classFacts?_eq_some ha
  obtain ⟨-, hspan', hd⟩ := Cursor.classFacts?_eq_some hb
  rw [hspan, hspan']
  exact hcd (hkind _ hc) (hkind _ hd)

end FileFacts

namespace Project

/-- The classes are those of that name in the stored files, each once, in the order of their files
and then of their places. -/
structure Lists (p : Project) (name : String) (classes : List ClassFacts) : Prop where
  each : ∃ found : List (SourceFile × Cursor), found.Nodup ∧
    (∀ f c, (f, c) ∈ found ↔ f ∈ p.files ∧ f.Declares c name) ∧
    classes.map some = found.map fun x => x.2.classFacts? x.1.path
  ordered : classes.Pairwise ClassFacts.Before

/-- A file's nodes that declare a class of that name, in order. -/
def declaring (name : String) (f : SourceFile) : List (SourceFile × Cursor) :=
  (f.root.preorder.filter fun c => c.declaresClass name).map (Prod.mk f)

theorem mem_declaring {name : String} {f g : SourceFile} {c : Cursor} :
    (f, c) ∈ declaring name g ↔ f = g ∧ g.Declares c name := by
  unfold declaring SourceFile.Declares
  simp only [List.mem_map, List.mem_filter, Cursor.mem_preorder_iff, Prod.mk.injEq]
  constructor
  · rintro ⟨d, hd, rfl, rfl⟩
    exact ⟨rfl, hd⟩
  · rintro ⟨rfl, hc⟩
    exact ⟨c, hc, rfl, rfl⟩

theorem nodup_declaring (name : String) (f : SourceFile) : (declaring name f).Nodup := by
  have hwalk : f.root.preorder.Nodup := Cursor.nodup_reach _ _
  exact (hwalk.filter _).map (Prod.mk_right_injective f)

theorem file_of_mem_classes {base : Path} {adds : List (Path × String)} {f : SourceFile}
    (hf : f ∈ (addAll base adds).files) {c : ClassFacts} (hc : c ∈ f.facts.classes) :
    c.file = f.path := by
  obtain ⟨source, -, hstored⟩ := mem_files_addAll.1 hf
  rw [hstored] at hc
  exact FileFacts.file_of_mem_classes hc

theorem sorted_classes {base : Path} {adds : List (Path × String)} {f : SourceFile}
    (hf : f ∈ (addAll base adds).files) :
    f.facts.classes.Pairwise fun a b => a.span.start ≤ b.span.start := by
  obtain ⟨source, -, hstored⟩ := mem_files_addAll.1 hf
  rw [hstored]
  exact FileFacts.sorted_classes _ _ _

/-- After any history the index lists the classes of the stored files. -/
theorem lists_addAll (base : Path) (adds : List (Path × String)) (name : String) :
    (addAll base adds).Lists name ((addAll base adds).classesNamed name) := by
  have hindexed := indexed_addAll base adds
  have hpaths : (addAll base adds).files.Pairwise fun f g => f.path.compare g.path = .lt :=
    List.pairwise_map.1 hindexed.files
  rw [classesNamed_eq hindexed]
  refine ⟨⟨(addAll base adds).files.flatMap (declaring name), ?_, fun f c => ?_, ?_⟩, ?_⟩
  · refine List.nodup_flatMap.2 ⟨fun f _ => nodup_declaring name f, hpaths.imp ?_⟩
    rintro f g hlt ⟨e, c⟩ hf hg
    obtain ⟨rfl, -⟩ := mem_declaring.1 hf
    obtain ⟨rfl, -⟩ := mem_declaring.1 hg
    exact Path.ne_of_compare_lt hlt rfl
  · rw [List.mem_flatMap]
    constructor
    · rintro ⟨g, hg, hc⟩
      obtain ⟨rfl, hc⟩ := mem_declaring.1 hc
      exact ⟨hg, hc⟩
    · exact fun ⟨hf, hc⟩ => ⟨f, hf, mem_declaring.2 ⟨rfl, hc⟩⟩
  · rw [List.map_flatMap, List.map_flatMap]
    refine List.flatMap_congr fun f hf => ?_
    obtain ⟨source, -, hstored⟩ := mem_files_addAll.1 hf
    rw [hstored, declaring, List.map_map]
    exact FileFacts.map_some_classes _ _ name
  · refine List.pairwise_flatMap.2 ⟨fun f hf => ?_, hpaths.imp_of_mem ?_⟩
    · refine ((sorted_classes hf).imp_of_mem fun {a b} ha hb hab => ?_).filter _
      exact Or.inr ⟨(file_of_mem_classes hf ha).trans (file_of_mem_classes hf hb).symm, hab⟩
    · intro f g hf hg hlt a ha b hb
      refine Or.inl ?_
      rwa [file_of_mem_classes hf (List.mem_filter.1 ha).1,
        file_of_mem_classes hg (List.mem_filter.1 hb).1]

/-- **The index depends only on the current files**: after every history of adding files, the
answers are those of the files last added under their paths. -/
theorem classesNamed_addAll (base : Path) (adds : List (Path × String)) :
    (∀ a : Path × String, (∃ key, (addAll base adds).addSource a.1 a.2 = .error key) ↔
      ((empty base).absolute a.1).isSource = false) ∧
    (∀ a key, (addAll base adds).addSource a.1 a.2 = .error key →
      addAll base (adds ++ [a]) = addAll base adds) ∧
    (∀ f, f ∈ (addAll base adds).files ↔
      ∃ source, latest base adds f.path = some source ∧ f = stored base f.path source) ∧
    (∀ name, (addAll base adds).Lists name ((addAll base adds).classesNamed name)) ∧
    ∀ adds', (∀ key, latest base adds' key = latest base adds key) →
      ∀ name, (addAll base adds').classesNamed name = (addAll base adds).classesNamed name := by
  refine ⟨fun a => ?_, fun a key h => ?_, fun f => mem_files_addAll, lists_addAll base adds,
    fun adds' h name => ?_⟩
  · rw [exists_error_iff, absolute_congr (base_addAll base adds)]
  · rw [addAll_concat]
    exact add_of_error h
  · rw [classesNamed_eq (indexed_addAll base adds'), classesNamed_eq (indexed_addAll base adds),
      files_addAll_congr h]

/-- A file that is replaced and one that is rejected leave no trace, in whatever order the others
were added. -/
theorem classesNamed_replaced :
    (addAll ⟨true, ["app"]⟩ [(⟨false, ["cat.ts"]⟩, "class Dog \x7b\x7d"),
        (⟨false, ["notes.md"]⟩, "class Cat \x7b\x7d"), (⟨false, ["pet.ts"]⟩, "class Cat \x7b\x7d"),
        (⟨false, ["src", "..", "cat.ts"]⟩, "class Cat \x7b\x7d")]).classesNamed "Cat" =
      (addAll ⟨true, ["app"]⟩ [(⟨false, ["cat.ts"]⟩, "class Cat \x7b\x7d"),
        (⟨false, ["pet.ts"]⟩, "class Cat \x7b\x7d")]).classesNamed "Cat" := by
  refine (classesNamed_addAll _ _).2.2.2.2 _ (fun key => ?_) "Cat"
  have hcat : (empty ⟨true, ["app"]⟩).absolute ⟨false, ["cat.ts"]⟩ = ⟨true, ["app", "cat.ts"]⟩ := by
    decide
  have hsrc : (empty ⟨true, ["app"]⟩).absolute ⟨false, ["src", "..", "cat.ts"]⟩ =
      ⟨true, ["app", "cat.ts"]⟩ := by decide
  have hpet : (empty ⟨true, ["app"]⟩).absolute ⟨false, ["pet.ts"]⟩ = ⟨true, ["app", "pet.ts"]⟩ := by
    decide
  have hnotes : (empty ⟨true, ["app"]⟩).absolute ⟨false, ["notes.md"]⟩ =
      ⟨true, ["app", "notes.md"]⟩ := by decide
  have hrejected : Path.isSource ⟨true, ["app", "notes.md"]⟩ = false := by cbv
  unfold latest
  by_cases hkey : key.isSource
  · have hne : (⟨true, ["app", "notes.md"]⟩ : Path) ≠ key := by
      rintro rfl
      rw [hrejected] at hkey
      cases hkey
    by_cases hk : key = ⟨true, ["app", "cat.ts"]⟩
    · subst hk
      simp [hcat, hsrc, hpet]
    · have hk' : (⟨true, ["app", "cat.ts"]⟩ : Path) ≠ key := fun h => hk h.symm
      by_cases hp : (⟨true, ["app", "pet.ts"]⟩ : Path) = key <;>
        simp [hcat, hsrc, hpet, hnotes, hne, hk', hp, hkey]
  · simp [hkey]

end Project

end RouteInventory
