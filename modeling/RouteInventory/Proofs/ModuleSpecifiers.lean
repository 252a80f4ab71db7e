import Mathlib
import RouteInventory.Proofs.PathTexts
import RouteInventory.Proofs.StoredPaths

/-!
# Files that an import can name

An import spells out the way from the directory of the importing file to the file that is meant.
Following that way leads to the file whatever both paths are.  But the resolver takes only two of
the four extensions of source files for the end of a file name, so that the files with the other two
cannot be named.

* `Path.wayTo`, `Path.specifier`: the way from a directory to a file, and how it is written.
* `Path.normalize_join_specifier`: the way leads to the file.
* `Project.Made`: the projects that come about by adding files.
* `Project.addressable_iff`: which files can be named.
-/

namespace RouteInventory

namespace Path

/-! ## The way from one directory to another -/

/-- The names that lead from one directory to another: up to the last directory that both lie in,
and down from there. -/
def wayTo : List String → List String → List String
  | [], bs => bs
  | a :: as, bs =>
    if bs.head? = some a then wayTo as bs.tail
    else List.replicate (as.length + 1) ".." ++ bs

/-- The names that lead from a directory to a file, its own name last. -/
def namesTo (dir file : Path) : List String :=
  wayTo dir.names file.names.dropLast ++ [file.names.getLast?.getD ""]

/-- How an import in the directory spells out the file. -/
def specifier (dir file : Path) : String :=
  (if (dir.namesTo file).head? = some ".." then "" else "./")
    ++ String.intercalate "/" (dir.namesTo file)

/-- A path from the root, made of names, where `..` can only come first. -/
structure Regular (p : Path) : Prop where
  absolute : p.absolute = true
  isName : ∀ n ∈ p.names, IsName n
  straight : ".." ∉ p.names.tail

variable {dir file p : Path} {as bs done names : List String}

/-- As many steps up as there are names take these off the stack. -/
theorem foldl_parents (k : Nat) (h : k ≤ done.length) :
    (List.replicate k "..").foldl normalizeStep done = done.drop k := by
  induction k generalizing done with
  | zero => rfl
  | succ k ih =>
    cases done with
    | nil => cases h
    | cons top rest =>
      have hstep : normalizeStep (top :: rest) ".." = rest := rfl
      rw [List.replicate_succ, List.foldl_cons, hstep, ih (Nat.le_of_succ_le_succ h),
        List.drop_succ_cons]

/-- Names are put on those before them, as long as `..` can only be the first of all. -/
theorem foldl_onto (h : ".." ∉ (as ++ bs).tail) :
    bs.foldl normalizeStep as.reverse = (as ++ bs).reverse := by
  cases as with
  | nil => exact foldl_normalizeStep_of_tail h
  | cons a as =>
    have hbs : ".." ∉ bs := fun hmem => h (List.mem_append_right as hmem)
    rw [foldl_normalizeStep_of_notMem hbs, List.reverse_append]

/-- Following the way leads from the one directory to the other; `shared` holds the names that both
have in front. -/
theorem foldl_wayTo (shared as : List String) (h : ".." ∉ (shared ++ bs).tail) :
    (wayTo as bs).foldl normalizeStep (shared ++ as).reverse = (shared ++ bs).reverse := by
  induction as generalizing shared bs with
  | nil =>
    rw [wayTo, List.append_nil]
    exact foldl_onto h
  | cons a as ih =>
    rw [wayTo]
    split
    · rename_i hhead
      obtain ⟨rest, rfl⟩ : ∃ rest, bs = a :: rest := List.head?_eq_some_iff.1 hhead
      have hmore := ih (shared ++ [a]) (by simpa using h)
      simpa using hmore
    · have hup : (shared ++ a :: as).reverse.drop (as.length + 1) = shared.reverse := by
        rw [List.reverse_append]
        exact List.drop_left' (by simp)
      rw [List.foldl_append, foldl_parents _ (by simp), hup]
      exact foldl_onto h

theorem mem_of_mem_wayTo {n : String} (h : n ∈ wayTo as bs) : n = ".." ∨ n ∈ bs := by
  induction as generalizing bs with
  | nil => exact .inr h
  | cons a as ih =>
    rw [wayTo] at h
    split at h
    · exact (ih h).imp_right List.mem_of_mem_tail
    · rcases List.mem_append.1 h with h | h
      · exact .inl (List.eq_of_mem_replicate h)
      · exact .inr h

/-- A file has a last name, which is not `..`. -/
theorem getLast?_of_fileName? {name : String} (h : file.fileName? = some name) :
    file.names.getLast? = some name ∧ name ≠ ".." := by
  obtain ⟨hlast, hname⟩ := Option.filter_eq_some_iff.1 h
  exact ⟨hlast, bne_iff_ne.1 hname⟩

theorem isName_of_mem_namesTo (dir : Path) (hfile : file.Regular) {name : String}
    (hname : file.fileName? = some name) : ∀ n ∈ dir.namesTo file, IsName n := by
  obtain ⟨hlast, -⟩ := getLast?_of_fileName? hname
  intro n hn
  rcases List.mem_append.1 hn with hn | hn
  · rcases mem_of_mem_wayTo hn with rfl | hn
    · exact isName_parent
    · exact hfile.isName n (List.mem_of_mem_dropLast hn)
  · rw [hlast, Option.getD_some, List.mem_singleton] at hn
    exact hfile.isName n (hn ▸ List.mem_of_getLast? hlast)

/-- An import is spelled with one or two dots in front. -/
theorem specifier_eq (dir : Path) {name : String} (hname : file.fileName? = some name) :
    ∃ rest, dir.specifier file = "./" ++ rest ∨ dir.specifier file = "../" ++ rest := by
  obtain ⟨hlast, hne⟩ := getLast?_of_fileName? hname
  unfold specifier
  split
  · rename_i hhead
    obtain ⟨rest, hrest⟩ := List.head?_eq_some_iff.1 hhead
    have hmore : rest ≠ [] := by
      rintro rfl
      have hlast' := congrArg List.getLast? hrest
      rw [namesTo, List.getLast?_concat, hlast] at hlast'
      exact hne (Option.some.inj hlast')
    refine ⟨String.intercalate "/" rest, .inr ?_⟩
    rw [hrest, String.intercalate_cons_of_ne_nil hmore, String.empty_append]
    rfl
  · exact ⟨_, .inl rfl⟩

theorem head?_specifier (dir : Path) {name : String} (hname : file.fileName? = some name) :
    (dir.specifier file).toList.head? = some '.' := by
  obtain ⟨rest, heq | heq⟩ := specifier_eq dir hname <;> rw [heq, String.toList_append] <;> rfl

/-- What is written is read back as the names that lead there. -/
theorem ofString_specifier (hfile : file.Regular) {name : String}
    (hname : file.fileName? = some name) :
    ofString (dir.specifier file) = ⟨false, dir.namesTo file⟩ := by
  have habsolute : (ofString (dir.specifier file)).absolute = false := by
    rw [← Bool.not_eq_true, absolute_ofString_iff, head?_specifier dir hname]
    decide
  have hread := namesOf_intercalate (isName_of_mem_namesTo dir hfile hname)
  have hnames : (ofString (dir.specifier file)).names = dir.namesTo file := by
    change namesOf (dir.specifier file) = _
    unfold specifier
    split
    · rw [String.empty_append, hread]
    · rw [namesOf_here, hread]
  rw [← habsolute, ← hnames]

/-- **The way to a file leads there.** -/
theorem normalize_join_specifier (hdir : dir.Regular) (hfile : file.Regular) {name : String}
    (hname : file.fileName? = some name) :
    (dir.join (.ofString (dir.specifier file))).normalize = file := by
  obtain ⟨hlast, -⟩ := getLast?_of_fileName? hname
  obtain ⟨before, hbefore⟩ := List.getLast?_eq_some_iff.1 hlast
  have hstraight := hfile.straight
  rw [hbefore] at hstraight
  have hup : ".." ∉ ([] ++ before).tail := fun hmem =>
    hstraight ((List.sublist_append_left before [name]).tail.subset hmem)
  have hnames : (dir.names ++ dir.namesTo file).foldl normalizeStep [] = file.names.reverse := by
    have hway := foldl_wayTo [] dir.names hup
    rw [List.nil_append, List.nil_append] at hway
    rw [List.foldl_append, foldl_normalizeStep_of_tail hdir.straight, namesTo, hbefore,
      List.dropLast_concat, List.getLast?_concat, List.foldl_append, hway]
    exact foldl_onto hstraight
  rw [ofString_specifier hfile hname]
  have hjoin : dir.join ⟨false, dir.namesTo file⟩ = ⟨dir.absolute, dir.names ++ dir.namesTo file⟩ :=
    rfl
  rw [hjoin, normalize, hnames, List.reverse_reverse, hdir.absolute, ← hfile.absolute]

/-! ## Paths that are regular -/

theorem mem_foldl_normalizeStep {n : String} (h : n ∈ names.foldl normalizeStep done) :
    n ∈ done ∨ n ∈ names := by
  induction names generalizing done with
  | nil => exact .inl h
  | cons m names ih =>
    rcases ih h with hmem | hmem
    · have hstep : n ∈ done ∨ n = m := by
        unfold normalizeStep at hmem
        split at hmem
        · rename_i hm
          split at hmem
          · exact .inr ((List.mem_singleton.1 hmem).trans (beq_iff_eq.1 hm).symm)
          · exact .inl (List.mem_cons_of_mem _ hmem)
        · exact (List.mem_cons.1 hmem).symm
      exact hstep.imp_right fun heq : n = m => heq ▸ List.mem_cons_self
    · exact .inr (List.mem_cons_of_mem m hmem)

theorem regular_normalize (habsolute : p.absolute = true) (h : ∀ n ∈ p.names, IsName n) :
    p.normalize.Regular where
  absolute := habsolute
  isName n hn := by
    rcases mem_foldl_normalizeStep (List.mem_reverse.1 hn) with hmem | hmem
    · cases hmem
    · exact h n hmem
  straight := by
    have hbottom := notMem_dropLast_foldl p.names [] List.not_mem_nil
    change ".." ∉ (p.names.foldl normalizeStep []).reverse.tail
    rwa [List.tail_reverse, List.mem_reverse]

theorem Regular.parent? (h : p.Regular) (hp : p.parent? = some dir) : dir.Regular := by
  unfold Path.parent? at hp
  split at hp
  · cases hp
  · cases hp
    have hsub := List.dropLast_sublist p.names
    exact ⟨h.absolute, fun n hn => h.isName n (hsub.subset hn), fun hmem =>
      h.straight (hsub.tail.subset hmem)⟩

end Path

namespace Project

variable {p q : Project} {f : SourceFile} {base : String}

/-! ## Projects that come about by adding files -/

/-- The project came about in the directory that `base` spells out, by adding files. -/
inductive Made (base : String) : Project → Prop
  | start : Made base (empty (.ofString base))
  | add {p q : Project} {path source : String} (h : Made base p)
      (hadd : p.addSource (.ofString path) source = .ok q) : Made base q
  | report {p : Project} {ds : List Diagnostic} (h : Made base p) :
      Made base { p with diagnostics := ds }

theorem regular_absolute (h : p.base.Regular) (path : String) :
    (p.absolute (.ofString path)).Regular := by
  have hnames : ∀ n ∈ (Path.ofString path).names, Path.IsName n := fun n =>
    Path.isName_of_mem_namesOf
  unfold absolute
  split
  · exact Path.regular_normalize ‹_› hnames
  · rename_i hrelative
    have hjoin : p.base.join (.ofString path) =
        ⟨p.base.absolute, p.base.names ++ (Path.ofString path).names⟩ := if_neg hrelative
    rw [hjoin]
    exact Path.regular_normalize h.absolute (List.forall_mem_append.2 ⟨h.isName, hnames⟩)

/-- The directory and the files of a project have regular paths, and the files are source files. -/
structure Orderly (p : Project) : Prop where
  base : p.base.Regular
  files : ∀ f ∈ p.files, f.path.Regular ∧ f.path.isSource = true

theorem Orderly.addSource (hp : p.Orderly) {path source : String}
    (h : p.addSource (.ofString path) source = .ok q) : q.Orderly := by
  unfold Project.addSource at h
  dsimp only at h
  split at h
  · cases h
    refine ⟨hp.base, fun f hf => ?_⟩
    rcases mem_insertFile hf with rfl | hf
    · exact ⟨regular_absolute hp.base path, ‹_›⟩
    · exact hp.files f hf
  · cases h

theorem Made.orderly (hbase : base.toList.head? = some '/') (h : Made base p) : p.Orderly := by
  induction h with
  | start =>
    refine ⟨?_, fun f hf => absurd hf List.not_mem_nil⟩
    exact Path.regular_normalize ((Path.absolute_ofString_iff base).2 hbase) fun n =>
      Path.isName_of_mem_namesOf
  | add _ hadd ih => exact ih.addSource hadd
  | report _ ih => exact ⟨ih.base, ih.files⟩

/-! ## Which files are found -/

/-- The directory that imports of a file start from. -/
def directoryOf (p : Project) (origin : Path) : Path := (p.absolute origin).parent?.getD p.base

theorem regular_directoryOf (h : p.base.Regular) (origin : String) :
    (p.directoryOf (.ofString origin)).Regular := by
  unfold directoryOf
  cases hparent : (p.absolute (.ofString origin)).parent? with
  | none => exact h
  | some dir => exact (regular_absolute h origin).parent? hparent

theorem extension?_of_isSource {key : Path} (h : key.isSource = true) :
    ∃ ext ∈ sourceExtensions, key.extension? = some ext := by
  unfold Path.isSource at h
  cases hext : key.extension? with
  | none =>
    rw [hext] at h
    cases h
  | some ext =>
    rw [hext] at h
    exact ⟨ext, by simpa using h, rfl⟩

/-- The extensions that the resolver takes for the end of a file name. -/
def knownExtensions : List String := ["ts", "tsx"]

theorem moduleCandidates_of_known {key : Path} {ext : String} (h : key.extension? = some ext)
    (hext : ext ∈ knownExtensions) : moduleCandidates key = [key] := by
  unfold moduleCandidates
  rw [h]
  simp only [knownExtensions, List.mem_cons, List.not_mem_nil, or_false] at hext
  rcases hext with rfl | rfl <;> rfl

/-- A path with something appended to its last name is another path. -/
theorem withSuffix_ne {key : Path} {suffix : String} (h : suffix ≠ "") :
    key.withSuffix suffix ≠ key := by
  intro heq
  have hlast := congrArg (fun q : Path => q.names.getLast?) heq
  have happended : (key.withSuffix suffix).names.getLast? =
      some (key.names.getLast?.getD "" ++ suffix) := List.getLast?_concat
  rw [happended] at hlast
  have hsame : key.names.getLast?.getD "" ++ suffix = key.names.getLast?.getD "" :=
    congrArg (fun last : Option String => last.getD "") hlast
  have hlength := congrArg String.length hsame
  rw [String.length_append] at hlength
  exact h (String.length_eq_zero_iff.1 (by omega))

/-- A path that is followed by a name is another path. -/
theorem join_ne {key : Path} {name : String} (h : Path.IsName name) :
    key.join (.ofString name) ≠ key := by
  intro heq
  have hlength := congrArg (fun q : Path => q.names.length) heq
  simp [Path.join, Path.ofString_of_isName h] at hlength

/-- The candidates for a source file whose extension is not known are longer paths. -/
theorem notMem_moduleCandidates {key : Path} {ext : String} (h : key.extension? = some ext)
    (hsource : ext ∈ sourceExtensions) (hext : ext ∉ knownExtensions) :
    key ∉ moduleCandidates key := by
  have hcandidates : moduleCandidates key =
      [key.withSuffix ".ts", key.withSuffix ".tsx", key.join (.ofString "index.ts"),
        key.join (.ofString "index.tsx")] := by
    unfold moduleCandidates
    rw [h]
    simp only [sourceExtensions, List.mem_cons, List.not_mem_nil, or_false] at hsource
    rcases hsource with rfl | rfl | rfl | rfl
    · exact absurd (by decide) hext
    · exact absurd (by decide) hext
    · rfl
    · rfl
  rw [hcandidates]
  simp only [List.mem_cons, List.not_mem_nil, or_false, not_or]
  exact ⟨(withSuffix_ne (by decide)).symm, (withSuffix_ne (by decide)).symm,
    (join_ne ⟨by decide, by decide, by decide⟩).symm,
    (join_ne ⟨by decide, by decide, by decide⟩).symm⟩

/-- Where an import leads whose names lead to a path. -/
theorem resolveModule_eq {origin key : Path} {module : String}
    (hdot : module.toList.head? = some '.')
    (hkey : ((p.directoryOf origin).join (.ofString module)).normalize = key) :
    p.resolveModule origin module =
      (((moduleCandidates key).find? fun c => (p.fileAt? c).isSome).map ModuleTarget.file).getD
        (.missing ((moduleCandidates key).headD key)) := by
  have hrelative : module.startsWith "." = true := by
    rw [String.startsWith_string_iff]
    obtain ⟨cs, hcs⟩ := List.head?_eq_some_iff.1 hdot
    rw [hcs]
    exact List.cons_prefix_cons.2 ⟨rfl, List.nil_prefix⟩
  have htarget : (((p.absolute origin).parent?.getD p.base).join (.ofString module)).normalize =
      key := hkey
  unfold resolveModule
  rw [hrelative, if_neg (by decide)]
  dsimp only
  rw [htarget]
  split
  · rename_i path hfound
    rw [hfound]
    rfl
  · rename_i hnone
    rw [hnone]
    rfl

/-- A stored file is where an import leads exactly if it is among the candidates for its own path,
and then it is the only one. -/
theorem resolveModule_eq_file_iff {origin : Path} {module : String} (hf : f ∈ p.files)
    (hsource : f.path.isSource = true) (hdot : module.toList.head? = some '.')
    (hkey : ((p.directoryOf origin).join (.ofString module)).normalize = f.path) :
    p.resolveModule origin module = .file f.path ↔
      ∃ ext ∈ knownExtensions, f.path.extension? = some ext := by
  obtain ⟨ext, hmem, hext⟩ := extension?_of_isSource hsource
  rw [resolveModule_eq hdot hkey]
  constructor
  · intro h
    by_contra hnone
    have hunknown : ext ∉ knownExtensions := fun hknown => hnone ⟨ext, hknown, hext⟩
    cases hfind : (moduleCandidates f.path).find? fun c => (p.fileAt? c).isSome with
    | none =>
      rw [hfind] at h
      cases h
    | some path =>
      rw [hfind] at h
      cases h
      exact notMem_moduleCandidates hext hmem hunknown (List.mem_of_find?_eq_some hfind)
  · rintro ⟨ext', hknown, hext'⟩
    have hstored : (p.fileAt? f.path).isSome = true :=
      List.find?_isSome.2 ⟨f, hf, beq_self_eq_true f.path⟩
    rw [moduleCandidates_of_known hext' hknown]
    simp only [List.find?_cons, hstored, Option.map_some, Option.getD_some]

/-- **Which files can be named.**  From every path of an importing file, the way to a stored file is
spelled with one or two dots in front and leads to the file.  An import that is spelled so finds the
file exactly if its extension is not `mts` or `cts`, although files with these are stored too. -/
theorem addressable_iff (base : String) (hbase : base.toList.head? = some '/') (hp : Made base p)
    (hf : f ∈ p.files) (origin : String) :
    (∃ rest, (p.directoryOf (.ofString origin)).specifier f.path = "./" ++ rest ∨
      (p.directoryOf (.ofString origin)).specifier f.path = "../" ++ rest) ∧
    ((p.directoryOf (.ofString origin)).join
      (.ofString ((p.directoryOf (.ofString origin)).specifier f.path))).normalize = f.path ∧
    (p.resolveModule (.ofString origin) ((p.directoryOf (.ofString origin)).specifier f.path) =
      .file f.path ↔ f.path.extension? ≠ some "mts" ∧ f.path.extension? ≠ some "cts") := by
  have horderly := hp.orderly hbase
  obtain ⟨hregular, hsource⟩ := horderly.files f hf
  obtain ⟨ext, hmem, hext⟩ := extension?_of_isSource hsource
  obtain ⟨name, hname, -⟩ := Option.bind_eq_some_iff.1 hext
  have hdir := regular_directoryOf horderly.base origin
  have hway := Path.normalize_join_specifier hdir hregular hname
  refine ⟨Path.specifier_eq _ hname, hway, ?_⟩
  rw [resolveModule_eq_file_iff hf hsource (Path.head?_specifier _ hname) hway, hext]
  simp only [sourceExtensions, List.mem_cons, List.not_mem_nil, or_false] at hmem
  rcases hmem with rfl | rfl | rfl | rfl <;> simp [knownExtensions]

end Project

/-! ## A file that cannot be named -/

namespace UnnamedFile

def path : Path := ⟨true, ["a.mts"]⟩

/-- A directory with nothing but the empty file `a.mts` in it. -/
def project : Project := (Project.empty ⟨true, []⟩).insertTree path (Grammar.parse false "")

theorem made_project : Project.Made "/" project := by
  have hbase : Path.ofString "/" = ⟨true, []⟩ := by cbv
  have hpath : Path.ofString "a.mts" = ⟨false, ["a.mts"]⟩ :=
    Path.ofString_of_isName ⟨by decide, by decide, by decide⟩
  have hsource : path.isSource = true := by cbv
  have hplain : (path.extension? == some "tsx") = false := by cbv
  have habsolute : (Project.empty ⟨true, []⟩).absolute ⟨false, ["a.mts"]⟩ = path := by cbv
  have hadd : (Project.empty (.ofString "/")).addSource (.ofString "a.mts") "" =
      .ok project := by
    rw [hbase, hpath, Project.addSource, habsolute, hsource, hplain]
    rfl
  exact .add .start hadd

theorem exists_file : ∃ f ∈ project.files, f.path = path :=
  ⟨_, List.mem_singleton_self _, rfl⟩

/-- The file `a.mts` is stored, and `./a.mts` in a file beside it does not lead there. -/
theorem not_addressable : Project.Made "/" project ∧ (∃ f ∈ project.files, f.path = path) ∧
    project.resolveModule (.ofString "b.ts") "./a.mts" ≠ .file path := by
  refine ⟨made_project, exists_file, ?_⟩
  obtain ⟨f, hf, hpath⟩ := exists_file
  have hdir : project.directoryOf (.ofString "b.ts") = ⟨true, []⟩ := by
    have horigin : Path.ofString "b.ts" = ⟨false, ["b.ts"]⟩ :=
      Path.ofString_of_isName ⟨by decide, by decide, by decide⟩
    rw [horigin]
    rfl
  have hspecifier : Path.specifier ⟨true, []⟩ path = "./a.mts" := by cbv
  have hext : path.extension? = some "mts" := by cbv
  obtain ⟨-, -, hiff⟩ := Project.addressable_iff "/" rfl made_project hf "b.ts"
  rw [hdir, hpath, hspecifier, hext] at hiff
  exact fun hfile => (hiff.1 hfile).1 rfl

end UnnamedFile

end RouteInventory
