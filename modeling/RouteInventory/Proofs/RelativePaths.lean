import Mathlib
import RouteInventory.Proofs.ClassIndex
import RouteInventory.Proofs.DocumentKeys
import RouteInventory.Proofs.ModuleSpecifiers

/-!
# Relative paths name one file

Reports name files by their paths relative to the project's directory, and files that lie elsewhere
by their whole paths, in which the root counts as a name of its own.  Such a text leads back to the
path that it was made from.  So two files of a project never go by the same text, and the source
file that is reported with an endpoint tells where it was read.

* `Path.ofString_intercalate`, `Path.ofString_pathNames` — both kinds of text are read back.
* `Project.absolute_relative` — a relative path means the same file as the path itself.
* `Project.file?_relPath` — every stored file is found by the text that reports name it by.
* `Project.source_unambiguous` — all this for the files and endpoints of a project.
-/

namespace RouteInventory

/-! ## Reading back what is written -/

namespace Path

variable {names : List String} {p dir : Path}

/-- Names with slashes between them are a relative path. -/
theorem ofString_intercalate (h : ∀ n ∈ names, IsName n) :
    ofString (String.intercalate "/" names) = ⟨false, names⟩ := by
  have hrelative : (ofString (String.intercalate "/" names)).absolute = false := by
    rw [← Bool.not_eq_true, absolute_ofString_iff, String.toList_intercalate]
    intro hhead
    cases names with
    | nil => cases hhead
    | cons n names =>
      obtain ⟨c, cs, hn⟩ : ∃ c cs, n.toList = c :: cs :=
        List.exists_cons_of_ne_nil (by simpa using (h n List.mem_cons_self).ne_empty)
      have hslash : c = '/' := by
        cases names <;> simpa [List.intercalate, hn] using hhead
      exact (h n List.mem_cons_self).noSlash (hn ▸ hslash ▸ List.mem_cons_self)
  rw [← hrelative]
  exact congrArg _ (namesOf_intercalate h)

/-- A whole path with the root as a name of its own is read back. -/
theorem ofString_pathNames (habsolute : p.absolute = true) (h : ∀ n ∈ p.names, IsName n) :
    ofString (String.intercalate "/" (Project.pathNames p)) = p := by
  have hnames : Project.pathNames p = "/" :: p.names := by
    rw [Project.pathNames, if_pos habsolute]
    rfl
  have htext : ∃ text, String.intercalate "/" (Project.pathNames p) = "/" ++ text ∧
      namesOf text = p.names := by
    have hread := namesOf_intercalate h
    rw [hnames]
    cases hp : p.names with
    | nil => exact ⟨"", rfl, by rwa [hp] at hread⟩
    | cons n names =>
      rw [hp] at hread
      refine ⟨"/" ++ String.intercalate "/" (n :: names), ?_, ?_⟩
      · rw [String.intercalate_cons_cons, String.append_assoc]
      · rw [namesOf_slash, hread]
  obtain ⟨text, htext, hread⟩ := htext
  rw [htext, ofString_slash, hread, ← habsolute]

/-- What a path has below a directory comes after the directory's names. -/
theorem names_of_strip? (h : dir.strip? p = some names) : p.names = dir.names ++ names := by
  unfold strip? at h
  split at h
  · rename_i hboth
    cases h
    obtain ⟨-, hprefix⟩ := Bool.and_eq_true_iff.1 hboth
    exact (List.prefix_iff_eq_append.1 (List.isPrefixOf_iff_prefix.1 hprefix)).symm
  · cases h

theorem Regular.normalize_eq (h : p.Regular) : p.normalize = p := by
  unfold normalize
  rw [foldl_normalizeStep_of_tail h.straight, List.reverse_reverse]

end Path

/-! ## Relative paths -/

namespace Project

variable {p q : Project} {f g : SourceFile} {base : String}

/-- **A relative path means the same file as the path itself**, inside the directory of the project
and outside. -/
theorem absolute_relative (hbase : p.base.Regular) {path : Path}
    (hpath : (p.absolute path).Regular) :
    p.absolute (.ofString (p.relative path)) = p.absolute path := by
  unfold relative
  dsimp only
  generalize p.absolute path = full at hpath
  cases hstrip : p.base.strip? full with
  | some names =>
    have hfull := Path.names_of_strip? hstrip
    have hnames : ∀ n ∈ names, Path.IsName n := fun n hn =>
      hpath.isName n (hfull ▸ List.mem_append_right _ hn)
    have hjoin : p.base.join ⟨false, names⟩ = full := by
      have hbelow : p.base.join ⟨false, names⟩ = ⟨p.base.absolute, p.base.names ++ names⟩ := rfl
      rw [hbelow, ← hfull, hbase.absolute, ← hpath.absolute]
    rw [Option.getD_some, Path.ofString_intercalate hnames]
    exact (congrArg Path.normalize hjoin).trans hpath.normalize_eq
  | none =>
    rw [Option.getD_none, Path.ofString_pathNames hpath.absolute hpath.isName]
    exact (if_pos hpath.absolute).trans hpath.normalize_eq

/-! ## Files -/

/-- How a stored file is kept: under its own path, in its place, and with the text that reports
name it by. -/
structure Filed (p : Project) : Prop where
  keyed : p.Keyed
  indexed : p.Indexed
  named : ∀ f ∈ p.files, f.relPath = p.relative f.path

theorem Filed.insertTree (hp : p.Filed) {path : Path} (hpath : p.absolute path = path)
    (tree : Tree) : (p.insertTree path tree).Filed where
  keyed f hf := by
    rcases mem_insertFile hf with rfl | hf
    · exact hpath
    · exact hp.keyed f hf
  indexed := hp.indexed.insertTree path tree
  named f hf := by
    rcases mem_insertFile hf with rfl | hf
    · rfl
    · exact hp.named f hf

/-- A file is added under the path that its spelling leads to. -/
theorem exists_tree_of_addSource {path : Path} {source : String}
    (h : p.addSource path source = .ok q) : ∃ tree, q = p.insertTree (p.absolute path) tree := by
  unfold addSource at h
  dsimp only at h
  split at h
  · cases h
    exact ⟨_, rfl⟩
  · cases h

theorem Made.filed (hbase : base.toList.head? = some '/') (h : Made base p) : p.Filed := by
  induction h with
  | start =>
    exact ⟨keyed_empty _, indexed_empty _, fun f hf => absurd hf List.not_mem_nil⟩
  | add h hadd ih =>
    obtain ⟨tree, rfl⟩ := exists_tree_of_addSource hadd
    exact ih.insertTree (absolute_idem (h.orderly hbase).base.absolute _) tree
  | report _ ih =>
    obtain ⟨hkeyed, ⟨hfiles, hentries, hcomplete⟩, hnamed⟩ := ih
    exact ⟨hkeyed, ⟨hfiles, hentries, hcomplete⟩, hnamed⟩

/-- A stored file is found by the text that reports name it by. -/
theorem file?_relPath (hbase : p.base.Regular) (hp : p.Filed) (hf : f ∈ p.files)
    (hregular : f.path.Regular) : p.file? (.ofString f.relPath) = some f := by
  have hkey : p.absolute f.path = f.path := hp.keyed f hf
  have hback : p.absolute (.ofString (p.relative f.path)) = f.path :=
    (absolute_relative hbase (hkey.symm ▸ hregular)).trans hkey
  rw [file?, hp.named f hf, hback, fileAt?_eq_some_iff hp.indexed.files]
  exact ⟨hf, rfl⟩

end Project

/-! ## Source files of endpoints -/

theorem RouteReader.sourceFile_of_mem_endpointsIn {r : RouteReader} {file : SourceFile}
    {scope : Cursor} {e : Endpoint} (h : e ∈ (r.endpointsIn file scope).1) :
    e.sourceFile = file.relPath := by
  obtain ⟨o, ho, he⟩ := List.mem_filterMap.1 h
  obtain ⟨c, -, m, hc⟩ := exists_of_mem_mapM ho
  cases o with
  | endpoint e' =>
    cases he
    unfold readCall at hc
    split at hc
    · split at hc <;> cases hc
    · split at hc <;> cases hc
      rfl
  | skipped | ignored => cases he

theorem ControllerReader.sourceFile_of_read {r : ControllerReader} {ref : ControllerRef}
    {c : Controller} (h : r.read ref = some c) :
    ∃ file, r.project.file? ref.file = some file ∧ c.sourceFile = file.relPath := by
  obtain ⟨file, hfile, h⟩ := Option.bind_eq_some_iff.1 h
  obtain ⟨k, -, h⟩ := Option.bind_eq_some_iff.1 h
  obtain ⟨d, -, h⟩ := Option.bind_eq_some_iff.1 h
  obtain ⟨node, -, h⟩ := Option.bind_eq_some_iff.1 h
  cases h
  exact ⟨file, hfile, rfl⟩

/-- **Source files are unambiguous.**  In a project whose directory is given from the root, the
relative form of every path leads back to the path.  So no two files have the same relative path,
and the source file of an endpoint leads to the file that it was read from, be it registered by a
call or declared by a controller. -/
theorem Project.source_unambiguous {p : Project} (base : String)
    (hbase : base.toList.head? = some '/') (hp : Made base p) :
    (∀ path : String,
      p.absolute (.ofString (p.relative (.ofString path))) = p.absolute (.ofString path)) ∧
    (∀ f ∈ p.files, ∀ g ∈ p.files, f.relPath = g.relPath → f = g) ∧
    (∀ f ∈ p.files, ∀ (r : RouteReader) (scope : Cursor), ∀ e ∈ (r.endpointsIn f scope).1,
      p.file? (.ofString e.sourceFile) = some f) ∧
    ∀ r : ControllerReader, r.project = p → ∀ (refs : List ControllerRef) (d : GuardDetector)
      (guards : List String), ∀ found ∈ (d.endpointsOfAll guards (refs.filterMap r.read)).1,
      ∃ ref ∈ refs, ∃ c f, r.read ref = some c ∧ found.1 = c.mount ∧ p.file? ref.file = some f ∧
        ∀ e ∈ found.2, p.file? (.ofString e.sourceFile) = some f := by
  have horderly := hp.orderly hbase
  have hfiled := hp.filed hbase
  have hback (f : SourceFile) (hf : f ∈ p.files) : p.file? (.ofString f.relPath) = some f :=
    file?_relPath horderly.base hfiled hf (horderly.files f hf).1
  refine ⟨fun path => absolute_relative horderly.base (regular_absolute horderly.base path),
    fun f hf g hg heq => ?_, fun f hf r scope e he => ?_, ?_⟩
  · have hfound := hback f hf
    rw [heq, hback g hg] at hfound
    exact (Option.some.inj hfound).symm
  · rw [RouteReader.sourceFile_of_mem_endpointsIn he]
    exact hback f hf
  · rintro r rfl refs d guards found hfound
    obtain ⟨c, hc, hmount, hroutes⟩ := ControllerReader.exists_of_mem_endpointsOfAll hfound
    obtain ⟨ref, href, hread⟩ := List.mem_filterMap.1 hc
    obtain ⟨f, hfile, hsource⟩ := ControllerReader.sourceFile_of_read hread
    refine ⟨ref, href, c, f, hread, hmount, hfile, fun e he => ?_⟩
    obtain ⟨route, -, auth, rfl⟩ := hroutes e he
    have htext : (route.endpoint c.sourceFile auth).sourceFile = f.relPath := hsource
    rw [htext]
    exact hback f (mem_files_of_fileAt? hfile)

/-! ## Files of one name in two places -/

namespace TwoPlaces

def inside : Path := ⟨true, ["a", "b.ts"]⟩

def outside : Path := ⟨true, ["b.ts"]⟩

/-- The directory `/a` with the file `b.ts` in it. -/
def directory : Project :=
  (Project.empty ⟨true, ["a"]⟩).insertTree inside (Grammar.parse false "")

/-- The same with another `b.ts` beside the directory. -/
def project : Project := directory.insertTree outside (Grammar.parse false "")

theorem ofString_outside : Path.ofString "/b.ts" = outside := by
  have hnames : ∀ n ∈ outside.names, Path.IsName n :=
    List.forall_mem_singleton.2 ⟨by decide, by decide, by decide⟩
  exact Path.ofString_toString rfl hnames

theorem made_directory : Project.Made "/a" directory := by
  have hbase : Path.ofString "/a" = ⟨true, ["a"]⟩ := by
    have hnames : ∀ n ∈ ["a"], Path.IsName n :=
      List.forall_mem_singleton.2 ⟨by decide, by decide, by decide⟩
    exact Path.ofString_toString (p := ⟨true, ["a"]⟩) rfl hnames
  have hpath : Path.ofString "b.ts" = ⟨false, ["b.ts"]⟩ :=
    Path.ofString_of_isName ⟨by decide, by decide, by decide⟩
  have habsolute : (Project.empty ⟨true, ["a"]⟩).absolute ⟨false, ["b.ts"]⟩ = inside := by decide
  have hsource : inside.isSource = true := by decide
  have hplain : (inside.extension? == some "tsx") = false := by decide
  have hadd : (Project.empty (.ofString "/a")).addSource (.ofString "b.ts") "" =
      .ok directory := by
    rw [hbase, hpath, Project.addSource, habsolute, hsource, hplain]
    rfl
  exact .add .start hadd

theorem made_project : Project.Made "/a" project := by
  have habsolute : directory.absolute outside = outside := by decide
  have hsource : outside.isSource = true := by decide
  have hplain : (outside.extension? == some "tsx") = false := by decide
  have hadd : directory.addSource (.ofString "/b.ts") "" = .ok project := by
    rw [ofString_outside, Project.addSource, habsolute, hsource, hplain]
    rfl
  exact .add made_directory hadd

/-- The file outside is reported as `//b.ts`, which leads back to it. -/
theorem outside_read_back : Project.Made "/a" project ∧
    project.relative (.ofString "/b.ts") = "//b.ts" ∧
    project.absolute (.ofString "//b.ts") = outside := by
  have hrelative : project.relative (.ofString "/b.ts") = "//b.ts" := by
    rw [ofString_outside]
    decide
  have hback := (Project.source_unambiguous "/a" rfl made_project).1 "/b.ts"
  rw [hrelative, ofString_outside] at hback
  exact ⟨made_project, hrelative, hback⟩

end TwoPlaces

end RouteInventory
