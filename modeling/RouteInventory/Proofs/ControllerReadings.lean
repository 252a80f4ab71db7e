import Mathlib
import RouteInventory.Nest.Controller
import RouteInventory.Proofs.CursorDescent
import RouteInventory.Proofs.ModuleClosure
import RouteInventory.Proofs.StoredPaths

/-!
# How often a controller is read

The module graph lists a controller once for each name that it is known by in its file, but the
class that a reference means is chosen by another rule: a default import under a name that no
controller of the file has means the first controller there.  So a class can be listed twice, and
its routes then stand in the inventory twice.

* `ControllerRef.MeansFirst` — the two ways in which a reference means the first controller.
* `ControllerReader.eq_iff_meansFirst` — references of different names to one file mean the same
  class exactly if both mean the first controller.
* `SourceFile.covers_same_of_mem_methods` — classes that share a method cover the same stretch of
  source.
* `ControllerReader.read_once_iff` — when no class is read twice.
-/

namespace RouteInventory

/-! ## The class that a reference means -/

def ClassFacts.isController (k : ClassFacts) : Bool := (k.decorator? "Controller").isSome

namespace SourceFile

/-- The first controller of a file. -/
def firstController? (f : SourceFile) : Option ClassFacts :=
  f.facts.classes.find? ClassFacts.isController

/-- The class of that name, if it is a controller. -/
def controllerNamed? (f : SourceFile) (name : String) : Option ClassFacts :=
  (f.facts.class? name).filter ClassFacts.isController

theorem name_of_controllerNamed? {f : SourceFile} {name : String} {k : ClassFacts}
    (h : f.controllerNamed? name = some k) : k.name = name := by
  have hclass := (Option.filter_eq_some_iff.1 h).1
  simpa using List.find?_some hclass

theorem isController_of_controllerNamed? {f : SourceFile} {name : String} {k : ClassFacts}
    (h : f.controllerNamed? name = some k) : k.isController = true :=
  (Option.filter_eq_some_iff.1 h).2

end SourceFile

namespace ControllerRef

/-- The reference is a default import under a name that no controller of the file has. -/
def FallsBack (c : ControllerRef) (f : SourceFile) : Prop :=
  c.isDefault = true ∧ f.controllerNamed? c.name = none

/-- The reference means the first controller of the file, by its name or for want of one. -/
def MeansFirst (c : ControllerRef) (f : SourceFile) : Prop :=
  f.controllerNamed? c.name = f.firstController? ∨ c.FallsBack f

end ControllerRef

namespace ControllerReader

variable {f : SourceFile} {a b c : ControllerRef} {k l : ClassFacts}

theorem classOf?_eq (f : SourceFile) (c : ControllerRef) :
    classOf? f c =
      (f.controllerNamed? c.name).or (if c.isDefault then f.firstController? else none) := by
  cases hnamed : f.controllerNamed? c.name with
  | some k =>
    have hfilter : (f.facts.class? c.name).filter (fun k => (k.decorator? "Controller").isSome) =
      some k := hnamed
    simp only [classOf?, hfilter, Option.some_or]
  | none =>
    have hfilter : (f.facts.class? c.name).filter (fun k => (k.decorator? "Controller").isSome) =
      none := hnamed
    simp only [classOf?, hfilter, Option.none_or]
    rfl

theorem classOf?_of_fallsBack (h : c.FallsBack f) : classOf? f c = f.firstController? := by
  rw [classOf?_eq, h.2, if_pos h.1, Option.none_or]

theorem classOf?_of_meansFirst (h : c.MeansFirst f) : classOf? f c = f.firstController? := by
  rcases h with h | h
  · rw [classOf?_eq, h]
    cases f.firstController? with
    | some k => rfl
    | none => exact ite_self none
  · exact classOf?_of_fallsBack h

/-- A reference that does not fall back means the controller of its own name. -/
theorem controllerNamed?_of_classOf? (h : classOf? f c = some k) (hc : ¬ c.FallsBack f) :
    f.controllerNamed? c.name = some k := by
  rw [classOf?_eq] at h
  cases hnamed : f.controllerNamed? c.name with
  | some k' => rwa [hnamed] at h
  | none =>
    rw [hnamed, Option.none_or] at h
    split at h
    · exact absurd ⟨‹_›, hnamed⟩ hc
    · cases h

theorem isController_of_classOf? (h : classOf? f c = some k) : k.isController = true := by
  by_cases hc : c.FallsBack f
  · rw [classOf?_of_fallsBack hc] at h
    exact List.find?_some h
  · exact SourceFile.isController_of_controllerNamed? (controllerNamed?_of_classOf? h hc)

/-- A class that one reference means for want of a name is the first of its file, so that any other
reference to it means the first as well. -/
theorem meansFirst_of_fallsBack (ha : a.FallsBack f) (hak : classOf? f a = some k)
    (hbk : classOf? f b = some k) : b.MeansFirst f := by
  by_cases hb : b.FallsBack f
  · exact Or.inr hb
  · refine Or.inl ?_
    rw [controllerNamed?_of_classOf? hbk hb, ← hak, classOf?_of_fallsBack ha]

/-- References of different names mean the same class exactly if both mean the first. -/
theorem eq_iff_meansFirst (hname : a.name ≠ b.name) (ha : classOf? f a = some k)
    (hb : classOf? f b = some l) : k = l ↔ a.MeansFirst f ∧ b.MeansFirst f := by
  constructor
  · rintro rfl
    by_cases hfa : a.FallsBack f
    · exact ⟨Or.inr hfa, meansFirst_of_fallsBack hfa ha hb⟩
    · by_cases hfb : b.FallsBack f
      · exact ⟨meansFirst_of_fallsBack hfb hb ha, Or.inr hfb⟩
      · have hka := SourceFile.name_of_controllerNamed? (controllerNamed?_of_classOf? ha hfa)
        have hkb := SourceFile.name_of_controllerNamed? (controllerNamed?_of_classOf? hb hfb)
        exact absurd (hka.symm.trans hkb) hname
  · rintro ⟨hfa, hfb⟩
    rw [classOf?_of_meansFirst hfa] at ha
    rw [classOf?_of_meansFirst hfb] at hb
    exact Option.some.inj (ha.symm.trans hb)

/-- References of the same name mean the same class, if they mean one at all. -/
theorem eq_of_name_eq (hname : a.name = b.name) (ha : classOf? f a = some k)
    (hb : classOf? f b = some l) : k = l := by
  rw [classOf?_eq, hname] at ha
  rw [classOf?_eq] at hb
  cases hnamed : f.controllerNamed? b.name with
  | some k' =>
    rw [hnamed] at ha hb
    exact Option.some.inj (ha.symm.trans hb)
  | none =>
    rw [hnamed, Option.none_or, Option.ite_none_right_eq_some] at ha hb
    exact Option.some.inj (ha.2.symm.trans hb.2)

/-! ## Readings -/

/-- The controller can be read, and it is read from this class of this file. -/
structure ReadsFrom (r : ControllerReader) (c : ControllerRef) (f : SourceFile) (k : ClassFacts) :
    Prop where
  file : r.project.file? c.file = some f
  means : classOf? f c = some k
  succeeds : (r.read c).isSome

/-- A class that is read is a controller whose node is found. -/
theorem readsFrom_iff {r : ControllerReader} :
    r.ReadsFrom c f k ↔
      r.project.file? c.file = some f ∧ classOf? f c = some k ∧ (f.classNode? k.span).isSome := by
  have hread (hfile : r.project.file? c.file = some f) (hmeans : classOf? f c = some k) :
      (r.read c).isSome = (f.classNode? k.span).isSome := by
    obtain ⟨d, hd⟩ := Option.isSome_iff_exists.1 (isController_of_classOf? hmeans)
    unfold read
    simp only [hfile, hmeans, hd, Option.bind_eq_bind, Option.bind_some]
    cases f.classNode? k.span <;> rfl
  constructor
  · intro h
    exact ⟨h.file, h.means, hread h.file h.means ▸ h.succeeds⟩
  · rintro ⟨hfile, hmeans, hnode⟩
    exact ⟨hfile, hmeans, (hread hfile hmeans).symm ▸ hnode⟩

/-- What is read depends on the class alone, not on how it is referred to. -/
theorem read_eq_of_readsFrom {r : ControllerReader} (ha : r.ReadsFrom a f k)
    (hb : r.ReadsFrom b f k) : r.read a = r.read b := by
  unfold read
  simp only [ha.file, hb.file, ha.means, hb.means, Option.bind_eq_bind, Option.bind_some]

end ControllerReader

/-! ## The methods of a class -/

theorem Cursor.parent?_parent?_of_mem_methods {c m : Cursor} (h : m ∈ c.methods) :
    m.parent?.bind parent? = some c := by
  unfold methods at h
  split at h
  · rename_i body hbody
    have hpart := (child_of_mem_parts (List.mem_filter.1 h).1).1
    rw [parent?_of_mem_children hpart, Option.bind_some]
    exact parent?_of_mem_children (List.mem_of_find?_eq_some hbody)
  · cases h

theorem Cursor.span_of_nodeAt? {c d : Cursor} {start stop : Nat} {k : Kind}
    (h : c.nodeAt? start stop k = some d) : d.span.start = start ∧ d.span.stop = stop := by
  have hfound := List.find?_some h
  simpa [spans] using (Bool.and_eq_true_iff.1 hfound).2

namespace SourceFile

theorem span_of_classNode? {f : SourceFile} {s : Span} {node : Cursor}
    (h : f.classNode? s = some node) : node.span.start = s.start ∧ node.span.stop = s.stop := by
  rcases Option.or_eq_some_iff.1 h with h | ⟨-, h⟩
  · exact Cursor.span_of_nodeAt? h
  · exact Cursor.span_of_nodeAt? h

/-- Classes that share a method cover the same stretch of source. -/
theorem covers_same_of_mem_methods {f : SourceFile} {s t : Span} {node node' m : Cursor}
    (hs : f.classNode? s = some node) (ht : f.classNode? t = some node') (hm : m ∈ node.methods)
    (hm' : m ∈ node'.methods) : s.start = t.start ∧ s.stop = t.stop := by
  have hnode : node = node' := Option.some.inj
    ((Cursor.parent?_parent?_of_mem_methods hm).symm.trans
      (Cursor.parent?_parent?_of_mem_methods hm'))
  subst hnode
  obtain ⟨hstart, hstop⟩ := span_of_classNode? hs
  obtain ⟨hstart', hstop'⟩ := span_of_classNode? ht
  exact ⟨hstart.symm.trans hstart', hstop.symm.trans hstop'⟩

end SourceFile

/-! ## The controllers of a graph -/

namespace Project

variable {p : Project} {entry : Path} {g : ModuleGraph}

/-- The controllers of a graph differ in file or name, and their files are stored. -/
theorem controllers_of_moduleGraph? (h : p.moduleGraph? entry = some g) :
    g.controllerKeys.Nodup ∧ ∀ c ∈ g.controllers, (p.fileAt? c.file).isSome := by
  obtain ⟨file, hfile, hrun⟩ := Option.map_eq_some_iff.1 h
  obtain ⟨entered, did, hmodules, heq⟩ :=
    runModules_eq p [entry] .nothing (ModuleTask.ofFile file true)
  obtain ⟨-, -, hnodup, hkeys⟩ := ModuleGraph.foldl_perform_spec p did .nothing
  rw [← heq, hrun] at hnodup hkeys
  refine ⟨hnodup List.nodup_nil, fun c hc => ?_⟩
  have hkey : (c.file, c.name) ∈ g.controllerKeys := List.mem_map.2 ⟨c, hc, rfl⟩
  rcases (hkeys _).1 hkey with hnone | ⟨⟨f, m⟩, hm, metadata, -, item, -, name, -, d, hfound⟩
  · cases hnone
  · have hcollected := hmodules.collected_perm.mem_iff.1 hm
    rw [collectedModules_ofFile] at hcollected
    rcases List.mem_append.1 hcollected with hm | hm
    · obtain ⟨m', -, hpair⟩ := List.mem_map.1 hm
      cases hpair
      exact isSome_fileAt?_of_found hfile hfound
    · obtain ⟨path, -, hm⟩ := List.mem_flatMap.1 hm
      exact isSome_fileAt?_of_found (mem_filedModules.1 hm).1 hfound

theorem path_eq_of_file? (hp : p.Keyed) {path path' : Path} {f : SourceFile}
    (hstored : (p.fileAt? path).isSome) (hstored' : (p.fileAt? path').isSome)
    (h : p.file? path = some f) (h' : p.file? path' = some f) : path = path' := by
  rw [← absolute_of_isSome hp hstored, ← absolute_of_isSome hp hstored',
    ← path_eq_of_fileAt? h, ← path_eq_of_fileAt? h']

end Project

namespace ControllerReader

variable {r : ControllerReader} {entry : Path} {g : ModuleGraph}

/-- Two controllers of a graph that lead to the same file have different names. -/
theorem pairwise_name_ne (hp : r.project.Keyed) (hg : r.project.moduleGraph? entry = some g) :
    g.controllers.Pairwise fun a b =>
      ∀ f, r.project.file? a.file = some f → r.project.file? b.file = some f → a.name ≠ b.name := by
  obtain ⟨hnodup, hstored⟩ := Project.controllers_of_moduleGraph? hg
  have hkeys : g.controllers.Pairwise fun a b => (a.file, a.name) ≠ (b.file, b.name) :=
    List.pairwise_map.1 hnodup
  refine hkeys.imp_of_mem fun {a b} ha hb hne f hfa hfb hname => hne ?_
  rw [Project.path_eq_of_file? hp (hstored a ha) (hstored b hb) hfa hfb, hname]

/-- **When no controller is read twice.**  The controllers of a graph that can be read are read from
different classes exactly if those that lead to the same file differ in name and do not both mean
its first controller.  The graph sees to the names where every file is stored under its own path.
Two controllers that are read from one class yield the same routes, while a method is only met in
two classes if these cover the same stretch of source. -/
theorem read_once_iff (r : ControllerReader) (entry : Path) (g : ModuleGraph)
    (hg : r.project.moduleGraph? entry = some g) :
    ((g.controllers.Pairwise fun a b => ¬ ∃ f k, r.ReadsFrom a f k ∧ r.ReadsFrom b f k) ↔
      g.controllers.Pairwise fun a b => ∀ f k l, r.ReadsFrom a f k → r.ReadsFrom b f l →
        a.name ≠ b.name ∧ ¬ (a.MeansFirst f ∧ b.MeansFirst f)) ∧
    (r.project.Keyed → g.controllers.Pairwise fun a b =>
      ∀ f k l, r.ReadsFrom a f k → r.ReadsFrom b f l → a.name ≠ b.name) ∧
    (∀ a b f k, r.ReadsFrom a f k → r.ReadsFrom b f k → r.read a = r.read b) ∧
    ∀ a b f k l node node' m, r.ReadsFrom a f k → r.ReadsFrom b f l →
      f.classNode? k.span = some node → f.classNode? l.span = some node' →
      m ∈ node.methods → m ∈ node'.methods →
      k.span.start = l.span.start ∧ k.span.stop = l.span.stop := by
  refine ⟨⟨List.Pairwise.imp ?_, List.Pairwise.imp ?_⟩, fun hp => ?_,
    fun a b f k => read_eq_of_readsFrom,
    fun a b f k l node node' m _ _ => SourceFile.covers_same_of_mem_methods⟩
  · intro a b hsame f k l ha hb
    have hne : k ≠ l := fun hkl => hsame ⟨f, k, ha, hkl ▸ hb⟩
    have hname : a.name ≠ b.name := fun hname => hne (eq_of_name_eq hname ha.means hb.means)
    exact ⟨hname, fun hfirst => hne ((eq_iff_meansFirst hname ha.means hb.means).2 hfirst)⟩
  · rintro a b hapart ⟨f, k, ha, hb⟩
    obtain ⟨hname, hfirst⟩ := hapart f k k ha hb
    exact hfirst ((eq_iff_meansFirst hname ha.means hb.means).1 rfl)
  · exact (pairwise_name_ne hp hg).imp fun {a b} hname f k l ha hb => hname f ha.file hb.file

end ControllerReader

namespace TwoNames

/-- Where the class of the controller stands. -/
def span : Span := ⟨0, 10, 1, 1⟩

def entry : Path := ⟨true, ["app", "main.ts"]⟩

def users : Path := ⟨true, ["app", "u.ts"]⟩

/-- A module that lists a class under two names. -/
def app : ClassFacts :=
  let metadata : Argument := .object [("controllers", .array [.name "Users", .name "People"])]
  ⟨"App", entry, default, none, [⟨"Module", [metadata], 1⟩]⟩

/-- The file of that module, where both names are default imports from the other file. -/
def entryFile : SourceFile :=
  ⟨entry, "main.ts", default,
    { imports := [⟨"Users", none, "./u", .default⟩, ⟨"People", none, "./u", .default⟩]
      classes := [app]
      declarations := [] }⟩

/-- A file with one controller. -/
def usersFile : SourceFile :=
  ⟨users, "u.ts",
    .sketchAt .program 0 10 "" [.sketchAt .classDeclaration 0 10 "" []],
    { imports := []
      classes := [⟨"UsersController", users, span, none, [⟨"Controller", [], 1⟩]⟩]
      declarations := [] }⟩

def reader : ControllerReader where
  project :=
    { base := ⟨true, ["app"]⟩
      files := [entryFile, usersFile]
      classIndex := []
      diagnostics := [] }
  renderer := .ofDepth 1
  unreported := []
  withResponses := false

/-- The default import under a name. -/
def listed (name : String) : ControllerRef := ⟨name, users, true, "App"⟩

theorem resolve_users : reader.project.resolveModule entry "./u" = .file users := by
  have hpath : Path.ofString "./u" = ⟨false, ["u"]⟩ := by cbv
  have hdot : "./u".startsWith "." = true := by decide +kernel
  unfold Project.resolveModule
  rw [hpath, hdot]
  rfl

theorem locate_default {name : String}
    (hclass : (entryFile.facts.class? name).isSome = false)
    (himport : entryFile.facts.import? name = some ⟨name, none, "./u", .default⟩) :
    reader.project.locateClass entryFile name = .found users name true := by
  have hdot : "./u".startsWith "." = true := by decide +kernel
  have hrelative : Import.isRelative ⟨name, none, "./u", .default⟩ = true := hdot
  have hresolve : reader.project.resolveModule entryFile.path "./u" = .file users := resolve_users
  unfold Project.locateClass
  rw [hclass, himport, if_neg Bool.false_ne_true]
  simp only [hrelative, if_true, hresolve]
  rfl

theorem moduleGraph?_eq :
    reader.project.moduleGraph? entry =
      some ⟨["App"], [listed "Users", listed "People"], [], []⟩ := by
  have hUsers : reader.project.locateClass entryFile "Users" = .found users "Users" true :=
    locate_default (by decide) (by decide)
  have hPeople : reader.project.locateClass entryFile "People" = .found users "People" true :=
    locate_default (by decide) (by decide)
  have hfile : reader.project.file? entry = some entryFile := rfl
  have hfollowing : ModuleTask.following reader.project entryFile app = [] := rfl
  have hlisted : ["Users", "People"].foldl
      (ModuleGraph.listController reader.project entryFile "App") ⟨["App"], [], [], []⟩ =
        ⟨["App"], [listed "Users", listed "People"], [], []⟩ := by
    simp only [List.foldl_cons, List.foldl_nil, ModuleGraph.listController, hUsers, hPeople]
    decide
  have hcollect : ModuleGraph.collect reader.project entryFile app true .nothing =
      ⟨["App"], [listed "Users", listed "People"], [], []⟩ := by
    unfold ModuleGraph.collect
    change (fun g : ModuleGraph => { g with globalGuards := g.globalGuards ++ [] })
      (["Users", "People"].foldl (ModuleGraph.listController reader.project entryFile "App")
        ⟨["App"], [], [], []⟩) = _
    rw [hlisted]
    rfl
  rw [Project.moduleGraph?, hfile, Option.map_some]
  change some (reader.project.runModules [entry] .nothing [.collect entryFile app true]) = _
  rw [Project.runModules, hfollowing, List.nil_append, Project.runModules, hcollect]

/-- Under a name that is not its own the class is read all the same. -/
theorem readsFrom_listed (name : String) (h : usersFile.controllerNamed? name = none) :
    reader.ReadsFrom (listed name) usersFile
      ⟨"UsersController", users, span, none, [⟨"Controller", [], 1⟩]⟩ :=
  ControllerReader.readsFrom_iff.2
    ⟨rfl, ControllerReader.classOf?_of_fallsBack ⟨rfl, h⟩, by decide⟩

theorem keyed : reader.project.Keyed := by
  intro f hf
  rcases List.mem_cons.1 hf with rfl | hf
  · decide
  · obtain rfl := List.mem_singleton.1 hf
    decide

/-- One class is read under two names, so that its routes are listed twice. -/
theorem read_twice :
    ∃ g, reader.project.moduleGraph? entry = some g ∧ reader.project.Keyed ∧
      ¬ (g.controllers.Pairwise fun a b =>
        ¬ ∃ f k, reader.ReadsFrom a f k ∧ reader.ReadsFrom b f k) ∧
      reader.read (listed "Users") = reader.read (listed "People") := by
  obtain ⟨honce, -, hsame, -⟩ := ControllerReader.read_once_iff reader entry _ moduleGraph?_eq
  have hnamed : usersFile.controllerNamed? "Users" = none := by decide
  have hnamed' : usersFile.controllerNamed? "People" = none := by decide
  have hUsers := readsFrom_listed "Users" hnamed
  have hPeople := readsFrom_listed "People" hnamed'
  refine ⟨_, moduleGraph?_eq, keyed, fun h => ?_, hsame _ _ _ _ hUsers hPeople⟩
  have hapart := List.rel_of_pairwise_cons (honce.1 h) (List.mem_singleton.2 rfl)
  exact (hapart _ _ _ hUsers hPeople).2 ⟨Or.inr ⟨rfl, hnamed⟩, Or.inr ⟨rfl, hnamed'⟩⟩

end TwoNames

end RouteInventory
