import Mathlib
import RouteInventory.Nest.Modules

/-!
# The module graph is the closure of the imports

`Project.Imports` has an edge from one file to another if some module of the first imports a class
that is declared in the second.  The walk from an entry file enters exactly the files that the entry
reaches along these edges, each once.

`ModuleRun` is the walk as a relation: which files it enters and which tasks it does, one rule for
each thing that can happen to the next task.  What the walk returns is the effect of the tasks done
(`runModules_eq`), so that the control of the walk and what it collects can be looked at apart:

* `ModuleRun.closed`, `ModuleRun.reached` — the files entered are closed under imports, and are
  reached from what was to be done at first.
* `ModuleRun.collected_perm` — each module of each file entered is collected once.
* `moduleGraph_closure` — modules, controllers and guards of the graph from an entry file.
-/

namespace RouteInventory

/-! ## Files and what their modules list -/

/-- The guards that a module provides for everything. -/
def ClassFacts.providedGuards (c : ClassFacts) : List String :=
  match c.moduleMetadata? with
  | some metadata => (metadata.itemsAt "providers").filterMap Argument.globalGuard?
  | none => []

namespace SourceFile

/-- The classes of a file that are modules. -/
def moduleClasses (f : SourceFile) : List ClassFacts :=
  f.facts.classes.filter fun c => (c.decorator? "Module").isSome

/-- The guards that the modules of a file provide for everything, in source order. -/
def providedGuards (f : SourceFile) : List String :=
  f.moduleClasses.flatMap ClassFacts.providedGuards

end SourceFile

namespace Project

/-- Some module of the file imports a class that is declared at the path. -/
def ImportsFrom (p : Project) (f : SourceFile) (c : ClassFacts) (path : Path) : Prop :=
  ∃ metadata, c.moduleMetadata? = some metadata ∧
    ∃ item ∈ metadata.itemsAt "imports", ∃ name, item.moduleName? = some name ∧
      ∃ declared isDefault, p.locateClass f name = .found path declared isDefault

/-- Some module of the file at the first path imports a class of the file at the second. -/
def Imports (p : Project) (path path' : Path) : Prop :=
  ∃ f, p.fileAt? path = some f ∧ ∃ c ∈ f.moduleClasses, p.ImportsFrom f c path'

/-- The second path can be reached from the first along imports. -/
def Reaches (p : Project) : Path → Path → Prop := Relation.ReflTransGen p.Imports

/-- The module lists a controller that is the class of that name at the path. -/
def ListsController (p : Project) (f : SourceFile) (c : ClassFacts) (path : Path)
    (declared : String) : Prop :=
  ∃ metadata, c.moduleMetadata? = some metadata ∧
    ∃ item ∈ metadata.itemsAt "controllers", ∃ name, item.referencedName? = some name ∧
      ∃ isDefault, p.locateClass f name = .found path declared isDefault

/-- The modules of the file at a path. -/
def modulesAt (p : Project) (path : Path) : List ClassFacts :=
  match p.fileAt? path with
  | some f => f.moduleClasses
  | none => []

/-- An import only leads to files of the project. -/
theorem isSome_fileAt?_of_resolveModule {p : Project} {origin path : Path} {module : String}
    (h : p.resolveModule origin module = .file path) : (p.fileAt? path).isSome := by
  unfold resolveModule at h
  split at h
  · cases h
  · simp only at h
    split at h
    · rename_i key hkey
      cases h
      have hsome := List.find?_some hkey
      exact hsome
    · cases h

/-- A class is only found in files of the project. -/
theorem isSome_fileAt?_of_found {p : Project} {path path' : Path} {f : SourceFile}
    {name declared : String} {isDefault : Bool} (hf : p.fileAt? path = some f)
    (h : p.locateClass f name = .found path' declared isDefault) : (p.fileAt? path').isSome := by
  unfold locateClass at h
  split at h
  · cases h
    rw [path_eq_of_fileAt? hf, hf]
    rfl
  · split at h
    · split at h
      · split at h
        · rename_i target htarget
          cases h
          exact isSome_fileAt?_of_resolveModule htarget
        · cases h
        · cases h
      · cases h
    · cases h

theorem isSome_fileAt?_of_imports {p : Project} {path path' : Path} (h : p.Imports path path') :
    (p.fileAt? path').isSome := by
  obtain ⟨f, hf, c, _, metadata, _, item, _, name, _, declared, isDefault, hfound⟩ := h
  exact isSome_fileAt?_of_found hf hfound

end Project

/-! ## Runs -/

namespace ModuleTask

theorem enter_mem_following {p : Project} {f : SourceFile} {c : ClassFacts} {path : Path} :
    enter path ∈ following p f c ↔ p.ImportsFrom f c path := by
  unfold following Project.ImportsFrom
  cases c.moduleMetadata? with
  | none => simp
  | some metadata =>
    simp only [ofImports, List.mem_filterMap, Option.some.injEq, exists_eq_left']
    constructor
    · rintro ⟨name, ⟨item, hitem, hname⟩, hloc⟩
      refine ⟨item, hitem, name, hname, ?_⟩
      split at hloc
      · rename_i path' declared isDefault hfound
        cases hloc
        exact ⟨declared, isDefault, hfound⟩
      · cases hloc
      · cases hloc
    · rintro ⟨item, hitem, name, hname, declared, isDefault, hfound⟩
      exact ⟨name, ⟨item, hitem, hname⟩, by rw [hfound]⟩

theorem collect_notMem_following {p : Project} {f g : SourceFile} {c d : ClassFacts}
    {isEntry : Bool} : collect g d isEntry ∉ following p f c := by
  intro h
  unfold following at h
  split at h
  · obtain ⟨name, _, hname⟩ := List.mem_filterMap.1 h
    split at hname <;> cases hname
  · cases h

theorem ofFile_eq (f : SourceFile) (isEntry : Bool) :
    ofFile f isEntry = f.moduleClasses.map fun c => collect f c isEntry := rfl

end ModuleTask

open ModuleTask

/-- The walk from visited files and tasks enters these files, and does these tasks, in order. -/
inductive ModuleRun (p : Project) : List Path → List ModuleTask → List Path → List ModuleTask → Prop
  | done {visited : List Path} : ModuleRun p visited [] [] []
  | report {visited entered : List Path} {tasks did : List ModuleTask} {d : Diagnostic}
      (rest : ModuleRun p visited tasks entered did) :
      ModuleRun p visited (.report d :: tasks) entered (.report d :: did)
  | collect {visited entered : List Path} {tasks did : List ModuleTask} {f : SourceFile}
      {c : ClassFacts} {isEntry : Bool}
      (rest : ModuleRun p visited (following p f c ++ tasks) entered did) :
      ModuleRun p visited (.collect f c isEntry :: tasks) entered (.collect f c isEntry :: did)
  | pass {visited entered : List Path} {tasks did : List ModuleTask} {path : Path}
      (known : path ∈ visited ∨ p.fileAt? path = none)
      (rest : ModuleRun p visited tasks entered did) :
      ModuleRun p visited (.enter path :: tasks) entered did
  | enter {visited entered : List Path} {tasks did : List ModuleTask} {path : Path}
      {f : SourceFile} (fresh : path ∉ visited) (stored : p.fileAt? path = some f)
      (rest : ModuleRun p (path :: visited) (ofFile f false ++ tasks) entered did) :
      ModuleRun p visited (.enter path :: tasks) (path :: entered) did

/-- What doing a task adds to the graph; entering a file adds nothing by itself. -/
def ModuleGraph.perform (p : Project) (g : ModuleGraph) : ModuleTask → ModuleGraph
  | .enter _ => g
  | .collect f c isEntry => g.collect p f c isEntry
  | .report d => g.addDiagnostic d

/-- The walk returns the effect of the tasks of a run. -/
theorem runModules_eq (p : Project) (visited : List Path) (g : ModuleGraph)
    (tasks : List ModuleTask) :
    ∃ entered did, ModuleRun p visited tasks entered did ∧
      p.runModules visited g tasks = did.foldl (ModuleGraph.perform p) g := by
  fun_induction Project.runModules p visited g tasks with
  | case1 visited g => exact ⟨[], [], .done, rfl⟩
  | case2 visited g d tasks ih =>
    obtain ⟨entered, did, hrun, heq⟩ := ih
    exact ⟨entered, .report d :: did, .report hrun, heq⟩
  | case3 visited g f c isEntry tasks ih =>
    obtain ⟨entered, did, hrun, heq⟩ := ih
    exact ⟨entered, .collect f c isEntry :: did, .collect hrun, heq⟩
  | case4 visited g path tasks hmem ih =>
    obtain ⟨entered, did, hrun, heq⟩ := ih
    exact ⟨entered, did, .pass (Or.inl hmem) hrun, heq⟩
  | case5 visited g path tasks hmem f hf ih =>
    obtain ⟨entered, did, hrun, heq⟩ := ih
    exact ⟨path :: entered, did, .enter hmem hf hrun, heq⟩
  | case6 visited g path tasks hmem hf ih =>
    obtain ⟨entered, did, hrun, heq⟩ := ih
    exact ⟨entered, did, .pass (Or.inr hf) hrun, heq⟩

/-! ## Which files are entered -/

/-- Paths that tasks may lead to before another file is entered. -/
def Pending (p : Project) (tasks : List ModuleTask) (path : Path) : Prop :=
  .enter path ∈ tasks ∨ ∃ f c isEntry, .collect f c isEntry ∈ tasks ∧ p.ImportsFrom f c path

theorem pending_ofFile {p : Project} {f : SourceFile} {isEntry : Bool} {path : Path} :
    Pending p (ofFile f isEntry) path ↔ ∃ c ∈ f.moduleClasses, p.ImportsFrom f c path := by
  unfold Pending
  rw [ofFile_eq]
  constructor
  · rintro (h | ⟨g, c, b, h, himp⟩)
    · obtain ⟨c, _, hc⟩ := List.mem_map.1 h
      cases hc
    · obtain ⟨d, hd, heq⟩ := List.mem_map.1 h
      cases heq
      exact ⟨c, hd, himp⟩
  · rintro ⟨c, hc, himp⟩
    exact Or.inr ⟨f, c, isEntry, List.mem_map.2 ⟨c, hc, rfl⟩, himp⟩

theorem pending_append {p : Project} {tasks tasks' : List ModuleTask} {path : Path} :
    Pending p (tasks ++ tasks') path ↔ Pending p tasks path ∨ Pending p tasks' path := by
  unfold Pending
  simp only [List.mem_append]
  constructor
  · rintro ((h | h) | ⟨f, c, b, h | h, himp⟩)
    · exact Or.inl (Or.inl h)
    · exact Or.inr (Or.inl h)
    · exact Or.inl (Or.inr ⟨f, c, b, h, himp⟩)
    · exact Or.inr (Or.inr ⟨f, c, b, h, himp⟩)
  · rintro ((h | ⟨f, c, b, h, himp⟩) | (h | ⟨f, c, b, h, himp⟩))
    · exact Or.inl (Or.inl h)
    · exact Or.inr ⟨f, c, b, Or.inl h, himp⟩
    · exact Or.inl (Or.inr h)
    · exact Or.inr ⟨f, c, b, Or.inr h, himp⟩

theorem pending_following {p : Project} {f : SourceFile} {c : ClassFacts} {path : Path} :
    Pending p (following p f c) path ↔ p.ImportsFrom f c path := by
  constructor
  · rintro (h | ⟨g, d, b, h, _⟩)
    · exact enter_mem_following.1 h
    · exact absurd h collect_notMem_following
  · exact fun h => Or.inl (enter_mem_following.2 h)

/-- The tasks that follow from a module lead where the module leads. -/
theorem pending_collect {p : Project} {f : SourceFile} {c : ClassFacts} {isEntry : Bool}
    {tasks : List ModuleTask} {path : Path} :
    Pending p (.collect f c isEntry :: tasks) path ↔
      Pending p (following p f c ++ tasks) path := by
  have hone : Pending p [.collect f c isEntry] path ↔ p.ImportsFrom f c path := by
    constructor
    · rintro (h | ⟨g, d, b, h, himp⟩)
      · simp at h
      · cases List.mem_singleton.1 h
        exact himp
    · exact fun himp => Or.inr ⟨f, c, isEntry, List.mem_singleton.2 rfl, himp⟩
  rw [← List.singleton_append, pending_append, pending_append, hone, pending_following]

theorem pending_enter {p : Project} {tasks : List ModuleTask} {path path' : Path} :
    Pending p (.enter path :: tasks) path' ↔ path' = path ∨ Pending p tasks path' := by
  unfold Pending
  simp [or_assoc]

theorem pending_report {p : Project} {tasks : List ModuleTask} {d : Diagnostic} {path : Path} :
    Pending p (.report d :: tasks) path ↔ Pending p tasks path := by
  unfold Pending
  simp

namespace ModuleRun

variable {p : Project} {visited entered : List Path} {tasks did : List ModuleTask}

/-- No file is entered twice, or after it was visited. -/
theorem nodup (h : ModuleRun p visited tasks entered did) :
    entered.Nodup ∧ ∀ path ∈ entered, path ∉ visited := by
  induction h with
  | done => exact ⟨List.nodup_nil, fun _ h => by cases h⟩
  | report _ ih => exact ih
  | collect _ ih => exact ih
  | pass _ _ ih => exact ih
  | enter fresh stored rest ih =>
    obtain ⟨hnodup, hfresh⟩ := ih
    refine ⟨List.nodup_cons.2 ⟨fun hmem => hfresh _ hmem List.mem_cons_self, hnodup⟩, ?_⟩
    intro path hpath
    rcases List.mem_cons.1 hpath with rfl | hpath
    · exact fresh
    · exact fun hv => hfresh path hpath (List.mem_cons_of_mem _ hv)

/-- Every stored file that was pending is visited or entered in the end. -/
theorem pending_entered (h : ModuleRun p visited tasks entered did) :
    ∀ path, Pending p tasks path → (p.fileAt? path).isSome → path ∈ visited ∨ path ∈ entered := by
  induction h with
  | done =>
    rintro path (h | ⟨f, c, b, h, _⟩) _ <;> cases h
  | report _ ih => exact fun path hp => ih path (pending_report.1 hp)
  | collect _ ih => exact fun path hp => ih path (pending_collect.1 hp)
  | pass known _ ih =>
    intro path hp hstored
    rcases pending_enter.1 hp with rfl | hp
    · rcases known with hv | hnone
      · exact Or.inl hv
      · rw [hnone] at hstored
        cases hstored
    · exact ih path hp hstored
  | enter fresh stored rest ih =>
    intro path hp hstored
    rcases pending_enter.1 hp with rfl | hp
    · exact Or.inr List.mem_cons_self
    · rcases ih path (pending_append.2 (Or.inr hp)) hstored with hv | he
      · rcases List.mem_cons.1 hv with rfl | hv
        · exact Or.inr List.mem_cons_self
        · exact Or.inl hv
      · exact Or.inr (List.mem_cons_of_mem _ he)

/-- What a file imports that was entered is visited or entered in the end. -/
theorem closed (h : ModuleRun p visited tasks entered did) :
    ∀ path ∈ entered, ∀ path', p.Imports path path' → path' ∈ visited ∨ path' ∈ entered := by
  induction h with
  | done => exact fun _ h => by cases h
  | report _ ih => exact ih
  | collect _ ih => exact ih
  | pass _ _ ih => exact ih
  | @enter visited entered tasks did path f fresh stored rest ih =>
    intro q hq path' himp
    have hin : path' ∈ path :: visited ∨ path' ∈ entered := by
      rcases List.mem_cons.1 hq with rfl | hq
      · obtain ⟨g, hg, hmodule⟩ := himp
        rw [stored] at hg
        cases hg
        exact rest.pending_entered path' (pending_append.2 (Or.inl (pending_ofFile.2 hmodule)))
          (Project.isSome_fileAt?_of_imports ⟨f, stored, hmodule⟩)
      · exact ih q hq path' himp
    rcases hin with hv | he
    · rcases List.mem_cons.1 hv with rfl | hv
      · exact Or.inr List.mem_cons_self
      · exact Or.inl hv
    · exact Or.inr (List.mem_cons_of_mem _ he)

/-- Every file that is entered is reached from a path that was pending. -/
theorem reached (h : ModuleRun p visited tasks entered did) :
    ∀ path ∈ entered, ∃ start, Pending p tasks start ∧ p.Reaches start path := by
  induction h with
  | done => exact fun _ h => by cases h
  | report _ ih =>
    intro path hpath
    obtain ⟨start, hp, hr⟩ := ih path hpath
    exact ⟨start, pending_report.2 hp, hr⟩
  | collect _ ih =>
    intro path hpath
    obtain ⟨start, hp, hr⟩ := ih path hpath
    exact ⟨start, pending_collect.2 hp, hr⟩
  | pass _ _ ih =>
    intro path hpath
    obtain ⟨start, hp, hr⟩ := ih path hpath
    exact ⟨start, pending_enter.2 (Or.inr hp), hr⟩
  | @enter visited entered tasks did path f fresh stored rest ih =>
    intro q hq
    rcases List.mem_cons.1 hq with rfl | hq
    · exact ⟨q, pending_enter.2 (Or.inl rfl), .refl⟩
    · obtain ⟨start, hp, hr⟩ := ih q hq
      rcases pending_append.1 hp with hp | hp
      · have himp : p.Imports path start := ⟨f, stored, pending_ofFile.1 hp⟩
        exact ⟨path, pending_enter.2 (Or.inl rfl), .head himp hr⟩
      · exact ⟨start, pending_enter.2 (Or.inr hp), hr⟩

end ModuleRun

/-! ## Which modules are collected -/

/-- The modules that tasks collect, with their files. -/
def collectedModules (tasks : List ModuleTask) : List (SourceFile × ClassFacts) :=
  tasks.filterMap fun
    | .collect f c _ => some (f, c)
    | _ => none

/-- The modules that tasks collect for an entry file. -/
def entryModules (tasks : List ModuleTask) : List ClassFacts :=
  tasks.filterMap fun
    | .collect _ c true => some c
    | _ => none

theorem collectedModules_append (tasks tasks' : List ModuleTask) :
    collectedModules (tasks ++ tasks') = collectedModules tasks ++ collectedModules tasks' :=
  List.filterMap_append

theorem entryModules_append (tasks tasks' : List ModuleTask) :
    entryModules (tasks ++ tasks') = entryModules tasks ++ entryModules tasks' :=
  List.filterMap_append

theorem collectedModules_following (p : Project) (f : SourceFile) (c : ClassFacts) :
    collectedModules (following p f c) = [] := by
  refine List.filterMap_eq_nil_iff.2 fun t ht => ?_
  cases t with
  | enter _ => rfl
  | report _ => rfl
  | collect _ _ _ => exact absurd ht collect_notMem_following

theorem entryModules_following (p : Project) (f : SourceFile) (c : ClassFacts) :
    entryModules (following p f c) = [] := by
  refine List.filterMap_eq_nil_iff.2 fun t ht => ?_
  cases t with
  | enter _ => rfl
  | report _ => rfl
  | collect _ _ _ => exact absurd ht collect_notMem_following

theorem collectedModules_ofFile (f : SourceFile) (isEntry : Bool) :
    collectedModules (ofFile f isEntry) = f.moduleClasses.map fun c => (f, c) := by
  rw [ofFile_eq, collectedModules, List.filterMap_map]
  exact congrFun List.filterMap_eq_map _

theorem entryModules_ofFile_true (f : SourceFile) :
    entryModules (ofFile f true) = f.moduleClasses := by
  rw [ofFile_eq, entryModules, List.filterMap_map]
  exact List.filterMap_some

theorem entryModules_ofFile_false (f : SourceFile) : entryModules (ofFile f false) = [] := by
  rw [ofFile_eq, entryModules, List.filterMap_map]
  exact List.filterMap_eq_nil_iff.2 fun _ _ => rfl

/-- The modules of the file at a path, with the file. -/
def Project.filedModules (p : Project) (path : Path) : List (SourceFile × ClassFacts) :=
  match p.fileAt? path with
  | some f => f.moduleClasses.map fun c => (f, c)
  | none => []

theorem Project.mem_filedModules {p : Project} {path : Path} {f : SourceFile} {c : ClassFacts} :
    (f, c) ∈ p.filedModules path ↔ p.fileAt? path = some f ∧ c ∈ f.moduleClasses := by
  unfold filedModules
  split
  · rename_i g hg
    simp only [List.mem_map, Prod.mk.injEq, hg, Option.some.injEq]
    constructor
    · rintro ⟨d, hd, rfl, rfl⟩
      exact ⟨rfl, hd⟩
    · rintro ⟨rfl, hc⟩
      exact ⟨c, hc, rfl, rfl⟩
  · rename_i hg
    simp [hg]

theorem Project.map_snd_filedModules (p : Project) (path : Path) :
    (p.filedModules path).map Prod.snd = p.modulesAt path := by
  unfold filedModules modulesAt
  split <;> simp [Function.comp_def]

namespace ModuleRun

variable {p : Project} {visited entered : List Path} {tasks did : List ModuleTask}

/-- The modules of each file that is entered are collected once, beside those already listed. -/
theorem collected_perm (h : ModuleRun p visited tasks entered did) :
    (collectedModules did).Perm (collectedModules tasks ++ entered.flatMap p.filedModules) := by
  induction h with
  | done => exact .refl _
  | report _ ih => exact ih
  | collect _ ih =>
    rw [collectedModules_append, collectedModules_following, List.nil_append] at ih
    exact ih.cons _
  | pass _ _ ih => exact ih
  | @enter visited entered tasks did path f fresh stored rest ih =>
    have hfile : p.filedModules path = f.moduleClasses.map fun c => (f, c) := by
      unfold Project.filedModules
      rw [stored]
    rw [collectedModules_append, collectedModules_ofFile, ← hfile] at ih
    rw [List.flatMap_cons, ← List.append_assoc]
    exact ih.trans (List.perm_append_comm.append_right _)

/-- Only the tasks that were there at first collect for an entry file. -/
theorem entryModules_did (h : ModuleRun p visited tasks entered did) :
    entryModules did = entryModules tasks := by
  induction h with
  | done => rfl
  | report _ ih => exact ih
  | @collect visited entered tasks did f c isEntry rest ih =>
    rw [entryModules_append, entryModules_following, List.nil_append] at ih
    cases isEntry with
    | true => exact congrArg (c :: ·) ih
    | false => exact ih
  | pass _ _ ih => exact ih
  | enter _ _ _ ih =>
    rw [entryModules_append, entryModules_ofFile_false, List.nil_append] at ih
    exact ih

end ModuleRun

/-! ## What the graph gains -/

namespace ModuleGraph

variable (p : Project) (f : SourceFile) (c : ClassFacts)

/-- The classes that are listed as controllers. -/
def controllerKeys (g : ModuleGraph) : List (Path × String) :=
  g.controllers.map fun d => (d.file, d.name)

theorem controllerKeys_addController (g : ModuleGraph) (d : ControllerRef) :
    (g.addController d).controllerKeys =
      if (d.file, d.name) ∈ g.controllerKeys then g.controllerKeys
      else g.controllerKeys ++ [(d.file, d.name)] := by
  have hany : (g.controllers.any fun e => e.file == d.file && e.name == d.name) = true ↔
      (d.file, d.name) ∈ g.controllerKeys := by
    simp [controllerKeys]
  unfold addController
  by_cases h : (d.file, d.name) ∈ g.controllerKeys
  · rw [if_pos (hany.2 h), if_pos h]
  · rw [if_neg fun hn => h (hany.1 hn), if_neg h]
    simp [controllerKeys]

/-- Listing a controller changes neither the modules nor the guards. -/
theorem listController_frame (module : String) (g : ModuleGraph) (name : String) :
    (listController p f module g name).modules = g.modules ∧
      (listController p f module g name).globalGuards = g.globalGuards := by
  unfold listController addController
  split
  · split <;> exact ⟨rfl, rfl⟩
  · exact ⟨rfl, rfl⟩
  · exact ⟨rfl, rfl⟩

theorem foldl_listController_frame (module : String) :
    ∀ (names : List String) (g : ModuleGraph),
      (names.foldl (listController p f module) g).modules = g.modules ∧
        (names.foldl (listController p f module) g).globalGuards = g.globalGuards
  | [], _ => ⟨rfl, rfl⟩
  | name :: names, g => by
    obtain ⟨hm, hg⟩ := listController_frame p f module g name
    rw [List.foldl_cons, ← hm, ← hg]
    exact foldl_listController_frame module names _

theorem listController_keys (module : String) (g : ModuleGraph) (name : String) :
    (g.controllerKeys.Nodup → (listController p f module g name).controllerKeys.Nodup) ∧
      ∀ key, key ∈ (listController p f module g name).controllerKeys ↔
        key ∈ g.controllerKeys ∨
          ∃ isDefault, p.locateClass f name = .found key.1 key.2 isDefault := by
  unfold listController
  split
  · rename_i path declared isDefault hfound
    rw [controllerKeys_addController]
    simp only [hfound, ClassLocation.found.injEq]
    split
    · rename_i hmem
      refine ⟨id, fun key => ⟨Or.inl, ?_⟩⟩
      rintro (hk | ⟨_, rfl, rfl, _⟩)
      · exact hk
      · exact hmem
    · rename_i hmem
      refine ⟨fun hn => hn.append (List.nodup_singleton _) (by simpa using hmem), fun key => ?_⟩
      rw [List.mem_append, List.mem_singleton]
      refine or_congr_right ⟨?_, ?_⟩
      · rintro rfl
        exact ⟨isDefault, rfl, rfl, rfl⟩
      · rintro ⟨_, hpath, hname, _⟩
        rw [hpath, hname]
  · rename_i guess source hmissing
    simp [hmissing, controllerKeys, addDiagnostic]
  · rename_i helse
    simp [helse]

theorem foldl_listController_keys (module : String) :
    ∀ (names : List String) (g : ModuleGraph),
      (g.controllerKeys.Nodup →
        (names.foldl (listController p f module) g).controllerKeys.Nodup) ∧
      ∀ key, key ∈ (names.foldl (listController p f module) g).controllerKeys ↔
        key ∈ g.controllerKeys ∨
          ∃ name ∈ names, ∃ isDefault, p.locateClass f name = .found key.1 key.2 isDefault
  | [], g => ⟨id, by simp⟩
  | name :: names, g => by
    obtain ⟨hnodup, hkeys⟩ := listController_keys p f module g name
    obtain ⟨hnodup', hkeys'⟩ :=
      foldl_listController_keys module names (listController p f module g name)
    refine ⟨fun hn => hnodup' (hnodup hn), fun key => ?_⟩
    rw [List.foldl_cons, hkeys', hkeys]
    simp only [List.mem_cons, exists_eq_or_imp, or_assoc]

/-- What collecting one module adds. -/
theorem collect_spec (isEntry : Bool) (g : ModuleGraph) :
    (g.collect p f c isEntry).modules = g.modules ++ [c.name] ∧
      (g.collect p f c isEntry).globalGuards =
        g.globalGuards ++ (if isEntry then c.providedGuards else []) ∧
      (g.controllerKeys.Nodup → (g.collect p f c isEntry).controllerKeys.Nodup) ∧
      ∀ key, key ∈ (g.collect p f c isEntry).controllerKeys ↔
        key ∈ g.controllerKeys ∨ p.ListsController f c key.1 key.2 := by
  unfold collect ClassFacts.providedGuards Project.ListsController
  cases c.moduleMetadata? with
  | none => simp [controllerKeys]
  | some metadata =>
    simp only [Option.some.injEq, exists_eq_left']
    obtain ⟨hm, hg⟩ := foldl_listController_frame p f c.name
      ((metadata.itemsAt "controllers").filterMap Argument.referencedName?)
      { g with modules := g.modules ++ [c.name] }
    obtain ⟨hnodup, hkeys⟩ := foldl_listController_keys p f c.name
      ((metadata.itemsAt "controllers").filterMap Argument.referencedName?)
      { g with modules := g.modules ++ [c.name] }
    have hlists : ∀ key : Path × String,
        (∃ name ∈ (metadata.itemsAt "controllers").filterMap Argument.referencedName?,
          ∃ isDefault, p.locateClass f name = .found key.1 key.2 isDefault) ↔
        ∃ item ∈ metadata.itemsAt "controllers", ∃ name, item.referencedName? = some name ∧
          ∃ isDefault, p.locateClass f name = .found key.1 key.2 isDefault := by
      intro key
      simp only [List.mem_filterMap]
      constructor
      · rintro ⟨name, ⟨item, hitem, hname⟩, hfound⟩
        exact ⟨item, hitem, name, hname, hfound⟩
      · rintro ⟨item, hitem, name, hname, hfound⟩
        exact ⟨name, ⟨item, hitem, hname⟩, hfound⟩
    simp only [hlists] at hkeys
    cases isEntry with
    | true => exact ⟨hm, by simp only [hg, if_true], hnodup, hkeys⟩
    | false => exact ⟨hm, by simp [hg], hnodup, hkeys⟩

/-- What doing the tasks of a run adds. -/
theorem foldl_perform_spec :
    ∀ (did : List ModuleTask) (g : ModuleGraph),
      (did.foldl (perform p) g).modules =
          g.modules ++ (collectedModules did).map (fun m => m.2.name) ∧
        (did.foldl (perform p) g).globalGuards =
          g.globalGuards ++ (entryModules did).flatMap ClassFacts.providedGuards ∧
        (g.controllerKeys.Nodup → (did.foldl (perform p) g).controllerKeys.Nodup) ∧
        ∀ key, key ∈ (did.foldl (perform p) g).controllerKeys ↔
          key ∈ g.controllerKeys ∨
            ∃ m ∈ collectedModules did, p.ListsController m.1 m.2 key.1 key.2
  | [], g => by simp [collectedModules, entryModules]
  | .enter path :: did, g => foldl_perform_spec did g
  | .report d :: did, g => foldl_perform_spec did (g.addDiagnostic d)
  | .collect f c isEntry :: did, g => by
    obtain ⟨hm, hg, hn, hk⟩ := collect_spec p f c isEntry g
    obtain ⟨hm', hg', hn', hk'⟩ := foldl_perform_spec did (g.collect p f c isEntry)
    have hcollected : collectedModules (.collect f c isEntry :: did) =
      (f, c) :: collectedModules did := rfl
    rw [List.foldl_cons]
    refine ⟨?_, ?_, fun h => hn' (hn h), fun key => ?_⟩
    · rw [perform, hm', hm, hcollected, List.map_cons, List.append_assoc]
      rfl
    · rw [perform, hg', hg, List.append_assoc]
      cases isEntry <;> rfl
    · rw [perform, hk', hk, hcollected]
      simp only [List.mem_cons, exists_eq_or_imp, or_assoc]

end ModuleGraph

/-! ## The graph from an entry file -/

/-- The files that a run from an entry enters, the entry included, are those that it reaches. -/
theorem mem_entered_iff_reaches {p : Project} {entry : Path} {file : SourceFile}
    {entered : List Path} {did : List ModuleTask} (hfile : p.fileAt? entry = some file)
    (hrun : ModuleRun p [entry] (ofFile file true) entered did) (path : Path) :
    path ∈ entry :: entered ↔ p.Reaches entry path := by
  constructor
  · intro h
    rcases List.mem_cons.1 h with rfl | h
    · exact .refl
    · obtain ⟨start, hp, hr⟩ := hrun.reached path h
      exact .head ⟨file, hfile, pending_ofFile.1 hp⟩ hr
  · intro h
    induction h with
    | refl => exact List.mem_cons_self
    | @tail q path' _ himp ih =>
      have hin : path' ∈ [entry] ∨ path' ∈ entered := by
        rcases List.mem_cons.1 ih with rfl | hq
        · obtain ⟨g, hg, hmodule⟩ := himp
          rw [hfile] at hg
          cases hg
          exact hrun.pending_entered path' (pending_ofFile.2 hmodule)
            (Project.isSome_fileAt?_of_imports ⟨file, hfile, hmodule⟩)
        · exact hrun.closed q hq path' himp
      rcases hin with h | h
      · exact List.mem_cons.2 (Or.inl (List.mem_singleton.1 h))
      · exact List.mem_cons_of_mem _ h

/-- **The graph from an entry file is the closure of its imports.**  The modules are those of the
files reached, each once; the controllers are distinct, and are those that some module reached
lists; the guards for everything are those of the entry file alone, also if it is imported again. -/
theorem moduleGraph_closure (p : Project) (entry : Path) (file : SourceFile)
    (hfile : p.file? entry = some file) (hkey : file.path = entry) :
    ∃ g, p.moduleGraph? entry = some g ∧
      (∃ paths : List Path, paths.Nodup ∧ (∀ path, path ∈ paths ↔ p.Reaches entry path) ∧
        g.modules.Perm (paths.flatMap fun path => (p.modulesAt path).map ClassFacts.name)) ∧
      (g.controllers.map fun c => (c.file, c.name)).Nodup ∧
      (∀ path name, (path, name) ∈ g.controllers.map (fun c => (c.file, c.name)) ↔
        ∃ origin f, p.Reaches entry origin ∧ p.fileAt? origin = some f ∧
          ∃ c ∈ f.moduleClasses, p.ListsController f c path name) ∧
      g.globalGuards = file.providedGuards := by
  have hstored : p.fileAt? entry = some file := by
    have habs : file.path = p.absolute entry := Project.path_eq_of_fileAt? hfile
    rw [← hkey, habs]
    exact hfile
  obtain ⟨entered, did, hrun, heq⟩ := runModules_eq p [entry] .nothing (ofFile file true)
  obtain ⟨hmodules, hguards, hnodup, hkeys⟩ := ModuleGraph.foldl_perform_spec p did .nothing
  have hreach := mem_entered_iff_reaches hstored hrun
  have hperm : (collectedModules did).Perm ((entry :: entered).flatMap p.filedModules) := by
    have hentry : p.filedModules entry = file.moduleClasses.map fun c => (file, c) := by
      unfold Project.filedModules
      rw [hstored]
    rw [List.flatMap_cons, hentry, ← collectedModules_ofFile file true]
    exact hrun.collected_perm
  refine ⟨_, by rw [Project.moduleGraph?, hfile, Option.map_some, heq], ?_, ?_, ?_, ?_⟩
  · refine ⟨entry :: entered, ?_, hreach, ?_⟩
    · obtain ⟨hn, hfresh⟩ := hrun.nodup
      exact List.nodup_cons.2 ⟨fun h => hfresh entry h List.mem_cons_self, hn⟩
    · rw [hmodules, show ModuleGraph.nothing.modules = [] from rfl, List.nil_append]
      have hnames := hperm.map fun m => m.2.name
      rw [List.map_flatMap] at hnames
      simpa [← Project.map_snd_filedModules, Function.comp_def] using hnames
  · exact hnodup List.nodup_nil
  · intro path name
    refine (hkeys (path, name)).trans ?_
    constructor
    · rintro (h | ⟨⟨f, c⟩, hm, hlists⟩)
      · cases h
      · obtain ⟨origin, horigin, hfiled⟩ := List.mem_flatMap.1 (hperm.mem_iff.1 hm)
        obtain ⟨hf, hc⟩ := Project.mem_filedModules.1 hfiled
        exact ⟨origin, f, (hreach origin).1 horigin, hf, c, hc, hlists⟩
    · rintro ⟨origin, f, hr, hf, c, hc, hlists⟩
      have hfiled : (f, c) ∈ p.filedModules origin := Project.mem_filedModules.2 ⟨hf, hc⟩
      have hm : (f, c) ∈ collectedModules did :=
        hperm.mem_iff.2 (List.mem_flatMap.2 ⟨origin, (hreach origin).2 hr, hfiled⟩)
      exact Or.inr ⟨(f, c), hm, hlists⟩
  · rw [hguards, hrun.entryModules_did, entryModules_ofFile_true]
    rfl

namespace ModuleCycle

/-- A file in `/app` with one module that imports another, lists one controller of its own and
provides one guard for everything. -/
def moduleFile (file module other source controller guard : String) : SourceFile :=
  let path : Path := ⟨true, ["app", file]⟩
  let metadata : Argument := .object
    [("imports", .array [.name other]), ("controllers", .array [.name controller]),
      ("providers", .array [.object [("provide", .name "APP_GUARD"), ("useClass", .name guard)]])]
  ⟨path, file, default,
    { imports := [⟨other, some other, source, .named⟩]
      classes := [⟨module, path, default, none, [⟨"Module", [metadata], 1⟩]⟩,
        ⟨controller, path, default, none, []⟩]
      declarations := [] }⟩

def entry : Path := ⟨true, ["app", "a.ts"]⟩

def other : Path := ⟨true, ["app", "b.ts"]⟩

def entryFile : SourceFile := moduleFile "a.ts" "A" "B" "./b" "Cats" "EntryGuard"

def otherFile : SourceFile := moduleFile "b.ts" "B" "A" "./a" "Dogs" "OtherGuard"

/-- Two modules that import each other. -/
def project : Project :=
  { base := ⟨true, ["app"]⟩
    files := [entryFile, otherFile]
    classIndex := []
    diagnostics := [] }

theorem resolve_other : project.resolveModule entry "./b" = .file other := by
  have hpath : Path.ofString "./b" = ⟨false, ["b"]⟩ := by cbv
  have hdot : "./b".startsWith "." = true := by decide +kernel
  unfold Project.resolveModule
  rw [hpath, hdot]
  rfl

theorem resolve_entry : project.resolveModule other "./a" = .file entry := by
  have hpath : Path.ofString "./a" = ⟨false, ["a"]⟩ := by cbv
  have hdot : "./a".startsWith "." = true := by decide +kernel
  unfold Project.resolveModule
  rw [hpath, hdot]
  rfl

theorem locate_other : project.locateClass entryFile "B" = .found other "B" false := by
  have hdot : Import.isRelative ⟨"B", some "B", "./b", .named⟩ = true := by decide +kernel
  change (if Import.isRelative ⟨"B", some "B", "./b", .named⟩ then _ else _) = _
  rw [if_pos hdot, show entryFile.path = entry from rfl, resolve_other]
  rfl

theorem locate_entry : project.locateClass otherFile "A" = .found entry "A" false := by
  have hdot : Import.isRelative ⟨"A", some "A", "./a", .named⟩ = true := by decide +kernel
  change (if Import.isRelative ⟨"A", some "A", "./a", .named⟩ then _ else _) = _
  rw [if_pos hdot, show otherFile.path = other from rfl, resolve_entry]
  rfl

theorem imports_other : project.Imports entry other :=
  ⟨entryFile, rfl, _, List.mem_cons_self, _, rfl, .name "B", List.mem_cons_self, "B", rfl, "B",
    false, locate_other⟩

theorem imports_entry : project.Imports other entry :=
  ⟨otherFile, rfl, _, List.mem_cons_self, _, rfl, .name "A", List.mem_cons_self, "A", rfl, "A",
    false, locate_entry⟩

/-- The entry is reached again, and still only its own guard applies everywhere, while the
controllers of both modules are listed once. -/
theorem guards_of_entry :
    (project.file? entry = some entryFile ∧ entryFile.path = entry) ∧
      project.Reaches other entry ∧
      ∃ g, project.moduleGraph? entry = some g ∧ g.globalGuards = ["EntryGuard"] ∧
        (entry, "Cats") ∈ g.controllers.map (fun c => (c.file, c.name)) ∧
        (other, "Dogs") ∈ g.controllers.map (fun c => (c.file, c.name)) ∧
        (g.controllers.map fun c => (c.file, c.name)).Nodup := by
  have hfile : project.file? entry = some entryFile := rfl
  obtain ⟨g, hg, -, hnodup, hkeys, hguards⟩ :=
    moduleGraph_closure project entry entryFile hfile rfl
  refine ⟨⟨hfile, rfl⟩, .single imports_entry, g, hg, hguards, (hkeys _ _).2 ?_, (hkeys _ _).2 ?_,
    hnodup⟩
  · exact ⟨entry, entryFile, .refl, rfl, _, List.mem_cons_self, _, rfl, .name "Cats",
      List.mem_cons_self, "Cats", rfl, false, rfl⟩
  · exact ⟨other, otherFile, .single imports_other, rfl, _, List.mem_cons_self, _, rfl,
      .name "Dogs", List.mem_cons_self, "Dogs", rfl, false, rfl⟩

end ModuleCycle

end RouteInventory
