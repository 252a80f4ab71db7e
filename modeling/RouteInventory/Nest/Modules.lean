import RouteInventory.Project

/-!
# The graph of modules

A class with a `@Module` decorator lists controllers, imports further modules and may provide guards
for the whole application.  `Project.moduleGraph` visits the file of the entry module and every file
that modules are imported from, each once, and collects what the modules there list.  Modules and
controllers of packages are passed over.

The walk keeps a list of things to do, the next one first, so that it meets modules in depth-first
order.  It ends because a file is entered once and a module has finitely many imports.
-/

namespace RouteInventory

/-- A controller that a module lists. -/
structure ControllerRef where
  /-- The name of the class in the file that declares it. -/
  name : String
  file : Path
  /-- Whether it was imported as that file's default, so that the name may be another. -/
  isDefault : Bool
  /-- The module that lists it. -/
  module : String
  deriving DecidableEq, Repr, Inhabited

/-- What the modules of an application list. -/
structure ModuleGraph where
  /-- In the order in which they are met. -/
  modules : List String
  controllers : List ControllerRef
  /-- The guards that the entry module provides for everything. -/
  globalGuards : List String
  diagnostics : List Diagnostic
  deriving DecidableEq, Repr, Inhabited

/-- Where a class is declared that a file refers to by name. -/
inductive ClassLocation where
  | found (file : Path) (name : String) (isDefault : Bool)
  | missing (guess : Path) (module : String)
  /-- Not in the project. -/
  | elsewhere
  deriving DecidableEq, Repr, Inhabited

namespace Argument

/-- The text before the first dot, if there is one. -/
def beforeDot? (s : String) : Option String :=
  if s.toList.contains '.' then some (String.ofList (s.toList.takeWhile (· != '.'))) else none

/-- The module that an item of a module's imports names: `M`, `forwardRef(() => M)` or
`M.forRoot(…)`. -/
def moduleName? : Argument → Option String
  | name n => some n
  | call "forwardRef" args =>
    match args.head? with
    | some (arrow inner) => inner.referencedName?
    | some argument => argument.referencedName?
    | none => none
  | call callee _ => beforeDot? callee
  | _ => none

/-- The items of an array under a key. -/
def itemsAt (metadata : Argument) (key : String) : List Argument :=
  ((metadata.get? key).map items).getD []

/-- The guard that a provider makes apply everywhere. -/
def globalGuard? (provider : Argument) : Option String :=
  if (provider.get? "provide").bind referencedName? == some "APP_GUARD" then
    (provider.get? "useClass").bind referencedName?
  else none

end Argument

/-- The metadata of a module, if the class is one and has any. -/
def ClassFacts.moduleMetadata? (c : ClassFacts) : Option Argument :=
  (c.decorator? "Module").bind fun d => d.arguments.head?

namespace Project

/-- Where a class is declared that a file refers to by name. -/
def locateClass (p : Project) (file : SourceFile) (name : String) : ClassLocation :=
  if (file.facts.class? name).isSome then .found file.path name false
  else
    match file.facts.import? name with
    | some i =>
      if i.isRelative then
        match p.resolveModule file.path i.module with
        | .file path => .found path i.exportedName (i.kind == .default)
        | .missing guess => .missing guess i.module
        | .package _ => .elsewhere
      else .elsewhere
    | none => .elsewhere

/-- The diagnostic for a class whose file was not found. -/
def missingClass (p : Project) (what name module : String) (guess : Path) : Diagnostic :=
  ⟨.missingFile, p.relative guess,
    s!"{what} '{name}' imported from '{module}' could not be resolved"⟩

end Project

/-! ## The walk -/

/-- What a walk over modules does next. -/
inductive ModuleTask where
  /-- Visits a file, unless it was visited before. -/
  | enter (path : Path)
  /-- Collects what a module lists, and goes on to its imports. -/
  | collect (file : SourceFile) (module : ClassFacts) (isEntry : Bool)
  | report (diagnostic : Diagnostic)

namespace ModuleTask

/-- The tasks for the modules that a module imports. -/
def ofImports (p : Project) (file : SourceFile) (metadata : Argument) : List ModuleTask :=
  ((metadata.itemsAt "imports").filterMap Argument.moduleName?).filterMap fun name =>
    match p.locateClass file name with
    | .found path _ _ => some (enter path)
    | .missing guess module => some (report (p.missingClass "module" name module guess))
    | .elsewhere => none

/-- The tasks that follow from collecting what a module lists. -/
def following (p : Project) (file : SourceFile) (module : ClassFacts) : List ModuleTask :=
  match module.moduleMetadata? with
  | some metadata => ofImports p file metadata
  | none => []

/-- The tasks that follow from entering a file. -/
def ofFile (file : SourceFile) (isEntry : Bool) : List ModuleTask :=
  (file.facts.classes.filter fun c => (c.decorator? "Module").isSome).map fun c =>
    collect file c isEntry

/-- How much work a task leads to before another file is entered. -/
def weight (p : Project) : ModuleTask → Nat
  | collect file module _ => 1 + (following p file module).length
  | _ => 1

/-- The work that a list of tasks leads to. -/
def totalWeight (p : Project) : List ModuleTask → Nat
  | [] => 0
  | t :: ts => weight p t + totalWeight p ts

theorem totalWeight_cons (p : Project) (t : ModuleTask) (ts : List ModuleTask) :
    totalWeight p (t :: ts) = weight p t + totalWeight p ts := rfl

theorem totalWeight_append (p : Project) (ts us : List ModuleTask) :
    totalWeight p (ts ++ us) = totalWeight p ts + totalWeight p us := by
  induction ts with
  | nil => simp [totalWeight]
  | cons t ts ih => rw [List.cons_append, totalWeight_cons, totalWeight_cons, ih, Nat.add_assoc]

theorem totalWeight_ofImports (p : Project) (file : SourceFile) (metadata : Argument) :
    totalWeight p (ofImports p file metadata) = (ofImports p file metadata).length := by
  have key : ∀ ts : List ModuleTask, (∀ t ∈ ts, weight p t = 1) → totalWeight p ts = ts.length := by
    intro ts
    induction ts with
    | nil => intro _; rfl
    | cons t ts ih =>
      intro h
      rw [totalWeight_cons, h t List.mem_cons_self, ih fun u hu => h u (List.mem_cons_of_mem _ hu)]
      simp [Nat.add_comm]
  apply key
  intro t ht
  obtain ⟨name, -, hname⟩ := List.mem_filterMap.1 ht
  split at hname <;> simp_all <;> subst hname <;> rfl

theorem totalWeight_following (p : Project) (file : SourceFile) (module : ClassFacts) :
    totalWeight p (following p file module) = (following p file module).length := by
  unfold following
  split
  · exact totalWeight_ofImports p file _
  · rfl

end ModuleTask

namespace ModuleGraph

def nothing : ModuleGraph := ⟨[], [], [], []⟩

def addDiagnostic (g : ModuleGraph) (d : Diagnostic) : ModuleGraph :=
  { g with diagnostics := g.diagnostics ++ [d] }

/-- Adds a controller, unless the same class of the same file is there. -/
def addController (g : ModuleGraph) (c : ControllerRef) : ModuleGraph :=
  if g.controllers.any fun d => d.file == c.file && d.name == c.name then g
  else { g with controllers := g.controllers ++ [c] }

/-- Adds the controller that a module lists by name. -/
def listController (p : Project) (file : SourceFile) (module : String) (g : ModuleGraph)
    (name : String) : ModuleGraph :=
  match p.locateClass file name with
  | .found path declared isDefault => g.addController ⟨declared, path, isDefault, module⟩
  | .missing guess source => g.addDiagnostic (p.missingClass "controller" name source guess)
  | .elsewhere => g

/-- Adds what a module lists, its imports left aside. -/
def collect (p : Project) (file : SourceFile) (module : ClassFacts) (isEntry : Bool)
    (g : ModuleGraph) : ModuleGraph :=
  let g := { g with modules := g.modules ++ [module.name] }
  match module.moduleMetadata? with
  | some metadata =>
    let names := (metadata.itemsAt "controllers").filterMap Argument.referencedName?
    let g := names.foldl (listController p file module.name) g
    if isEntry then
      { g with
        globalGuards :=
          g.globalGuards ++ (metadata.itemsAt "providers").filterMap Argument.globalGuard? }
    else g
  | none => g

end ModuleGraph

namespace Project

/-- Does the tasks, and those that follow from them.  `visited` are the files entered before. -/
def runModules (p : Project) (visited : List Path) (g : ModuleGraph) :
    List ModuleTask → ModuleGraph
  | [] => g
  | .report d :: tasks => p.runModules visited (g.addDiagnostic d) tasks
  | .collect file module isEntry :: tasks =>
    p.runModules visited (g.collect p file module isEntry)
      (ModuleTask.following p file module ++ tasks)
  | .enter path :: tasks =>
    if path ∈ visited then p.runModules visited g tasks
    else
      match _ : p.fileAt? path with
      | some file => p.runModules (path :: visited) g (ModuleTask.ofFile file false ++ tasks)
      | none => p.runModules visited g tasks
termination_by tasks => ((p.filesOutside visited).length, ModuleTask.totalWeight p tasks)
decreasing_by
  · apply Prod.Lex.right
    simp [ModuleTask.totalWeight_cons, ModuleTask.weight]
  · apply Prod.Lex.right
    simp [ModuleTask.totalWeight_cons, ModuleTask.totalWeight_append, ModuleTask.weight,
      ModuleTask.totalWeight_following]
  · apply Prod.Lex.right
    simp [ModuleTask.totalWeight_cons, ModuleTask.weight]
  · exact Prod.Lex.left _ _ (length_filesOutside_lt ‹_› ‹_›)
  · apply Prod.Lex.right
    simp [ModuleTask.totalWeight_cons, ModuleTask.weight]

/-- What the modules list that are reached from the entry, which counts as visited under the path
that it is given by. -/
def moduleGraph? (p : Project) (entry : Path) : Option ModuleGraph :=
  (p.file? entry).map fun file => p.runModules [entry] .nothing (ModuleTask.ofFile file true)

end Project

end RouteInventory
