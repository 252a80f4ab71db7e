import RouteInventory.Facts
import RouteInventory.Endpoint

/-!
# Projects

A `Project` holds the source files of a project in the order of their paths, and an index from the
names of classes to the files that declare them.  Model of the analysis context of
`endpoint-extractor`.

* `Project.addSource` (`add_source`) adds a file, or replaces the one with the same path.
* `Project.file?` (`file`) finds the file that a path refers to.
* `Project.classesNamed` (`find_classes`) finds the classes with a name, in the order of their files.
* `Project.resolveModule` (`resolve_module`) finds the file that an import refers to.
* `Project.resolveType` (`resolve_type`) finds the declaration of a type as seen from a file: its own
  declarations come first, then its imports, then a declaration that is the only one in the project.
-/

namespace RouteInventory

/-- A source file with its tree and its facts. -/
structure SourceFile where
  path : Path
  /-- The path relative to the project's directory, for reports. -/
  relPath : String
  tree : Tree
  facts : FileFacts
  deriving Inhabited

/-- The root of a file's syntax tree. -/
def SourceFile.root (f : SourceFile) : Cursor := .ofTree f.tree

/-- Where an import leads. -/
inductive ModuleTarget where
  | file (path : Path)
  /-- No such file; the path is the most likely one. -/
  | missing (path : Path)
  | package (name : String)
  deriving DecidableEq, Repr, Inhabited

/-- A declaration that a type name refers to. -/
structure TypeDeclaration where
  file : SourceFile
  kind : DeclarationKind
  span : Span
  deriving Inhabited

inductive TypeLookup where
  | found (declaration : TypeDeclaration)
  | package (name : String)
  | notFound
  deriving Inhabited

/-- Extensions of source files. -/
def sourceExtensions : List String := ["ts", "tsx", "mts", "cts"]

def Path.isSource (p : Path) : Bool := p.extension?.any sourceExtensions.contains

/-- The source files of a project. -/
structure Project where
  base : Path
  /-- In the order of their paths, no two with the same path. -/
  files : List SourceFile
  /-- For each class name the files that declared it, in the order of their paths. -/
  classIndex : List (String × List Path)
  diagnostics : List Diagnostic
  deriving Inhabited

namespace Project

/-- No files yet. -/
def empty (base : Path) : Project := ⟨base.normalize, [], [], []⟩

/-- The path from the root, or from where the base is relative to, without detours. -/
def absolute (p : Project) (path : Path) : Path :=
  if path.absolute then path.normalize else (p.base.join path).normalize

/-- The names of a path, the root counting as one. -/
def pathNames (path : Path) : List String := (if path.absolute then ["/"] else []) ++ path.names

/-- A path relative to the base, or all of it where it lies elsewhere. -/
def relative (p : Project) (path : Path) : String :=
  let full := p.absolute path
  String.intercalate "/" ((p.base.strip? full).getD (pathNames full))

/-! ## Files -/

/-- The stored file with exactly this path. -/
def fileAt? (p : Project) (key : Path) : Option SourceFile :=
  p.files.find? fun f => f.path == key

/-- The file that a path refers to. -/
def file? (p : Project) (path : Path) : Option SourceFile := p.fileAt? (p.absolute path)

/-- The files of a project that are not in a list of paths. -/
def filesOutside (p : Project) (active : List Path) : List SourceFile :=
  p.files.filter fun f => f.path ∉ active

theorem mem_files_of_fileAt? {p : Project} {key : Path} {f : SourceFile}
    (h : p.fileAt? key = some f) : f ∈ p.files :=
  List.mem_of_find?_eq_some h

theorem path_eq_of_fileAt? {p : Project} {key : Path} {f : SourceFile}
    (h : p.fileAt? key = some f) : f.path = key := by
  simpa using List.find?_some h

/-- Entering a stored file that was outside leaves fewer files outside. -/
theorem length_filesOutside_lt {p : Project} {active : List Path} {key : Path} {f : SourceFile}
    (hf : p.fileAt? key = some f) (hk : key ∉ active) :
    (p.filesOutside (key :: active)).length < (p.filesOutside active).length := by
  have hfilter : p.filesOutside (key :: active)
      = (p.filesOutside active).filter fun g => g.path ≠ key := by
    simp [filesOutside, List.filter_filter, not_or]
  rw [hfilter]
  apply List.length_filter_lt_length_iff_exists.2
  refine ⟨f, ?_, by simp [path_eq_of_fileAt? hf]⟩
  simp [filesOutside, mem_files_of_fileAt? hf, path_eq_of_fileAt? hf, hk]

/-- Puts a file at its place in the order, over one with the same path. -/
def insertFile (f : SourceFile) : List SourceFile → List SourceFile
  | [] => [f]
  | g :: gs =>
    match Path.compare f.path g.path with
    | .lt => f :: g :: gs
    | .eq => f :: gs
    | .gt => g :: insertFile f gs

/-- Puts a path at its place in the order, once. -/
def insertPath (path : Path) : List Path → List Path
  | [] => [path]
  | q :: qs =>
    match Path.compare path q with
    | .lt => path :: q :: qs
    | .eq => q :: qs
    | .gt => q :: insertPath path qs

/-- Records that a file declares a class. -/
def indexClass (path : Path) (name : String) : List (String × List Path) → List (String × List Path)
  | [] => [(name, [path])]
  | (n, ps) :: rest =>
    if n == name then (n, insertPath path ps) :: rest else (n, ps) :: indexClass path name rest

/-- Stores a file whose tree is known, under the normalized path. -/
def insertTree (p : Project) (path : Path) (tree : Tree) : Project :=
  let facts := FileFacts.ofTree path tree
  { p with
    files := insertFile ⟨path, p.relative path, tree, facts⟩ p.files
    classIndex := facts.classes.foldl (fun idx c => indexClass path c.name idx) p.classIndex }

/-- Reads a source text and stores it as if it were the file at the path.  The error is the path of
a file that is not a source file. -/
def addSource (p : Project) (path : Path) (source : String) : Except Path Project :=
  let key := p.absolute path
  if key.isSource then
    .ok (p.insertTree key (Grammar.parse (key.extension? == some "tsx") source))
  else .error key

/-- The classes with a name, in the order of their files. -/
def classesNamed (p : Project) (name : String) : List ClassFacts :=
  match p.classIndex.find? fun e => e.1 == name with
  | some (_, paths) =>
    (paths.filterMap p.fileAt?).flatMap fun f => f.facts.classes.filter fun c => c.name == name
  | none => []

/-! ## Modules and types -/

/-- The files that an import of the path may mean, the most likely first. -/
def moduleCandidates (path : Path) : List Path :=
  match path.extension? with
  | some "ts" | some "tsx" => [path]
  | some "js" | some "mjs" | some "cjs" => [path.withExtension "ts", path.withExtension "tsx"]
  | _ =>
    [path.withSuffix ".ts", path.withSuffix ".tsx", path.join (.ofString "index.ts"),
      path.join (.ofString "index.tsx")]

/-- Where an import written in a file leads. -/
def resolveModule (p : Project) (origin : Path) (module : String) : ModuleTarget :=
  if !module.startsWith "." then .package module
  else
    let dir := (p.absolute origin).parent?.getD p.base
    let target := (dir.join (.ofString module)).normalize
    let candidates := moduleCandidates target
    match candidates.find? fun c => (p.fileAt? c).isSome with
    | some path => .file path
    | none => .missing (candidates.headD target)

/-- The declaration of a type in a file. -/
def typeIn? (f : SourceFile) (name : String) : Option TypeDeclaration :=
  match f.facts.typeDeclaration? name with
  | some d => some ⟨f, d.kind, d.span⟩
  | none => (f.facts.class? name).map fun c => ⟨f, .classType, c.span⟩

/-- The declaration of a type as seen from a file. -/
def resolveType (p : Project) (origin : Path) (name : String) : TypeLookup :=
  match p.file? origin with
  | none => .notFound
  | some f =>
    match typeIn? f name with
    | some d => .found d
    | none =>
      match f.facts.import? name with
      | some i =>
        match p.resolveModule f.path i.module with
        | .file target =>
          match (p.fileAt? target).bind fun g => typeIn? g i.exportedName with
          | some d => .found d
          | none => .notFound
        | .package package => .package package
        | .missing _ => .notFound
      | none =>
        match p.files.filterMap fun g => typeIn? g name with
        | [d] => .found d
        | _ => .notFound

end Project

/-- The node of a class that covers exactly the span. -/
def SourceFile.classNode? (f : SourceFile) (s : Span) : Option Cursor :=
  (f.root.nodeAt? s.start s.stop .classDeclaration).or
    (f.root.nodeAt? s.start s.stop .abstractClassDeclaration)

/-- The node of a declaration. -/
def TypeDeclaration.node? (d : TypeDeclaration) : Option Cursor :=
  (d.file.root.nodeAt? d.span.start d.span.stop d.kind.nodeKind).or
    (d.file.root.nodeAt? d.span.start d.span.stop .abstractClassDeclaration)

end RouteInventory
