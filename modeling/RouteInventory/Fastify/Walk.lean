import RouteInventory.Fastify.Routes

/-!
# The walk over registrations

From the entry file every registration is followed, those of a registered plugin included.  The
prefix of a plugin is the one that its registration spells out if the entry registers it, and is
joined to the prefix of the plugin around it otherwise.  A file that is already being followed is
not entered again, so that plugins which register each other end the walk.  Model of the
registration walk of `endpoint-extractor`.

* `Walk` (`RegistrationWalk`) is what a walk has met so far: endpoints under prefixes, and
  diagnostics, both in the order in which they are met, and the files that are being followed.
* `RouteReader.follow` (`follow`) follows the registrations of a file, `RouteReader.followScope`
  (`follow_scope`) those of one scope.  Both leave the files that are being followed as they were.
* `RouteReader.walk` (`extract`) follows those of an entry file.
-/

namespace RouteInventory

namespace Project

/-- A plugin written in place is smaller than the scope that registers it. -/
theorem size_lt_of_inline {p : Project} {file : SourceFile} {scope f : Cursor} {r : Registration}
    (hr : r ∈ p.registrationsIn file scope) (hp : r.plugin = .inline f) :
    f.focus.size < scope.focus.size := by
  obtain ⟨call, hcall, hr⟩ := List.mem_filterMap.1 hr
  have hle : call.focus.size ≤ scope.focus.size :=
    Cursor.size_le_of_mem_reach (List.mem_filter.1 hcall).1
  unfold registration? at hr
  split at hr
  · split at hr
    · next first rest hargs =>
      obtain ⟨plugin, hplugin, rfl⟩ := Option.map_eq_some_iff.1 hr
      have hfirst : first.focus.size < call.focus.size :=
        Cursor.size_lt_of_mem_callArguments (hargs ▸ List.mem_cons_self)
      have hf : f = first.unwrapped := by
        subst hp
        unfold plugin? at hplugin
        split at hplugin
        · simpa using hplugin.symm
        · split at hplugin
          · split at hplugin
            · split at hplugin <;> simp at hplugin
            · simp at hplugin
          · simp at hplugin
      have := Cursor.size_unwrapped_le first
      rw [hf]
      omega
    · cases hr
  · cases hr

end Project

/-! ## The walk -/

/-- What a walk has met so far, in order, and the files that it is following. -/
structure Walk where
  groups : List (String × List Endpoint)
  diagnostics : List Diagnostic
  active : List Path
  deriving Inhabited

namespace Walk

def start : Walk := ⟨[], [], []⟩

/-- Adds the endpoints of one scope. -/
def push (w : Walk) (mount : String) (found : List Endpoint × List Diagnostic) : Walk :=
  { w with
    groups := w.groups ++ [(mount, found.1)]
    diagnostics := w.diagnostics ++ found.2 }

/-- Reports a plugin whose file was not found. -/
def reportMissing (w : Walk) (p : Project) (name module : String) (guess : Path) : Walk :=
  { w with
    diagnostics := w.diagnostics ++ [⟨.missingFile, p.relative guess,
      s!"'{name}' imported from '{module}' could not be resolved"⟩] }

/-- Begins to follow a file. -/
def enter (w : Walk) (path : Path) : Walk := { w with active := w.active.insert path }

/-- Follows a file no longer. -/
def leave (w : Walk) (path : Path) : Walk := { w with active := w.active.erase path }

theorem active_enter_of_notMem {w : Walk} {path : Path} (h : path ∉ w.active) :
    (w.enter path).active = path :: w.active :=
  List.insert_of_not_mem h

/-- Leaving a file that was entered only now gives back what was active before. -/
theorem active_leave {w v : Walk} {path : Path} (h : path ∉ w.active)
    (hv : v.active = (w.enter path).active) : (v.leave path).active = w.active := by
  rw [active_enter_of_notMem h] at hv
  rw [leave, hv]
  exact List.erase_cons_head _ _

end Walk

/-- Entering a stored file that is not active leaves fewer files outside. -/
theorem Project.length_filesOutside_enter_lt {p : Project} {w : Walk} {path : Path}
    {f : SourceFile} (hf : p.fileAt? path = some f) (h : path ∉ w.active) :
    (p.filesOutside (w.enter path).active).length < (p.filesOutside w.active).length := by
  rw [Walk.active_enter_of_notMem h]
  exact length_filesOutside_lt hf h

namespace RouteReader

/-- The prefix of a registration inside a plugin, or in the entry if there is none around it. -/
def mountUnder (outer : Option String) (mount : String) : String :=
  match outer with
  | none => mount
  | some o => RoutePath.join [o, mount]

mutual
/-- Follows what a file registers.  The file is active meanwhile. -/
def follow (r : RouteReader) (path : Path) (file : SourceFile) (outer : Option String) (w : Walk)
    (fresh : path ∉ w.active) (_ : r.project.fileAt? path = some file) :
    { v : Walk // v.active = w.active } :=
  let v := r.followScope file file.root outer (w.enter path)
  ⟨v.val.leave path, Walk.active_leave fresh v.property⟩
termination_by ((r.project.filesOutside w.active).length, 0, 0)
decreasing_by
  exact Prod.Lex.left _ _ (Project.length_filesOutside_enter_lt ‹_› fresh)

/-- Follows what a scope registers; `outer` is the prefix of the plugin that it belongs to. -/
def followScope (r : RouteReader) (file : SourceFile) (scope : Cursor) (outer : Option String)
    (w : Walk) : { v : Walk // v.active = w.active } :=
  r.followAll file scope outer (r.project.registrationsIn file scope) (fun _ h => h) w
termination_by ((r.project.filesOutside w.active).length, scope.focus.size,
  (r.project.registrationsIn file scope).length + 2)
decreasing_by
  exact Prod.Lex.right _ (Prod.Lex.right _ (Nat.lt_succ_self _))

/-- Follows registrations of a scope, one after another. -/
def followAll (r : RouteReader) (file : SourceFile) (scope : Cursor) (outer : Option String) :
    (regs : List Registration) → (∀ reg ∈ regs, reg ∈ r.project.registrationsIn file scope) →
      (w : Walk) → { v : Walk // v.active = w.active }
  | [], _, w => ⟨w, rfl⟩
  | reg :: regs, among, w =>
    let v := r.followOne file scope outer reg (among reg List.mem_cons_self) w
    let u := r.followAll file scope outer regs (fun q h => among q (List.mem_cons_of_mem _ h)) v.val
    ⟨u.val, u.property.trans v.property⟩
termination_by regs _ w => ((r.project.filesOutside w.active).length, scope.focus.size,
  regs.length + 1)
decreasing_by
  · exact Prod.Lex.right _ (Prod.Lex.right _ (Nat.succ_pos _))
  · rw [v.property]
    exact Prod.Lex.right _ (Prod.Lex.right _ (Nat.lt_succ_self _))

/-- Follows one registration of a scope. -/
def followOne (r : RouteReader) (file : SourceFile) (scope : Cursor) (outer : Option String)
    (reg : Registration) (_ : reg ∈ r.project.registrationsIn file scope) (w : Walk) :
    { v : Walk // v.active = w.active } :=
  let mount := mountUnder outer reg.mount
  match _ : reg.plugin with
  | .inline body =>
    r.followScope file body (some mount) (w.push mount (r.endpointsIn file body))
  | .imported _ _ (.file key) =>
    if _ : key ∈ w.active then ⟨w, rfl⟩
    else
      match _ : r.project.fileAt? key with
      | some f => r.follow key f (some mount) (w.push mount (r.endpointsOf f)) ‹_› ‹_›
      | none => ⟨w, rfl⟩
  | .imported name module (.missing guess) => ⟨w.reportMissing r.project name module guess, rfl⟩
  | .imported _ _ (.package _) => ⟨w, rfl⟩
termination_by ((r.project.filesOutside w.active).length, scope.focus.size, 0)
decreasing_by
  · exact Prod.Lex.right _ (Prod.Lex.left _ _ (Project.size_lt_of_inline ‹_› ‹_›))
  · exact Prod.Lex.right _ (Prod.Lex.left _ _ (Tree.size_pos _))
end

/-- The walk from an entry file: its own endpoints, then those of what it registers.  The entry
is active under the path that it was given by. -/
def walk (r : RouteReader) (entry : Path) (file : SourceFile) : Walk :=
  let w := Walk.start.push "/" (r.endpointsOf file)
  (r.followScope file file.root none (w.enter entry)).val.leave entry

end RouteReader

end RouteInventory
