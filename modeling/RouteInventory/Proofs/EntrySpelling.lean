import Mathlib
import RouteInventory.Proofs.ModuleClosure
import RouteInventory.Proofs.PluginScopes
import RouteInventory.Proofs.RegistrationChains
import RouteInventory.Proofs.StoredPaths

/-!
# How the entry is spelled

Both walks remember the entry under the path that it is given by, and every other file under the
path that it is stored under.  A spelling of the entry that is not its stored path therefore marks
no file at all, and a walk that comes back to the entry enters it once more.

* `runModules_congr`, `followScope_congr` — a walk depends on the marks of those files only that it
  can get to.
* `ModuleRun.mem_entered_iff_transGen`, `exists_chain_entering` — where nothing is marked, a walk
  enters every file that it can get to.
* `entry_spelling_iff` — two spellings of the entry lead to the same result unless exactly one of
  them is the stored path and the entry lies on a cycle.
-/

namespace RouteInventory

/-! ## Modules -/

namespace Project

variable {p : Project} {visited visited' : List Path} {g : ModuleGraph} {tasks : List ModuleTask}
  {path : Path}

theorem runModules_enter_of_known (h : path ∈ visited ∨ p.fileAt? path = none) :
    p.runModules visited g (.enter path :: tasks) = p.runModules visited g tasks := by
  rw [runModules]
  by_cases hmem : path ∈ visited
  · rw [if_pos hmem]
  · rw [if_neg hmem]
    split
    · rename_i f hf
      rw [h.resolve_left hmem] at hf
      cases hf
    · rfl

theorem runModules_enter_of_fresh {f : SourceFile} (h : path ∉ visited)
    (hf : p.fileAt? path = some f) :
    p.runModules visited g (.enter path :: tasks) =
      p.runModules (path :: visited) g (ModuleTask.ofFile f false ++ tasks) := by
  rw [runModules, if_neg h]
  split
  · rename_i f' hf'
    rw [hf] at hf'
    cases hf'
    rfl
  · rename_i hf'
    rw [hf] at hf'
    cases hf'

/-- The walk only asks of stored files that it can reach whether they were visited. -/
theorem runModules_congr (p : Project) (visited : List Path) (g : ModuleGraph)
    (tasks : List ModuleTask) :
    ∀ visited' : List Path,
      (∀ start path, Pending p tasks start → p.Reaches start path → (p.fileAt? path).isSome →
        (path ∈ visited ↔ path ∈ visited')) →
      p.runModules visited g tasks = p.runModules visited' g tasks := by
  fun_induction Project.runModules p visited g tasks with
  | case1 visited g => intro visited' _; rw [runModules]
  | case2 visited g d tasks ih =>
    intro visited' h
    rw [runModules]
    exact ih visited' fun start path hstart => h start path (pending_report.2 hstart)
  | case3 visited g f c isEntry tasks ih =>
    intro visited' h
    rw [runModules]
    exact ih visited' fun start path hstart => h start path (pending_collect.2 hstart)
  | case4 visited g path tasks hmem ih =>
    intro visited' h
    have hknown : path ∈ visited' ∨ p.fileAt? path = none := by
      by_cases hstored : (p.fileAt? path).isSome
      · exact Or.inl ((h path path (pending_enter.2 (Or.inl rfl)) .refl hstored).1 hmem)
      · exact Or.inr (Option.not_isSome_iff_eq_none.1 hstored)
    rw [runModules_enter_of_known hknown]
    exact ih visited' fun start path' hstart => h start path' (pending_enter.2 (Or.inr hstart))
  | case5 visited g path tasks hmem f hf ih =>
    intro visited' h
    have hfresh : path ∉ visited' := fun hmem' =>
      hmem ((h path path (pending_enter.2 (Or.inl rfl)) .refl (hf ▸ rfl)).2 hmem')
    rw [runModules_enter_of_fresh hfresh hf]
    refine ih (path :: visited') fun start path' hstart hreach hstored => ?_
    rw [List.mem_cons, List.mem_cons]
    refine or_congr_right ?_
    rcases pending_append.1 hstart with hstart | hstart
    · have himp : p.Imports path start := ⟨f, hf, pending_ofFile.1 hstart⟩
      exact h path path' (pending_enter.2 (Or.inl rfl)) (.head himp hreach) hstored
    · exact h start path' (pending_enter.2 (Or.inr hstart)) hreach hstored
  | case6 visited g path tasks hmem hf ih =>
    intro visited' h
    rw [runModules_enter_of_known (Or.inr hf)]
    exact ih visited' fun start path' hstart => h start path' (pending_enter.2 (Or.inr hstart))

end Project

/-- Where no stored file is visited, a run from the modules of a file enters what the file reaches
by at least one import. -/
theorem ModuleRun.mem_entered_iff_transGen {p : Project} {visited entered : List Path}
    {did : List ModuleTask} {k : Path} {file : SourceFile}
    (hvisited : ∀ path ∈ visited, p.fileAt? path = none) (hfile : p.fileAt? k = some file)
    (hrun : ModuleRun p visited (ModuleTask.ofFile file true) entered did) (path : Path) :
    path ∈ entered ↔ Relation.TransGen p.Imports k path := by
  have hfresh {path : Path} (h : path ∈ visited ∨ path ∈ entered)
      (hstored : (p.fileAt? path).isSome) : path ∈ entered :=
    h.resolve_left fun hv => Project.ne_of_stored hstored (hvisited path hv) rfl
  constructor
  · intro h
    obtain ⟨start, hp, hr⟩ := hrun.reached path h
    exact .head' ⟨file, hfile, pending_ofFile.1 hp⟩ hr
  · intro h
    induction h with
    | @single path himp =>
      have hstored := Project.isSome_fileAt?_of_imports himp
      obtain ⟨f, hf, hmodule⟩ := himp
      rw [hfile] at hf
      cases hf
      exact hfresh (hrun.pending_entered path (pending_ofFile.2 hmodule) hstored) hstored
    | @tail q path _ himp ih =>
      exact hfresh (hrun.closed q ih path himp) (Project.isSome_fileAt?_of_imports himp)

namespace Project

variable {p : Project} {file : SourceFile} {e : Path}

/-- A path that is not stored marks nothing. -/
theorem runModules_of_notStored (he : p.fileAt? e = none) (g : ModuleGraph)
    (tasks : List ModuleTask) : p.runModules [e] g tasks = p.runModules [] g tasks := by
  refine runModules_congr p [e] g tasks [] fun _ path _ _ hstored => ?_
  simp [ne_of_stored hstored he]

/-- Marking a file changes nothing that no import leads back to. -/
theorem runModules_of_not_cyclic (hfile : p.fileAt? file.path = some file)
    (hcycle : ¬ Relation.TransGen p.Imports file.path file.path) (g : ModuleGraph) :
    p.runModules [file.path] g (ModuleTask.ofFile file true) =
      p.runModules [] g (ModuleTask.ofFile file true) := by
  refine runModules_congr p _ g _ [] fun start path hstart hreach _ => ?_
  have hne : path ≠ file.path := by
    rintro rfl
    exact hcycle (.head' ⟨file, hfile, pending_ofFile.1 hstart⟩ hreach)
  simp [hne]

/-- The graph has a name for each module collected. -/
theorem length_modules_runModules (p : Project) (visited : List Path) (file : SourceFile)
    (hfile : p.fileAt? file.path = some file) :
    ∃ entered did, ModuleRun p visited (ModuleTask.ofFile file true) entered did ∧
      (p.runModules visited .nothing (ModuleTask.ofFile file true)).modules.length =
        ((file.path :: entered).flatMap p.filedModules).length := by
  obtain ⟨entered, did, hrun, heq⟩ := runModules_eq p visited .nothing (ModuleTask.ofFile file true)
  refine ⟨entered, did, hrun, ?_⟩
  have hfiled : p.filedModules file.path = collectedModules (ModuleTask.ofFile file true) := by
    unfold filedModules
    rw [hfile, collectedModules_ofFile]
  rw [heq, (ModuleGraph.foldl_perform_spec p did .nothing).1, List.flatMap_cons, hfiled,
    ← hrun.collected_perm.length_eq]
  simp [ModuleGraph.nothing]

/-- Where imports lead back to a file, not marking it lets its modules be collected twice. -/
theorem runModules_ne_of_cyclic (hfile : p.fileAt? file.path = some file)
    (hcycle : Relation.TransGen p.Imports file.path file.path) :
    p.runModules [file.path] .nothing (ModuleTask.ofFile file true) ≠
      p.runModules [] .nothing (ModuleTask.ofFile file true) := by
  obtain ⟨entered, did, hrun, hlength⟩ := length_modules_runModules p [file.path] file hfile
  obtain ⟨entered', did', hrun', hlength'⟩ := length_modules_runModules p [] file hfile
  -- The unmarked walk enters the file itself and all that the marked walk enters.
  have hperm : entered'.Perm (file.path :: entered) := by
    obtain ⟨hnodup, hfresh⟩ := hrun.nodup
    refine (List.perm_ext_iff_of_nodup hrun'.nodup.1
      (List.nodup_cons.2 ⟨fun h => hfresh _ h List.mem_cons_self, hnodup⟩)).2 fun path => ?_
    rw [hrun'.mem_entered_iff_transGen (by simp) hfile, mem_entered_iff_reaches hfile hrun]
    exact ⟨fun h => h.to_reflTransGen, fun h => hcycle.trans_left h⟩
  have hmodules : 0 < (p.filedModules file.path).length := by
    obtain ⟨path, himp, -⟩ := Relation.TransGen.head'_iff.1 hcycle
    obtain ⟨f, hf, c, hc, -⟩ := himp
    exact List.length_pos_of_mem (mem_filedModules.2 ⟨hf, hc⟩)
  intro heq
  rw [heq, hlength', List.flatMap_cons, List.length_append,
    (hperm.flatMap_right _).length_eq] at hlength
  omega

end Project

/-! ## Registrations -/

namespace Project

/-- Some scope of the file at the first path registers the file at the second. -/
def Registers (p : Project) (path path' : Path) : Prop :=
  ∃ f, p.fileAt? path = some f ∧ ∃ scope, p.IsScope f scope ∧
    ∃ reg ∈ p.registrationsIn f scope, ∃ name module,
      reg.plugin = .imported name module (.file path')

/-- Only files of the project are registered. -/
theorem isSome_fileAt?_of_registers {p : Project} {path path' : Path}
    (h : p.Registers path path') : (p.fileAt? path').isSome := by
  obtain ⟨f, -, scope, -, reg, hreg, name, module, hplugin⟩ := h
  obtain ⟨call, -, hcall⟩ := List.mem_filterMap.1 hreg
  unfold registration? at hcall
  split at hcall
  · split at hcall
    · obtain ⟨plugin, hfirst, rfl⟩ := Option.map_eq_some_iff.1 hcall
      subst hplugin
      unfold plugin? at hfirst
      split at hfirst
      · cases hfirst
      · split at hfirst
        · split at hfirst
          · split at hfirst
            · injection hfirst with hfirst
              injection hfirst with _ _ htarget
              exact isSome_fileAt?_of_resolveModule htarget
            · cases hfirst
          · cases hfirst
        · cases hfirst
    · cases hcall
  · cases hcall

end Project

/-- Two walks have met the same. -/
def Walk.SameFound (w w' : Walk) : Prop := w.groups = w'.groups ∧ w.diagnostics = w'.diagnostics

namespace Walk.SameFound

variable {w w' : Walk}

theorem push (h : w.SameFound w') (mount : String) (found : List Endpoint × List Diagnostic) :
    (w.push mount found).SameFound (w'.push mount found) :=
  ⟨congrArg (· ++ _) h.1, congrArg (· ++ _) h.2⟩

theorem reportMissing (h : w.SameFound w') (p : Project) (name module : String) (guess : Path) :
    (w.reportMissing p name module guess).SameFound (w'.reportMissing p name module guess) :=
  ⟨h.1, congrArg (· ++ _) h.2⟩

end Walk.SameFound

namespace RouteReader

section FollowOne

variable {r : RouteReader} {file f : SourceFile} {scope body : Cursor} {outer : Option String}
  {reg : Registration} {among : reg ∈ r.project.registrationsIn file scope} {w : Walk}
  {name module : String} {key guess : Path}

theorem followOne_inline (h : reg.plugin = .inline body) :
    (r.followOne file scope outer reg among w).val =
      (r.followScope file body (some (mountUnder outer reg.mount))
        (w.push (mountUnder outer reg.mount) (r.endpointsIn file body))).val := by
  rw [followOne]
  split <;> rename_i hplugin <;> rw [h] at hplugin <;> cases hplugin
  rfl

/-- A file that is active or not stored is passed over. -/
theorem followOne_known (h : reg.plugin = .imported name module (.file key))
    (hknown : key ∈ w.active ∨ r.project.fileAt? key = none) :
    (r.followOne file scope outer reg among w).val = w := by
  rw [followOne]
  split <;> rename_i hplugin <;> rw [h] at hplugin <;> cases hplugin
  split
  · rfl
  · rename_i hmem
    split
    · rename_i f hf
      rw [hknown.resolve_left hmem] at hf
      cases hf
    · rfl

theorem followOne_fresh (h : reg.plugin = .imported name module (.file key))
    (hfresh : key ∉ w.active) (hf : r.project.fileAt? key = some f) :
    (r.followOne file scope outer reg among w).val =
      (r.follow key f (some (mountUnder outer reg.mount))
        (w.push (mountUnder outer reg.mount) (r.endpointsOf f)) hfresh hf).val := by
  rw [followOne]
  split <;> rename_i hplugin <;> rw [h] at hplugin <;> cases hplugin
  rw [dif_neg hfresh]
  split
  · rename_i f' hf'
    obtain rfl : f = f' := Option.some.inj (hf.symm.trans hf')
    rfl
  · rename_i hf'
    rw [hf] at hf'
    cases hf'

theorem followOne_missing (h : reg.plugin = .imported name module (.missing guess)) :
    (r.followOne file scope outer reg among w).val =
      w.reportMissing r.project name module guess := by
  rw [followOne]
  split <;> rename_i hplugin <;> rw [h] at hplugin <;> cases hplugin
  rfl

theorem followOne_package {package : String}
    (h : reg.plugin = .imported name module (.package package)) :
    (r.followOne file scope outer reg among w).val = w := by
  rw [followOne]
  split <;> rename_i hplugin <;> rw [h] at hplugin <;> cases hplugin

end FollowOne

/-- The same of the files that can be registered from the file at the path are active. -/
def SameActive (r : RouteReader) (path : Path) (w w' : Walk) : Prop :=
  ∀ key, Relation.TransGen r.project.Registers path key → (key ∈ w.active ↔ key ∈ w'.active)

mutual
theorem follow_congr (r : RouteReader) (path : Path) (file : SourceFile) (outer : Option String)
    (w w' : Walk) (fresh : path ∉ w.active) (fresh' : path ∉ w'.active)
    (stored : r.project.fileAt? path = some file) (hactive : r.SameActive path w w')
    (hfound : w.SameFound w') :
    (r.follow path file outer w fresh stored).val.SameFound
      (r.follow path file outer w' fresh' stored).val := by
  rw [follow, follow]
  refine followScope_congr r path file file.root outer (w.enter path) (w'.enter path) stored .root
    (fun key hkey => ?_) hfound
  rw [Walk.active_enter_of_notMem fresh, Walk.active_enter_of_notMem fresh', List.mem_cons,
    List.mem_cons]
  exact or_congr_right (hactive key hkey)
termination_by ((r.project.filesOutside w.active).length, 0, 0)
decreasing_by
  exact Prod.Lex.left _ _ (Project.length_filesOutside_enter_lt stored fresh)

/-- What is met in a scope depends on those active files only that can be registered from its
file. -/
theorem followScope_congr (r : RouteReader) (path : Path) (file : SourceFile) (scope : Cursor)
    (outer : Option String) (w w' : Walk) (stored : r.project.fileAt? path = some file)
    (hscope : r.project.IsScope file scope) (hactive : r.SameActive path w w')
    (hfound : w.SameFound w') :
    (r.followScope file scope outer w).val.SameFound (r.followScope file scope outer w').val := by
  rw [followScope, followScope]
  exact followAll_congr r path file scope outer _ _ w w' stored hscope hactive hfound
termination_by ((r.project.filesOutside w.active).length, scope.focus.size,
  (r.project.registrationsIn file scope).length + 2)
decreasing_by
  exact Prod.Lex.right _ (Prod.Lex.right _ (Nat.lt_succ_self _))

theorem followAll_congr (r : RouteReader) (path : Path) (file : SourceFile) (scope : Cursor)
    (outer : Option String) (regs : List Registration)
    (among : ∀ reg ∈ regs, reg ∈ r.project.registrationsIn file scope) (w w' : Walk)
    (stored : r.project.fileAt? path = some file) (hscope : r.project.IsScope file scope)
    (hactive : r.SameActive path w w') (hfound : w.SameFound w') :
    (r.followAll file scope outer regs among w).val.SameFound
      (r.followAll file scope outer regs among w').val := by
  match regs with
  | [] =>
    rw [followAll, followAll]
    exact hfound
  | reg :: regs =>
    rw [followAll, followAll]
    have hone := followOne_congr r path file scope outer reg (among reg List.mem_cons_self) w w'
      stored hscope hactive hfound
    have hkept := (r.followOne file scope outer reg (among reg List.mem_cons_self) w).property
    have hkept' := (r.followOne file scope outer reg (among reg List.mem_cons_self) w').property
    have hactive' : r.SameActive path
        (r.followOne file scope outer reg (among reg List.mem_cons_self) w).val
        (r.followOne file scope outer reg (among reg List.mem_cons_self) w').val := by
      intro key hkey
      rw [hkept, hkept']
      exact hactive key hkey
    exact followAll_congr r path file scope outer regs _ _ _ stored hscope hactive' hone
termination_by ((r.project.filesOutside w.active).length, scope.focus.size, regs.length + 1)
decreasing_by
  · exact Prod.Lex.right _ (Prod.Lex.right _ (Nat.succ_pos _))
  · rw [(r.followOne file scope outer reg (among reg List.mem_cons_self) w).property]
    exact Prod.Lex.right _ (Prod.Lex.right _ (Nat.lt_succ_self _))

theorem followOne_congr (r : RouteReader) (path : Path) (file : SourceFile) (scope : Cursor)
    (outer : Option String) (reg : Registration)
    (among : reg ∈ r.project.registrationsIn file scope) (w w' : Walk)
    (stored : r.project.fileAt? path = some file) (hscope : r.project.IsScope file scope)
    (hactive : r.SameActive path w w') (hfound : w.SameFound w') :
    (r.followOne file scope outer reg among w).val.SameFound
      (r.followOne file scope outer reg among w').val := by
  match hplugin : reg.plugin with
  | .inline body =>
    rw [followOne_inline hplugin, followOne_inline hplugin]
    exact followScope_congr r path file body _ _ _ stored (.inline hscope among hplugin) hactive
      (hfound.push _ _)
  | .imported name module (.file key) =>
    have hregisters : r.project.Registers path key :=
      ⟨file, stored, scope, hscope, reg, among, name, module, hplugin⟩
    have hmem := hactive key (.single hregisters)
    obtain ⟨f, hf⟩ := Option.isSome_iff_exists.1 (Project.isSome_fileAt?_of_registers hregisters)
    by_cases hkey : key ∈ w.active
    · rw [followOne_known hplugin (Or.inl hkey), followOne_known hplugin (Or.inl (hmem.1 hkey))]
      exact hfound
    · rw [followOne_fresh hplugin hkey hf, followOne_fresh hplugin (fun h => hkey (hmem.2 h)) hf]
      exact follow_congr r key f _ _ _ _ _ hf (fun key' h => hactive key' (.head hregisters h))
        (hfound.push _ _)
  | .imported name module (.missing guess) =>
    rw [followOne_missing hplugin, followOne_missing hplugin]
    exact hfound.reportMissing _ _ _ _
  | .imported name module (.package package) =>
    rw [followOne_package hplugin, followOne_package hplugin]
    exact hfound
termination_by ((r.project.filesOutside w.active).length, scope.focus.size, 0)
decreasing_by
  · exact Prod.Lex.right _ (Prod.Lex.left _ _ (Project.size_lt_of_inline ‹_› ‹_›))
  · exact Prod.Lex.right _ (Prod.Lex.left _ _ (Tree.size_pos _))
end

/-! ## Chains that come back -/

variable {r : RouteReader} {pl q next : Place} {reg : Registration} {c : List Nat} {key path : Path}

/-- What a registration can lead to: a plugin in place, or a file that is not on the chain yet. -/
theorem lead?_eq_some (h : r.lead? pl reg = some next) :
    (∃ body, reg.plugin = .inline body ∧
      next = ⟨pl.file, body, pl.mounts ++ [reg.mount], pl.files⟩) ∨
    ∃ name module key f, reg.plugin = .imported name module (.file key) ∧ key ∉ pl.files ∧
      r.project.fileAt? key = some f ∧
      next = ⟨f, f.root, pl.mounts ++ [reg.mount], key :: pl.files⟩ := by
  unfold lead? at h
  split at h
  · rename_i body hplugin
    exact Or.inl ⟨body, hplugin, (Option.some.inj h).symm⟩
  · rename_i name module key hplugin
    split at h
    · cases h
    · rename_i hkey
      obtain ⟨f, hf, rfl⟩ := Option.map_eq_some_iff.1 h
      exact Or.inr ⟨name, module, key, f, hplugin, hkey, hf, rfl⟩
  · cases h
  · cases h

theorem lead?_inline {body : Cursor} (h : reg.plugin = .inline body) :
    r.lead? pl reg = some ⟨pl.file, body, pl.mounts ++ [reg.mount], pl.files⟩ := by
  rw [lead?, h]

theorem lead?_file {name module : String} (h : reg.plugin = .imported name module (.file key)) :
    r.lead? pl reg = if key ∈ pl.files then none else
      (r.project.fileAt? key).map fun f =>
        ⟨f, f.root, pl.mounts ++ [reg.mount], key :: pl.files⟩ := by
  rw [lead?, h]

theorem placeAfter?_append (c d : List Nat) (pl : Place) :
    r.placeAfter? pl (c ++ d) = (r.placeAfter? pl c).bind fun q => r.placeAfter? q d := by
  induction c generalizing pl with
  | nil => rfl
  | cons i is ih => simp only [List.cons_append, placeAfter?, Option.bind_assoc, ih]

theorem exists_of_placeAfter?_cons {i : Nat} {is : List Nat}
    (h : r.placeAfter? pl (i :: is) = some q) :
    ∃ reg next, (r.registrationsAt pl)[i]? = some reg ∧ r.lead? pl reg = some next ∧
      r.placeAfter? next is = some q := by
  rw [placeAfter?] at h
  obtain ⟨next, hnext, hrest⟩ := Option.bind_eq_some_iff.1 h
  obtain ⟨reg, hi, hlead⟩ := Option.bind_eq_some_iff.1 hnext
  exact ⟨reg, next, hi, hlead, hrest⟩

/-- Some chain leads from the first place to the second. -/
def LeadsTo (r : RouteReader) (pl q : Place) : Prop := ∃ c, r.placeAfter? pl c = some q

theorem LeadsTo.refl (r : RouteReader) (pl : Place) : r.LeadsTo pl pl := ⟨[], rfl⟩

theorem LeadsTo.step (h : r.LeadsTo pl q) (hreg : reg ∈ r.registrationsAt q)
    (hlead : r.lead? q reg = some next) : r.LeadsTo pl next := by
  obtain ⟨c, hc⟩ := h
  obtain ⟨i, hi⟩ := List.getElem?_of_mem hreg
  refine ⟨c ++ [i], ?_⟩
  rw [placeAfter?_append, hc, Option.bind_some, placeAfter?_cons hi, hlead]
  rfl

/-- A chain that leads to the root of a file goes on to every scope of it. -/
theorem LeadsTo.scope (h : r.LeadsTo pl q) (hroot : q.scope = q.file.root) {scope : Cursor}
    (hscope : r.project.IsScope q.file scope) :
    ∃ mounts, r.LeadsTo pl ⟨q.file, scope, mounts, q.files⟩ := by
  induction hscope with
  | root => exact ⟨q.mounts, hroot ▸ h⟩
  | inline _ hreg hplugin ih =>
    obtain ⟨mounts, hleads⟩ := ih
    exact ⟨_, hleads.step hreg (lead?_inline hplugin)⟩

/-- The place is the root of the file at the path, which is on the chain. -/
structure Enters (r : RouteReader) (key : Path) (q : Place) : Prop where
  stored : r.project.fileAt? key = some q.file
  root : q.scope = q.file.root
  onChain : key ∈ q.files

/-- Every file that comes on a chain is entered by a part of it. -/
theorem enters_of_mem_files (hc : r.placeAfter? pl c = some q) (hkey : key ∈ q.files)
    (hpl : key ∉ pl.files) : ∃ q', r.LeadsTo pl q' ∧ r.Enters key q' := by
  induction c generalizing pl with
  | nil =>
    cases hc
    exact absurd hkey hpl
  | cons i is ih =>
    obtain ⟨reg, next, hi, hlead, hrest⟩ := exists_of_placeAfter?_cons hc
    have hreg := List.mem_of_getElem? hi
    by_cases hmem : key ∈ next.files
    · rcases lead?_eq_some hlead with
        ⟨body, -, rfl⟩ | ⟨name, module, key', f, hplugin, hfresh, hf, rfl⟩
      · exact absurd hmem hpl
      · obtain rfl : key = key' := (List.mem_cons.1 hmem).resolve_right hpl
        exact ⟨_, (LeadsTo.refl r pl).step hreg hlead, hf, rfl, List.mem_cons_self⟩
    · obtain ⟨q', ⟨d, hd⟩, henters⟩ := ih hrest hmem
      refine ⟨q', ⟨i :: d, ?_⟩, henters⟩
      rw [placeAfter?_cons hi, hlead]
      exact hd

/-- What a file registers that a chain leads to is entered by some chain, if not by going on with
this one then because it was entered before. -/
theorem enters_of_registers (hpl : key ∉ pl.files) (hq : r.LeadsTo pl q)
    (hstored : r.project.fileAt? path = some q.file) (hroot : q.scope = q.file.root)
    (h : r.project.Registers path key) : ∃ q', r.LeadsTo pl q' ∧ r.Enters key q' := by
  by_cases hmem : key ∈ q.files
  · obtain ⟨c, hc⟩ := hq
    exact enters_of_mem_files hc hmem hpl
  · obtain ⟨f', hf'⟩ := Option.isSome_iff_exists.1 (Project.isSome_fileAt?_of_registers h)
    obtain ⟨f, hf, scope, hscope, reg, hreg, name, module, hplugin⟩ := h
    obtain rfl : q.file = f := Option.some.inj (hstored.symm.trans hf)
    obtain ⟨mounts, hleads⟩ := hq.scope hroot hscope
    have hlead : r.lead? ⟨q.file, scope, mounts, q.files⟩ reg =
        some ⟨f', f'.root, mounts ++ [reg.mount], key :: q.files⟩ := by
      rw [lead?_file hplugin, if_neg hmem, hf', Option.map_some]
    exact ⟨_, hleads.step hreg hlead, hf', rfl, List.mem_cons_self⟩

/-- Where no stored file is on the chain at first, every file is entered that can be registered. -/
theorem exists_chain_entering (hfiles : ∀ key ∈ pl.files, r.project.fileAt? key = none)
    (hstored : r.project.fileAt? path = some pl.file) (hroot : pl.scope = pl.file.root)
    (h : Relation.TransGen r.project.Registers path key) :
    ∃ q, r.LeadsTo pl q ∧ r.Enters key q := by
  have hfresh {path key : Path} (h : r.project.Registers path key) : key ∉ pl.files :=
    fun hmem => Project.ne_of_stored (Project.isSome_fileAt?_of_registers h) (hfiles key hmem) rfl
  induction h with
  | single h => exact enters_of_registers (hfresh h) (.refl r pl) hstored hroot h
  | tail _ h ih =>
    obtain ⟨q, hq, henters⟩ := ih
    exact enters_of_registers (hfresh h) hq henters.stored henters.root h

/-- A chain that enters a file cannot be taken where the file is on the chain from the start. -/
theorem placeAfter?_eq_none_of_mem {file : SourceFile} {scope : Cursor} {mounts : List String}
    {files files' : List Path} (hmem : key ∈ files) (hfresh : key ∉ files')
    (hc : r.placeAfter? ⟨file, scope, mounts, files'⟩ c = some q) (hq : key ∈ q.files) :
    r.placeAfter? ⟨file, scope, mounts, files⟩ c = none := by
  induction c generalizing file scope mounts files files' with
  | nil =>
    cases hc
    exact absurd hq hfresh
  | cons i is ih =>
    obtain ⟨reg, next, hi, hlead, hrest⟩ := exists_of_placeAfter?_cons hc
    have hi' : (r.registrationsAt ⟨file, scope, mounts, files⟩)[i]? = some reg := hi
    rw [placeAfter?_cons hi']
    rcases lead?_eq_some hlead with
      ⟨body, hplugin, rfl⟩ | ⟨name, module, key', f, hplugin, hfresh', hf, rfl⟩
    · rw [lead?_inline hplugin, Option.bind_some]
      exact ih hmem hfresh hrest
    · rw [lead?_file hplugin]
      by_cases hkey' : key' ∈ files
      · rw [if_pos hkey', Option.bind_none]
      · have hne : key ≠ key' := fun heq => hkey' (heq ▸ hmem)
        rw [if_neg hkey', hf, Option.map_some, Option.bind_some]
        exact ih (List.mem_cons_of_mem _ hmem) (by simp [hne, hfresh]) hrest

/-- Chains stay possible where fewer stored files are on the chain at first. -/
theorem isSome_placeAfter?_mono {file : SourceFile} {scope : Cursor} {mounts : List String}
    {files files' : List Path}
    (hsub : ∀ key, (r.project.fileAt? key).isSome → key ∈ files' → key ∈ files)
    (hc : (r.placeAfter? ⟨file, scope, mounts, files⟩ c).isSome) :
    (r.placeAfter? ⟨file, scope, mounts, files'⟩ c).isSome := by
  induction c generalizing file scope mounts files files' with
  | nil => rfl
  | cons i is ih =>
    obtain ⟨q, hq⟩ := Option.isSome_iff_exists.1 hc
    obtain ⟨reg, next, hi, hlead, hrest⟩ := exists_of_placeAfter?_cons hq
    have hi' : (r.registrationsAt ⟨file, scope, mounts, files'⟩)[i]? = some reg := hi
    have hsome : (r.placeAfter? next is).isSome := hrest ▸ rfl
    rw [placeAfter?_cons hi']
    rcases lead?_eq_some hlead with
      ⟨body, hplugin, rfl⟩ | ⟨name, module, key', f, hplugin, hfresh', hf, rfl⟩
    · rw [lead?_inline hplugin, Option.bind_some]
      exact ih hsub hsome
    · have hfresh : key' ∉ files' := fun h => hfresh' (hsub key' (hf ▸ rfl) h)
      rw [lead?_file hplugin, if_neg hfresh, hf, Option.map_some, Option.bind_some]
      refine ih (fun key hkey hmem => ?_) hsome
      rcases List.mem_cons.1 hmem with rfl | hmem
      · exact List.mem_cons_self
      · exact List.mem_cons_of_mem _ (hsub key hkey hmem)

/-! ## The walk from an entry -/

theorem length_of_explores {P : List Nat → Prop} {w v : Walk} (h : r.Explores pl P w v) :
    ∃ chains : List (List Nat), chains.Nodup ∧
      (∀ c, c ∈ chains ↔ P c ∧ (r.placeAfter? pl c).isSome) ∧
      v.groups.length = w.groups.length + chains.length := by
  obtain ⟨chains, hsorted, hmem, hgroups⟩ := h
  refine ⟨chains, hsorted.imp fun hlt => ne_of_lt hlt, hmem, ?_⟩
  have hall : ∀ c ∈ chains, ((r.placeAfter? pl c).map r.contribution).isSome := fun c hc =>
    Option.isSome_map.trans ((hmem c).1 hc).2
  rw [hgroups, List.length_append, contributions, List.filterMap_length_eq_length.2 hall]

variable {file : SourceFile} {e e' : Path}

/-- Walks from a file meet the same if they mark the same of the files that can be registered. -/
theorem walk_congr (hfile : r.project.fileAt? file.path = some file)
    (h : ∀ key, Relation.TransGen r.project.Registers file.path key → (key = e ↔ key = e')) :
    (r.walk e file).SameFound (r.walk e' file) := by
  have hactive (e : Path) : ((Walk.start.push "/" (r.endpointsOf file)).enter e).active = [e] :=
    Walk.active_enter_of_notMem List.not_mem_nil
  refine followScope_congr r file.path file file.root none _ _ hfile .root (fun key hkey => ?_)
    ⟨rfl, rfl⟩
  rw [hactive, hactive, List.mem_singleton, List.mem_singleton]
  exact h key hkey

/-- Where registrations lead back to a file, not marking it lets it be followed once more. -/
theorem walk_ne_of_cyclic (hfile : r.project.fileAt? file.path = some file)
    (he : r.project.fileAt? e = none)
    (hcycle : Relation.TransGen r.project.Registers file.path file.path) :
    (r.walk file.path file).groups ≠ (r.walk e file).groups := by
  have hexplores (e : Path) : r.Explores ⟨file, file.root, [], [e]⟩ (· ≠ [])
      (Walk.start.push "/" (r.endpointsOf file)) (r.walk e file) :=
    followScope_explores r ⟨file, file.root, [], [e]⟩ none _
      (Walk.active_enter_of_notMem List.not_mem_nil) rfl
  obtain ⟨chains, hnodup, hmem, hlength⟩ := length_of_explores (hexplores file.path)
  obtain ⟨chains', hnodup', hmem', hlength'⟩ := length_of_explores (hexplores e)
  have hne : file.path ≠ e := Project.ne_of_stored (hfile ▸ rfl) he
  -- The chain that comes back is possible in the second walk alone.
  have hback : ∃ q, r.LeadsTo ⟨file, file.root, [], [e]⟩ q ∧ r.Enters file.path q :=
    exists_chain_entering (by simpa using he) hfile rfl hcycle
  obtain ⟨q, ⟨c, hc⟩, henters⟩ := hback
  have hblocked := placeAfter?_eq_none_of_mem (List.mem_singleton.2 rfl)
    (by simpa using hne) hc henters.onChain
  have hc_mem : c ∈ chains' := by
    refine (hmem' c).2 ⟨?_, hc ▸ rfl⟩
    rintro rfl
    cases hblocked
  have hc_notMem : c ∉ chains := by
    intro h
    have hsome := ((hmem c).1 h).2
    rw [hblocked] at hsome
    cases hsome
  have hsubset : c :: chains ⊆ chains' := by
    refine List.cons_subset.2 ⟨hc_mem, fun d hd => (hmem' d).2 ⟨((hmem d).1 hd).1, ?_⟩⟩
    refine isSome_placeAfter?_mono (fun key hkey hmem => ?_) ((hmem d).1 hd).2
    exact absurd (List.mem_singleton.1 hmem) (Project.ne_of_stored hkey he)
  have hlt : chains.length < chains'.length :=
    ((List.nodup_cons.2 ⟨hc_notMem, hnodup⟩).subperm hsubset).length_le
  intro heq
  rw [heq, hlength'] at hlength
  omega

end RouteReader

/-! ## Spellings of the entry -/

/-- Results that are the same for all spellings but one, and for that one unless `C` holds. -/
theorem eq_iff_of_spellings {S : Path → Prop} {R : Path → Path → Prop} {k e e' : Path} {C : Prop}
    (hrefl : R k k) (hsymm : ∀ a b, R a b → R b a)
    (hother : ∀ a b, S a → S b → a ≠ k → b ≠ k → R a b) (hkey : ∀ a, S a → a ≠ k → (R k a ↔ ¬ C))
    (he : S e) (he' : S e') : R e e' ↔ (e = k ↔ e' = k) ∨ ¬ C := by
  by_cases hek : e = k <;> by_cases hek' : e' = k
  · subst hek
    subst hek'
    simp [hrefl]
  · subst hek
    simp [hek', hkey e' he' hek']
  · subst hek'
    have hswap : R e e' ↔ R e' e := ⟨hsymm e e', hsymm e' e⟩
    simp [hek, hswap, hkey e he hek]
  · simp [hek, hek', hother e e' he he' hek hek']

theorem Project.fileAt?_of_file? {p : Project} {file : SourceFile} {e : Path}
    (h : p.file? e = some file) : p.fileAt? file.path = some file := by
  rw [path_eq_of_fileAt? h]
  exact h

theorem Project.fileAt?_spelling {p : Project} {file : SourceFile} {e : Path} (hp : p.Keyed)
    (h : p.file? e = some file) (hne : e ≠ file.path) : p.fileAt? e = none := by
  rw [path_eq_of_fileAt? h] at hne
  exact fileAt?_eq_none_of_ne hp hne

section
variable {r : RouteReader} {file : SourceFile} {e e' : Path} (hp : r.project.Keyed)
  (h : r.project.file? e = some file) (h' : r.project.file? e' = some file)
include hp h h'

theorem moduleGraph?_eq_iff :
    r.project.moduleGraph? e = r.project.moduleGraph? e' ↔
      (e = file.path ↔ e' = file.path) ∨
        ¬ Relation.TransGen r.project.Imports file.path file.path := by
  have hfile := Project.fileAt?_of_file? h
  have hnone {a : Path} (ha : r.project.file? a = some file) := Project.fileAt?_spelling hp ha
  have hgraph {a : Path} (ha : r.project.file? a = some file) : r.project.moduleGraph? a =
      some (r.project.runModules [a] .nothing (ModuleTask.ofFile file true)) := by
    rw [Project.moduleGraph?, ha, Option.map_some]
  rw [hgraph h, hgraph h', Option.some.injEq]
  refine eq_iff_of_spellings (S := fun a => r.project.file? a = some file)
    (R := fun a b => r.project.runModules [a] .nothing (ModuleTask.ofFile file true) =
      r.project.runModules [b] .nothing (ModuleTask.ofFile file true)) rfl
    (fun _ _ => Eq.symm) (fun a b ha hb hak hbk => ?_) (fun a ha hak => ?_) h h'
  · rw [Project.runModules_of_notStored (hnone ha hak),
      Project.runModules_of_notStored (hnone hb hbk)]
  · rw [Project.runModules_of_notStored (hnone ha hak)]
    exact ⟨fun heq hcycle => Project.runModules_ne_of_cyclic hfile hcycle heq,
      fun hcycle => Project.runModules_of_not_cyclic hfile hcycle _⟩

theorem sameFound_iff :
    (r.walk e file).SameFound (r.walk e' file) ↔
      (e = file.path ↔ e' = file.path) ∨
        ¬ Relation.TransGen r.project.Registers file.path file.path := by
  have hfile := Project.fileAt?_of_file? h
  have hnone {a : Path} (ha : r.project.file? a = some file) := Project.fileAt?_spelling hp ha
  have hunmarked {a key : Path} (ha : r.project.fileAt? a = none)
      (hkey : Relation.TransGen r.project.Registers file.path key) : key ≠ a := by
    obtain ⟨_, _, hlast⟩ := Relation.TransGen.tail'_iff.1 hkey
    exact Project.ne_of_stored (Project.isSome_fileAt?_of_registers hlast) ha
  refine eq_iff_of_spellings (S := fun a => r.project.file? a = some file)
    (R := fun a b => (r.walk a file).SameFound (r.walk b file)) ⟨rfl, rfl⟩
    (fun _ _ hsame => ⟨hsame.1.symm, hsame.2.symm⟩) (fun a b ha hb hak hbk => ?_)
    (fun a ha hak => ?_) h h'
  · refine RouteReader.walk_congr hfile fun key hkey => ?_
    exact iff_of_false (hunmarked (hnone ha hak) hkey) (hunmarked (hnone hb hbk) hkey)
  · constructor
    · intro hsame hcycle
      exact RouteReader.walk_ne_of_cyclic hfile (hnone ha hak) hcycle hsame.1
    · intro hcycle
      refine RouteReader.walk_congr hfile fun key hkey => ?_
      refine iff_of_false ?_ (hunmarked (hnone ha hak) hkey)
      rintro rfl
      exact hcycle hkey

end

/-- **When the spelling of the entry does not matter.**  Runs in an absolute directory index every
file under its own path.  In such a project, for two paths that mean the same file, the module graph
is the same unless exactly one of them is the path that the file is stored under and its imports
lead back to it.  The walk over registrations comes to the same findings, one by one, unless exactly
one is the stored path and the registrations lead back to the file; so the groups that are made of
the findings are the same, and so are the diagnostics. -/
theorem entry_spelling_iff (r : RouteReader) (file : SourceFile) (e e' : Path) :
    (∀ (d : Disk) (request : Request) (entry : String),
      (Path.ofString request.root).absolute = true → d.indexWith request entry = .ok r.project →
      r.project.Keyed) ∧
    (r.project.Keyed → r.project.file? e = some file → r.project.file? e' = some file →
      (r.project.moduleGraph? e = r.project.moduleGraph? e' ↔
        (e = file.path ↔ e' = file.path) ∨
          ¬ Relation.TransGen r.project.Imports file.path file.path) ∧
      ((r.walk e file).SameFound (r.walk e' file) ↔
        (e = file.path ↔ e' = file.path) ∨
          ¬ Relation.TransGen r.project.Registers file.path file.path) ∧
      ((e = file.path ↔ e' = file.path) ∨
          ¬ Relation.TransGen r.project.Registers file.path file.path →
        RouteGroup.gather (r.walk e file).groups = RouteGroup.gather (r.walk e' file).groups ∧
          (r.walk e file).diagnostics = (r.walk e' file).diagnostics)) := by
  refine ⟨fun d request entry hroot h => Disk.keyed_indexWith hroot h,
    fun hp h h' => ⟨moduleGraph?_eq_iff hp h h', sameFound_iff hp h h', fun hcase => ?_⟩⟩
  obtain ⟨hgroups, hdiagnostics⟩ := (sameFound_iff hp h h').2 hcase
  exact ⟨congrArg RouteGroup.gather hgroups, hdiagnostics⟩

namespace ModuleCycle

def reader : RouteReader := .ofConfig project .standard

theorem keyed_project : project.Keyed := by
  intro f hf
  rcases List.mem_cons.1 hf with rfl | hf
  · decide
  · obtain rfl := List.mem_singleton.1 hf
    decide

theorem registrationsIn_entryFile {scope : Cursor} (h : project.IsScope entryFile scope) :
    project.registrationsIn entryFile scope = [] := by
  induction h with
  | root => decide
  | inline _ hreg _ ih =>
    rw [ih] at hreg
    cases hreg

/-- The entry of this project registers nothing. -/
theorem not_registers (path : Path) : ¬ project.Registers entry path := by
  rintro ⟨f, hf, scope, hscope, reg, hreg, -⟩
  obtain rfl : entryFile = f := Option.some.inj hf
  rw [registrationsIn_entryFile hscope] at hreg
  cases hreg

/-- Given by its name alone, the entry of two modules that import each other is collected twice. -/
theorem relative_entry :
    (project.Keyed ∧ project.file? entry = some entryFile ∧
      project.file? ⟨false, ["a.ts"]⟩ = some entryFile) ∧
    project.moduleGraph? entry ≠ project.moduleGraph? ⟨false, ["a.ts"]⟩ ∧
    (reader.walk entry entryFile).SameFound (reader.walk ⟨false, ["a.ts"]⟩ entryFile) := by
  have hentry : project.file? entry = some entryFile := rfl
  have hname : project.file? ⟨false, ["a.ts"]⟩ = some entryFile := rfl
  obtain ⟨hgraph, hwalk, -⟩ :=
    (entry_spelling_iff reader entryFile entry ⟨false, ["a.ts"]⟩).2 keyed_project hentry hname
  have hcycle : Relation.TransGen project.Imports entry entry :=
    .tail (.single imports_other) imports_entry
  refine ⟨⟨keyed_project, hentry, hname⟩, fun heq => ?_, hwalk.2 (Or.inr fun hback => ?_)⟩
  · rcases hgraph.1 heq with hsame | hacyclic
    · exact absurd (hsame.1 rfl) (by decide)
    · exact hacyclic hcycle
  · obtain ⟨path, hfirst, -⟩ := Relation.TransGen.head'_iff.1 hback
    exact not_registers path hfirst

end ModuleCycle

end RouteInventory
