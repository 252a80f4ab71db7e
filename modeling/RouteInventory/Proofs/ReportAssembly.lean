import Mathlib
import RouteInventory.Command.Run

/-!
# Assembling a report

On its way into a report an endpoint passes through two tables: the groups, which stand in the order
of their first endpoints, and the report, whose prefixes and paths are in order.  Neither loses,
repeats or reorders what it is given.

* `RouteGroup.gather_eq` — the groups of all that was found, prefix by prefix.
* `Report.filter_entries` — under one prefix and one path the entries of a report are those of the
  inventory, in its order; `Report.sorted_groups` — prefixes and paths are in order.
* `Report.count_entries` — the counts of a report are counts of its entries.
* `assembly_conserves` — both tables and the counts together, up to how a run ends.
-/

namespace RouteInventory

/-! ## Groups -/

namespace RouteGroup

/-- What was pushed under a prefix, in the order of the pushes. -/
def pushedUnder (mount : String) (found : List (String × List Endpoint)) : List Endpoint :=
  (found.filter fun f => f.1 = mount).flatMap Prod.snd

/-- The prefixes that endpoints were pushed under, in the order of the first such push. -/
def pushedMounts (found : List (String × List Endpoint)) : List String :=
  ((found.filter fun f => !f.2.isEmpty).map Prod.fst).eraseDups

variable {mount : String} {endpoints : List Endpoint} {found : List (String × List Endpoint)}
  {f : String × List Endpoint}

theorem pushedUnder_concat :
    pushedUnder mount (found ++ [f]) =
      pushedUnder mount found ++ if f.1 = mount then f.2 else [] := by
  unfold pushedUnder
  rw [List.filter_append, List.flatMap_append]
  by_cases h : f.1 = mount <;> simp [h]

theorem pushedMounts_concat_of_empty (hf : f.2 = []) :
    pushedMounts (found ++ [f]) = pushedMounts found := by
  unfold pushedMounts
  simp [List.filter_append, hf]

theorem pushedMounts_concat (hf : f.2 ≠ []) :
    pushedMounts (found ++ [f]) =
      if f.1 ∈ pushedMounts found then pushedMounts found else pushedMounts found ++ [f.1] := by
  unfold pushedMounts
  have hlast : [f].filter (fun f => !f.2.isEmpty) = [f] := by simp [hf]
  rw [List.filter_append, List.map_append, List.eraseDups_append, hlast, List.map_singleton]
  by_cases h : f.1 ∈ (found.filter fun f => !f.2.isEmpty).map Prod.fst
  · rw [if_pos (List.mem_eraseDups.2 h)]
    simp [List.removeAll, h]
  · rw [if_neg (mt List.mem_eraseDups.1 h)]
    simp [List.removeAll, h, List.eraseDups_cons]

theorem nodup_pushedMounts (found : List (String × List Endpoint)) :
    (pushedMounts found).Nodup := by
  induction found using List.reverseRecOn with
  | nil => exact List.nodup_nil
  | append_singleton found f ih =>
    by_cases hf : f.2 = []
    · rwa [pushedMounts_concat_of_empty hf]
    · rw [pushedMounts_concat hf]
      split
      · exact ih
      · rename_i hmem
        exact List.nodup_append.2 ⟨ih, List.nodup_singleton _, fun m hm k hk heq =>
          hmem (List.mem_singleton.1 hk ▸ heq ▸ hm)⟩

/-- Nothing is kept under a prefix that is not listed. -/
theorem pushedUnder_eq_nil (h : mount ∉ pushedMounts found) : pushedUnder mount found = [] := by
  refine List.flatMap_eq_nil_iff.2 fun f hf => ?_
  obtain ⟨hf, hmount⟩ := List.mem_filter.1 hf
  by_contra hne
  refine h (List.mem_eraseDups.2 (List.mem_map.2 ⟨f, List.mem_filter.2 ⟨hf, ?_⟩, ?_⟩))
  · simpa using hne
  · simpa using hmount

theorem pushedUnder_ne_nil (h : mount ∈ pushedMounts found) : pushedUnder mount found ≠ [] := by
  obtain ⟨f, hf, rfl⟩ := List.mem_map.1 (List.mem_eraseDups.1 h)
  obtain ⟨hf, hne⟩ := List.mem_filter.1 hf
  intro hnil
  have hempty := List.flatMap_eq_nil_iff.1 hnil f (List.mem_filter.2 ⟨hf, by simp⟩)
  simp [hempty] at hne

/-- Appending to groups that are given by their prefixes. -/
theorem append_map {mounts : List String} (hnodup : mounts.Nodup) (under : String → List Endpoint) :
    append mount endpoints (mounts.map fun m => ⟨m, under m⟩) =
      if mount ∈ mounts then
        mounts.map fun m => ⟨m, under m ++ if mount = m then endpoints else []⟩
      else mounts.map (fun m => ⟨m, under m⟩) ++ [⟨mount, endpoints⟩] := by
  induction mounts with
  | nil => rfl
  | cons m mounts ih =>
    obtain ⟨hm, hrest⟩ := List.nodup_cons.1 hnodup
    rw [List.map_cons, append]
    by_cases h : m = mount
    · subst h
      have hsame : mounts.map (fun k => (⟨k, under k⟩ : RouteGroup)) =
          mounts.map fun k => ⟨k, under k ++ if m = k then endpoints else []⟩ := by
        refine List.map_congr_left fun k hk => ?_
        have hne : m ≠ k := fun heq => hm (heq ▸ hk)
        simp [hne]
      simp [hsame]
    · have h' : mount ≠ m := fun heq => h heq.symm
      rw [if_neg h, ih hrest]
      by_cases hmem : mount ∈ mounts <;> simp [hmem, h']

/-- **The groups of all that was found**: one for each prefix that endpoints were pushed under, with
all endpoints that were pushed under it. -/
theorem gather_eq (found : List (String × List Endpoint)) :
    gather found = (pushedMounts found).map fun m => ⟨m, pushedUnder m found⟩ := by
  induction found using List.reverseRecOn with
  | nil => rfl
  | append_singleton found f ih =>
    have hstep : gather (found ++ [f]) = push (gather found) f := by
      rw [gather, List.foldl_append]
      rfl
    rw [hstep, ih, push]
    by_cases hf : f.2 = []
    · rw [if_pos (by simp [hf]), pushedMounts_concat_of_empty hf]
      refine List.map_congr_left fun m _ => ?_
      simp [pushedUnder_concat, hf]
    · rw [if_neg (by simp [hf]), append_map (nodup_pushedMounts found), pushedMounts_concat hf]
      by_cases hmem : f.1 ∈ pushedMounts found
      · simp only [if_pos hmem, pushedUnder_concat]
      · rw [if_neg hmem, if_neg hmem, List.map_append, List.map_singleton, pushedUnder_concat,
          pushedUnder_eq_nil hmem, if_pos rfl, List.nil_append]
        congr 1
        refine List.map_congr_left fun m hm => ?_
        have hne : f.1 ≠ m := fun heq => hmem (heq ▸ hm)
        rw [pushedUnder_concat, if_neg hne, List.append_nil]

end RouteGroup

/-! ## Tables in order -/

/-- The keys of a table are in order, each of them once. -/
def Ascending {α : Type} (table : List (String × α)) : Prop :=
  (table.map Prod.fst).Pairwise (· < ·)

/-- All that a table holds, item by item, each with its key. -/
def keyed {α β : Type} (items : α → List β) (table : List (String × α)) : List (String × β) :=
  table.flatMap fun t => (items t.2).map fun b => (t.1, b)

section
variable {α β : Type} {table rest : List (String × α)} {key k : String} {a : α}
  {items : α → List β} {change : Option α → α}

theorem ascending_cons :
    Ascending ((k, a) :: rest) ↔ (∀ t ∈ rest, k < t.1) ∧ Ascending rest := by
  unfold Ascending
  simp

theorem filter_keyed_cons :
    (keyed items ((k, a) :: rest)).filter (fun t => t.1 = key) =
      (if k = key then (items a).map fun b => (key, b) else [])
        ++ (keyed items rest).filter fun t => t.1 = key := by
  unfold keyed
  rw [List.flatMap_cons, List.filter_append]
  by_cases h : k = key
  · subst h
    simp [List.filter_map, Function.comp_def]
  · simp [List.filter_map, Function.comp_def, h]

/-- A key that all keys of a table come after has nothing in it. -/
theorem filter_keyed_eq_nil (h : ∀ t ∈ table, key < t.1) :
    (keyed items table).filter (fun t => t.1 = key) = [] := by
  refine List.filter_eq_nil_iff.2 fun x hx => ?_
  obtain ⟨t, ht, hx⟩ := List.mem_flatMap.1 hx
  obtain ⟨b, -, rfl⟩ := List.mem_map.1 hx
  simpa using (h t ht).ne'

/-- What comes before all keys of a table is not found in it. -/
theorem lookup_eq_none_of_lt (h : ∀ t ∈ table, key < t.1) : table.lookup key = none :=
  List.lookup_eq_none_iff.2 fun t ht => by simpa using (h t ht).ne

namespace Report

/-- A changed table holds what the change makes of the key, and otherwise only what it held. -/
theorem mem_alter {t : String × α} (h : Ascending table) (ht : t ∈ alter key change table) :
    t = (key, change (table.lookup key)) ∨ t ∈ table := by
  induction table with
  | nil => exact Or.inl (List.mem_singleton.1 ht)
  | cons u rest ih =>
    obtain ⟨k, a⟩ := u
    obtain ⟨hfirst, hrest⟩ := ascending_cons.1 h
    rw [alter] at ht
    split at ht
    · rename_i hlt
      have hnone : ((k, a) :: rest).lookup key = none :=
        lookup_eq_none_of_lt (List.forall_mem_cons.2 ⟨hlt, fun t ht => hlt.trans (hfirst t ht)⟩)
      rw [hnone]
      exact List.mem_cons.1 ht
    · split at ht
      · rename_i heq
        subst heq
        rw [List.lookup_cons_self]
        exact (List.mem_cons.1 ht).imp_right (List.mem_cons_of_mem _)
      · rename_i hne
        rw [List.lookup_cons, beq_eq_false_iff_ne.2 hne]
        rcases List.mem_cons.1 ht with rfl | ht
        · exact Or.inr List.mem_cons_self
        · exact (ih hrest ht).imp_right (List.mem_cons_of_mem _)

theorem ascending_alter (h : Ascending table) : Ascending (alter key change table) := by
  induction table with
  | nil => exact List.pairwise_singleton _ _
  | cons t rest ih =>
    obtain ⟨k, a⟩ := t
    obtain ⟨hfirst, hrest⟩ := ascending_cons.1 h
    rw [alter]
    split
    · rename_i hlt
      exact ascending_cons.2
        ⟨List.forall_mem_cons.2 ⟨hlt, fun t ht => hlt.trans (hfirst t ht)⟩, h⟩
    · split
      · exact ascending_cons.2 ⟨hfirst, hrest⟩
      · rename_i hnlt hne
        refine ascending_cons.2 ⟨fun t ht => ?_, ih hrest⟩
        rcases mem_alter hrest ht with rfl | ht
        · exact lt_of_le_of_ne (not_lt.1 hnlt) (Ne.symm hne)
        · exact hfirst t ht

/-- What a changed table holds: under the key what the change makes of it, elsewhere the same. -/
theorem filter_keyed_alter (h : Ascending table) :
    (keyed items (alter key change table)).filter (fun t => t.1 = k) =
      if key = k then (items (change (table.lookup key))).map fun b => (k, b)
      else (keyed items table).filter fun t => t.1 = k := by
  induction table with
  | nil =>
    rw [alter, filter_keyed_cons]
    split <;> simp [keyed]
  | cons t rest ih =>
    obtain ⟨k', a⟩ := t
    obtain ⟨hfirst, hrest⟩ := ascending_cons.1 h
    rw [alter]
    split
    · -- The key comes first, so that nothing stands under it yet.
      rename_i hlt
      have hbefore : ∀ t ∈ (k', a) :: rest, key < t.1 :=
        List.forall_mem_cons.2 ⟨hlt, fun t ht => hlt.trans (hfirst t ht)⟩
      rw [filter_keyed_cons, lookup_eq_none_of_lt hbefore]
      split
      · rename_i heq
        rw [← heq, filter_keyed_eq_nil hbefore, List.append_nil]
      · rfl
    · split
      · rename_i heq
        subst heq
        rw [filter_keyed_cons, filter_keyed_cons, List.lookup_cons_self]
        split
        · rename_i heq
          subst heq
          rw [filter_keyed_eq_nil hfirst, List.append_nil]
        · rfl
      · rename_i hne
        have hlookup : ((k', a) :: rest).lookup key = rest.lookup key := by
          rw [List.lookup_cons, beq_eq_false_iff_ne.2 hne]
        rw [filter_keyed_cons, filter_keyed_cons, ih hrest, hlookup]
        by_cases hk : key = k
        · subst hk
          rw [if_neg (Ne.symm hne), if_pos rfl, if_pos rfl, List.nil_append]
        · rw [if_neg hk, if_neg hk]

/-- What stands under a key, item by item. -/
theorem filter_keyed (h : Ascending table) :
    (keyed items table).filter (fun t => t.1 = k) =
      ((table.lookup k).map items).elim [] fun bs => bs.map fun b => (k, b) := by
  induction table with
  | nil => rfl
  | cons t rest ih =>
    obtain ⟨k', a⟩ := t
    obtain ⟨hfirst, hrest⟩ := ascending_cons.1 h
    rw [filter_keyed_cons, List.lookup_cons]
    by_cases heq : k = k'
    · subst heq
      rw [filter_keyed_eq_nil hfirst]
      simp
    · rw [ih hrest, if_neg (Ne.symm heq), beq_eq_false_iff_ne.2 heq, List.nil_append]

end Report
end

/-! ## Entries -/

/-- The entries that the endpoints of an inventory make, each with its prefix and path. -/
def Inventory.entries (i : Inventory) : List (String × String × ReportEntry) :=
  i.groups.flatMap fun g => g.endpoints.map fun e => (g.mount, e.path, .ofEndpoint e)

namespace Report

/-- The entries of the paths of one prefix, each with its path. -/
def pathEntries (paths : List (String × List ReportEntry)) : List (String × ReportEntry) :=
  keyed id paths

/-- The entries of a report, each with its prefix and path. -/
def entries (r : Report) : List (String × String × ReportEntry) := keyed pathEntries r.groups

variable {paths : List (String × List ReportEntry)} {path mount : String}
  {groups : List (String × List (String × List ReportEntry))}

/-- Adding an endpoint puts its entry behind those of the same path. -/
theorem filter_addEntry (h : Ascending paths) (e : Endpoint) :
    (pathEntries (addEntry paths e)).filter (fun t => t.1 = path) =
      (pathEntries paths).filter (fun t => t.1 = path)
        ++ ([e].map fun e => (e.path, ReportEntry.ofEndpoint e)).filter fun t => t.1 = path := by
  unfold pathEntries addEntry
  rw [filter_keyed_alter h]
  by_cases heq : e.path = path
  · subst heq
    rw [if_pos rfl, filter_keyed h]
    cases paths.lookup e.path <;> simp
  · simp [heq]

theorem ascending_foldl_addEntry (endpoints : List Endpoint) (h : Ascending paths) :
    Ascending (endpoints.foldl addEntry paths) := by
  induction endpoints generalizing paths with
  | nil => exact h
  | cons e endpoints ih => exact ih (ascending_alter h)

theorem filter_foldl_addEntry (endpoints : List Endpoint) (h : Ascending paths) :
    (pathEntries (endpoints.foldl addEntry paths)).filter (fun t => t.1 = path) =
      (pathEntries paths).filter (fun t => t.1 = path)
        ++ (endpoints.map fun e => (e.path, ReportEntry.ofEndpoint e)).filter
          fun t => t.1 = path := by
  induction endpoints generalizing paths with
  | nil => simp
  | cons e endpoints ih =>
    have hstep : Ascending (addEntry paths e) := ascending_alter h
    rw [List.foldl_cons, ih hstep, filter_addEntry h, List.append_assoc, ← List.filter_append,
      ← List.map_append, List.singleton_append]

/-- Both levels of a report's table are in order. -/
def Sorted (groups : List (String × List (String × List ReportEntry))) : Prop :=
  Ascending groups ∧ ∀ g ∈ groups, Ascending g.2

/-- The paths of a prefix are in order, also if there are none yet. -/
theorem Sorted.lookup (h : Sorted groups) (mount : String) :
    Ascending ((groups.lookup mount).getD []) := by
  cases hpaths : groups.lookup mount with
  | none => exact List.Pairwise.nil
  | some paths =>
    obtain ⟨l, r, hgroups, -⟩ := List.lookup_eq_some_iff.1 hpaths
    exact h.2 (mount, paths) (hgroups ▸ by simp)

theorem Sorted.addGroup (h : Sorted groups) (g : RouteGroup) : Sorted (addGroup groups g) := by
  refine ⟨ascending_alter h.1, fun t ht => ?_⟩
  rcases mem_alter h.1 ht with rfl | ht
  · exact ascending_foldl_addEntry g.endpoints (h.lookup g.mount)
  · exact h.2 t ht

/-- Whether an entry stands under a prefix and a path. -/
def isUnder (mount path : String) (t : String × String × ReportEntry) : Bool :=
  t.1 = mount ∧ t.2.1 = path

theorem filter_isUnder (entries : List (String × String × ReportEntry)) :
    entries.filter (isUnder mount path) =
      (entries.filter fun t => t.1 = mount).filter fun t => t.2.1 = path := by
  rw [List.filter_filter]
  refine List.filter_congr fun t _ => ?_
  simp [isUnder, Bool.and_comm]

/-- Adding a group puts the entries of its endpoints behind those of the same prefix and path. -/
theorem filter_addGroup (h : Sorted groups) (g : RouteGroup) :
    (keyed pathEntries (addGroup groups g)).filter (isUnder mount path) =
      (keyed pathEntries groups).filter (isUnder mount path)
        ++ (g.endpoints.map fun e => (g.mount, e.path, ReportEntry.ofEndpoint e)).filter
          (isUnder mount path) := by
  rw [filter_isUnder, filter_isUnder, filter_isUnder, addGroup, filter_keyed_alter h.1]
  by_cases heq : g.mount = mount
  · subst heq
    have hnew : ((g.endpoints.map fun e => (g.mount, e.path, ReportEntry.ofEndpoint e)).filter
        fun t => t.1 = g.mount) =
          (g.endpoints.map fun e => (e.path, ReportEntry.ofEndpoint e)).map (g.mount, ·) := by
      simp [List.filter_map, Function.comp_def]
    have hold : (keyed pathEntries groups).filter (fun t => t.1 = g.mount) =
        (pathEntries ((groups.lookup g.mount).getD [])).map (g.mount, ·) := by
      rw [filter_keyed h.1]
      cases groups.lookup g.mount <;> rfl
    have hpath (l : List (String × ReportEntry)) :
        (l.map (g.mount, ·)).filter (fun t => t.2.1 = path) =
          (l.filter fun t => t.1 = path).map (g.mount, ·) := List.filter_map
    rw [if_pos rfl, hold, hnew, hpath, hpath, hpath,
      filter_foldl_addEntry g.endpoints (h.lookup g.mount), List.map_append]
  · have hnone : ((g.endpoints.map fun e => (g.mount, e.path, ReportEntry.ofEndpoint e)).filter
        fun t => t.1 = mount) = [] := by
      simp [heq]
    rw [if_neg heq, hnone, List.filter_nil, List.append_nil]

theorem filter_foldl_addGroup (gs : List RouteGroup) (h : Sorted groups) :
    (keyed pathEntries (gs.foldl addGroup groups)).filter (isUnder mount path) =
      (keyed pathEntries groups).filter (isUnder mount path)
        ++ (gs.flatMap fun g => g.endpoints.map fun e =>
          (g.mount, e.path, ReportEntry.ofEndpoint e)).filter (isUnder mount path) := by
  induction gs generalizing groups with
  | nil => simp
  | cons g gs ih =>
    rw [List.foldl_cons, ih (h.addGroup g), filter_addGroup h, List.append_assoc,
      ← List.filter_append, List.flatMap_cons]

theorem sorted_foldl_addGroup (gs : List RouteGroup) (h : Sorted groups) :
    Sorted (gs.foldl addGroup groups) := by
  induction gs generalizing groups with
  | nil => exact h
  | cons g gs ih => exact ih (h.addGroup g)

theorem sorted_nil : Sorted [] := ⟨List.Pairwise.nil, fun _ h => absurd h List.not_mem_nil⟩

/-- The prefixes of a report are in order, and so are the paths of each of them. -/
theorem sorted_groups (i : Inventory) : Sorted (ofInventory i).groups :=
  sorted_foldl_addGroup i.groups sorted_nil

/-- **Under one prefix and one path** a report has the entries of the inventory, in its order. -/
theorem filter_entries (i : Inventory) (mount path : String) :
    (ofInventory i).entries.filter (isUnder mount path) =
      i.entries.filter (isUnder mount path) :=
  filter_foldl_addGroup i.groups sorted_nil

/-- No entry is lost, and none is made up. -/
theorem entries_perm (i : Inventory) : (ofInventory i).entries.Perm i.entries := by
  refine List.perm_iff_count.2 fun t => ?_
  have hself : isUnder t.1 t.2.1 t = true := by simp [isUnder]
  rw [← List.count_filter hself, filter_entries, List.count_filter hself]

/-! ## Counts -/

theorem map_entries (i : Inventory) :
    i.entries.map (fun t => t.2.2) = i.endpoints.map ReportEntry.ofEndpoint := by
  unfold Inventory.entries Inventory.endpoints
  simp [List.map_flatMap, Function.comp_def]

/-- The counts of a report are counts of its entries. -/
theorem count_entries (i : Inventory) (r : Requirement) :
    i.count r = ((ofInventory i).entries.filter fun t => t.2.2.requiresAuth = r).length := by
  have hperm := (entries_perm i).map fun t => t.2.2
  rw [map_entries] at hperm
  have hcount := (hperm.filter fun e => e.requiresAuth = r).length_eq
  simp only [List.filter_map, List.length_map] at hcount
  exact hcount.symm

theorem total_entries (i : Inventory) : i.total = (ofInventory i).entries.length := by
  have hlength := congrArg List.length (map_entries i)
  rw [List.length_map, List.length_map] at hlength
  exact hlength.symm.trans (entries_perm i).length_eq.symm

end Report

namespace Inventory

/-- Every endpoint is counted once. -/
theorem total_eq_counts (i : Inventory) :
    i.total = i.count .required + i.count .notRequired + i.count .unknown := by
  unfold total count
  induction i.endpoints with
  | nil => rfl
  | cons e es ih =>
    simp only [List.filter_cons]
    cases e.auth.requirement <;> simp <;> omega

theorem count_le_total (i : Inventory) (r : Requirement) : i.count r ≤ i.total :=
  List.length_filter_le _ _

theorem total_sub_count_pos_iff (i : Inventory) :
    0 < i.total - i.count .required ↔ ∃ e ∈ i.endpoints, e.auth.requirement ≠ .required := by
  have hall : i.count .required = i.total ↔ ∀ e ∈ i.endpoints, e.auth.requirement = .required := by
    simp [count, total]
  rw [Nat.sub_pos_iff_lt, Nat.lt_iff_le_and_ne]
  simp only [count_le_total, true_and, ne_eq, hall, not_forall, exists_prop]

end Inventory

theorem ExtractArgs.ending_eq_negative_iff (args : ExtractArgs) (i : Inventory) :
    args.ending i = .negative ↔
      args.failOnPublic = true ∧ 0 < i.total - i.count .required := by
  unfold ending
  split
  · rename_i h
    exact iff_of_true rfl (by simpa using h)
  · rename_i h
    exact iff_of_false (by simp) (by simpa using h)

/-- **Assembly loses, repeats and reorders nothing.**  The groups of all that was pushed are not
empty, have different prefixes in the order of the first push that was not empty, and each holds all
that was pushed under its prefix, in order.  The entries of a report are those of the endpoints of
the inventory; under one prefix and path they keep their order, and prefixes and paths are
ascending.  The counts of a report add up and are those of its entries, so that what is not required
is never counted below zero and a run that must not find such endpoints fails exactly if there is
one. -/
theorem assembly_conserves (found : List (String × List Endpoint)) (i : Inventory)
    (args : ExtractArgs) :
    ((∀ g ∈ RouteGroup.gather found, g.endpoints ≠ []) ∧
      ((RouteGroup.gather found).map RouteGroup.mount).Nodup ∧
      (RouteGroup.gather found).map RouteGroup.mount =
        ((found.filter fun f => !f.2.isEmpty).map Prod.fst).eraseDups ∧
      ∀ g ∈ RouteGroup.gather found,
        g.endpoints = (found.filter fun f => f.1 = g.mount).flatMap Prod.snd) ∧
    (((Report.ofInventory i).entries.map fun t => t.2.2).Perm
        (i.endpoints.map ReportEntry.ofEndpoint) ∧
      (∀ mount path, (Report.ofInventory i).entries.filter (Report.isUnder mount path) =
        i.entries.filter (Report.isUnder mount path)) ∧
      ((Report.ofInventory i).groups.map Prod.fst).Pairwise (· < ·) ∧
      ∀ g ∈ (Report.ofInventory i).groups, (g.2.map Prod.fst).Pairwise (· < ·)) ∧
    (let report := Report.ofInventory i
      let carrying := fun r => (report.entries.filter fun t => t.2.2.requiresAuth = r).length
      report.info.total = report.entries.length ∧
      report.info.total = report.info.required + report.info.notRequired + report.info.unknown ∧
      report.info.required = carrying .required ∧
      report.info.notRequired = carrying .notRequired ∧
      report.info.unknown = carrying .unknown) ∧
    i.count .required ≤ i.total ∧
    (0 < i.total - i.count .required ↔ ∃ e ∈ i.endpoints, e.auth.requirement ≠ .required) ∧
    (args.ending i = .negative ↔
      args.failOnPublic = true ∧ ∃ e ∈ i.endpoints, e.auth.requirement ≠ .required) := by
  have hmounts :
      (RouteGroup.gather found).map RouteGroup.mount = RouteGroup.pushedMounts found := by
    rw [RouteGroup.gather_eq, List.map_map]
    exact List.map_id _
  have hgroup : ∀ g ∈ RouteGroup.gather found, g.mount ∈ RouteGroup.pushedMounts found ∧
      g.endpoints = RouteGroup.pushedUnder g.mount found := by
    intro g hg
    rw [RouteGroup.gather_eq] at hg
    obtain ⟨m, hm, rfl⟩ := List.mem_map.1 hg
    exact ⟨hm, rfl⟩
  refine ⟨⟨fun g hg => ?_, hmounts ▸ RouteGroup.nodup_pushedMounts found, hmounts,
      fun g hg => (hgroup g hg).2⟩,
    ⟨?_, Report.filter_entries i, Report.sorted_groups i⟩,
    ⟨Report.total_entries i, i.total_eq_counts, Report.count_entries i _,
      Report.count_entries i _, Report.count_entries i _⟩,
    i.count_le_total _, i.total_sub_count_pos_iff, ?_⟩
  · rw [(hgroup g hg).2]
    exact RouteGroup.pushedUnder_ne_nil (hgroup g hg).1
  · rw [← Report.map_entries]
    exact (Report.entries_perm i).map _
  · rw [← i.total_sub_count_pos_iff]
    exact args.ending_eq_negative_iff i

end RouteInventory
