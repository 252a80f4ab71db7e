import Mathlib
import RouteInventory.Proofs.DiskGrowth
import RouteInventory.Proofs.DocumentOrder
import RouteInventory.Proofs.EntrySpelling
import RouteInventory.Proofs.ParameterNames
import RouteInventory.Proofs.ReportAssembly

/-!
# The keys of a report

A report is written as a document of nested objects.  Most of their keys are fixed, or are kept
distinct by the tables that a report is made of.  The others come from a project as they are: the
prefixes, next to which stands the key `_meta`, and the names of parameters and of response fields.

* `Report.keysDistinct_ofInventory` — when no object of a report has a key twice.
* `RouteReader.meta_mem_mounts_walk` — of the prefixes of calls, those that the entry file spells
  out come as they are, and all others are paths.
* `Disk.keysDistinct_report_iff` — the report on a project.
* `RepeatedQuery.key_twice` — a report that has a key twice.
-/

namespace RouteInventory

/-! ## Documents -/

namespace Json

/-- No object of the document has a key twice. -/
inductive KeysDistinct : Json → Prop
  | null : KeysDistinct null
  | bool (b : Bool) : KeysDistinct (bool b)
  | number (n : JsonNumber) : KeysDistinct (number n)
  | string (s : String) : KeysDistinct (string s)
  | array {items : List Json} (each : ∀ x ∈ items, KeysDistinct x) : KeysDistinct (array items)
  | object {entries : List (String × Json)} (keys : (entries.map Prod.fst).Nodup)
      (each : ∀ e ∈ entries, KeysDistinct e.2) : KeysDistinct (object entries)

theorem keysDistinct_array {items : List Json} :
    (array items).KeysDistinct ↔ ∀ x ∈ items, x.KeysDistinct := by
  constructor
  · rintro ⟨⟩
    assumption
  · exact .array

theorem keysDistinct_object {entries : List (String × Json)} :
    (object entries).KeysDistinct ↔
      (entries.map Prod.fst).Nodup ∧ ∀ e ∈ entries, e.2.KeysDistinct := by
  constructor
  · rintro ⟨⟩
    exact ⟨‹_›, ‹_›⟩
  · exact fun h => .object h.1 h.2

/-- Among fixed keys only the values matter. -/
theorem keysDistinct_object_of_sublist {entries : List (String × Json)} {keys : List String}
    (hsub : (entries.map Prod.fst).Sublist keys) (hkeys : keys.Nodup) :
    (object entries).KeysDistinct ↔ ∀ e ∈ entries, e.2.KeysDistinct := by
  rw [keysDistinct_object, and_iff_right (hkeys.sublist hsub)]

end Json

theorem keys_entryUnless (absent : Bool) (key : String) (value : Json) :
    ((entryUnless absent key value).map Prod.fst).Sublist [key] := by
  unfold entryUnless
  split
  · exact List.nil_sublist _
  · exact List.Sublist.refl _

theorem keys_entryOf {α : Type} (key : String) (write : α → Json) (value : Option α) :
    ((entryOf key write value).map Prod.fst).Sublist [key] := by
  unfold entryOf
  cases value with
  | none => exact List.nil_sublist _
  | some a => exact List.Sublist.refl _

theorem forall_entryUnless {P : Json → Prop} {absent : Bool} {key : String} {value : Json} :
    (∀ e ∈ entryUnless absent key value, P e.2) ↔ (absent = false → P value) := by
  unfold entryUnless
  cases absent <;> simp

theorem forall_entryOf {P : Json → Prop} {α : Type} {key : String} {write : α → Json}
    {value : Option α} : (∀ e ∈ entryOf key write value, P e.2) ↔ ∀ a ∈ value, P (write a) := by
  unfold entryOf
  cases value <;> simp

/-! ## Reports as documents -/

namespace ParamMap

theorem keysDistinct_toJson (m : ParamMap) :
    m.toJson.KeysDistinct ↔ (m.entries.map Prod.fst).Nodup := by
  have hkeys : (m.entries.map fun e => (e.1, Json.string e.2)).map Prod.fst
      = m.entries.map Prod.fst := by
    rw [List.map_map]
    rfl
  have hvalues : ∀ e ∈ m.entries.map fun e => (e.1, Json.string e.2), e.2.KeysDistinct :=
    List.forall_mem_map.2 fun e _ => .string e.2
  rw [← hkeys]
  exact Json.keysDistinct_object.trans (and_iff_left hvalues)

theorem keysDistinct_ofParams (ps : List Param) :
    (ofParams ps).toJson.KeysDistinct ↔ (ps.map Param.name).Nodup := by
  rw [keysDistinct_toJson, ofParams, List.map_map]
  rfl

/-- Nothing is lost by leaving out what is empty. -/
theorem keysDistinct_of_isEmpty (m : ParamMap) :
    (m.isEmpty = false → m.toJson.KeysDistinct) ↔ m.toJson.KeysDistinct := by
  constructor
  · intro h
    cases hempty : m.isEmpty with
    | false => exact h hempty
    | true =>
      rw [keysDistinct_toJson, List.isEmpty_iff.1 hempty]
      exact List.nodup_nil
  · exact fun h _ => h

end ParamMap

theorem ReportSuccess.keysDistinct_toJson (s : ReportSuccess) :
    s.toJson.KeysDistinct ↔ s.dataType.toJson.KeysDistinct := by
  have hkeys : (["code", "dataType"] : List String).Nodup := by decide
  refine Json.keysDistinct_object.trans ((and_iff_right hkeys).trans ?_)
  simp [Json.ofNat, Json.KeysDistinct.number]

theorem ReportFailure.keysDistinct_toJson (f : ReportFailure) : f.toJson.KeysDistinct := by
  have hkeys : (["code", "message"] : List String).Nodup := by decide
  refine .object hkeys ?_
  simp [Json.ofNat, Json.KeysDistinct.number, Json.KeysDistinct.string]

theorem ReportResponses.keysDistinct_toJson (r : ReportResponses) :
    r.toJson.KeysDistinct ↔ ∀ s ∈ r.success, s.dataType.toJson.KeysDistinct := by
  have hkeys : (["success"] ++ ["errors"] : List String).Nodup := by decide
  have hsub := (keys_entryOf "success" ReportSuccess.toJson r.success).append
    (keys_entryUnless r.errors.isEmpty "errors" (.array (r.errors.map ReportFailure.toJson)))
  have herrors : (Json.array (r.errors.map ReportFailure.toJson)).KeysDistinct :=
    .array (List.forall_mem_map.2 fun f _ => f.keysDistinct_toJson)
  rw [← List.map_append] at hsub
  refine (Json.keysDistinct_object_of_sublist hsub hkeys).trans ?_
  rw [List.forall_mem_append, forall_entryOf, forall_entryUnless]
  simp only [ReportSuccess.keysDistinct_toJson, herrors, implies_true, and_true]

theorem ReportEntry.keysDistinct_toJson (e : ReportEntry) :
    e.toJson.KeysDistinct ↔
      e.pathParams.toJson.KeysDistinct ∧ e.queryParams.toJson.KeysDistinct ∧
        e.bodyParams.toJson.KeysDistinct ∧ ∀ r ∈ e.responses, r.toJson.KeysDistinct := by
  have hkeys : (["METHOD"] ++ ["pathParams"] ++ ["queryParams"] ++ ["bodyParams"]
      ++ ["requiresAuth"] ++ ["authConfidence"] ++ ["authSignals"] ++ ["authHookPoint"] ++ ["sourceFile", "line"]
      ++ ["responses"] : List String).Nodup := by decide
  have hauth : e.requiresAuth.toJson.KeysDistinct := by
    cases e.requiresAuth with
    | required | notRequired => exact .bool _
    | unknown => exact .string _
  have hsignals : (Json.array (e.signals.map .string)).KeysDistinct :=
    .array (List.forall_mem_map.2 fun s _ => .string s)
  unfold toJson
  rw [Json.keysDistinct_object_of_sublist ?_ hkeys]
  · simp only [List.forall_mem_append, List.forall_mem_cons, List.not_mem_nil,
      IsEmpty.forall_iff, forall_entryUnless, forall_entryOf, ParamMap.keysDistinct_of_isEmpty,
      hauth, hsignals,
      Json.KeysDistinct.string, Json.ofNat, Json.KeysDistinct.number, implies_true, and_true,
      true_and, and_assoc]
  · simp only [List.map_append]
    refine .append (.append (.append (.append (.append (.append (.append (.append (.append ?_ ?_)
      ?_) ?_) ?_) ?_) ?_) ?_) ?_) ?_
    · exact List.Sublist.refl _
    · exact keys_entryUnless _ _ _
    · exact keys_entryUnless _ _ _
    · exact keys_entryUnless _ _ _
    · exact List.Sublist.refl _
    · exact keys_entryOf _ _ _
    · exact keys_entryUnless _ _ _
    · exact keys_entryOf _ _ _
    · exact List.Sublist.refl _
    · exact keys_entryOf _ _ _

theorem Diagnostic.keysDistinct_toJson (d : Diagnostic) : d.toJson.KeysDistinct := by
  have hkeys : (["kind", "path", "message"] : List String).Nodup := by decide
  refine .object hkeys ?_
  simp [Json.KeysDistinct.string]

theorem ReportInfo.keysDistinct_toJson (i : ReportInfo) : i.toJson.KeysDistinct := by
  have hkeys : (["framework", "projectRoot", "extractedAt", "totalEndpoints", "authRequiredCount",
      "publicCount", "unknownCount", "partial"] ++ ["diagnostics"] : List String).Nodup := by decide
  have hdiagnostics : (Json.array (i.diagnostics.map Diagnostic.toJson)).KeysDistinct :=
    .array (List.forall_mem_map.2 fun d _ => d.keysDistinct_toJson)
  unfold toJson
  rw [Json.keysDistinct_object_of_sublist ?_ hkeys]
  · simp only [List.forall_mem_append, List.forall_mem_cons, List.not_mem_nil,
      IsEmpty.forall_iff, forall_entryUnless, hdiagnostics, Json.ofNat, Json.KeysDistinct.string,
      Json.KeysDistinct.number, Json.KeysDistinct.bool, implies_true, and_true]
  · rw [List.map_append]
    exact .append (List.Sublist.refl _) (keys_entryUnless _ _ _)

theorem ReportEntry.keysDistinct_ofEndpoint (e : Endpoint) :
    (ofEndpoint e).toJson.KeysDistinct ↔ e.NamesDistinct := by
  have hresponses : (∀ r ∈ (ofEndpoint e).responses, r.toJson.KeysDistinct) ↔
      ∀ r ∈ e.responses, ∀ s ∈ r.success.head?, (s.dataType.map Param.name).Nodup := by
    unfold ofEndpoint
    cases e.responses with
    | none => simp
    | some r =>
      rw [Option.bind_some, ReportResponses.ofResponses?]
      cases hempty : r.isEmpty with
      | true =>
        have hsuccess : r.success = [] :=
          List.isEmpty_iff.1 (Bool.and_eq_true_iff.1 hempty).1
        simp [hsuccess]
      | false =>
        simp only [Bool.false_eq_true, if_false, Option.mem_some_iff, forall_eq',
          ReportResponses.keysDistinct_toJson, Option.mem_map, forall_exists_index, and_imp,
          forall_apply_eq_imp_iff₂, ParamMap.keysDistinct_ofParams]
  rw [keysDistinct_toJson, hresponses]
  unfold ofEndpoint Endpoint.NamesDistinct
  simp only [ParamMap.keysDistinct_ofParams]

namespace Report

theorem nodup_of_ascending {α : Type} {table : List (String × α)} (h : Ascending table) :
    (table.map Prod.fst).Nodup := h.imp ne_of_lt

theorem keysDistinct_groupJson {paths : List (String × List ReportEntry)} (h : Ascending paths) :
    (groupJson paths).KeysDistinct ↔ ∀ t ∈ paths, ∀ e ∈ t.2, e.toJson.KeysDistinct := by
  have hkeys : ((paths.map fun t => (t.1, Json.array (t.2.map ReportEntry.toJson))).map
      Prod.fst).Nodup := by
    rw [List.map_map]
    exact nodup_of_ascending h
  have hone : (["endpoints"] : List String).Nodup := List.nodup_singleton _
  refine Json.keysDistinct_object.trans ((and_iff_right hone).trans ?_)
  rw [List.forall_mem_singleton]
  refine Json.keysDistinct_object.trans ((and_iff_right hkeys).trans ?_)
  rw [List.forall_mem_map]
  refine forall₂_congr fun t _ => ?_
  rw [Json.keysDistinct_array, List.forall_mem_map]

theorem keysDistinct_toJson {r : Report} (h : Sorted r.groups) :
    r.toJson.KeysDistinct ↔
      "_meta" ∉ r.groups.map Prod.fst ∧ ∀ t ∈ r.entries, t.2.2.toJson.KeysDistinct := by
  have hkeys : ((("_meta", r.info.toJson) ::
      r.groups.map fun g => (g.1, groupJson g.2)).map Prod.fst).Nodup ↔
        "_meta" ∉ r.groups.map Prod.fst := by
    rw [List.map_cons, List.nodup_cons, List.map_map]
    exact and_iff_left (nodup_of_ascending h.1)
  refine Json.keysDistinct_object.trans (and_congr hkeys ?_)
  rw [List.forall_mem_cons, and_iff_right r.info.keysDistinct_toJson, List.forall_mem_map]
  constructor
  · intro hgroups t ht
    obtain ⟨g, hg, ht⟩ := List.mem_flatMap.1 ht
    obtain ⟨u, hu, rfl⟩ := List.mem_map.1 ht
    obtain ⟨v, hv, hu⟩ := List.mem_flatMap.1 hu
    obtain ⟨e, he, rfl⟩ := List.mem_map.1 hu
    exact (keysDistinct_groupJson (h.2 g hg)).1 (hgroups g hg) v hv e he
  · intro hentries g hg
    refine (keysDistinct_groupJson (h.2 g hg)).2 fun v hv e he => ?_
    refine hentries (g.1, v.1, e) (List.mem_flatMap.2 ⟨g, hg, List.mem_map_of_mem ?_⟩)
    exact List.mem_flatMap.2 ⟨v, hv, List.mem_map_of_mem he⟩

theorem mem_keys_alter {α : Type} {key k : String} {change : Option α → α}
    {table : List (String × α)} :
    k ∈ (alter key change table).map Prod.fst ↔ k = key ∨ k ∈ table.map Prod.fst := by
  induction table with
  | nil => simp [alter]
  | cons t rest ih =>
    obtain ⟨k', a⟩ := t
    unfold alter
    split
    · simp
    · split
      · rename_i heq
        simp [heq]
      · rw [List.map_cons, List.mem_cons, ih, List.map_cons, List.mem_cons]
        exact or_left_comm

theorem mem_keys_foldl_addGroup {mount : String} (gs : List RouteGroup)
    (groups : List (String × List (String × List ReportEntry))) :
    mount ∈ (gs.foldl addGroup groups).map Prod.fst ↔
      mount ∈ gs.map RouteGroup.mount ∨ mount ∈ groups.map Prod.fst := by
  induction gs generalizing groups with
  | nil => simp
  | cons g gs ih =>
    rw [List.foldl_cons, ih, addGroup, mem_keys_alter, List.map_cons, List.mem_cons, or_assoc,
      or_left_comm]

theorem mem_keys_ofInventory {i : Inventory} {mount : String} :
    mount ∈ (ofInventory i).groups.map Prod.fst ↔ mount ∈ i.groups.map RouteGroup.mount :=
  (mem_keys_foldl_addGroup i.groups []).trans (or_iff_left List.not_mem_nil)

/-- **When no object of a report has a key twice.**  The entries of a report, its prefixes and its
paths have distinct keys anyway. -/
theorem keysDistinct_ofInventory (i : Inventory) :
    (ofInventory i).toJson.KeysDistinct ↔
      "_meta" ∉ i.groups.map RouteGroup.mount ∧ ∀ e ∈ i.endpoints, e.NamesDistinct := by
  rw [keysDistinct_toJson (sorted_groups i), mem_keys_ofInventory]
  refine and_congr_right fun _ => ?_
  constructor
  · intro h e he
    obtain ⟨g, hg, he⟩ := List.mem_flatMap.1 he
    have hentry : (g.mount, e.path, ReportEntry.ofEndpoint e) ∈ i.entries :=
      List.mem_flatMap.2 ⟨g, hg, List.mem_map_of_mem he⟩
    have hkeys := h (g.mount, e.path, .ofEndpoint e) ((entries_perm i).mem_iff.2 hentry)
    exact (ReportEntry.keysDistinct_ofEndpoint e).1 hkeys
  · intro h t ht
    obtain ⟨g, hg, ht⟩ := List.mem_flatMap.1 ((entries_perm i).mem_iff.1 ht)
    obtain ⟨e, he, rfl⟩ := List.mem_map.1 ht
    exact (ReportEntry.keysDistinct_ofEndpoint e).2 (h e (List.mem_flatMap.2 ⟨g, hg, he⟩))

end Report

/-! ## What is gathered -/

namespace RouteGroup

variable {found : List (String × List Endpoint)}

theorem mem_mounts_gather {mount : String} :
    mount ∈ (gather found).map RouteGroup.mount ↔ ∃ es, (mount, es) ∈ found ∧ es ≠ [] := by
  have hmounts : (gather found).map RouteGroup.mount = pushedMounts found := by
    rw [gather_eq, List.map_map]
    exact List.map_id _
  rw [hmounts, pushedMounts, List.mem_eraseDups, List.mem_map]
  constructor
  · rintro ⟨f, hf, rfl⟩
    obtain ⟨hf, hne⟩ := List.mem_filter.1 hf
    exact ⟨f.2, hf, by simpa using hne⟩
  · rintro ⟨es, hes, hne⟩
    exact ⟨(mount, es), List.mem_filter.2 ⟨hes, by simpa using hne⟩, rfl⟩

theorem mem_endpoints_gather {e : Endpoint} :
    e ∈ (gather found).flatMap RouteGroup.endpoints ↔ ∃ f ∈ found, e ∈ f.2 := by
  rw [gather_eq]
  constructor
  · intro h
    obtain ⟨g, hg, he⟩ := List.mem_flatMap.1 h
    obtain ⟨mount, -, rfl⟩ := List.mem_map.1 hg
    obtain ⟨f, hf, he⟩ := List.mem_flatMap.1 he
    exact ⟨f, (List.mem_filter.1 hf).1, he⟩
  · rintro ⟨f, hf, he⟩
    have hpushed : f.1 ∈ pushedMounts found := by
      rw [pushedMounts, List.mem_eraseDups]
      exact List.mem_map_of_mem (List.mem_filter.2 ⟨hf, by simpa using List.ne_nil_of_mem he⟩)
    refine List.mem_flatMap.2 ⟨_, List.mem_map_of_mem hpushed, List.mem_flatMap.2 ⟨f, ?_, he⟩⟩
    exact List.mem_filter.2 ⟨hf, by simp⟩

end RouteGroup

theorem RoutePath.join_ne_meta (parts : List String) : RoutePath.join parts ≠ "_meta" := by
  intro h
  have hchars := congrArg String.toList h
  simp [RoutePath.join] at hchars

/-! ## Routes that are registered by calls -/

namespace RouteReader

variable {r : RouteReader}

/-- Where the walk from an entry file starts; the path is the one that the entry was given by. -/
def startOf (entry : Path) (file : SourceFile) : Place := ⟨file, file.root, [], [entry]⟩

/-- The entry file registers a plugin under the prefix, and the plugin has endpoints of its own. -/
def RegistersUnder (r : RouteReader) (entry : Path) (file : SourceFile) (mount : String) : Prop :=
  ∃ reg ∈ r.registrationsAt (startOf entry file), reg.mount = mount ∧
    ∃ next, r.lead? (startOf entry file) reg = some next ∧
      (r.endpointsIn next.file next.scope).1 ≠ []

/-- The walk meets the endpoints of the entry file, and those at the ends of chains. -/
theorem mem_groups_walk {entry : Path} {file : SourceFile} {f : String × List Endpoint} :
    f ∈ (r.walk entry file).groups ↔ f = ("/", (r.endpointsOf file).1) ∨
      ∃ c pl, c ≠ [] ∧ r.placeAfter? (startOf entry file) c = some pl ∧ r.contribution pl = f := by
  have hfresh : entry ∉ (Walk.start.push "/" (r.endpointsOf file)).active := List.not_mem_nil
  obtain ⟨chains, -, hmem, hgroups⟩ := followScope_explores r (startOf entry file) none _
    (Walk.active_enter_of_notMem hfresh) rfl
  have hpushed : (r.walk entry file).groups =
      ("/", (r.endpointsOf file).1) :: r.contributions (startOf entry file) chains := hgroups
  rw [hpushed, List.mem_cons, contributions, List.mem_filterMap]
  refine or_congr_right ?_
  constructor
  · rintro ⟨c, hc, hf⟩
    obtain ⟨pl, hpl, hf⟩ := Option.map_eq_some_iff.1 hf
    exact ⟨c, pl, ((hmem c).1 hc).1, hpl, hf⟩
  · rintro ⟨c, pl, hc, hpl, hf⟩
    refine ⟨c, (hmem c).2 ⟨hc, by rw [hpl]; rfl⟩, ?_⟩
    rw [hpl, Option.map_some, hf]

theorem mounts_of_lead? {pl next : Place} {reg : Registration} (h : r.lead? pl reg = some next) :
    next.mounts = pl.mounts ++ [reg.mount] := by
  rcases lead?_eq_some h with ⟨body, -, rfl⟩ | ⟨name, module, key, f, -, -, -, rfl⟩
  · rfl
  · rfl

/-- Prefixes are only ever put behind those of the plugins around. -/
theorem mounts_of_placeAfter? {c : List Nat} {pl q : Place} (h : r.placeAfter? pl c = some q) :
    pl.mounts <+: q.mounts := by
  induction c generalizing pl with
  | nil =>
    cases h
    exact List.prefix_refl _
  | cons i is ih =>
    obtain ⟨next, hnext, h⟩ := Option.bind_eq_some_iff.1 h
    obtain ⟨reg, -, hlead⟩ := Option.bind_eq_some_iff.1 hnext
    exact (mounts_of_lead? hlead ▸ List.prefix_append _ _).trans (ih h)

/-- A prefix that was joined to another one is a path. -/
theorem joinMounts_ne_meta {mounts : List String} (h : 2 ≤ mounts.length) :
    (joinMounts mounts).getD "/" ≠ "_meta" := by
  rcases List.eq_nil_or_concat mounts with rfl | ⟨outer, mount, rfl⟩
  · simp at h
  · cases outer with
    | nil => simp at h
    | cons m ms =>
      rw [List.concat_eq_append, joinMounts_append]
      exact RoutePath.join_ne_meta _

/-- **Only the prefixes that the entry file itself spells out** come as they are. -/
theorem meta_mem_mounts_walk {entry : Path} {file : SourceFile} :
    "_meta" ∈ (RouteGroup.gather (r.walk entry file).groups).map RouteGroup.mount ↔
      r.RegistersUnder entry file "_meta" := by
  rw [RouteGroup.mem_mounts_gather]
  constructor
  · rintro ⟨es, hes, hne⟩
    rcases mem_groups_walk.1 hes with heq | ⟨c, pl, hc, hpl, hcontribution⟩
    · have hmount : "_meta" = "/" := congrArg Prod.fst heq
      exact absurd hmount (by decide)
    · have hmount : (joinMounts pl.mounts).getD "/" = "_meta" := congrArg Prod.fst hcontribution
      obtain ⟨i, is, rfl⟩ := List.exists_cons_of_ne_nil hc
      obtain ⟨reg, next, hi, hlead, hrest⟩ := exists_of_placeAfter?_cons hpl
      have hmounts : next.mounts = [reg.mount] := mounts_of_lead? hlead
      cases is with
      | nil =>
        obtain rfl : next = pl := Option.some.inj hrest
        rw [hmounts] at hmount
        have hendpoints : (r.endpointsIn next.file next.scope).1 = es :=
          congrArg Prod.snd hcontribution
        exact ⟨reg, List.mem_of_getElem? hi, hmount, next, hlead, hendpoints ▸ hne⟩
      | cons j js =>
        obtain ⟨reg', next', -, hlead', hrest⟩ := exists_of_placeAfter?_cons hrest
        have hlength := (mounts_of_placeAfter? hrest).length_le
        rw [mounts_of_lead? hlead', hmounts] at hlength
        exact absurd hmount (joinMounts_ne_meta hlength)
  · rintro ⟨reg, hreg, hmount, next, hlead, hne⟩
    obtain ⟨i, hi⟩ := List.mem_iff_getElem?.1 hreg
    have hplace : r.placeAfter? (startOf entry file) [i] = some next := by
      rw [placeAfter?_cons hi, hlead]
      rfl
    have hmounts : next.mounts = [reg.mount] := mounts_of_lead? hlead
    refine ⟨_, mem_groups_walk.2 (Or.inr ⟨[i], next, List.cons_ne_nil _ _, hplace, ?_⟩), hne⟩
    rw [contribution, hmounts, hmount]
    rfl

/-- The walk meets the endpoints of the entry file. -/
theorem mem_walk_of_mem_endpointsOf {entry : Path} {file : SourceFile} {e : Endpoint}
    (h : e ∈ (r.endpointsOf file).1) :
    e ∈ (RouteGroup.gather (r.walk entry file).groups).flatMap RouteGroup.endpoints :=
  RouteGroup.mem_endpoints_gather.2
    ⟨("/", (r.endpointsOf file).1), mem_groups_walk.2 (.inl rfl), h⟩

/-- A chain leads from a scope of one file of the project to a scope of another. -/
theorem isScope_of_placeAfter? {c : List Nat} {pl q : Place} (h : r.placeAfter? pl c = some q)
    (hfile : pl.file ∈ r.project.files) (hscope : r.project.IsScope pl.file pl.scope) :
    q.file ∈ r.project.files ∧ r.project.IsScope q.file q.scope := by
  induction c generalizing pl with
  | nil =>
    cases h
    exact ⟨hfile, hscope⟩
  | cons i is ih =>
    obtain ⟨reg, next, hi, hlead, hrest⟩ := exists_of_placeAfter?_cons h
    have hreg : reg ∈ r.project.registrationsIn pl.file pl.scope := List.mem_of_getElem? hi
    rcases lead?_eq_some hlead with ⟨body, hinline, rfl⟩ | ⟨-, -, key, f, -, -, hf, rfl⟩
    · exact ih hrest hfile (.inline hscope hreg hinline)
    · exact ih hrest (Project.mem_files_of_fileAt? hf) .root

/-- Every endpoint that the walk meets is declared by a call of some scope. -/
theorem declares_of_mem_walk {entry : Path} {file : SourceFile} {e : Endpoint}
    (hfile : file ∈ r.project.files)
    (h : e ∈ (RouteGroup.gather (r.walk entry file).groups).flatMap RouteGroup.endpoints) :
    ∃ f ∈ r.project.files, ∃ scope, r.project.IsScope f scope ∧
      ∃ c ∈ scope.scopedCalls.filterMap routeCall?, r.Declares f c e := by
  obtain ⟨g, hg, he⟩ := RouteGroup.mem_endpoints_gather.1 h
  rcases mem_groups_walk.1 hg with rfl | ⟨_, pl, -, hpl, rfl⟩
  · exact ⟨file, hfile, file.root, .root, declares_of_mem_endpointsIn he⟩
  · obtain ⟨hmem, hscope⟩ := isScope_of_placeAfter? hpl hfile .root
    exact ⟨pl.file, hmem, pl.scope, hscope, declares_of_mem_endpointsIn he⟩

end RouteReader

/-! ## Routes of controllers -/

namespace ControllerReader

variable {r : ControllerReader}

/-- The prefix of a controller is a path, and its routes are declared by methods of its class. -/
theorem of_read {ref : ControllerRef} {c : Controller} (h : r.read ref = some c) :
    c.mount ≠ "_meta" ∧ ∀ route ∈ c.routes, ∃ file cls node, r.ReadsFrom ref file cls ∧
      file.classNode? cls.span = some node ∧ ∃ method ∈ node.methods, ∀ sourceFile auth,
        r.Declares file method (route.endpoint sourceFile auth) := by
  have hsucceeds : (r.read ref).isSome := Option.isSome_iff_exists.2 ⟨c, h⟩
  obtain ⟨file, hfile, h⟩ := Option.bind_eq_some_iff.1 h
  obtain ⟨cls, hcls, h⟩ := Option.bind_eq_some_iff.1 h
  obtain ⟨d, -, h⟩ := Option.bind_eq_some_iff.1 h
  obtain ⟨node, hnode, h⟩ := Option.bind_eq_some_iff.1 h
  cases h
  refine ⟨RoutePath.join_ne_meta _, fun route hroute =>
    ⟨file, cls, node, ⟨hfile, hcls, hsucceeds⟩, hnode, ?_⟩⟩
  obtain ⟨o, ho, hroute⟩ := List.mem_filterMap.1 hroute
  obtain ⟨method, hmethod, m, hrun⟩ := exists_of_mem_mapM ho
  exact ⟨method, hmethod, fun sourceFile auth => declares_of_route? auth (hrun.trans hroute)⟩

theorem exists_of_mem_endpointsOfAll {d : GuardDetector} {guards : List String}
    {cs : List Controller} {f : String × List Endpoint} (h : f ∈ (d.endpointsOfAll guards cs).1) :
    ∃ c ∈ cs, f.1 = c.mount ∧
      ∀ e ∈ f.2, ∃ route ∈ c.routes, ∃ auth, e = route.endpoint c.sourceFile auth := by
  have hfound : f ∈ ((cs.mapM (d.endpointsOf guards)).run .nothing).1 := h
  obtain ⟨c, hc, m, rfl⟩ := exists_of_mem_mapM hfound
  refine ⟨c, hc, rfl, fun e he => ?_⟩
  obtain ⟨route, hroute, m', rfl⟩ := exists_of_mem_mapM he
  exact ⟨route, hroute, _, rfl⟩

end ControllerReader

/-! ## Inventories -/

namespace Disk

variable {d : Disk} {q : Request} {i : Inventory}

theorem groups_of_fastifyInventory (h : d.fastifyInventory q = .ok i) :
    ∃ p file, d.indexWith q (q.entryPath q.config.fastify.entry) = .ok p ∧
      p.file? (.ofString (q.entryPath q.config.fastify.entry)) = some file ∧
      i.groups = RouteGroup.gather ((RouteReader.ofConfig p q.config).walk
        (.ofString (q.entryPath q.config.fastify.entry)) file).groups := by
  unfold fastifyInventory at h
  obtain ⟨p, hp, h⟩ := Config.bind_eq_ok h
  split at h
  · cases h
  · rename_i file hfile
    cases h
    exact ⟨p, file, hp, hfile, rfl⟩

theorem groups_of_nestInventory (h : d.nestInventory q = .ok i) :
    ∃ p graph detector, d.indexWith q (q.entryPath q.config.nestjs.entry) = .ok p ∧
      p.moduleGraph? (.ofString (q.entryPath q.config.nestjs.entry)) = some graph ∧
      i.groups = RouteGroup.gather (GuardDetector.endpointsOfAll detector graph.globalGuards
        (graph.controllers.filterMap (ControllerReader.ofConfig p q.config).read)).1 := by
  unfold nestInventory at h
  obtain ⟨p, hp, h⟩ := Config.bind_eq_ok h
  split at h
  · cases h
  · rename_i graph hgraph
    split at h
    · cases h
    · rename_i detector hdetector
      cases h
      exact ⟨p, graph, detector, hp, hgraph, rfl⟩

theorem takeInventory_cases (h : d.takeInventory q = .ok i) :
    d.fastifyInventory q = .ok i ∨ d.nestInventory q = .ok i := by
  unfold takeInventory at h
  obtain ⟨framework, -, h⟩ := Config.bind_eq_ok h
  obtain ⟨supported, -, h⟩ := Config.bind_eq_ok h
  split at h
  · exact Or.inr h
  · exact Or.inl h

/-- **When the report on a project has no key twice.**  With routes that are registered by calls,
the entry file may not register endpoints under the prefix `_meta`; with controllers there is no such
condition.  Beyond that only the names of parameters and of response fields matter.  For each
endpoint they are apart exactly if the call or the method that declares it repeats no name: the call
in its type argument, in the placeholders of its path unless the type argument speaks of them, and in
the value that it answers with first; the method in what its parameters bind, where placeholders
never repeat a name, and in its declared result or else the first value that it returns. -/
theorem keysDistinct_report_iff (d : Disk) (q : Request) :
    (∀ i, d.fastifyInventory q = .ok i →
      ∃ p file, d.indexWith q (q.entryPath q.config.fastify.entry) = .ok p ∧
        p.file? (.ofString (q.entryPath q.config.fastify.entry)) = some file ∧
        ((Report.ofInventory i).toJson.KeysDistinct ↔
          ¬ (RouteReader.ofConfig p q.config).RegistersUnder
              (.ofString (q.entryPath q.config.fastify.entry)) file "_meta" ∧
            ∀ e ∈ i.endpoints, e.NamesDistinct) ∧
        ∀ e ∈ i.endpoints, ∃ f ∈ p.files, ∃ scope, p.IsScope f scope ∧
          ∃ c ∈ scope.scopedCalls.filterMap RouteReader.routeCall?,
            (RouteReader.ofConfig p q.config).Declares f c e ∧
            ∃ m, Responses.firstFields e.responses =
                (((RouteReader.ofConfig p q.config).reported? f c m).map
                  (Renderer.ofDepth q.config.common.responseDepth).properties).getD [] ∧
              (e.NamesDistinct ↔ (RouteReader.ofConfig p q.config).NamesApart f c m e.path)) ∧
    (∀ i, d.nestInventory q = .ok i →
      ∃ p graph, d.indexWith q (q.entryPath q.config.nestjs.entry) = .ok p ∧
        p.moduleGraph? (.ofString (q.entryPath q.config.nestjs.entry)) = some graph ∧
        ((Report.ofInventory i).toJson.KeysDistinct ↔ ∀ e ∈ i.endpoints, e.NamesDistinct) ∧
        ∀ e ∈ i.endpoints, ∃ ref ∈ graph.controllers, ∃ f cls node,
          (ControllerReader.ofConfig p q.config).ReadsFrom ref f cls ∧
          f.classNode? cls.span = some node ∧ ∃ method ∈ node.methods,
            (ControllerReader.ofConfig p q.config).Declares f method e ∧
            ((e.pathParams.map Param.name).Nodup ↔
              ((ControllerReader.paramsFrom .path
                ((ControllerReader.ofConfig p q.config).methodParams f method)).map
                  Param.name).Nodup) ∧
            ∃ m, Responses.firstFields e.responses =
                (((ControllerReader.ofConfig p q.config).reported? f method m).map
                  (Renderer.ofDepth q.config.common.responseDepth).properties).getD [] ∧
              (e.NamesDistinct ↔ (ControllerReader.ofConfig p q.config).NamesApart f method m)) ∧
    ∀ i, d.takeInventory q = .ok i → d.fastifyInventory q = .ok i ∨ d.nestInventory q = .ok i := by
  refine ⟨fun i h => ?_, fun i h => ?_, fun i => takeInventory_cases⟩
  · obtain ⟨p, file, hp, hfile, hgroups⟩ := groups_of_fastifyInventory h
    refine ⟨p, file, hp, hfile, ?_, fun e he => ?_⟩
    · rw [Report.keysDistinct_ofInventory, hgroups, RouteReader.meta_mem_mounts_walk]
    · rw [Inventory.endpoints, hgroups] at he
      have hmem : file ∈ p.files := Project.mem_files_of_fileAt? hfile
      obtain ⟨f, hf, scope, hscope, c, hc, hdeclares⟩ := RouteReader.declares_of_mem_walk hmem he
      exact ⟨f, hf, scope, hscope, c, hc, hdeclares, hdeclares.namesDistinct_iff⟩
  · obtain ⟨p, graph, detector, hp, hgraph, hgroups⟩ := groups_of_nestInventory h
    refine ⟨p, graph, hp, hgraph, ?_, fun e he => ?_⟩
    · have hmeta : "_meta" ∉ i.groups.map RouteGroup.mount := by
        rw [hgroups, RouteGroup.mem_mounts_gather]
        rintro ⟨es, hes, -⟩
        obtain ⟨c, hc, hmount, -⟩ := ControllerReader.exists_of_mem_endpointsOfAll hes
        obtain ⟨ref, -, hread⟩ := List.mem_filterMap.1 hc
        exact (ControllerReader.of_read hread).1 hmount.symm
      rw [Report.keysDistinct_ofInventory, and_iff_right hmeta]
    · rw [Inventory.endpoints, hgroups] at he
      obtain ⟨found, hfound, he⟩ := RouteGroup.mem_endpoints_gather.1 he
      obtain ⟨c, hc, -, hroutes⟩ := ControllerReader.exists_of_mem_endpointsOfAll hfound
      obtain ⟨ref, href, hread⟩ := List.mem_filterMap.1 hc
      obtain ⟨route, hroute, auth, rfl⟩ := hroutes e he
      obtain ⟨f, cls, node, hreads, hnode, method, hmethod, hdeclares⟩ :=
        (ControllerReader.of_read hread).2 route hroute
      have hdeclares := hdeclares c.sourceFile auth
      refine ⟨ref, href, f, cls, node, hreads, hnode, method, hmethod, hdeclares, ?_,
        hdeclares.namesDistinct_iff⟩
      rw [hdeclares.pathParams, nodup_addPlaceholders]

end Disk

/-! ## An interface with two bases -/

namespace RepeatedQuery

/-- A call whose query is an interface that inherits the name `limit` twice. -/
def text : String :=
  "interface Paging \x7b limit: number; offset: number \x7d
interface Search \x7b text: string; limit: number \x7d
interface Query extends Paging, Search \x7b\x7d
export function build(app) \x7b
  app.get<\x7b Querystring: Query \x7d>('/users', async () => (\x7b\x7d));
\x7d
"

def manifest : String := "\x7b\"name\":\"app\",\"dependencies\":\x7b\"fastify\":\"4\"\x7d\x7d"

/-- The directory `/app` with the manifest and `src/build.ts`. -/
def disk : Disk :=
  ⟨.directory [("app", .directory [("package.json", .file (.ok manifest)),
    ("src", .directory [("build.ts", .file (.ok text))])])], []⟩

def request : Request := ⟨"/app", none, some .fastify, .standard, "2000-01-01T00:00:00.000Z"⟩

def base : Path := ⟨true, ["app"]⟩

def path : Path := ⟨true, ["app", "src", "build.ts"]⟩

def project : Project := (Project.empty base).insertTree path (Grammar.parse false text)

def file : SourceFile :=
  ⟨path, "src/build.ts", Grammar.parse false text, FileFacts.ofTree path (Grammar.parse false text)⟩

theorem isName_names : ∀ n ∈ path.names, Path.IsName n := by
  have happ : Path.IsName "app" := ⟨by decide, by decide, by decide⟩
  have hsrc : Path.IsName "src" := ⟨by decide, by decide, by decide⟩
  have hbuild : Path.IsName "build.ts" := ⟨by decide, by decide, by decide⟩
  exact List.forall_mem_cons.2
    ⟨happ, List.forall_mem_cons.2 ⟨hsrc, List.forall_mem_singleton.2 hbuild⟩⟩

theorem isName_base : ∀ n ∈ base.names, Path.IsName n :=
  fun n hn => isName_names n (List.mem_of_mem_take (i := 1) hn)

theorem entryPath_eq : request.entryPath request.config.fastify.entry = "/app/src/build.ts" := by
  decide +kernel

theorem ofString_entry : Path.ofString "/app/src/build.ts" = path :=
  Path.ofString_toString (p := path) rfl isName_names

theorem ofString_base : Path.ofString "/app" = base :=
  Path.ofString_toString (p := base) rfl isName_base

theorem find_entry : ∃ l, disk.find "/app/src/build.ts" = .ok l ∧ l.entry = .file (.ok text) :=
  ⟨_, (Disk.find_toString (p := path) rfl rfl isName_names).trans rfl, rfl⟩

theorem sources_base : disk.sources base = [path] := by
  have hfind : disk.find base.toString = disk.follow ["app"] :=
    Disk.find_toString rfl rfl isName_base
  rw [Disk.sources, Disk.filesBelow, hfind]
  decide +kernel

theorem load_path : (Project.empty base).load disk path = .ok project := by
  obtain ⟨l, hfind, hentry⟩ := find_entry
  have hkey : (Project.empty base).absolute path = path := rfl
  have htext : path.toString = "/app/src/build.ts" := rfl
  have hread : disk.read "/app/src/build.ts" = .ok text := by
    simp only [Disk.read, hfind, hentry]
  simp only [Project.load, hkey, htext, hread]
  rfl

theorem projectIn_base {excluded : String → Bool} (h : excluded "src/build.ts" = false) :
    disk.projectIn base excluded = project := by
  have hnormal : base.normalize = base := rfl
  have hrelative : (Project.empty base).relative path = "src/build.ts" := by decide
  simp only [Disk.projectIn, hnormal, sources_base, Project.build, List.foldl_cons, List.foldl_nil,
    Project.indexFile, hrelative, h, load_path]
  rfl

theorem file?_project : project.file? path = some file := rfl

/-- No pattern of the standard configuration excludes the file. -/
theorem indexWith_disk : disk.indexWith request "/app/src/build.ts" = .ok project := by
  obtain ⟨l, hfind, hentry⟩ := find_entry
  have hfile : disk.isFile "/app/src/build.ts" = true := by
    simp only [Disk.isFile, hfind, hentry]
    rfl
  obtain ⟨patterns, hpatterns, hincluded⟩ :
      ∃ patterns, readExcludes request.config.common.excludePaths = .ok patterns ∧
        excludedBy patterns "src/build.ts" = false := by
    refine ⟨_, rfl, ?_⟩
    decide +kernel
  have hroot : Path.ofString request.root = base := ofString_base
  refine Disk.indexWith_eq_ok_iff.2 ⟨hfile, patterns, hpatterns, ?_⟩
  rw [hroot, projectIn_base hincluded, ofString_entry]
  dsimp only
  rw [file?_project, Option.isSome_some, if_pos rfl]

theorem queryParams_file : ((RouteReader.ofConfig project request.config).endpointsOf file).1.map
    (fun e => e.queryParams.map Param.name) = [["limit", "offset", "text", "limit"]] := by
  decide +kernel

/-- The report on the project has a key twice, for the call repeats a name. -/
theorem key_twice : ∃ i, disk.takeInventory request = .ok i ∧
    (∃ e ∈ i.endpoints, e.queryParams.map Param.name = ["limit", "offset", "text", "limit"]) ∧
      ¬ (Report.ofInventory i).toJson.KeysDistinct := by
  obtain ⟨i, hi⟩ : ∃ i, disk.fastifyInventory request = .ok i := by
    rw [Disk.fastifyInventory, entryPath_eq, indexWith_disk]
    dsimp only [bind, Except.bind]
    rw [ofString_entry, file?_project]
    exact ⟨_, rfl⟩
  obtain ⟨p, f, hp, hf, hgroups⟩ := Disk.groups_of_fastifyInventory hi
  rw [entryPath_eq, indexWith_disk] at hp
  obtain rfl := Except.ok.inj hp
  rw [entryPath_eq, ofString_entry, file?_project] at hf
  obtain rfl := Option.some.inj hf
  obtain ⟨e, he, hnames⟩ : ∃ e ∈ ((RouteReader.ofConfig project request.config).endpointsOf file).1,
      e.queryParams.map Param.name = ["limit", "offset", "text", "limit"] := by
    refine List.mem_map.1 ?_
    rw [queryParams_file]
    exact List.mem_singleton_self _
  have hmem : e ∈ i.endpoints := by
    rw [Inventory.endpoints, hgroups]
    exact RouteReader.mem_walk_of_mem_endpointsOf he
  have htake : disk.takeInventory request = disk.fastifyInventory request := rfl
  refine ⟨i, htake.trans hi, ⟨e, hmem, hnames⟩, fun hkeys => ?_⟩
  obtain ⟨hfastify, -⟩ := disk.keysDistinct_report_iff request
  obtain ⟨_, _, -, -, hiff, -⟩ := hfastify i hi
  obtain ⟨-, hquery, -⟩ := (hiff.1 hkeys).2 e hmem
  rw [hnames] at hquery
  exact absurd hquery (by decide)

end RepeatedQuery

end RouteInventory
