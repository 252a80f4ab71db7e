import Mathlib
import RouteInventory.Proofs.LayerPrecedence

/-!
# The laws of laying layers over each other

An object in order is a table, so it is determined by what it answers for each key.  A merge of
objects answers for a key by laying one answer over another (`get?_merge`), and a law of merging
follows from the same law for the values that lie below the objects.

* `Json.merge_merge_self`, `Json.merge_self`: a layer that is laid over twice counts once.
* `Json.SameKinds`: documents that have objects at the same paths, as far as they give values.
* `Json.merge_assoc`: such documents may be merged from either end.
* `Json.Grouping`: a way to lay several layers over each other, two at a time.
* `Json.merge_laws`: all of these, up to the layers of a configuration in any grouping.
-/

namespace RouteInventory

namespace Json

variable {a b c j l v base overlay : Json} {key : String} {path : List String}
  {entries : List (String × Json)} {docs : List Json}

/-! ## Tables -/

theorem nodup_keys (h : entries.Pairwise fun a b => a.1 < b.1) :
    (entries.map Prod.fst).Nodup :=
  (List.pairwise_map.2 h).nodup

theorem get?_object_eq_some_iff (hkeys : (entries.map Prod.fst).Nodup) :
    (object entries).get? key = some v ↔ (key, v) ∈ entries := by
  refine ⟨mem_of_get?_object, fun h => ?_⟩
  induction entries with
  | nil => cases h
  | cons e rest ih =>
    obtain ⟨k, w⟩ := e
    obtain ⟨hfresh, hrest⟩ := List.nodup_cons.1 hkeys
    rw [get?_object_cons]
    rcases List.mem_cons.1 h with heq | h
    · cases heq
      exact if_pos rfl
    · have hne : k ≠ key := fun heq => hfresh (List.mem_map.2 ⟨_, h, heq.symm⟩)
      rw [if_neg hne]
      exact ih hrest h

/-- Two objects in order that answer alike are the same. -/
theorem Ordered.object_ext (ha : a.Ordered) (hb : b.Ordered) (hao : a.isObject = true)
    (hbo : b.isObject = true) (h : ∀ key, a.get? key = b.get? key) : a = b := by
  cases ha with
  | object akeys _ =>
    cases hb with
    | object bkeys _ =>
      have hperm := (List.perm_ext_iff_of_nodup akeys.nodup bkeys.nodup).2 fun e => by
        rw [← get?_object_eq_some_iff (nodup_keys akeys), h,
          get?_object_eq_some_iff (nodup_keys bkeys)]
      exact congrArg Json.object
        (hperm.eq_of_pairwise (fun _ _ _ _ hxy hyx => absurd hyx hxy.asymm) akeys bkeys)
    | _ => cases hbo
  | _ => cases hao

theorem null_merge (v : Json) : null.merge v = v := by
  cases v <;> rfl

theorem merge_null (v : Json) : v.merge null = v := rfl

theorem eq_null_or_isNull (v : Json) : v = null ∨ v.isNull = false := by
  cases v <;> simp [isNull]

theorem isNull_of_isObject (h : v.isObject = true) : v.isNull = false := by
  cases v <;> first | rfl | cases h

/-- A value that is no object replaces what lies below it. -/
theorem merge_eq_of_plain (hnull : v.isNull = false) (hobject : v.isObject = false) :
    base.merge v = v :=
  merge_eq_of_not_objects hnull fun hboth => absurd hboth.1 (by simp [hobject])

/-- Laying entries over a table leaves a table, if each of the merges below does. -/
theorem ordered_mergeEntries {upper : List (String × Json)}
    (hupper : ∀ e ∈ upper, e.2.Ordered ∧ ∀ u : Json, u.Ordered → (u.merge e.2).Ordered)
    (h : (object entries).Ordered) : (object (mergeEntries entries upper)).Ordered := by
  induction upper generalizing entries with
  | nil => exact h
  | cons e rest ih =>
    obtain ⟨k, v⟩ := e
    obtain ⟨hv, hmerge⟩ := hupper (k, v) List.mem_cons_self
    rw [mergeEntries_cons]
    refine ih (fun e he => hupper e (List.mem_cons_of_mem _ he)) (ordered_set h ?_)
    cases hbelow : (object entries).get? k with
    | none => exact hv
    | some u => exact hmerge u (h.get? hbelow)

theorem ordered_merge (hb : base.Ordered) (ho : overlay.Ordered) :
    (base.merge overlay).Ordered := by
  induction ho generalizing base with
  | null => exact hb
  | bool x => exact .bool x
  | number n => exact .number n
  | string s => exact .string s
  | array each _ => exact .array each
  | object keys each ih =>
    cases hb with
    | object bkeys beach =>
      exact ordered_mergeEntries (fun e he => ⟨each e he, fun u hu => ih e he hu⟩)
        (.object bkeys beach)
    | _ => exact .object keys each

/-! ## Laying a layer over twice -/

theorem lay_lay_self {below value : Option Json} (hbelow : ∀ u ∈ below, u.Ordered)
    (h : ∀ v ∈ value, ∀ u : Json, u.Ordered → (u.merge v).merge v = u.merge v) :
    lay (lay below value) value = lay below value := by
  cases value with
  | none => simp
  | some v =>
    cases below with
    | none =>
      -- where nothing lies below, the layer lies as over null
      have hself := h v rfl null .null
      rw [null_merge] at hself
      exact congrArg some hself
    | some u => exact congrArg some (h v rfl u (hbelow u rfl))

/-- **A layer that is laid over twice counts once.** -/
theorem merge_merge_self (hb : b.Ordered) (hl : l.Ordered) :
    (b.merge l).merge l = b.merge l := by
  induction hl generalizing b with
  | null => rfl
  | bool | number | string | array => rfl
  | @object upper keys each ih =>
    have hl : (object upper).Ordered := .object keys each
    have hobject : (object upper).isNull = true ∨ (object upper).isObject = true := .inr rfl
    have hmerged := ordered_merge hb hl
    refine Ordered.object_ext (ordered_merge hmerged hl) hmerged (isObject_merge rfl)
      (isObject_merge rfl) fun key => ?_
    rw [get?_merge hobject hl, get?_merge hobject hl]
    exact lay_lay_self (fun u hu => hb.get? hu)
      fun v hv u hu => ih (key, v) (mem_of_get?_object hv) hu

theorem merge_self (hv : v.Ordered) : v.merge v = v := by
  have h := merge_merge_self .null hv
  rwa [null_merge] at h

/-! ## Merging from either end -/

/-- The document gives a value at the path, an object or another value as `kind` says. -/
def GivesKind (path : List String) (kind : Bool) (j : Json) : Prop :=
  ∃ v, j.given? path = some v ∧ v.isObject = kind

/-- At every path the values that the documents give are all objects, or none of them is.  Null
gives nothing. -/
def SameKinds (docs : List Json) : Prop :=
  ∀ path, (∀ j ∈ docs, ¬ j.GivesKind path false) ∨ ∀ j ∈ docs, ¬ j.GivesKind path true

theorem given?_nil (hv : v.isNull = false) : v.given? [] = some v := by
  rw [given?, at?, Option.filter_some, hv]
  rfl

theorem given?_cons (hv : j.get? key = some v) : j.given? (key :: path) = v.given? path := by
  rw [given?, at?, hv]
  rfl

theorem exists_get?_of_given? (h : j.given? (key :: path) = some v) :
    ∃ m, j.get? key = some m ∧ m.given? path = some v := by
  obtain ⟨hv, hnull⟩ := Option.filter_eq_some_iff.1 h
  obtain ⟨m, hm, hv⟩ := Option.bind_eq_some_iff.1 hv
  exact ⟨m, hm, Option.filter_eq_some_iff.2 ⟨hv, hnull⟩⟩

theorem givesKind_cons {kind : Bool} (hv : j.get? key = some v) :
    j.GivesKind (key :: path) kind ↔ v.GivesKind path kind := by
  rw [GivesKind, given?_cons hv]
  rfl

theorem givesKind_self {kind : Bool} (hnull : v.isNull = false) :
    v.GivesKind [] kind ↔ v.isObject = kind := by
  rw [GivesKind, given?_nil hnull]
  simp

theorem SameKinds.get? (h : SameKinds docs) (key : String) :
    SameKinds (docs.filterMap (Json.get? key)) := by
  have hbelow {path : List String} {kind : Bool}
      (hdocs : ∀ j ∈ docs, ¬ j.GivesKind (key :: path) kind) :
      ∀ v ∈ docs.filterMap (Json.get? key), ¬ v.GivesKind path kind := by
    intro v hv
    obtain ⟨j, hj, hjv⟩ := List.mem_filterMap.1 hv
    exact mt (givesKind_cons hjv).2 (hdocs j hj)
  exact fun path => (h (key :: path)).imp hbelow hbelow

/-- It is enough to look at the paths at which some document holds an object. -/
theorem sameKinds_of_objectPaths
    (h : ∀ path ∈ docs.flatMap objectPaths, ∀ j ∈ docs, (j.given? path).all isObject = true) :
    SameKinds docs := by
  intro path
  by_cases hpath : path ∈ docs.flatMap objectPaths
  · left
    rintro j hj ⟨v, hv, hother⟩
    have hobject := h path hpath j hj
    rw [hv, Option.all_some, hother] at hobject
    cases hobject
  · right
    rintro j hj ⟨v, hv, hobject⟩
    have hat := (Option.filter_eq_some_iff.1 hv).1
    exact hpath (List.mem_flatMap.2 ⟨j, hj, mem_objectPaths hat hobject⟩)

theorem lay_assoc {x y z : Option Json}
    (h : ∀ u ∈ x, ∀ v ∈ y, ∀ w ∈ z, (u.merge v).merge w = u.merge (v.merge w)) :
    lay (lay x y) z = lay x (lay y z) := by
  cases x with
  | none => simp
  | some u =>
    cases y with
    | none => simp
    | some v =>
      cases z with
      | none => simp
      | some w => exact congrArg some (h u rfl v rfl w rfl)

/-- Three documents of the same kinds may be merged from either end, if their entries may. -/
theorem merge_assoc_of_entries (ha : a.Ordered) (hb : b.Ordered) (hc : c.Ordered)
    (h : SameKinds [a, b, c])
    (hentries : ∀ key, ∀ u ∈ a.get? key, ∀ v ∈ b.get? key, ∀ w ∈ c.get? key,
      (u.merge v).merge w = u.merge (v.merge w)) :
    (a.merge b).merge c = a.merge (b.merge c) := by
  rcases eq_null_or_isNull a with rfl | han
  · rw [null_merge, null_merge]
  rcases eq_null_or_isNull b with rfl | hbn
  · rw [null_merge, merge_null]
  rcases eq_null_or_isNull c with rfl | hcn
  · rw [merge_null, merge_null]
  -- none of the three is null, so all of them are objects or none is
  have hkind (x : Json) {kind : Bool} (hx : x ∈ [a, b, c]) (hxn : x.isNull = false)
      (hnone : ∀ j ∈ [a, b, c], ¬ j.GivesKind [] kind) : x.isObject ≠ kind :=
    mt (givesKind_self hxn).2 (hnone x hx)
  rcases h [] with hobjects | hothers
  · have hbk : b.isObject = true := by simpa using hkind b (by simp) hbn hobjects
    have hck : c.isObject = true := by simpa using hkind c (by simp) hcn hobjects
    have hbc : (b.merge c).isObject = true := (isObject_merge hcn).trans hck
    have hbco : (b.merge c).Ordered := ordered_merge hb hc
    refine Ordered.object_ext (ordered_merge (ordered_merge ha hb) hc) (ordered_merge ha hbco)
      ((isObject_merge hcn).trans hck) ((isObject_merge (isNull_of_isObject hbc)).trans hbc)
      fun key => ?_
    rw [get?_merge (.inr hck) hc, get?_merge (.inr hbk) hb, get?_merge (.inr hbc) hbco,
      get?_merge (.inr hck) hc]
    exact lay_assoc (hentries key)
  · have hck : c.isObject = false := by simpa using hkind c (by simp) hcn hothers
    rw [merge_eq_of_plain hcn hck, merge_eq_of_plain hcn hck, merge_eq_of_plain hcn hck]

/-- **Documents of the same kinds may be merged from either end.** -/
theorem merge_assoc (ha : a.Ordered) (hb : b.Ordered) (hc : c.Ordered)
    (h : SameKinds [a, b, c]) : (a.merge b).merge c = a.merge (b.merge c) := by
  induction ha generalizing b c with
  | object keys each ih =>
    refine merge_assoc_of_entries (.object keys each) hb hc h fun key u hu v hv w hw => ?_
    have hkinds : SameKinds [u, v, w] := by
      have hkey := h.get? key
      rwa [List.filterMap_cons_some hu, List.filterMap_cons_some hv,
        List.filterMap_cons_some hw] at hkey
    exact ih (key, u) (mem_of_get?_object hu) (hb.get? hv) (hc.get? hw) hkinds
  | null | bool | number | string | array =>
    refine merge_assoc_of_entries (by constructor <;> assumption) hb hc h fun key u hu => ?_
    cases hu

/-! ## Grouping layers -/

/-- A merged document gives at a path what one of the two gives there, or a value of that kind. -/
theorem givesKind_of_merge {kind : Bool} (hb : b.Ordered) (h : (a.merge b).GivesKind path kind) :
    a.GivesKind path kind ∨ b.GivesKind path kind := by
  induction path generalizing a b with
  | nil =>
    rcases eq_null_or_isNull b with rfl | hnull
    · exact .inl h
    · obtain ⟨v, hv, hkind⟩ := h
      obtain ⟨hv, -⟩ := Option.filter_eq_some_iff.1 hv
      cases hv
      exact .inr ((givesKind_self hnull).2 ((isObject_merge hnull).symm.trans hkind))
  | cons key path ih =>
    by_cases hopen : b.isNull = true ∨ b.isObject = true
    swap
    · -- nothing of the base is left below a value that is neither null nor an object
      obtain ⟨hnull, hobject⟩ := not_or.1 hopen
      rw [merge_eq_of_plain (by simpa using hnull) (by simpa using hobject)] at h
      exact .inr h
    obtain ⟨v, hv, hkind⟩ := h
    obtain ⟨m, hm, hmv⟩ := exists_get?_of_given? hv
    have hgives : m.GivesKind path kind := ⟨v, hmv, hkind⟩
    rw [get?_merge hopen hb] at hm
    cases hy : b.get? key with
    | none =>
      rw [hy, lay_none_right] at hm
      exact .inl ((givesKind_cons hm).2 hgives)
    | some y =>
      rw [givesKind_cons hy]
      cases hx : a.get? key with
      | none =>
        rw [hx, hy, lay_none_left] at hm
        cases hm
        exact .inr hgives
      | some x =>
        rw [hx, hy] at hm
        cases hm
        rw [givesKind_cons hx]
        exact ih (hb.get? hy) hgives

/-- Whatever kind of value the document gives at a path, one of the others gives there as well. -/
def KindsAmong (docs : List Json) (j : Json) : Prop :=
  ∀ path kind, j.GivesKind path kind → ∃ d ∈ docs, d.GivesKind path kind

theorem kindsAmong_of_mem (h : j ∈ docs) : KindsAmong docs j := fun _ _ hj => ⟨j, h, hj⟩

theorem kindsAmong_null : KindsAmong docs null := by
  rintro (- | ⟨key, path⟩) kind ⟨v, hv, -⟩ <;> cases hv

theorem KindsAmong.merge (ha : KindsAmong docs a) (hb : KindsAmong docs b) (hbo : b.Ordered) :
    KindsAmong docs (a.merge b) := fun path kind h =>
  (givesKind_of_merge hbo h).elim (ha path kind) (hb path kind)

theorem KindsAmong.mono {more : List Json} (h : KindsAmong docs j) (hsub : docs ⊆ more) :
    KindsAmong more j := fun path kind hj => by
  obtain ⟨d, hd, hgives⟩ := h path kind hj
  exact ⟨d, hsub hd, hgives⟩

theorem SameKinds.of_kindsAmong {others : List Json} (h : SameKinds docs)
    (hothers : ∀ j ∈ others, KindsAmong docs j) : SameKinds others := by
  have htransfer {path : List String} {kind : Bool}
      (hdocs : ∀ d ∈ docs, ¬ d.GivesKind path kind) : ∀ j ∈ others, ¬ j.GivesKind path kind := by
    intro j hj hgives
    obtain ⟨d, hd, hd'⟩ := hothers j hj path kind hgives
    exact hdocs d hd hd'
  exact fun path => (h path).imp htransfer htransfer

/-- A way to lay layers over each other, two at a time. -/
inductive Grouping where
  | layer (j : Json)
  | stack (lower upper : Grouping)

namespace Grouping

/-- The layers, the lowest first. -/
def layers : Grouping → List Json
  | layer j => [j]
  | stack lower upper => lower.layers ++ upper.layers

/-- What the layers amount to. -/
def value : Grouping → Json
  | layer j => j
  | stack lower upper => lower.value.merge upper.value

variable {g : Grouping}

theorem ordered_value (h : ∀ j ∈ g.layers, j.Ordered) : g.value.Ordered := by
  induction g with
  | layer j => exact h j List.mem_cons_self
  | stack lower upper ihl ihu =>
    obtain ⟨hlower, hupper⟩ := List.forall_mem_append.1 h
    exact ordered_merge (ihl hlower) (ihu hupper)

theorem kindsAmong_value (h : ∀ j ∈ g.layers, j.Ordered) : KindsAmong g.layers g.value := by
  induction g with
  | layer j => exact kindsAmong_of_mem List.mem_cons_self
  | stack lower upper ihl ihu =>
    obtain ⟨hlower, hupper⟩ := List.forall_mem_append.1 h
    exact ((ihl hlower).mono (List.subset_append_left _ _)).merge
      ((ihu hupper).mono (List.subset_append_right _ _)) (ordered_value hupper)

/-- Layers of the same kinds may be laid over a document one by one, or all at once. -/
theorem foldl_layers (hbase : base.Ordered) (h : ∀ j ∈ g.layers, j.Ordered)
    (hkinds : SameKinds (base :: g.layers)) : g.layers.foldl merge base = base.merge g.value := by
  induction g generalizing base with
  | layer j => rfl
  | stack lower upper ihl ihu =>
    obtain ⟨hlower, hupper⟩ := List.forall_mem_append.1 h
    have hself : KindsAmong (base :: (lower.layers ++ upper.layers)) base :=
      kindsAmong_of_mem List.mem_cons_self
    have hbelow : KindsAmong (base :: (lower.layers ++ upper.layers)) lower.value :=
      (kindsAmong_value hlower).mono
        (List.subset_cons_of_subset _ (List.subset_append_left _ _))
    have habove : KindsAmong (base :: (lower.layers ++ upper.layers)) upper.value :=
      (kindsAmong_value hupper).mono
        (List.subset_cons_of_subset _ (List.subset_append_right _ _))
    have hfirst : SameKinds (base :: lower.layers) :=
      hkinds.of_kindsAmong fun j hj => kindsAmong_of_mem
        (List.cons_subset_cons _ (List.subset_append_left _ _) hj)
    have hrest : SameKinds (base.merge lower.value :: upper.layers) := by
      refine hkinds.of_kindsAmong (List.forall_mem_cons.2 ⟨?_, fun j hj => ?_⟩)
      · exact hself.merge hbelow (ordered_value hlower)
      · exact kindsAmong_of_mem (List.mem_cons_of_mem _ (List.mem_append_right _ hj))
    have hthree : SameKinds [base, lower.value, upper.value] :=
      hkinds.of_kindsAmong (List.forall_mem_cons.2
        ⟨hself, List.forall_mem_cons.2 ⟨hbelow, List.forall_mem_singleton.2 habove⟩⟩)
    calc (lower.layers ++ upper.layers).foldl merge base
        = upper.layers.foldl merge (base.merge lower.value) := by
          rw [List.foldl_append, ihl hbase hlower hfirst]
      _ = (base.merge lower.value).merge upper.value :=
          ihu (ordered_merge hbase (ordered_value hlower)) hupper hrest
      _ = base.merge (lower.value.merge upper.value) :=
          merge_assoc hbase (ordered_value hlower) (ordered_value hupper) hthree

/-- What layers of the same kinds amount to does not depend on how they are grouped. -/
theorem value_eq_foldl (h : ∀ j ∈ g.layers, j.Ordered) (hkinds : SameKinds g.layers) :
    g.value = g.layers.foldl merge null := by
  have hnull : SameKinds (null :: g.layers) :=
    hkinds.of_kindsAmong
      (List.forall_mem_cons.2 ⟨kindsAmong_null, fun j hj => kindsAmong_of_mem hj⟩)
  rw [foldl_layers .null h hnull, null_merge]

end Grouping

end Json

theorem Config.merged_eq_foldl (layers : List Json) :
    merged layers = (standard.toJson :: layers.reverse).foldl Json.merge .null := by
  rw [List.foldl_cons, Json.null_merge, List.foldl_reverse]
  rfl

open Json in
/-- **The laws of merging**, for all documents whose objects are tables, as they are when they are
read or merged.  A layer that is laid over twice counts once, and a document laid over itself is
that document.  Documents that have objects at the same paths, as far as they give values there, may
be merged from either end; so layers that agree in this way amount to the same however they are
grouped, and the layers of a configuration may be merged in groups. -/
theorem Json.merge_laws :
    (∀ b l : Json, b.Ordered → l.Ordered → (b.merge l).merge l = b.merge l) ∧
    (∀ v : Json, v.Ordered → v.merge v = v) ∧
    (∀ a b c : Json, a.Ordered → b.Ordered → c.Ordered → SameKinds [a, b, c] →
      (a.merge b).merge c = a.merge (b.merge c)) ∧
    (∀ g g' : Grouping, g.layers = g'.layers → (∀ j ∈ g.layers, j.Ordered) →
      SameKinds g.layers → g.value = g'.value) ∧
    ∀ (layers : List Json) (g : Grouping),
      g.layers = Config.standard.toJson :: layers.reverse → (∀ j ∈ g.layers, j.Ordered) →
      SameKinds g.layers → Config.merged layers = g.value := by
  refine ⟨fun b l => merge_merge_self, fun v => merge_self, fun a b c => merge_assoc, ?_, ?_⟩
  · intro g g' hlayers hordered hkinds
    rw [g.value_eq_foldl hordered hkinds, hlayers,
      ← g'.value_eq_foldl (hlayers ▸ hordered) (hlayers ▸ hkinds)]
  · intro layers g hlayers hordered hkinds
    rw [Config.merged_eq_foldl, ← hlayers, ← g.value_eq_foldl hordered hkinds]

namespace Config.Layering

/-- The two layers of a project may be merged before they are laid over the standard
configuration. -/
theorem patterns_grouped :
    merged [patterns "a" .null, patterns "b" (.ofNat 5)] =
      standard.toJson.merge ((patterns "b" (.ofNat 5)).merge (patterns "a" .null)) := by
  let layers := Json.Grouping.stack (.layer (patterns "b" (.ofNat 5))) (.layer (patterns "a" .null))
  have hordered : ∀ j ∈ (Json.Grouping.stack (.layer standard.toJson) layers).layers,
      j.Ordered := by
    refine List.forall_mem_cons.2 ⟨Json.ordered_sorted _, List.forall_mem_cons.2 ⟨?_, ?_⟩⟩
    · exact (isLayer_patterns (.number _)).ordered
    · exact List.forall_mem_singleton.2 (isLayer_patterns .null).ordered
  have hkinds : Json.SameKinds (Json.Grouping.stack (.layer standard.toJson) layers).layers :=
    Json.sameKinds_of_objectPaths (by decide)
  exact Json.merge_laws.2.2.2.2 _ (.stack (.layer standard.toJson) layers) rfl hordered hkinds

end Config.Layering

/-- A value that is no object takes away what lies below it, but not if it is covered before. -/
example :
    ((Json.object [("k", .object [("x", .null)])]).merge (.object [("k", .bool true)])).merge
        (.object [("k", .object [])]) = .object [("k", .object [])] ∧
      (Json.object [("k", .object [("x", .null)])]).merge
        ((Json.object [("k", .bool true)]).merge (.object [("k", .object [])])) =
          .object [("k", .object [("x", .null)])] :=
  ⟨rfl, rfl⟩

end RouteInventory
