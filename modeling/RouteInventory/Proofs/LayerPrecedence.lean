import Mathlib
import RouteInventory.Proofs.DocumentOrder

/-!
# Which layer a configured value comes from

Layers are folded into the standard configuration one after another, each by a merge that descends
into objects.  Looked at from one path at a time the fold is simple: what the merged document holds
at a path depends only on what the layers hold there, as long as the layers have nothing but objects
on the way (`at?_merge`).

* `Config.IsLayer` — a document that may be a layer: its sections are objects, null or left out.
* `Config.leafValue` — the value of a key that the layers give certain values.
* `Config.merged_at_leaf` — the merged document holds that value at every key of the schema.
-/

namespace RouteInventory

namespace Json

/-- What a document holds at a path of keys. -/
def at? : List String → Json → Option Json
  | [], j => some j
  | key :: path, j => (j.get? key).bind (at? path)

variable {key k : String} {v w : Json} {base overlay j : Json} {entries rest : List (String × Json)}
  {path s : List String}

/-! ## Merging at a path -/

/-- A value laid over another, where either may be missing. -/
def lay (below value : Option Json) : Option Json :=
  match below, value with
  | below, none => below
  | none, some v => some v
  | some b, some v => some (b.merge v)

@[simp] theorem lay_none_right (below : Option Json) : lay below none = below := by
  cases below <;> rfl

@[simp] theorem lay_none_left (value : Option Json) : lay none value = value := by
  cases value <;> rfl

theorem mergeEntries_cons (base rest : List (String × Json)) (k : String) (v : Json) :
    mergeEntries base ((k, v) :: rest) =
      mergeEntries (set k (((object base).get? k).elim v fun below => below.merge v) base) rest := by
  rw [mergeEntries]
  cases (object base).get? k <;> rfl

/-- Each entry of an overlay is laid over the entry with its key. -/
theorem get?_mergeEntries {overlay : List (String × Json)}
    (hkeys : overlay.Pairwise fun a b => a.1 < b.1) :
    ∀ base : List (String × Json), (object (mergeEntries base overlay)).get? key =
      lay ((object base).get? key) ((object overlay).get? key) := by
  induction overlay with
  | nil => intro base; exact (lay_none_right _).symm
  | cons e rest ih =>
    obtain ⟨k, v⟩ := e
    intro base
    obtain ⟨hfirst, hrest⟩ := List.pairwise_cons.1 hkeys
    rw [mergeEntries_cons, ih hrest, get?_object_set, get?_object_cons]
    by_cases hk : k = key
    · subst hk
      have habsent : (object rest).get? k = none := by
        refine Option.eq_none_iff_forall_ne_some.2 fun w hw => ?_
        exact absurd (hfirst _ (mem_of_get?_object hw)) (lt_irrefl k)
      rw [if_pos rfl, if_pos rfl, habsent, lay_none_right]
      cases (object base).get? k <;> rfl
    · rw [if_neg hk, if_neg hk]

/-- Every document on the way to the path is an object or null. -/
def OpenTo (path : List String) (j : Json) : Prop :=
  ∀ s key t, path = s ++ key :: t → ∀ v, j.at? s = some v → v.isNull = true ∨ v.isObject = true

theorem OpenTo.of_get? (h : j.OpenTo (key :: path)) (hv : j.get? key = some v) : v.OpenTo path := by
  intro s k t hpath w hw
  refine h (key :: s) k t (congrArg _ hpath) w ?_
  rw [at?, hv]
  exact hw

theorem get?_merge (hnull : overlay.isNull = true ∨ overlay.isObject = true)
    (ho : overlay.Ordered) :
    (base.merge overlay).get? key = lay (base.get? key) (overlay.get? key) := by
  cases ho with
  | null => exact (lay_none_right _).symm
  | object keys each =>
    cases base with
    | object entries => exact get?_mergeEntries keys entries
    | _ => exact (lay_none_left _).symm
  | _ => rcases hnull with h | h <;> cases h

/-- What a merged document holds at a path is what the overlay holds there, laid over what the base
holds. -/
theorem at?_merge (ho : overlay.Ordered) (hopen : overlay.OpenTo path) :
    (base.merge overlay).at? path = lay (base.at? path) (overlay.at? path) := by
  induction path generalizing base overlay with
  | nil => rfl
  | cons key path ih =>
    have hkey : (base.merge overlay).get? key = lay (base.get? key) (overlay.get? key) :=
      get?_merge (hopen [] key path rfl overlay rfl) ho
    rw [at?, at?, at?, hkey]
    cases hover : overlay.get? key with
    | none => simp
    | some v =>
      cases base.get? key with
      | none => simp
      | some b => exact ih (ho.get? hover) (hopen.of_get? hover)

/-- Two values that are not both objects: the upper one counts. -/
theorem merge_eq_of_not_objects (hv : v.isNull = false)
    (h : ¬ (v.isObject = true ∧ w.isObject = true)) : w.merge v = v := by
  cases v with
  | null => cases hv
  | object overlay =>
    cases w with
    | object entries => exact absurd ⟨rfl, rfl⟩ h
    | _ => rfl
  | _ => rfl

theorem isObject_merge (hv : v.isNull = false) : (w.merge v).isObject = v.isObject := by
  cases v with
  | null => cases hv
  | object overlay => cases w <;> rfl
  | _ => rfl

/-! ## Where the objects of a document are -/

mutual
/-- The paths at which a document holds objects. -/
def objectPaths : Json → List (List String)
  | object entries => [] :: entryPaths entries
  | _ => []

/-- The paths at which the entries of an object hold objects. -/
def entryPaths : List (String × Json) → List (List String)
  | [] => []
  | (key, value) :: rest => (objectPaths value).map (key :: ·) ++ entryPaths rest
end

theorem mem_entryPaths (h : (key, v) ∈ entries) (hs : s ∈ v.objectPaths) :
    key :: s ∈ entryPaths entries := by
  induction entries with
  | nil => cases h
  | cons e rest ih =>
    obtain ⟨k, w⟩ := e
    unfold entryPaths
    rcases List.mem_cons.1 h with heq | h
    · cases heq
      exact List.mem_append_left _ (List.mem_map.2 ⟨s, hs, rfl⟩)
    · exact List.mem_append_right _ (ih h)

theorem mem_objectPaths (h : j.at? s = some v) (hv : v.isObject = true) : s ∈ j.objectPaths := by
  induction s generalizing j with
  | nil =>
    cases h
    cases v with
    | object entries => exact List.mem_cons_self
    | _ => cases hv
  | cons key s ih =>
    obtain ⟨w, hw, hrest⟩ := Option.bind_eq_some_iff.1 h
    cases j with
    | object entries =>
      exact List.mem_cons_of_mem _ (mem_entryPaths (mem_of_get?_object hw) (ih hrest))
    | _ => cases hw

/-- On the way to a value there are only objects. -/
theorem isObject_of_at?_append {t : List String} (h : j.at? (s ++ key :: t) = some v) :
    ∃ o, j.at? s = some o ∧ o.isObject = true := by
  induction s generalizing j with
  | nil =>
    obtain ⟨w, hw, -⟩ := Option.bind_eq_some_iff.1 h
    refine ⟨j, rfl, ?_⟩
    cases j with
    | object entries => rfl
    | _ => cases hw
  | cons k s ih =>
    obtain ⟨w, hw, hrest⟩ := Option.bind_eq_some_iff.1 h
    obtain ⟨o, ho, hobject⟩ := ih hrest
    refine ⟨o, ?_, hobject⟩
    rw [at?, hw]
    exact ho

/-- The value that a document gives a key; null gives none. -/
def given? (path : List String) (j : Json) : Option Json := (j.at? path).filter fun v => !v.isNull

end Json

namespace Config

open Json

/-- The sections of a configuration. -/
def sections : List (List String) :=
  [["common"], ["fastify"], ["fastify", "auth"], ["nestjs"], ["nestjs", "auth"],
    ["nestjs", "params"]]

/-- The standard configuration is an object, and so are its sections; all else are other values. -/
theorem objectPaths_standard : standard.toJson.objectPaths = [] :: sections := by decide

/-- An object whose sections are objects, null or left out.  All layers that are read are objects in
order (`ordered_layers`), so that only their sections matter. -/
structure IsLayer (l : Json) : Prop where
  isObject : l.isObject = true
  ordered : l.Ordered
  sections : ∀ s ∈ sections, (l.at? s).all (fun v => v.isNull || v.isObject) = true

/-- The value of a key that has the standard value `d` and is given these values by layers, the
highest first.  The highest counts, but an object is merged into an object that lies below it. -/
def leafValue (d : Json) : List Json → Json
  | [] => d
  | v :: rest =>
    if v.isObject && rest.head?.any Json.isObject then (leafValue d rest).merge v else v

variable {layers : List Json} {path s : List String} {d l : Json}

theorem IsLayer.open (h : IsLayer l) (hs : s ∈ [] :: Config.sections) (v : Json)
    (hv : l.at? s = some v) : v.isNull = true ∨ v.isObject = true := by
  rcases List.mem_cons.1 hs with rfl | hs
  · cases hv
    exact Or.inr h.isObject
  · have hall := h.sections s hs
    rw [hv] at hall
    exact Bool.or_eq_true_iff.1 hall

/-- The way to a key of the standard configuration leads through its sections. -/
theorem mem_sections_of_at? {key : String} {t : List String}
    (h : standard.toJson.at? (s ++ key :: t) = some d) : s ∈ [] :: Config.sections := by
  obtain ⟨o, ho, hobject⟩ := isObject_of_at?_append h
  exact objectPaths_standard ▸ mem_objectPaths ho hobject

theorem prefix_mem_sections :
    ∀ s ∈ [] :: Config.sections, ∀ s' ∈ s.inits, s' ∈ [] :: Config.sections := by
  decide

theorem at?_merged (hordered : ∀ l ∈ layers, l.Ordered) (hopen : ∀ l ∈ layers, l.OpenTo path) :
    (merged layers).at? path =
      layers.foldr (fun l below => lay below (l.at? path)) (standard.toJson.at? path) := by
  induction layers with
  | nil => rfl
  | cons l layers ih =>
    have hmerged : merged (l :: layers) = (merged layers).merge l := rfl
    rw [hmerged, at?_merge (hordered l List.mem_cons_self) (hopen l List.mem_cons_self),
      ih (fun l hl => hordered l (List.mem_cons_of_mem _ hl))
        (fun l hl => hopen l (List.mem_cons_of_mem _ hl)), List.foldr_cons]

theorem isObject_leafValue (hd : d.isObject = false) {given : List Json}
    (hgiven : ∀ v ∈ given, v.isNull = false) :
    (leafValue d given).isObject = given.head?.any Json.isObject := by
  cases given with
  | nil => exact hd
  | cons v rest =>
    unfold leafValue
    split
    · exact isObject_merge (hgiven v List.mem_cons_self)
    · rfl

/-- Laying layers over a value amounts to `leafValue`. -/
theorem foldr_lay (hd : d.isObject = false) (layers : List Json) :
    layers.foldr (fun l below => lay below (l.at? path)) (some d) =
      some (leafValue d (layers.filterMap (given? path))) := by
  induction layers with
  | nil => rfl
  | cons l layers ih =>
    rw [List.foldr_cons, ih]
    cases hv : l.at? path with
    | none =>
      have hgiven : given? path l = none := by rw [given?, hv]; rfl
      rw [List.filterMap_cons_none hgiven, lay_none_right]
    | some v =>
      cases hnull : v.isNull with
      | true =>
        have hgiven : given? path l = none := by rw [given?, hv]; simp [hnull]
        rw [List.filterMap_cons_none hgiven]
        cases v <;> cases hnull
        rfl
      | false =>
        have hgiven : given? path l = some v := by rw [given?, hv]; simp [hnull]
        rw [List.filterMap_cons_some hgiven, leafValue, ← isObject_leafValue hd ?_]
        · split
          · rfl
          · rename_i hobjects
            refine congrArg some (merge_eq_of_not_objects hnull fun h => hobjects ?_)
            rw [h.1, h.2]
            rfl
        · intro w hw
          obtain ⟨l', -, hl'⟩ := List.mem_filterMap.1 hw
          simpa using (Option.filter_eq_some_iff.1 hl').2

theorem foldr_lay_of_none (h : ∀ l ∈ layers, l.at? path = none) (below : Option Json) :
    layers.foldr (fun l below => lay below (l.at? path)) below = below := by
  induction layers with
  | nil => rfl
  | cons l layers ih =>
    rw [List.foldr_cons, ih fun l hl => h l (List.mem_cons_of_mem _ hl), h l List.mem_cons_self,
      lay_none_right]

/-- **Which layer a value comes from.**  At every key of the schema the merged document holds the
value of the highest layer that gives one, or the standard value if none does; only where the next
layer that gives a value gives an object as well are objects merged.  A key that no layer has is as
in the standard configuration, whatever the layers have beside it. -/
theorem merged_at_leaf (layers : List Json) (hlayers : ∀ l ∈ layers, IsLayer l) :
    (∀ path d, standard.toJson.at? path = some d → d.isObject = false →
      (merged layers).at? path = some (leafValue d (layers.filterMap (given? path)))) ∧
    ∀ s ∈ [] :: Config.sections, ∀ key, (∀ l ∈ layers, l.at? (s ++ [key]) = none) →
      (merged layers).at? (s ++ [key]) = standard.toJson.at? (s ++ [key]) := by
  have hordered : ∀ l ∈ layers, l.Ordered := fun l hl => (hlayers l hl).ordered
  constructor
  · intro path d hpath hd
    have hopen : ∀ l ∈ layers, l.OpenTo path := fun l hl s key t hsplit v hv =>
      (hlayers l hl).open (mem_sections_of_at? (hsplit ▸ hpath)) v hv
    rw [at?_merged hordered hopen, hpath, foldr_lay hd]
  · intro s hs key hnone
    have hopen : ∀ l ∈ layers, l.OpenTo (s ++ [key]) := by
      intro l hl s' k t hsplit v hv
      have hle : s'.length ≤ s.length := by
        have hlength := congrArg List.length hsplit
        simp only [List.length_append, List.length_cons, List.length_nil] at hlength
        omega
      have hprefix : s' <+: s := List.prefix_of_prefix_length_le
        (hsplit ▸ List.prefix_append s' (k :: t)) (List.prefix_append s [key]) hle
      exact (hlayers l hl).open (prefix_mem_sections s hs s' ((List.mem_inits s' s).2 hprefix)) v hv
    rw [at?_merged hordered hopen]
    exact foldr_lay_of_none hnone _

namespace Layering

/-- A layer that sets keys of the common section. -/
def common (fields : List (String × Json)) : Json := .object [("common", .object fields)]

theorem isLayer_common {fields : List (String × Json)}
    (hkeys : fields.Pairwise fun a b => a.1 < b.1) (heach : ∀ e ∈ fields, e.2.Ordered) :
    IsLayer (common fields) where
  isObject := rfl
  ordered := by
    refine .object (List.pairwise_singleton _ _) fun e he => ?_
    obtain rfl := List.mem_singleton.1 he
    exact .object hkeys heach
  sections := by
    intro s hs
    simp only [Config.sections, List.mem_cons, List.not_mem_nil, or_false] at hs
    rcases hs with rfl | rfl | rfl | rfl | rfl | rfl <;> rfl

/-- The upper layer asks for one format by an object, the lower one for another. -/
def upper : Json := common [("outputFormat", .object [("yaml", .null)])]

def lower : Json := common [("outputFormat", .object [("json", .null)])]

theorem isLayer_format {format : String} :
    IsLayer (common [("outputFormat", .object [(format, .null)])]) := by
  refine isLayer_common (List.pairwise_singleton _ _) fun e he => ?_
  obtain rfl := List.mem_singleton.1 he
  refine .object (List.pairwise_singleton _ _) fun e he => ?_
  obtain rfl := List.mem_singleton.1 he
  exact .null

/-- Objects of two layers are merged also at a key of the schema, so that the value is not that of
the highest layer, and is no format any more. -/
theorem formats_merged :
    (IsLayer upper ∧ IsLayer lower) ∧
    given? ["common", "outputFormat"] upper = some (.object [("yaml", .null)]) ∧
    (merged [upper, lower]).at? ["common", "outputFormat"] =
      some (.object [("json", .null), ("yaml", .null)]) ∧
    (merged [upper, lower]).at? ["common", "outputFormat"] ≠
      given? ["common", "outputFormat"] upper ∧
    (ofJson? (merged [upper])).map (fun c => c.common.outputFormat) = some .yaml ∧
    ofJson? (merged [upper, lower]) = none := by
  have hgiven : given? ["common", "outputFormat"] upper = some (.object [("yaml", .null)]) := rfl
  have hmerged : (merged [upper, lower]).at? ["common", "outputFormat"] =
    some (.object [("json", .null), ("yaml", .null)]) := rfl
  refine ⟨⟨isLayer_format, isLayer_format⟩, hgiven, hmerged, ?_, rfl, rfl⟩
  rw [hgiven, hmerged]
  simp

/-- A layer that gives a list of one pattern, and a depth. -/
def patterns (pattern : String) (depth : Json) : Json :=
  common [("excludePaths", ofStrings [pattern]), ("responseDepth", depth)]

theorem isLayer_patterns {pattern : String} {depth : Json} (h : depth.Ordered) :
    IsLayer (patterns pattern depth) := by
  have hlist : (ofStrings [pattern]).Ordered := by
    refine .array fun x hx => ?_
    obtain rfl := List.mem_singleton.1 hx
    exact .string pattern
  have hkeys : "excludePaths" < "responseDepth" := by decide
  refine isLayer_common (List.pairwise_pair.2 hkeys) fun e he => ?_
  rcases List.mem_cons.1 he with rfl | he
  · exact hlist
  · obtain rfl := List.mem_singleton.1 he
    exact h

/-- Of two lists the upper one is taken whole; null takes nothing back; a format that no layer gives
is the standard one. -/
theorem upper_list_counts :
    (∀ l ∈ [patterns "a" .null, patterns "b" (.ofNat 5)], IsLayer l) ∧
    (merged [patterns "a" .null, patterns "b" (.ofNat 5)]).at? ["common", "excludePaths"] =
      some (ofStrings ["a"]) ∧
    (merged [patterns "a" .null, patterns "b" (.ofNat 5)]).at? ["common", "responseDepth"] =
      some (.ofNat 5) ∧
    (merged [patterns "a" .null, patterns "b" (.ofNat 5)]).at? ["common", "outputFormat"] =
      some (.string "yaml") := by
  have hlayers : ∀ l ∈ [patterns "a" .null, patterns "b" (.ofNat 5)], IsLayer l := by
    intro l hl
    rcases List.mem_cons.1 hl with rfl | hl
    · exact isLayer_patterns .null
    · obtain rfl := List.mem_singleton.1 hl
      exact isLayer_patterns (.number _)
  have hleaf := (merged_at_leaf _ hlayers).1
  exact ⟨hlayers, hleaf _ _ rfl rfl, hleaf _ _ rfl rfl, hleaf _ _ rfl rfl⟩

end Layering

end Config

end RouteInventory
