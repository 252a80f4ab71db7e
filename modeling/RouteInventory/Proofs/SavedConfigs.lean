import Mathlib
import RouteInventory.Proofs.MergeLaws

/-!
# Configurations that were saved

A configuration that is written out in full is read back as it was, also when it is laid over
other layers.  A field that it gives is an object or replaces what lies below it, so each field is
read back whatever the layers below give there; `Json.Settles` says this of one value, and it is
proved from the fields up to the whole document.

* `Json.settles_of_plain`: values that are no objects settle what is read.
* `Json.settles_record`: so does a record, if its fields do.
* `Config.saved_read_back`: the document of a configuration is read back over any layers.
-/

namespace RouteInventory

namespace Json

variable {α : Type} {key name : String} {j v : Json} {x standard : α} {read : Json → Option α}
  {entries : List (String × Json)}

/-! ## Documents in order -/

theorem sortedItems_eq (items : List Json) : sortedItems items = items.map sorted := by
  induction items with
  | nil => rfl
  | cons x xs ih => rw [sortedItems, ih, List.map_cons]

theorem sortedEntries_eq (entries : List (String × Json)) :
    sortedEntries entries = entries.map fun e => (e.1, e.2.sorted) := by
  induction entries with
  | nil => rfl
  | cons e es ih =>
    obtain ⟨k, v⟩ := e
    rw [sortedEntries, ih, List.map_cons]

theorem get?_foldl_set (acc : List (String × Json)) (hkeys : (entries.map Prod.fst).Nodup) :
    (object (entries.foldl (fun acc e => set e.1 e.2 acc) acc)).get? key =
      ((object entries).get? key).or ((object acc).get? key) := by
  induction entries generalizing acc with
  | nil => rfl
  | cons e rest ih =>
    obtain ⟨k, v⟩ := e
    obtain ⟨hfresh, hrest⟩ := List.nodup_cons.1 hkeys
    rw [List.foldl_cons, ih _ hrest, get?_object_set, get?_object_cons]
    by_cases hk : k = key
    · have habsent : (object rest).get? key = none := by
        refine Option.eq_none_iff_forall_ne_some.2 fun w hw => hfresh ?_
        exact List.mem_map.2 ⟨(key, w), mem_of_get?_object hw, hk.symm⟩
      simp [hk, habsent]
    · simp [hk]

/-- Entries with different keys are found in an object that is put in order. -/
theorem get?_sorted_object (hkeys : (entries.map Prod.fst).Nodup) (name : String) :
    (object entries).sorted.get? name = ((object entries).get? name).map sorted := by
  have hsame : (sortedEntries entries).map Prod.fst = entries.map Prod.fst := by
    rw [sortedEntries_eq, List.map_map]
    rfl
  have hvalues : (object (sortedEntries entries)).get? name =
      ((object entries).get? name).map sorted := by
    rw [sortedEntries_eq, get?, get?, List.find?_map, Option.map_map, Option.map_map]
    rfl
  rw [sorted, ofEntries, get?_foldl_set [] (hsame ▸ hkeys), hvalues]
  exact Option.or_none

/-! ## Values that settle what is read -/

/-- Whatever lies below the value, `x` is read. -/
def Settles (read : Json → Option α) (v : Json) (x : α) : Prop :=
  ∀ below, (lay below (some v)).bind read = some x

theorem Settles.read_eq (h : Settles read v x) : read v = some x := h none

theorem Settles.read_merge (h : Settles read v x) (below : Json) :
    read (below.merge v) = some x :=
  h (some below)

theorem settles_of_plain (hnull : v.isNull = false) (hobject : v.isObject = false)
    (h : read v = some x) : Settles read v x := by
  intro below
  cases below with
  | none => exact h
  | some u =>
    rw [lay, merge_eq_of_plain hnull hobject]
    exact h

theorem settles_string (s : String) : Settles string? (string s).sorted s :=
  settles_of_plain rfl rfl rfl

theorem settles_bool (b : Bool) : Settles bool? (bool b).sorted b := settles_of_plain rfl rfl rfl

theorem settles_nat (n : Nat) : Settles nat? (ofNat n).sorted n :=
  settles_of_plain rfl rfl (by simp [ofNat, sorted, nat?])

/-- A list of items that are read back replaces what lies below it. -/
theorem settles_list {write : α → Json} (h : ∀ x, read (write x).sorted = some x) (xs : List α) :
    Settles (list? read) (array (xs.map write)).sorted xs := by
  refine settles_of_plain rfl rfl ?_
  rw [sorted, list?, sortedItems_eq, List.map_map]
  induction xs with
  | nil => rfl
  | cons x xs ih =>
    rw [List.map_cons, List.mapM_cons, ih, Function.comp_apply, h]
    rfl

theorem settles_strings (xs : List String) : Settles strings? (ofStrings xs).sorted xs :=
  settles_list (fun _ => rfl) xs

/-! ## Records -/

theorem record?_of_isObject (names : List String) (h : j.isObject = true) :
    record? names j = some fun name => j.get? name := by
  cases j with
  | object entries => rfl
  | _ => cases h

/-- The fields are those of a record with these entries, put in order and laid over something. -/
def Overlays (entries : List (String × Json)) (fields : String → Option Json) : Prop :=
  ∀ name v, (object entries).get? name = some v → ∃ below, fields name = lay below (some v.sorted)

theorem exists_overlays (names : List String) (hkeys : (entries.map Prod.fst).Nodup)
    (below : Option Json) : ∃ fields, Overlays entries fields ∧
      (lay below (some (object entries).sorted)).bind (record? names) = some fields := by
  have hfield {name : String} {v : Json} (hv : (object entries).get? name = some v) :
      (object entries).sorted.get? name = some v.sorted := by
    rw [get?_sorted_object hkeys, hv, Option.map_some]
  -- a record replaces what is no object, and is merged into an object field by field
  cases below with
  | none => exact ⟨_, fun name v hv => ⟨none, hfield hv⟩, rfl⟩
  | some u =>
    have hobject : (u.merge (object entries).sorted).isObject = true := isObject_merge rfl
    refine ⟨_, fun name v hv => ⟨u.get? name, ?_⟩, record?_of_isObject names hobject⟩
    rw [get?_merge (.inr rfl) (ordered_sorted _), hfield hv]

/-- **A record settles what is read** from its fields. -/
theorem settles_record (names : List String) {next : (String → Option Json) → Option α}
    (hkeys : (entries.map Prod.fst).Nodup)
    (h : ∀ fields, Overlays entries fields → next fields = some x) :
    Settles (fun j => (record? names j).bind next) (object entries).sorted x := by
  intro below
  obtain ⟨fields, hfields, hrecord⟩ := exists_overlays names hkeys below
  rw [← Option.bind_assoc, hrecord]
  exact h fields hfields

theorem Overlays.field? {fields : String → Option Json} (h : Overlays entries fields)
    (hv : (object entries).get? name = some v) (hx : Settles read v.sorted x) :
    field? fields name read standard = some x := by
  obtain ⟨below, hfield⟩ := h name v hv
  obtain ⟨j, hj, hread⟩ := Option.bind_eq_some_iff.1 (hx below)
  rw [Json.field?, hfield, hj]
  exact hread

/-- A field is read, and then the others. -/
theorem Overlays.bind {β : Type} {fields : String → Option Json} {next : α → Option β} {y : β}
    (h : Overlays entries fields) (hv : (object entries).get? name = some v)
    (hx : Settles read v.sorted x) (hnext : next x = some y) :
    (Json.field? fields name read standard).bind next = some y := by
  rw [h.field? hv hx]
  exact hnext

end Json

namespace Config

open Json

theorem settles_format (f : OutputFormat) :
    Settles OutputFormat.ofJson? (string f.text).sorted f :=
  settles_of_plain rfl rfl (by cases f <;> rfl)

/-- Decorators are items of a list, so nothing lies below them, and a description that is left out
is missing. -/
theorem readDecorator?_saved (d : CustomDecorator) :
    readDecorator? (decoratorDocument d).sorted = some d := by
  obtain ⟨name, type, description⟩ := d
  have hkeys : (([("name", string name), ("type", string type)] ++
      (description.map fun t => ("description", string t)).toList).map Prod.fst).Nodup := by
    cases description <;> simp
  rw [readDecorator?, decoratorDocument, record?_of_isObject _ rfl,
    funext (get?_sorted_object hkeys)]
  cases description <;> rfl

/-! Each section of the document is read back, the inner ones first. -/

section

variable (c : Config) {v : Json}

theorem settles_common (h : c.document.at? ["common"] = some v) :
    Settles readCommon? v.sorted c.common := by
  obtain rfl := Option.some.inj h
  refine settles_record _ (by simp) fun fields hfields => ?_
  refine hfields.bind rfl (settles_format _) ?_
  refine hfields.bind rfl (settles_bool _) ?_
  refine hfields.bind rfl (settles_nat _) ?_
  refine hfields.bind rfl (settles_strings _) ?_
  rfl

theorem settles_guards (h : c.document.at? ["nestjs", "auth"] = some v) :
    Settles readGuards? v.sorted c.nestjs.auth := by
  obtain rfl := Option.some.inj h
  refine settles_record _ (by simp) fun fields hfields => ?_
  iterate 6 refine hfields.bind rfl (settles_strings _) ?_
  rfl

theorem settles_params (h : c.document.at? ["nestjs", "params"] = some v) :
    Settles readParams? v.sorted c.nestjs.customDecorators := by
  obtain rfl := Option.some.inj h
  refine settles_record _ (by simp) fun fields hfields => ?_
  exact hfields.field? rfl (settles_list readDecorator?_saved _)

theorem settles_nest (h : c.document.at? ["nestjs"] = some v) :
    Settles readNest? v.sorted c.nestjs := by
  obtain rfl := Option.some.inj h
  refine settles_record _ (by simp) fun fields hfields => ?_
  refine hfields.bind rfl (settles_string _) ?_
  refine hfields.bind rfl (settles_guards c rfl) ?_
  refine hfields.bind rfl (settles_params c rfl) ?_
  rfl

theorem settles_hooks (h : c.document.at? ["fastify", "auth"] = some v) :
    Settles readHooks? v.sorted c.fastify.auth := by
  obtain rfl := Option.some.inj h
  refine settles_record _ (by simp) fun fields hfields => ?_
  iterate 2 refine hfields.bind rfl (settles_strings _) ?_
  rfl

theorem settles_fastify (h : c.document.at? ["fastify"] = some v) :
    Settles readFastify? v.sorted c.fastify := by
  obtain rfl := Option.some.inj h
  refine settles_record _ (by simp) fun fields hfields => ?_
  refine hfields.bind rfl (settles_string _) ?_
  refine hfields.bind rfl (settles_hooks c rfl) ?_
  rfl

theorem settles_config : Settles ofJson? c.toJson c := by
  refine settles_record _ (by simp) fun fields hfields => ?_
  refine hfields.bind rfl (settles_common c rfl) ?_
  refine hfields.bind rfl (settles_nest c rfl) ?_
  refine hfields.bind rfl (settles_fastify c rfl) ?_
  rfl

end

/-- **A configuration that was saved in full is read back**, by itself and over any layers at all:
what these hold does not matter.  Loading it over them finds the faults that it has itself, and no
others. -/
theorem saved_read_back (c : Config) :
    ofJson? c.toJson = some c ∧
    ∀ layers : List Json,
      ofJson? (merged (c.toJson :: layers)) = some c ∧
      ofLayers (c.toJson :: layers) = c.validate.map fun _ => c := by
  have hread (layers : List Json) : ofJson? (merged (c.toJson :: layers)) = some c :=
    (settles_config c).read_merge (merged layers)
  refine ⟨(settles_config c).read_eq, fun layers => ⟨hread layers, ?_⟩⟩
  rw [ofLayers, hread]
  rfl

end Config

end RouteInventory
