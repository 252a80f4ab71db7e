import Mathlib
import RouteInventory.Config.Load

/-!
# Documents in order

An object of a document that is read or merged is a table: its entries stand in the order of their
keys, and a key occurs once.  `Json.Ordered` says so of every object inside a document.

* `Json.ordered_sorted` — a document that is put in order is in order throughout.
* `Json.ordered_read?`, `Yaml.ordered_read?` — documents are in order when they are read.
* `Config.ordered_layers` — the layers of a project's configuration are objects in order.
-/

namespace RouteInventory

namespace Json

def isNull : Json → Bool
  | null => true
  | _ => false

def isObject : Json → Bool
  | object _ => true
  | _ => false

/-- The entries of every object stand in the order of their keys, each key once. -/
inductive Ordered : Json → Prop
  | null : Ordered null
  | bool (b : Bool) : Ordered (bool b)
  | number (n : JsonNumber) : Ordered (number n)
  | string (s : String) : Ordered (string s)
  | array {items : List Json} (each : ∀ x ∈ items, Ordered x) : Ordered (array items)
  | object {entries : List (String × Json)} (keys : entries.Pairwise fun a b => a.1 < b.1)
      (each : ∀ e ∈ entries, Ordered e.2) : Ordered (object entries)

variable {key k : String} {v j : Json} {entries rest : List (String × Json)}

/-! ## Objects as tables -/

theorem get?_object_cons :
    (object ((k, v) :: rest)).get? key = if k = key then some v else (object rest).get? key := by
  simp only [get?, List.find?_cons]
  by_cases h : k = key
  · simp [h]
  · rw [beq_eq_false_iff_ne.2 h, if_neg h]

theorem get?_object_set :
    (object (set k v entries)).get? key =
      if k = key then some v else (object entries).get? key := by
  induction entries with
  | nil => exact get?_object_cons
  | cons e rest ih =>
    obtain ⟨k', v'⟩ := e
    unfold set
    split
    · exact get?_object_cons
    · split
      · rename_i heq
        subst heq
        simp only [get?_object_cons]
        split <;> rfl
      · rename_i hne
        simp only [get?_object_cons, ih]
        by_cases h : k' = key
        · have hk : k ≠ key := fun hk => hne (hk.trans h.symm)
          simp [h, hk]
        · simp [h]

theorem mem_of_get?_object (h : (object entries).get? key = some v) : (key, v) ∈ entries := by
  induction entries with
  | nil => cases h
  | cons e rest ih =>
    obtain ⟨k, w⟩ := e
    rw [get?_object_cons] at h
    split at h
    · rename_i hk
      cases h
      exact hk ▸ List.mem_cons_self
    · exact List.mem_cons_of_mem _ (ih h)

theorem Ordered.get? (h : j.Ordered) (hv : j.get? key = some v) : v.Ordered := by
  cases h with
  | object keys each => exact each _ (mem_of_get?_object hv)
  | _ => cases hv

theorem mem_set {e : String × Json} (h : e ∈ set k v entries) : e = (k, v) ∨ e ∈ entries := by
  induction entries with
  | nil => exact Or.inl (List.mem_singleton.1 h)
  | cons e' rest ih =>
    unfold set at h
    split at h
    · exact List.mem_cons.1 h
    · split at h
      · exact (List.mem_cons.1 h).imp_right (List.mem_cons_of_mem _)
      · rcases List.mem_cons.1 h with rfl | h
        · exact Or.inr List.mem_cons_self
        · exact (ih h).imp_right (List.mem_cons_of_mem _)

theorem pairwise_set (h : entries.Pairwise fun a b => a.1 < b.1) :
    (set k v entries).Pairwise fun a b => a.1 < b.1 := by
  induction entries with
  | nil => exact List.pairwise_singleton _ _
  | cons e rest ih =>
    obtain ⟨k', v'⟩ := e
    obtain ⟨hfirst, hrest⟩ := List.pairwise_cons.1 h
    unfold set
    split
    · rename_i hlt
      refine List.pairwise_cons.2 ⟨fun b hb => ?_, h⟩
      rcases List.mem_cons.1 hb with rfl | hb
      · exact hlt
      · exact hlt.trans (hfirst b hb)
    · split
      · rename_i heq
        exact List.pairwise_cons.2 ⟨fun b hb => heq ▸ hfirst b hb, hrest⟩
      · rename_i hnlt hne
        refine List.pairwise_cons.2 ⟨fun b hb => ?_, ih hrest⟩
        rcases mem_set hb with rfl | hb
        · exact lt_of_le_of_ne (not_lt.1 hnlt) (Ne.symm hne)
        · exact hfirst b hb

theorem ordered_set (h : (object entries).Ordered) (hv : v.Ordered) :
    (object (set k v entries)).Ordered := by
  cases h with
  | object keys each =>
    refine .object (pairwise_set keys) fun e he => ?_
    rcases mem_set he with rfl | he
    · exact hv
    · exact each e he

theorem ordered_nil : (object []).Ordered := .object .nil fun _ h => by cases h

theorem ordered_ofEntries (h : ∀ e ∈ entries, e.2.Ordered) : (ofEntries entries).Ordered := by
  have hfold : ∀ acc : List (String × Json), (object acc).Ordered →
      (object (entries.foldl (fun acc e => Json.set e.1 e.2 acc) acc)).Ordered := by
    induction entries with
    | nil => exact fun _ hacc => hacc
    | cons e rest ih =>
      intro acc hacc
      have hfirst : (object (Json.set e.1 e.2 acc)).Ordered :=
        ordered_set hacc (h e List.mem_cons_self)
      exact ih (fun e he => h e (List.mem_cons_of_mem _ he)) _ hfirst
  exact hfold [] ordered_nil

mutual
theorem ordered_sorted : ∀ j : Json, j.sorted.Ordered
  | .null => .null
  | .bool b => .bool b
  | .number n => .number n
  | .string s => .string s
  | .array items => .array (ordered_sortedItems items)
  | .object entries => ordered_ofEntries (ordered_sortedEntries entries)

theorem ordered_sortedItems : ∀ items : List Json, ∀ x ∈ sortedItems items, x.Ordered
  | [] => List.forall_mem_nil _
  | x :: xs => List.forall_mem_cons.2 ⟨ordered_sorted x, ordered_sortedItems xs⟩

theorem ordered_sortedEntries :
    ∀ entries : List (String × Json), ∀ e ∈ sortedEntries entries, e.2.Ordered
  | [] => List.forall_mem_nil _
  | (_, v) :: es => List.forall_mem_cons.2 ⟨ordered_sorted v, ordered_sortedEntries es⟩
end

/-! ## Reading -/

/-- A reader yields a value in order, if it yields any. -/
def YieldsOrdered (x : Option (Json × List Char)) : Prop := ∀ y, x = some y → y.1.Ordered

theorem yieldsOrdered_bind {α : Type} {x : Option α} {f : α → Option (Json × List Char)}
    (h : ∀ a, YieldsOrdered (f a)) : YieldsOrdered (x >>= f) := by
  intro y hy
  obtain ⟨a, -, ha⟩ := Option.bind_eq_some_iff.1 hy
  exact h a y ha

theorem yieldsOrdered_readNumber (care : Care) (cs : List Char) :
    YieldsOrdered (readNumber care cs) := by
  have hlast : ∀ (x : Option JsonNumber) (rest : List Char),
      YieldsOrdered (do return (number (← x), rest)) := by
    intro x rest
    refine yieldsOrdered_bind fun n y hy => ?_
    cases hy
    exact .number n
  unfold readNumber
  repeat' first
    | exact hlast _ _
    | apply yieldsOrdered_bind; intro _
    | split

/-- What the readers yield with this much fuel is in order. -/
structure ReadsOrdered (care : Care) (n : Nat) : Prop where
  value : ∀ depth cs, YieldsOrdered (readValue care n depth cs)
  items : ∀ depth acc cs xs rest, (∀ x ∈ acc, x.Ordered) →
    readItems care n depth acc cs = some (xs, rest) → ∀ x ∈ xs, x.Ordered
  entries : ∀ depth acc cs es rest, (object acc).Ordered →
    readEntries care n depth acc cs = some (es, rest) → (object es).Ordered

theorem yieldsOrdered_map {α : Type} {x : Option (α × List Char)} {f : α → Json}
    (h : ∀ a rest, x = some (a, rest) → (f a).Ordered) :
    YieldsOrdered (x.map fun (a, rest) => (f a, rest)) := by
  intro y hy
  obtain ⟨⟨a, rest⟩, ha, rfl⟩ := Option.map_eq_some_iff.1 hy
  exact h a rest ha

theorem yieldsOrdered_readWord {word : String} {value : Json} (h : value.Ordered)
    (cs : List Char) : YieldsOrdered (readWord word value cs) := by
  intro y hy
  unfold readWord at hy
  split at hy
  · cases hy
    exact h
  · cases hy

theorem ReadsOrdered.value_succ {care : Care} {n : Nat} (h : ReadsOrdered care n) (depth : Nat)
    (cs : List Char) : YieldsOrdered (readValue care (n + 1) depth cs) := by
  unfold readValue
  split
  · exact yieldsOrdered_map fun s _ _ => .string s
  · split
    · intro y hy
      cases hy
    · split
      · intro y hy
        cases hy
        exact .array fun x hx => by cases hx
      · exact yieldsOrdered_map fun xs rest hxs =>
          .array (h.items _ _ _ _ _ (fun x hx => by cases hx) hxs)
  · split
    · intro y hy
      cases hy
    · split
      · intro y hy
        cases hy
        exact ordered_nil
      · exact yieldsOrdered_map fun es rest hes => h.entries _ _ _ _ _ ordered_nil hes
  · exact yieldsOrdered_readWord (.bool true) _
  · exact yieldsOrdered_readWord (.bool false) _
  · exact yieldsOrdered_readWord .null _
  · exact yieldsOrdered_readNumber care _

theorem ReadsOrdered.items_succ {care : Care} {n depth : Nat} (h : ReadsOrdered care n)
    {acc xs : List Json} {cs rest : List Char} (hacc : ∀ x ∈ acc, x.Ordered)
    (hread : readItems care (n + 1) depth acc cs = some (xs, rest)) : ∀ x ∈ xs, x.Ordered := by
  unfold readItems at hread
  obtain ⟨⟨x, rest'⟩, hx, hread⟩ := Option.bind_eq_some_iff.1 hread
  have hacc' : ∀ y ∈ x :: acc, y.Ordered :=
    List.forall_mem_cons.2 ⟨h.value depth cs _ hx, hacc⟩
  dsimp only at hread
  split at hread
  · exact h.items _ _ _ _ _ hacc' hread
  · cases hread
    exact fun y hy => hacc' y (List.mem_reverse.1 hy)
  · cases hread

theorem ReadsOrdered.entries_succ {care : Care} {n depth : Nat} (h : ReadsOrdered care n)
    {acc es : List (String × Json)} {cs rest : List Char} (hacc : (object acc).Ordered)
    (hread : readEntries care (n + 1) depth acc cs = some (es, rest)) : (object es).Ordered := by
  unfold readEntries at hread
  split at hread
  · obtain ⟨⟨key, afterKey⟩, -, hread⟩ := Option.bind_eq_some_iff.1 hread
    dsimp only at hread
    split at hread
    · obtain ⟨⟨x, afterValue⟩, hx, hread⟩ := Option.bind_eq_some_iff.1 hread
      have hacc' : (object (set key x acc)).Ordered := ordered_set hacc (h.value depth _ _ hx)
      dsimp only at hread
      split at hread
      · exact h.entries _ _ _ _ _ hacc' hread
      · cases hread
        exact hacc'
      · cases hread
    · cases hread
  · cases hread

theorem readsOrdered (care : Care) (n : Nat) : ReadsOrdered care n := by
  induction n with
  | zero =>
    refine ⟨fun _ _ y hy => ?_, fun _ _ _ _ _ _ hread => ?_, fun _ _ _ _ _ _ hread => ?_⟩
    · cases hy
    · cases hread
    · cases hread
  | succ n ih =>
    exact ⟨ih.value_succ, fun _ _ _ _ _ => ih.items_succ, fun _ _ _ _ _ => ih.entries_succ⟩

/-- A document that is read is in order. -/
theorem ordered_read? {text : String} (h : read? text = some j) : j.Ordered := by
  unfold read? at h
  obtain ⟨⟨v, rest⟩, hv, h⟩ := Option.bind_eq_some_iff.1 h
  dsimp only at h
  split at h
  · cases h
    exact (readsOrdered .keep _).value _ _ _ hv
  · cases h

end Json

namespace Yaml

open Json (Ordered)

theorem bind_eq_some {α β : Type} {x : Conversion α} {f : α → Conversion β} {n : Nat} {y : β × Nat}
    (h : (x >>= f) n = some y) : ∃ a m, x n = some (a, m) ∧ f a m = some y := by
  obtain ⟨⟨a, m⟩, ha, h⟩ := Option.bind_eq_some_iff.1 h
  exact ⟨a, m, ha, h⟩

/-- What holds of all that a conversion yields holds of all that a list of them yields. -/
theorem forall_of_mapM {α β : Type} {P : β → Prop} {f : α → Conversion β}
    (hf : ∀ a n b m, f a n = some (b, m) → P b) {xs : List α} {ys : List β} {n m : Nat}
    (h : xs.mapM f n = some (ys, m)) : ∀ y ∈ ys, P y := by
  induction xs generalizing ys n m with
  | nil =>
    cases h
    exact fun _ hy => by cases hy
  | cons x xs ih =>
    rw [List.mapM_cons] at h
    obtain ⟨b, n', hb, h⟩ := bind_eq_some h
    obtain ⟨bs, m', hbs, h⟩ := bind_eq_some h
    cases h
    exact List.forall_mem_cons.2 ⟨hf x n b n' hb, ih hbs⟩

theorem ordered_scalar {s : Scalar} {v : Json} (h : s.toJson? = some v) : v.Ordered := by
  cases s <;> cases h <;> constructor

theorem ordered_scalarValue? {text : String} {style : Style} {tag : Option String} {v : Json}
    (h : scalarValue? text style tag = some v) : v.Ordered := by
  unfold scalarValue? floatValue? at h
  split at h
  · split at h
    · split at h
      · cases h
        exact .string text
      · exact ordered_scalar h
    · cases h
      exact .string text
  · split_ifs at h
    · obtain ⟨b, -, rfl⟩ := Option.map_eq_some_iff.1 h
      exact .bool b
    · obtain ⟨s, -, hs⟩ := Option.bind_eq_some_iff.1 h
      exact ordered_scalar hs
    · cases h
      exact .null
    · obtain ⟨s, -, hs⟩ := Option.bind_eq_some_iff.1 h
      exact ordered_scalar hs
    · cases h
      exact .null
    · cases h
      exact .string text

/-- The value of a node is in order, if those of nodes that nest less deeply are. -/
theorem ordered_value_of_lt {a : Aliases} {depth : Nat}
    (ih : ∀ d < depth, ∀ node n v m, value a d node n = some (v, m) → v.Ordered)
    {node : Node} {n m : Nat} {v : Json} (h : value a depth node n = some (v, m)) : v.Ordered := by
  rw [value] at h
  obtain ⟨node', n', -, h⟩ := bind_eq_some h
  split at h
  · obtain ⟨w, hw, h⟩ := Option.bind_eq_some_iff.1 h
    cases h
    exact ordered_scalarValue? hw
  · obtain ⟨-, n'', -, h⟩ := bind_eq_some h
    split at h
    · cases h
    · obtain ⟨items, _, hitems, h⟩ := bind_eq_some h
      cases h
      exact .array (forall_of_mapM (fun x k w l => ih _ (Nat.lt_succ_self _) x k w l) hitems)
  · obtain ⟨-, n'', -, h⟩ := bind_eq_some h
    split at h
    · cases h
    · obtain ⟨entries, _, hentries, h⟩ := bind_eq_some h
      cases h
      refine Json.ordered_ofEntries (forall_of_mapM (fun e k w l he => ?_) hentries)
      obtain ⟨key, _, -, he⟩ := bind_eq_some he
      obtain ⟨x, _, hx, he⟩ := bind_eq_some he
      cases he
      exact ih _ (Nat.lt_succ_self _) _ _ _ _ hx
  · cases h
  · cases h

theorem ordered_value (a : Aliases) (depth : Nat) :
    ∀ node n v m, value a depth node n = some (v, m) → v.Ordered := by
  induction depth using Nat.strongRecOn with
  | ind depth ih => exact fun _ _ _ _ => ordered_value_of_lt ih

/-- A document that is read is in order. -/
theorem ordered_read? {text : String} {j : Json} (h : read? text = some j) : j.Ordered := by
  unfold read? at h
  obtain ⟨tokens, -, h⟩ := Option.bind_eq_some_iff.1 h
  obtain ⟨node, -, h⟩ := Option.bind_eq_some_iff.1 h
  split at h
  · rename_i node
    obtain ⟨⟨v, m⟩, hv, rfl⟩ := Option.map_eq_some_iff.1 h
    exact ordered_value _ _ _ _ _ _ hv
  · cases h
    exact .null

end Yaml

/-! ## Layers -/

namespace Config

open Json

theorem bind_eq_ok {ε α β : Type} {x : Except ε α} {f : α → Except ε β} {y : β}
    (h : x >>= f = .ok y) : ∃ a, x = .ok a ∧ f a = .ok y := by
  cases x with
  | error e => cases h
  | ok a => exact ⟨a, rfl, h⟩

theorem ordered_document? {path text : String} {j : Json} (h : document? path text = some j) :
    j.Ordered := by
  unfold document? at h
  split at h
  · exact Yaml.ordered_read? h
  · exact Json.ordered_read? h

theorem ordered_layerOf {path text : String} {l : Json} (h : layerOf path text = .ok (some l)) :
    l.isObject = true ∧ l.Ordered := by
  unfold layerOf at h
  split at h
  · cases h
  · cases h
  · rename_i hdocument
    cases h
    exact ⟨rfl, ordered_document? hdocument⟩
  · cases h

theorem ordered_layerAt {d : Disk} {path : String} {l : Json}
    (h : layerAt d path = .ok (some l)) : l.isObject = true ∧ l.Ordered := by
  unfold layerAt at h
  split at h
  · split at h
    · exact ordered_layerOf h
    · cases h
  · cases h

theorem ordered_manifestLayer {path : String} {manifest l : Json} (hm : manifest.Ordered)
    (h : manifestLayer path manifest = .ok (some l)) : l.isObject = true ∧ l.Ordered := by
  unfold manifestLayer at h
  split at h
  · rename_i hentry
    cases h
    exact ⟨rfl, hm.get? hentry⟩
  · cases h
  · cases h
  · cases h

theorem ordered_manifestLayerAt {d : Disk} {path : String} {l : Json}
    (h : manifestLayerAt d path = .ok (some l)) : l.isObject = true ∧ l.Ordered := by
  unfold manifestLayerAt at h
  obtain ⟨layer, hlayer, h⟩ := bind_eq_ok h
  split at h
  · exact ordered_manifestLayer (ordered_layerAt hlayer).2 h
  · cases h

/-- The layers of a project's configuration are objects in order. -/
theorem ordered_layers {d : Disk} {root : String} {explicit : Option String} {ls : List Json}
    (h : layers d root explicit = .ok ls) : ∀ l ∈ ls, l.isObject = true ∧ l.Ordered := by
  have hbelow {asked : Option Json}
      (hasked : ∀ l, asked = some l → l.isObject = true ∧ l.Ordered)
      (h : (do
        let yaml ← layerAt d (joinText root yamlFile)
        let json ← layerAt d (joinText root jsonFile)
        let manifest ← manifestLayerAt d (joinText root manifestFile)
        return [asked, yaml, json, manifest].filterMap id) = Except.ok ls) :
      ∀ l ∈ ls, l.isObject = true ∧ l.Ordered := by
    obtain ⟨yaml, hyaml, h⟩ := bind_eq_ok h
    obtain ⟨json, hjson, h⟩ := bind_eq_ok h
    obtain ⟨manifest, hmanifest, h⟩ := bind_eq_ok h
    cases h
    intro l hl
    simp only [List.mem_filterMap, List.mem_cons, List.not_mem_nil, or_false, id,
      exists_eq_right] at hl
    rcases hl with rfl | rfl | rfl | rfl
    · exact hasked l rfl
    · exact ordered_layerAt hyaml
    · exact ordered_layerAt hjson
    · exact ordered_manifestLayerAt hmanifest
  unfold layers at h
  cases explicit with
  | some path =>
    obtain ⟨asked, hasked, h⟩ := bind_eq_ok h
    refine hbelow (fun l hl => ?_) h
    subst hl
    exact ordered_layerAt hasked
  | none => exact hbelow (fun l hl => by cases hl) h

end Config

end RouteInventory
