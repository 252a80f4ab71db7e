import Mathlib
import RouteInventory.Proofs.CursorDescent
import RouteInventory.Shape.Resolve

/-!
# Properties of all nodes

What is assumed of every node of a project's files holds of every node that a look-up comes to: of
the declaration that a name leads to, of the types in it, of the nodes below and above a cursor.

* `Tree.AllNodes` — all nodes of a tree have a property, whichever part of it is looked at.
* `Cursor.Grounded` — all nodes of the tree have it that the node stands in.
* `Project.grounded_node?` — so they do around a declaration.
-/

namespace RouteInventory

/-! ## Nodes of trees -/

namespace Tree

mutual
/-- All nodes of a tree, tokens included. -/
def nodes : Tree → List Tree
  | .node h ts => .node h ts :: nodesOf ts

/-- All nodes of several trees. -/
def nodesOf : List Tree → List Tree
  | [] => []
  | t :: ts => nodes t ++ nodesOf ts
end

/-- Every node of the tree has the property. -/
def AllNodes (G : Tree → Prop) (t : Tree) : Prop := ∀ u ∈ t.nodes, G u

instance (G : Tree → Prop) [DecidablePred G] (t : Tree) : Decidable (t.AllNodes G) :=
  inferInstanceAs (Decidable (∀ u ∈ t.nodes, G u))

variable {G : Tree → Prop} {t u : Tree}

theorem self_mem_nodes (t : Tree) : t ∈ t.nodes := by
  cases t
  rw [nodes]
  exact List.mem_cons_self

theorem mem_nodesOf_iff {ts : List Tree} : u ∈ nodesOf ts ↔ ∃ t ∈ ts, u ∈ t.nodes := by
  induction ts with
  | nil => simp [nodesOf]
  | cons t ts ih => rw [nodesOf, List.mem_append, ih, List.exists_mem_cons_iff]

theorem allNodes_iff : t.AllNodes G ↔ G t ∧ ∀ u ∈ t.children, u.AllNodes G := by
  have hnodes : t.nodes = t :: nodesOf t.children := by
    cases t
    rw [nodes]
    rfl
  unfold AllNodes
  rw [hnodes, List.forall_mem_cons]
  refine and_congr_right' ⟨fun hall t ht u hu => ?_, fun hall u hu => ?_⟩
  · exact hall u (mem_nodesOf_iff.2 ⟨t, ht, hu⟩)
  · obtain ⟨t, ht, hu⟩ := mem_nodesOf_iff.1 hu
    exact hall t ht u hu

mutual
/-- A node of a node is a node. -/
theorem nodes_subset : ∀ t u : Tree, u ∈ t.nodes → u.nodes ⊆ t.nodes
  | .node h ts, u, hu => by
    rw [nodes, List.mem_cons] at hu
    rcases hu with rfl | hu
    · exact List.Subset.refl _
    · rw [nodes]
      exact List.subset_cons_of_subset _ (nodes_subset_nodesOf ts u hu)

theorem nodes_subset_nodesOf : ∀ (ts : List Tree) (u : Tree), u ∈ nodesOf ts → u.nodes ⊆ nodesOf ts
  | [], _, hu => by cases hu
  | t :: ts, u, hu => by
    rw [nodesOf, List.mem_append] at hu
    rw [nodesOf]
    rcases hu with hu | hu
    · exact List.subset_append_of_subset_left _ (nodes_subset t u hu)
    · exact List.subset_append_of_subset_right _ (nodes_subset_nodesOf ts u hu)
end

namespace AllNodes

theorem node (h : t.AllNodes G) (hu : u ∈ t.nodes) : u.AllNodes G :=
  fun v hv => h v (nodes_subset t u hu hv)

theorem self (h : t.AllNodes G) : G t := h t t.self_mem_nodes

theorem child (h : t.AllNodes G) (hu : u ∈ t.children) : u.AllNodes G :=
  (allNodes_iff.1 h).2 u hu

theorem mono {H : Tree → Prop} (h : t.AllNodes G) (himp : ∀ u, G u → H u) : t.AllNodes H :=
  fun u hu => himp u (h u hu)

/-- What every node passes on to its children holds of all nodes if it holds of the first. -/
theorem descend {H : Tree → Prop} (hstep : ∀ t, G t → H t → ∀ u ∈ t.children, H u) {t : Tree}
    (h : t.AllNodes G) (ht : H t) : t.AllNodes H := by
  refine allNodes_iff.2 ⟨ht, fun u hu => ?_⟩
  exact descend hstep (h.child hu) (hstep t h.self ht u hu)
termination_by t.size
decreasing_by exact size_lt_of_mem_children hu

theorem part (h : t.AllNodes G) (hu : u ∈ t.parts) : u.AllNodes G :=
  h.child (mem_children_of_mem_parts hu)

theorem role {r : Role} (h : t.AllNodes G) (hu : t.role? r = some u) : u.AllNodes G :=
  h.child (mem_children_of_role? hu)

theorem clauseType {r : Role} (h : t.AllNodes G) (hu : t.clauseType? r = some u) :
    u.AllNodes G := by
  unfold clauseType? at hu
  obtain ⟨a, ha, hu⟩ := Option.bind_eq_some_iff.1 hu
  split at hu
  · exact (h.role ha).part (mem_parts_of_firstPart? hu)
  · cases hu
    exact h.role ha

theorem typeArgument (h : t.AllNodes G)
    (hu : u ∈ ((t.parts.find? fun c => c.kind == .typeArguments).map parts).getD []) :
    u.AllNodes G := by
  cases hargs : t.parts.find? fun c => c.kind == .typeArguments with
  | none =>
    rw [hargs] at hu
    cases hu
  | some args =>
    rw [hargs] at hu
    exact (h.part (List.mem_of_find?_eq_some hargs)).part hu

theorem interfaceBase (h : t.AllNodes G) (hu : u ∈ t.interfaceBases) : u.AllNodes G := by
  obtain ⟨clause, hclause, hu⟩ := List.mem_flatMap.1 hu
  exact (h.part (List.mem_filter.1 hclause).1).part hu

end AllNodes

theorem allNodes_true (t : Tree) : t.AllNodes fun _ => True := fun _ _ => trivial

end Tree

namespace Cursor

/-- All nodes of the tree that the node stands in have the property. -/
def Grounded (G : Tree → Prop) (c : Cursor) : Prop :=
  c.focus.AllNodes G ∧ ∀ frame ∈ c.above, frame.parent.AllNodes G

variable {G : Tree → Prop} {c d : Cursor}

theorem shared_grounded (G : Tree → Prop) : Shared (Grounded G) where
  child := by
    intro c d hc hd
    obtain ⟨i, t, ht, rfl⟩ := mem_children_iff.1 hd
    have hmem : t ∈ c.focus.children := List.mem_of_getElem? ht
    exact ⟨hc.1.child hmem, List.forall_mem_cons.2 ⟨hc.1, hc.2⟩⟩
  ancestor := by
    rintro ⟨t, above⟩ a ⟨-, hc⟩ ha
    induction above generalizing t with
    | nil => cases ha
    | cons frame above ih =>
      obtain ⟨hframe, habove⟩ := List.forall_mem_cons.1 hc
      rcases List.mem_cons.1 ha with rfl | ha
      · exact ⟨hframe, habove⟩
      · exact ih frame.parent habove ha

theorem grounded_ofTree {t : Tree} (h : t.AllNodes G) : (ofTree t).Grounded G :=
  ⟨h, List.forall_mem_nil _⟩

theorem grounded_true (c : Cursor) : c.Grounded fun _ => True :=
  ⟨c.focus.allNodes_true, fun frame _ => frame.parent.allNodes_true⟩

mutual
theorem grounded_coveringFrom (start stop : Nat) (t : Tree) (above : List Frame)
    (h : Grounded G ⟨t, above⟩) : (coveringFrom start stop t above).Grounded G := by
  obtain ⟨hd, ts⟩ := t
  rw [coveringFrom]
  cases hcovering : coveringAmong start stop ts (.node hd ts) above 0 with
  | none => exact h
  | some c =>
    exact grounded_coveringAmong start stop ts (.node hd ts) above 0 (fun t ht => h.1.child ht)
      (List.forall_mem_cons.2 h) c hcovering

theorem grounded_coveringAmong (start stop : Nat) (ts : List Tree) (parent : Tree)
    (above : List Frame) (i : Nat) (hts : ∀ t ∈ ts, t.AllNodes G)
    (habove : ∀ frame ∈ (⟨parent, i⟩ : Frame) :: above, frame.parent.AllNodes G) (c : Cursor)
    (h : coveringAmong start stop ts parent above i = some c) : c.Grounded G := by
  cases ts with
  | nil => cases h
  | cons t ts =>
    obtain ⟨ht, hts⟩ := List.forall_mem_cons.1 hts
    rw [coveringAmong] at h
    split at h
    · exact grounded_coveringAmong start stop ts parent above (i + 1) hts
        (List.forall_mem_cons.2 (List.forall_mem_cons.1 habove)) c h
    · split at h
      · cases h
      · cases h
        exact grounded_coveringFrom start stop t _ ⟨ht, habove⟩
end

theorem grounded_nodeAt? {start stop : Nat} {k : Kind} (hc : c.Grounded G)
    (h : c.nodeAt? start stop k = some d) : d.Grounded G := by
  have hsmallest := grounded_coveringFrom start stop c.focus c.above hc
  unfold nodeAt? nodeFrom? at h
  rcases List.mem_cons.1 (List.mem_of_find?_eq_some h) with rfl | hd
  · exact hsmallest
  · exact (shared_grounded G).ancestor hsmallest ((List.takeWhile_sublist _).subset hd)

end Cursor

/-! ## Declarations -/

namespace Project

/-- All nodes of all files have the property. -/
def AllNodes (G : Tree → Prop) (p : Project) : Prop := ∀ file ∈ p.files, file.tree.AllNodes G

instance (G : Tree → Prop) [DecidablePred G] (p : Project) : Decidable (p.AllNodes G) :=
  inferInstanceAs (Decidable (∀ file ∈ p.files, file.tree.AllNodes G))

variable {p : Project} {G : Tree → Prop}

theorem allNodes_true (p : Project) : p.AllNodes fun _ => True := fun file _ =>
  file.tree.allNodes_true

theorem file_of_typeIn? {f : SourceFile} {name : String} {d : TypeDeclaration}
    (h : typeIn? f name = some d) : d.file = f := by
  unfold typeIn? at h
  split at h
  · cases h
    rfl
  · obtain ⟨c, -, rfl⟩ := Option.map_eq_some_iff.1 h
    rfl

/-- What a type name refers to is declared in some file of the project. -/
theorem exists_typeIn?_of_found {origin : Path} {name : String} {d : TypeDeclaration}
    (h : p.resolveType origin name = .found d) :
    ∃ f ∈ p.files, ∃ declared, typeIn? f declared = some d := by
  unfold resolveType at h
  split at h
  · cases h
  · rename_i f hf
    split at h
    · rename_i hd
      cases h
      exact ⟨f, mem_files_of_fileAt? hf, name, hd⟩
    · split at h
      · split at h
        · split at h
          · rename_i hd
            cases h
            obtain ⟨g, hg, hd⟩ := Option.bind_eq_some_iff.1 hd
            exact ⟨g, mem_files_of_fileAt? hg, _, hd⟩
          · cases h
        · cases h
        · cases h
      · split at h
        · rename_i hd
          cases h
          have hmem : d ∈ p.files.filterMap fun g => typeIn? g name := by
            rw [hd]
            exact List.mem_cons_self
          obtain ⟨g, hg, hd⟩ := List.mem_filterMap.1 hmem
          exact ⟨g, hg, name, hd⟩
        · cases h

theorem mem_files_of_found {origin : Path} {name : String} {d : TypeDeclaration}
    (h : p.resolveType origin name = .found d) : d.file ∈ p.files := by
  obtain ⟨f, hf, declared, hd⟩ := exists_typeIn?_of_found h
  rw [file_of_typeIn? hd]
  exact hf

theorem grounded_node? (hp : p.AllNodes G) {origin : Path}
    {name : String} {d : TypeDeclaration} {node : Cursor}
    (hd : p.resolveType origin name = .found d) (h : d.node? = some node) : node.Grounded G := by
  have hroot := Cursor.grounded_ofTree (hp _ (mem_files_of_found hd))
  rcases Option.or_eq_some_iff.1 h with h | ⟨-, h⟩
  · exact Cursor.grounded_nodeAt? hroot h
  · exact Cursor.grounded_nodeAt? hroot h

end Project

end RouteInventory
