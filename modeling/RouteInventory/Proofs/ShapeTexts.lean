import Mathlib
import RouteInventory.Shape.Render

/-!
# The texts of a shape's alternatives

A union is written as its alternatives side by side, and an array with `[]` behind each alternative
of its element.  Both are told by the list of the alternatives' texts
(`Renderer.alternativeTexts`), which is also what inductions over shapes are about.

* `Shape.induction` — induction over shapes, with a hypothesis about the shapes directly inside.
* `Renderer.formatAt_eq_join` — a shape is written as the texts of its alternatives.
* `Renderer.formatAt_array` — so is an array, with `[]` behind each of them.
-/

namespace RouteInventory

/-- Induction over shapes. -/
@[elab_as_elim]
theorem Shape.induction {P : Shape → Prop} (primitive : ∀ name, P (.primitive name))
    (literal : ∀ text, P (.literal text)) (array : ∀ element, P element → P (.array element))
    (union : ∀ vs, (∀ v ∈ vs, P v) → P (.union vs))
    (object : ∀ name ms, (∀ m ∈ ms, P m.shape) → P (.object name ms))
    (named : ∀ name module args, (∀ a ∈ args, P a) → P (.named name module args)) (s : Shape) :
    P s := by
  refine @Shape.rec P (fun vs => ∀ v ∈ vs, P v) (fun ms => ∀ m ∈ ms, P m.shape)
    (fun m => P m.shape) primitive literal array union object named ?_ ?_ ?_ ?_ ?_ s
  · exact List.forall_mem_nil _
  · exact fun v vs hv hvs => List.forall_mem_cons.2 ⟨hv, hvs⟩
  · exact List.forall_mem_nil _
  · exact fun m ms hm hms => List.forall_mem_cons.2 ⟨hm, hms⟩
  · exact fun _ _ _ hs => hs

namespace Renderer

theorem formatAll_eq_map (r : Renderer) (depth : Nat) (ss : List Shape) :
    r.formatAll depth ss = ss.map (r.formatAt depth) := by
  induction ss with
  | nil => rfl
  | cons s ss ih => rw [formatAll, ih, List.map_cons]

theorem formatMembers_eq_map (r : Renderer) (depth : Nat) (ms : List (Member Shape)) :
    r.formatMembers depth ms =
      (ms.filter fun m => !isSuppressed m.name).map fun m =>
        m.name ++ ": " ++ r.formatAt depth m.shape := by
  induction ms with
  | nil => rfl
  | cons m ms ih =>
    obtain ⟨n, s, o⟩ := m
    rw [formatMembers, ih]
    by_cases hn : isSuppressed n = true <;> simp [hn]

/-! ## Alternatives side by side -/

/-- Texts without those that stood before. -/
def distinctTexts (texts : List String) : List String :=
  texts.foldl (fun acc t => if t ∈ acc then acc else acc ++ [t]) []

theorem joinVariants_eq (texts : List String) :
    joinVariants texts = String.intercalate " | " (distinctTexts texts) := rfl

theorem joinVariants_singleton (text : String) : joinVariants [text] = text := by
  simp [joinVariants_eq, distinctTexts]

theorem mem_distinctTexts {texts : List String} {t : String} :
    t ∈ distinctTexts texts ↔ t ∈ texts := by
  have hfold : ∀ acc : List String,
      t ∈ texts.foldl (fun acc t => if t ∈ acc then acc else acc ++ [t]) acc ↔
        t ∈ acc ∨ t ∈ texts := by
    induction texts with
    | nil => simp
    | cons u us ih =>
      intro acc
      rw [List.foldl_cons, ih]
      by_cases hu : u ∈ acc
      · rw [if_pos hu, List.mem_cons]
        constructor
        · rintro (h | h)
          · exact .inl h
          · exact .inr (.inr h)
        · rintro (h | rfl | h)
          · exact .inl h
          · exact .inl hu
          · exact .inr h
      · rw [if_neg hu, List.mem_append, List.mem_singleton, List.mem_cons, or_assoc]
  simpa [distinctTexts] using hfold []

/-- The texts of the alternatives of a shape. -/
def alternativeTexts (r : Renderer) (depth : Nat) (s : Shape) : List String :=
  s.alternatives.map (r.formatAt depth)

theorem alternativeTexts_union (r : Renderer) (depth : Nat) (vs : List Shape) :
    r.alternativeTexts depth (.union vs) = vs.map (r.formatAt depth) := rfl

theorem formatAt_eq_join (r : Renderer) (depth : Nat) (s : Shape) :
    r.formatAt depth s = joinVariants (r.alternativeTexts depth s) := by
  cases s with
  | union vs => rw [formatAt, formatAll_eq_map, alternativeTexts_union]
  | _ => exact (joinVariants_singleton _).symm

theorem formatAt_array (r : Renderer) (depth : Nat) (element : Shape) :
    r.formatAt depth (.array element) =
      joinVariants ((r.alternativeTexts depth element).map (· ++ "[]")) := by
  cases element with
  | union vs => rw [formatAt, formatAll_eq_map, alternativeTexts_union]
  | _ => exact (joinVariants_singleton _).symm

end Renderer

end RouteInventory
