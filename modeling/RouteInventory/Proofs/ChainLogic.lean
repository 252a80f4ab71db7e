import Mathlib
import RouteInventory.Proofs.LayoutLogic

/-!
# Where chains begin

A call or a member is read behind what it applies to, and is then put around it.  Both begin at the
index where reading began, and so on one line.

* `Starts` — a rule reads one node, which begins where the rule starts.
* `Opens` — a rule reads one node, which begins at a given index.
* `Prolongs` — a rule is given one node that begins at an index, and returns one that begins there.
* `FormsAt` — a rule keeps the form if it starts at a given index.
-/

namespace RouteInventory

namespace Grammar

/-- The run is a single node, which begins on the line of an index. -/
def Begins (src : Source) (i : Nat) (ts : List Tree) : Prop :=
  ∃ t, ts = [t] ∧ t.line = (src.point i).row + 1

/-- The rule reads one node, which begins where the rule starts. -/
class Starts (r : Rule) : Prop where
  starts : ∀ {table setting s ts s'}, Respects table → r table setting s = some (ts, s') →
    Begins setting.source s.pos ts

/-- The rule reads one node, which begins at the given index. -/
class Opens (i : Nat) (r : Rule) : Prop where
  opens : ∀ {table setting s ts s'}, r table setting s = some (ts, s') →
    Begins setting.source i ts

/-- After `acc` was read from index `start` on, the rule returns a formed node that begins there as
well. -/
class Prolongs (start : Nat) (acc : List Tree) (r : Rule) : Prop where
  prolongs : ∀ {table setting s us s'}, Respects table → AllFormed acc →
    Begins setting.source start acc → r table setting s = some (us, s') →
    AllFormed us ∧ Begins setting.source start us

/-- The rule keeps the form if it starts at the given index. -/
class FormsAt (i : Nat) (r : Rule) : Prop where
  forms : ∀ {table setting s ts s'}, Respects table → s.pos = i →
    r table setting s = some (ts, s') → AllFormed ts

section
variable {α : Type} {x : Reading α} {r r' : Rule} {rs : List Rule} {f : List Tree → Rule}
  {i start stop : Nat} {ts us acc : List Tree} {k : Kind} {role : Role}

/-- A call or a member that begins where what it is put around begins. -/
theorem Begins.link {src : Source} {hd : Head} (hacc : Begins src start acc)
    (hspan : hd.span = src.span start stop) (hformed : AllFormed acc) (hts : AllFormed ts)
    (hk : Tree.Admits hd.kind (acc.map (Tree.withRole hd.kind.linkRole) ++ ts)) :
    AllFormed [.node hd (acc.map (Tree.withRole hd.kind.linkRole) ++ ts)] := by
  have hparts : AllFormed (acc.map (Tree.withRole hd.kind.linkRole)) :=
    List.forall_mem_map.2 fun t ht => (hformed t ht).withRole _
  refine .singleton hk ?_ (Additive.append hparts hts)
  obtain ⟨t, rfl, hline⟩ := hacc
  intro _ u hu
  have hrole : (t.withRole hd.kind.linkRole).head.role = some hd.kind.linkRole :=
    Tree.role_withRole _ t
  rw [List.map_singleton, List.singleton_append,
    List.find?_cons_of_pos (by exact beq_iff_eq.2 hrole)] at hu
  cases hu
  rw [Tree.line_withRole, hline, hspan]
  rfl

/-! ## Nodes that begin at an index -/

instance : Opens i (wrap k i us) where
  opens h := by
    cases h
    exact ⟨_, rfl, rfl⟩

instance {f : α → Rule} [hf : ∀ a, Opens i (f a)] : Opens i (x >>= f) where
  opens h := by
    obtain ⟨a, s₁, -, hb⟩ := bind_eq_some h
    exact (hf a).opens hb

/-! ## Nodes that begin where a rule starts -/

instance : Starts (leaf k stop) where
  starts _ h := by
    cases h
    exact ⟨_, rfl, rfl⟩

theorem starts_bind {f : α → Rule} (hx : Still x) (hf : ∀ a, Starts (f a)) : Starts (x >>= f) where
  starts ht h := by
    obtain ⟨a, s₁, ha, hb⟩ := bind_eq_some h
    cases hx.still ha
    exact (hf a).starts ht hb

instance {f : α → Rule} [hx : Still x] [hf : ∀ a, Starts (f a)] : Starts (x >>= f) :=
  starts_bind hx hf

theorem starts_pos {f : Nat → Rule} (hf : ∀ i, Opens i (f i)) : Starts (pos >>= f) where
  starts _ h := by
    obtain ⟨i, s₁, hi, hb⟩ := bind_eq_some h
    cases hi
    exact (hf _).opens hb

instance : Starts (node k r) := starts_pos inferInstance

instance : Starts failure where
  starts _ h := nomatch h

instance [h : Starts r] [h' : Starts r'] : Starts (r <|> r') where
  starts ht hr := (orElse_eq_some hr).elim (h.starts ht) (h'.starts ht)

instance {c : Prop} [Decidable c] [h : Starts r] [h' : Starts r'] :
    Starts (if c then r else r') := by
  split
  · exact h
  · exact h'

instance : Starts (choice []) := inferInstanceAs (Starts failure)

instance [Starts r] [Starts (choice rs)] : Starts (choice (r :: rs)) :=
  inferInstanceAs (Starts (r <|> choice rs))

instance [h : Starts r] {test : Reading Bool} : Starts (seq [r, require test]) where
  starts ht hts := by
    obtain ⟨ts, s₁, hread, hts⟩ := bind_eq_some hts
    obtain ⟨us, s₂, hrest, hts⟩ := bind_eq_some hts
    have hnil : us = [] := (yields_seq_singleton yields_require).reads ht hrest
    rw [pure_eq_some hts, hnil, List.append_nil]
    exact h.starts ht hread

/-! ### Tokens -/

section
variable {w : String}

instance : Starts (keyAs k w) := by
  unfold keyAs
  infer_instance

instance : Starts (anyName k) := by
  unfold anyName
  refine starts_bind inferInstance fun _ => starts_bind inferInstance fun _ => ?_
  split <;> infer_instance

instance : Starts identifier := by
  unfold identifier identifierAs
  refine starts_bind inferInstance fun _ => ?_
  split <;> infer_instance

instance : Starts numberLiteral := by
  unfold numberLiteral
  refine starts_bind inferInstance fun _ => starts_bind inferInstance fun _ => ?_
  split <;> infer_instance

instance : Starts stringLiteral := by
  unfold stringLiteral
  refine starts_bind inferInstance fun _ => ?_
  split
  · split
    · refine starts_bind inferInstance fun _ => starts_bind inferInstance fun _ => ?_
      split <;> infer_instance
    · infer_instance
  · infer_instance

instance : Starts regexLiteral := by
  unfold regexLiteral
  refine starts_bind inferInstance fun _ => ?_
  split
  · refine starts_bind inferInstance fun _ => starts_bind inferInstance fun _ => ?_
    split <;> infer_instance
  · infer_instance

instance : Starts (markupName k) := by
  unfold markupName
  refine starts_bind inferInstance fun _ => starts_bind inferInstance fun _ => ?_
  split <;> infer_instance

instance {hole : Kind} {inner : Rule} : Starts (template k hole inner) := by
  unfold template
  refine starts_bind inferInstance fun _ => ?_
  split
  · exact starts_pos inferInstance
  · infer_instance

end

/-! ## Nodes put around what was read -/

instance : Prolongs start acc (pure acc) where
  prolongs _ hformed hacc h := by
    cases h
    exact ⟨hformed, hacc⟩

instance : Prolongs start acc failure where
  prolongs _ _ _ h := nomatch h

instance (priority := low) {f : α → Rule} [hf : ∀ a, Prolongs start acc (f a)] :
    Prolongs start acc (x >>= f) where
  prolongs ht hformed hacc h := by
    obtain ⟨a, s₁, -, hb⟩ := bind_eq_some h
    exact (hf a).prolongs ht hformed hacc hb

instance [hr : Prolongs start acc r] [hf : ∀ us, Prolongs start us (f us)] :
    Prolongs start acc (r >>= f) where
  prolongs ht hformed hacc h := by
    obtain ⟨us, s₁, hus, hb⟩ := bind_eq_some h
    obtain ⟨hformed', hacc'⟩ := hr.prolongs ht hformed hacc hus
    exact (hf us).prolongs ht hformed' hacc' hb

instance [h : Prolongs start acc r] [h' : Prolongs start acc r'] :
    Prolongs start acc (r <|> r') where
  prolongs ht hformed hacc hr :=
    (orElse_eq_some hr).elim (h.prolongs ht hformed hacc) (h'.prolongs ht hformed hacc)

instance {c : Prop} [Decidable c] [h : Prolongs start acc r] [h' : Prolongs start acc r'] :
    Prolongs start acc (if c then r else r') := by
  split
  · exact h
  · exact h'

instance : Prolongs start acc (choice []) := inferInstanceAs (Prolongs start acc failure)

instance [Prolongs start acc r] [Prolongs start acc (choice rs)] :
    Prolongs start acc (choice (r :: rs)) :=
  inferInstanceAs (Prolongs start acc (r <|> choice rs))

instance {step : List Tree → Rule} [hstep : ∀ us, Prolongs start us (step us)] :
    Prolongs start acc (loop step acc) where
  prolongs {_ setting _ _ _} ht hformed hacc h := by
    obtain ⟨src, s₁, -, h⟩ := bind_eq_some h
    exact iterate_preserves (I := fun us _ => AllFormed us ∧ Begins setting.source start us)
      (fun us _ hus _ _ hread => (hstep us).prolongs ht hus.1 hus.2 hread) _ ⟨hformed, hacc⟩ h

/-- A call or a member of what was read. -/
theorem prolongs_link (hr : Yields AllFormed r)
    (hk : Yields (fun ts => Tree.Admits k (acc.map (Tree.withRole k.linkRole) ++ ts)) r) :
    Prolongs start acc
      (r >>= fun ts => wrap k start (acc.map (Tree.withRole k.linkRole) ++ ts)) where
  prolongs ht hformed hacc h := by
    obtain ⟨ts, s₁, hts, h⟩ := bind_eq_some h
    cases h
    exact ⟨hacc.link rfl hformed (hr.reads ht hts) (hk.reads ht hts), _, rfl, rfl⟩

instance [hr : Yields AllFormed r] :
    Prolongs start acc
      (r >>= fun ts => wrap .memberExpression start (acc.map (Tree.withRole .object) ++ ts)) :=
  prolongs_link hr ⟨fun _ _ => Tree.admits_memberExpression _⟩

/-- Another node around what was read. -/
instance [hr : Yields AllFormed r] [hk : Agree k.isRestricted false] :
    Prolongs start acc (r >>= fun ts => wrap k start (acc.map (Tree.withRole role) ++ ts)) where
  prolongs ht hformed _ h := by
    have hacc : Holds AllFormed acc := ⟨hformed⟩
    exact ⟨Yields.reads ht h, Opens.opens h⟩

/-! ## Rules that start at an index -/

instance (priority := low) [h : Yields AllFormed r] : FormsAt i r where
  forms ht _ hr := h.reads ht hr

theorem prolongs_bind (hr : Yields AllFormed r) (hs : Starts r) (hf : ∀ b, Prolongs i b (f b))
    {table : Goal → Base (List Tree)} {setting : Setting} {s s' : State} {us : List Tree}
    (ht : Respects table) (hpos : s.pos = i) (h : (r >>= f) table setting s = some (us, s')) :
    AllFormed us ∧ Begins setting.source i us := by
  obtain ⟨b, s₁, hb, h⟩ := bind_eq_some h
  exact (hf b).prolongs ht (hr.reads ht hb) (hpos ▸ hs.starts ht hb) h

instance [hr : Yields AllFormed r] [hs : Starts r] [hf : ∀ b, Prolongs i b (f b)] :
    FormsAt i (r >>= f) where
  forms ht hpos h := (prolongs_bind hr hs hf ht hpos h).1

/-- A chain begins where its first part begins. -/
theorem starts_chain {f : Nat → List Tree → Rule} (hr : Yields AllFormed r) (hs : Starts r)
    (hf : ∀ i b, Prolongs i b (f i b)) : Starts (pos >>= fun i => r >>= f i) where
  starts ht h := by
    obtain ⟨i, s₁, hi, hb⟩ := bind_eq_some h
    cases hi
    exact (prolongs_bind hr hs (hf _) ht rfl hb).2

instance {f : α → Rule} [hx : Still x] [hf : ∀ a, FormsAt i (f a)] : FormsAt i (x >>= f) where
  forms ht hpos h := by
    obtain ⟨a, s₁, ha, hb⟩ := bind_eq_some h
    cases hx.still ha
    exact (hf a).forms ht hpos hb

instance {c : Prop} [Decidable c] [h : FormsAt i r] [h' : FormsAt i r'] :
    FormsAt i (if c then r else r') := by
  split
  · exact h
  · exact h'

instance [h : FormsAt i r] [h' : FormsAt i (choice rs)] : FormsAt i (choice (r :: rs)) where
  forms ht hpos hr := (orElse_eq_some hr).elim (h.forms ht hpos) (h'.forms ht hpos)

/-- Where the form depends on the index from which on a chain was read. -/
instance (priority := 50) {f : Nat → Rule} [hf : ∀ i, FormsAt i (f i)] :
    Yields AllFormed (pos >>= f) where
  reads ht h := by
    obtain ⟨i, s₁, hi, hb⟩ := bind_eq_some h
    cases hi
    exact (hf _).forms ht rfl hb

/-- A chain whose first part is put around what was read. -/
instance (priority := high) [hw : Yields AllFormed (wrap k i us)] [hf : ∀ b, Prolongs i b (f b)] :
    Yields AllFormed (wrap k i us >>= f) where
  reads ht h := by
    obtain ⟨b, s₁, hb, h⟩ := bind_eq_some h
    exact ((hf b).prolongs ht (hw.reads ht hb) (Opens.opens hb) h).1

end

end Grammar

end RouteInventory
