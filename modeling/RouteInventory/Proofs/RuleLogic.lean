import RouteInventory.Grammar.Program

/-!
# What grammar rules read

Some questions about a file are asked from both ends of its tree: downwards, from a call to what it
is given, and upwards, from a function to the call that takes it.  The two agree because of what
the grammar lets stand where.  `Tree.Shaped` states what they need:

* behind the expression in a pair of parentheses stands nothing but its type;
* what a call takes is a list of arguments or a template;
* a template consists of fragments, escapes and holes;
* a comment holds nothing but comments;
* a declaration that is recorded has a keyword and a name, so two of its children have text.

`Tree.Formed` adds where nodes begin: a call or a member begins on the line where what it applies to
begins.

A property of what rules read is stated as an instance of `Yields`, once for each way to build a
rule, so that instance search can follow a rule down to its tokens.  `Holds` does the same for the
runs of nodes that a rule has read so far, and `Respects` is what a rule may assume about the goals
it refers to.
-/

namespace RouteInventory

/-- Declarations that are recorded with the stretch of source that they cover. -/
@[reducible] def Kind.isRecorded : Kind → Bool
  | .classDeclaration | .abstractClassDeclaration | .interfaceDeclaration | .typeAliasDeclaration
  | .enumDeclaration | .functionDeclaration => true
  | _ => false

/-- The kinds of nodes whose children `Tree.Admits` or `Tree.Level` restricts. -/
@[reducible] def Kind.isRestricted : Kind → Bool
  | .parenthesizedExpression | .callExpression | .templateString | .memberExpression | .comment
  | .classDeclaration | .abstractClassDeclaration | .interfaceDeclaration | .typeAliasDeclaration
  | .enumDeclaration | .functionDeclaration => true
  | _ => false

/-- Calls and members, which begin with what they apply to. -/
@[reducible] def Kind.isLink : Kind → Bool
  | .callExpression | .memberExpression => true
  | _ => false

/-- The role of what a call or a member applies to. -/
def Kind.linkRole : Kind → Role
  | .callExpression => .function
  | _ => .object

theorem Kind.not_isLink_of_not_isRestricted {k : Kind} (hk : k.isRestricted = false) :
    k.isLink = false := by
  unfold isLink
  split
  · cases hk
  · cases hk
  · rfl

theorem Kind.not_isRecorded_of_not_isRestricted {k : Kind} (hk : k.isRestricted = false) :
    k.isRecorded = false := by
  unfold isRecorded
  split
  · cases hk
  · cases hk
  · cases hk
  · cases hk
  · cases hk
  · cases hk
  · rfl

namespace Tree

/-- A comment as it is put among the children of a node. -/
def isRemark (t : Tree) : Bool := t.kind == .comment && t.head.role == none

/-- At least so many of the trees have text. -/
def Shows (n : Nat) (ts : List Tree) : Prop := n ≤ ts.countP fun t => t.text != ""

/-- What the children of a node of the given kind look like. -/
def Admits : Kind → List Tree → Prop
  | .parenthesizedExpression, ts => ∀ t ∈ (ts.filter isPart).tail, t.kind = .typeClause
  | .callExpression, ts =>
    ∀ t ∈ ts, t.head.role = some .arguments → t.kind = .arguments ∨ t.kind = .templateString
  | .templateString, ts =>
    ∀ t ∈ ts.filter isPart,
      t.kind = .stringFragment ∨ t.kind = .escapeSequence ∨ t.kind = .templateSubstitution
  | .comment, ts => ∀ t ∈ ts, t.kind = .comment
  | k, ts => k.isRecorded = true → (∃ t ∈ ts, t.isRemark = false) → Shows 2 ts

/-- Every node of the tree has children that its kind admits. -/
inductive Shaped : Tree → Prop
  | node {h : Head} {ts : List Tree} :
    Admits h.kind ts → (∀ t ∈ ts, t.Shaped) → Shaped (.node h ts)

/-- What a call or a member applies to begins on its line. -/
def Level (h : Head) (ts : List Tree) : Prop :=
  h.kind.isLink = true →
    ∀ t ∈ ts.find? fun c => c.head.role == some h.kind.linkRole, t.line = h.span.line

/-- Every node of the tree has children that its kind admits, and its calls and members begin on the
lines of what they apply to. -/
inductive Formed : Tree → Prop
  | node {h : Head} {ts : List Tree} :
    Admits h.kind ts → Level h ts → (∀ t ∈ ts, t.Formed) → Formed (.node h ts)

theorem admits_of_not_restricted {k : Kind} (hk : k.isRestricted = false) (ts : List Tree) :
    Admits k ts := by
  unfold Admits
  split
  · cases hk
  · cases hk
  · cases hk
  · cases hk
  · intro hrecorded
    rw [Kind.not_isRecorded_of_not_isRestricted hk] at hrecorded
    cases hrecorded

/-- A recorded declaration may hold anything behind its keyword and its name. -/
theorem admits_of_shows {k : Kind} (hk : k.isRecorded = true) {ts : List Tree} (h : Shows 2 ts) :
    Admits k ts := by
  unfold Admits
  split
  · cases hk
  · cases hk
  · cases hk
  · cases hk
  · exact fun _ _ => h

theorem Admits.shows {k : Kind} {ts : List Tree} (h : Admits k ts) (hk : k.isRecorded = true)
    (hts : ∃ t ∈ ts, t.isRemark = false) : Shows 2 ts := by
  unfold Admits at h
  split at h
  · cases hk
  · cases hk
  · cases hk
  · cases hk
  · exact h hk hts

theorem admits_memberExpression (ts : List Tree) : Admits .memberExpression ts := by
  intro hrecorded
  cases hrecorded

theorem Shows.append {m n : Nat} {ts us : List Tree} (hts : Shows m ts) (hus : Shows n us) :
    Shows (m + n) (ts ++ us) := by
  unfold Shows
  rw [List.countP_append]
  exact Nat.add_le_add hts hus

theorem shows_zero (ts : List Tree) : Shows 0 ts := Nat.zero_le _

theorem level_of_not_isLink {h : Head} (hk : h.kind.isLink = false) (ts : List Tree) :
    Level h ts := by
  intro hlink
  rw [hk] at hlink
  cases hlink

theorem level_nil (h : Head) : Level h [] := fun _ _ ht => nomatch ht

theorem admits_nil (k : Kind) : Admits k [] := by
  unfold Admits
  split <;> simp

theorem Shaped.admits {t : Tree} (h : t.Shaped) : Admits t.kind t.children := by
  cases h with
  | node hk _ => exact hk

theorem Shaped.of_mem_children {t c : Tree} (h : t.Shaped) (hc : c ∈ t.children) : c.Shaped := by
  cases h with
  | node _ hts => exact hts c hc

theorem kind_withRole (r : Role) (t : Tree) : (t.withRole r).kind = t.kind := by
  cases t
  rfl

theorem isPart_withRole (r : Role) (t : Tree) : (t.withRole r).isPart = t.isPart := by
  cases t
  rfl

theorem line_withRole (r : Role) (t : Tree) : (t.withRole r).line = t.line := by
  cases t
  rfl

theorem role_withRole (r : Role) (t : Tree) : (t.withRole r).head.role = some r := by
  cases t
  rfl

theorem Formed.shaped {t : Tree} (h : t.Formed) : t.Shaped := by
  induction h with
  | node hk _ _ ih => exact .node hk ih

theorem Formed.admits {t : Tree} (h : t.Formed) : Admits t.kind t.children := by
  cases h with
  | node hadmits _ _ => exact hadmits

theorem Formed.of_mem_children {t c : Tree} (h : t.Formed) (hc : c ∈ t.children) : c.Formed := by
  cases h with
  | node _ _ hts => exact hts c hc

theorem Formed.line_eq {t c : Tree} (h : t.Formed) (hk : t.kind.isLink = true)
    (hc : t.role? t.kind.linkRole = some c) : c.line = t.line := by
  cases h with
  | node _ hlevel _ => exact hlevel hk c hc

theorem Formed.withRole {t : Tree} (h : t.Formed) (r : Role) : (t.withRole r).Formed := by
  cases h with
  | node hk hlevel hts => exact .node hk hlevel hts

theorem Formed.withKind {t : Tree} (h : t.Formed) {k : Kind} (hk : k.isRestricted = false) :
    (t.withKind k).Formed := by
  cases h with
  | node _ _ hts =>
    refine .node (admits_of_not_restricted hk _) (level_of_not_isLink ?_ _) hts
    exact Kind.not_isLink_of_not_isRestricted hk

end Tree

namespace Grammar

/-! ## What rules read -/

/-- All nodes of a run are formed. -/
def AllFormed (ts : List Tree) : Prop := ∀ t ∈ ts, t.Formed

/-- A run of one node, or of none. -/
def AtMostOne (ts : List Tree) : Prop := ts.length ≤ 1

/-- Goals that read a single node. -/
@[reducible] def Goal.isSingle : Goal → Bool
  | .expressions | .expression | .operand | .element => true
  | _ => false

/-- A table under which rules keep the form. -/
structure Respects (table : Goal → Base (List Tree)) : Prop where
  formed : ∀ {g setting s ts s'}, table g setting s = some (ts, s') → AllFormed ts
  single : ∀ {g setting s ts s'}, g.isSingle = true → table g setting s = some (ts, s') →
    AtMostOne ts

/-- Whatever the rule reads has the property. -/
class Yields (P : List Tree → Prop) (r : Rule) : Prop where
  reads : ∀ {table setting s ts s'}, Respects table → r table setting s = some (ts, s') → P ts

/-- The property holds of the run. -/
class Holds (P : List Tree → Prop) (ts : List Tree) : Prop where
  holds : P ts

/-- Properties that hold of two runs one after the other if they hold of each. -/
class Additive (P : List Tree → Prop) : Prop where
  nil : P []
  append {ts us : List Tree} : P ts → P us → P (ts ++ us)

/-- Two truth values that agree by computation. -/
class Agree (a b : Bool) : Prop where
  eq : a = b

instance (a : Bool) : Agree a a := ⟨rfl⟩

theorem bind_eq_some {α β : Type} {x : Reading α} {f : α → Reading β}
    {table : Goal → Base (List Tree)} {setting : Setting} {s s' : State} {b : β}
    (h : (x >>= f) table setting s = some (b, s')) :
    ∃ a s₁, x table setting s = some (a, s₁) ∧ f a table setting s₁ = some (b, s') := by
  change (x table setting s).bind (fun (a, s₁) => f a table setting s₁) = some (b, s') at h
  obtain ⟨⟨a, s₁⟩, ha, hb⟩ := Option.bind_eq_some_iff.1 h
  exact ⟨a, s₁, ha, hb⟩

theorem pure_eq_some {α : Type} {a b : α} {table : Goal → Base (List Tree)} {setting : Setting}
    {s s' : State} (h : (pure a : Reading α) table setting s = some (b, s')) : b = a := by
  cases h
  rfl

theorem orElse_eq_some {α : Type} {x y : Reading α} {table : Goal → Base (List Tree)}
    {setting : Setting} {s s' : State} {a : α}
    (h : (x <|> y) table setting s = some (a, s')) :
    x table setting s = some (a, s') ∨ y table setting s = some (a, s') := by
  change (x table setting s).orElse (fun _ => y table setting s) = some (a, s') at h
  cases hx : x table setting s with
  | none => exact .inr (by simpa [hx] using h)
  | some r => exact .inl (by simpa [hx] using h)

/-- What every step of a repetition keeps is kept by the repetition. -/
theorem iterate_preserves {step : List Tree → Rule} {table : Goal → Base (List Tree)}
    {setting : Setting} {I : List Tree → State → Prop}
    (hstep : ∀ acc s, I acc s → ∀ acc' s', step acc table setting s = some (acc', s') → I acc' s')
    (n : Nat) {acc ts : List Tree} {s s' : State} (hacc : I acc s)
    (h : iterate step n acc table setting s = some (ts, s')) : I ts s' := by
  induction n generalizing acc s with
  | zero =>
    cases h
    exact hacc
  | succ n ih =>
    obtain ⟨before, s₁, hbefore, h⟩ := bind_eq_some h
    cases hbefore
    obtain ⟨next, s₂, hnext, h⟩ := bind_eq_some h
    rcases orElse_eq_some hnext with hsome | hnone
    · obtain ⟨acc', s₃, hacc', hpure⟩ := bind_eq_some (f := fun a => pure (some a)) hsome
      cases hpure
      have hkept := hstep acc _ hacc acc' _ hacc'
      obtain ⟨here, s₄, hhere, h⟩ := bind_eq_some h
      cases hhere
      split at h
      · cases h
        exact hkept
      · exact ih hkept h
    · cases hnone
      cases h
      exact hacc

section
variable {P Q R : List Tree → Prop} {r r' : Rule} {rs : List Rule} {ts us : List Tree}

theorem Yields.imp (h : Yields P r) (himp : ∀ ts, P ts → Q ts) : Yields Q r where
  reads ht hr := himp _ (h.reads ht hr)

instance (ts : Subtype P) : Holds P ts.val := ⟨ts.property⟩

theorem yields_bind {α : Type} {x : Reading α} {f : α → Rule} (hf : ∀ a, Yields P (f a)) :
    Yields P (x >>= f) where
  reads ht h := by
    obtain ⟨a, s₁, -, hb⟩ := bind_eq_some h
    exact (hf a).reads ht hb

instance (priority := low) {α : Type} {x : Reading α} {f : α → Rule} [hf : ∀ a, Yields P (f a)] :
    Yields P (x >>= f) := yields_bind hf

/-- What was read by one rule is known to the next. -/
instance {f : List Tree → Rule} [hr : Yields P r] [hf : ∀ ts : Subtype P, Yields P (f ts.val)] :
    Yields P (r >>= f) where
  reads ht h := by
    obtain ⟨a, s₁, ha, hb⟩ := bind_eq_some h
    exact (hf ⟨a, hr.reads ht ha⟩).reads ht hb

instance [h : Holds P ts] : Yields P (pure ts) where
  reads _ hts := pure_eq_some hts ▸ h.holds

instance : Yields P failure where
  reads _ h := nomatch h

instance [h : Yields P r] [h' : Yields P r'] : Yields P (r <|> r') where
  reads ht hts := (orElse_eq_some hts).elim (h.reads ht) (h'.reads ht)

instance {c : Prop} [Decidable c] [h : Yields P r] [h' : Yields P r'] :
    Yields P (if c then r else r') := by
  split
  · exact h
  · exact h'

instance : Yields P (choice []) := inferInstanceAs (Yields P failure)

instance [Yields P r] [Yields P (choice rs)] : Yields P (choice (r :: rs)) :=
  inferInstanceAs (Yields P (r <|> choice rs))

instance {auto : Bool} [h : Yields P r] : Yields P (withAuto auto r) where
  reads ht hts := h.reads ht hts

instance [h : Yields P r] : Yields P (withoutArrowResult r) where
  reads ht hts := h.reads ht hts

theorem yields_iterate {step : List Tree → Rule} (hstep : ∀ acc, P acc → Yields P (step acc))
    (n : Nat) {acc : List Tree} (hacc : P acc) : Yields P (iterate step n acc) where
  reads ht h := iterate_preserves (I := fun acc _ => P acc)
    (fun acc _ hacc _ _ hread => (hstep acc hacc).reads ht hread) n hacc h

instance {step : List Tree → Rule} [hts : Holds P ts]
    [hstep : ∀ acc : Subtype P, Yields P (step acc.val)] : Yields P (loop step ts) where
  reads ht h := by
    obtain ⟨src, s₁, -, h⟩ := bind_eq_some h
    exact (yields_iterate (fun acc hacc => hstep ⟨acc, hacc⟩) _ hts.holds).reads ht h

theorem yields_seq_cons (hr : Yields P r) (hrs : Yields Q (seq rs))
    (h : ∀ ts us, P ts → Q us → R (ts ++ us)) : Yields R (seq (r :: rs)) where
  reads ht hts := by
    obtain ⟨ts, s₁, hts', hrest⟩ := bind_eq_some hts
    obtain ⟨us, s₂, hus, hrest⟩ := bind_eq_some hrest
    exact pure_eq_some hrest ▸ h ts us (hr.reads ht hts') (hrs.reads ht hus)

theorem yields_seq_nil : Yields (· = []) (seq []) where
  reads _ hts := pure_eq_some hts

theorem yields_seq_singleton (hr : Yields P r) : Yields P (seq [r]) :=
  yields_seq_cons hr yields_seq_nil (by rintro ts _ hts rfl; simpa using hts)

theorem yields_require {test : Reading Bool} : Yields (· = []) (require test) where
  reads _ hts := by
    obtain ⟨b, _, -, hts⟩ := bind_eq_some hts
    split at hts
    · exact pure_eq_some hts
    · cases hts

section
variable [hP : Additive P]

instance : Holds P [] := ⟨hP.nil⟩

instance [hts : Holds P ts] [hus : Holds P us] : Holds P (ts ++ us) :=
  ⟨hP.append hts.holds hus.holds⟩

instance : Yields P (seq []) := inferInstanceAs (Yields P (pure []))

instance [hr : Yields P r] [hrs : Yields P (seq rs)] : Yields P (seq (r :: rs)) :=
  yields_seq_cons hr hrs fun _ _ => hP.append

instance [Yields P r] : Yields P (opt r) := inferInstanceAs (Yields P (r <|> pure []))

instance {test : Reading Bool} : Yields P (require test) :=
  yields_require.imp fun _ h => h ▸ hP.nil

instance [Yields P r] : Yields P (many r) := by
  unfold many
  infer_instance

end
end

/-! ## Nodes -/

section
variable {P Q : List Tree → Prop} {r : Rule} {k k' : Kind} {start stop : Nat} {ts us : List Tree}
  {role : Role} {g : Goal}

theorem yields_leaf (h : ∀ hd : Head, hd.kind = k → hd.role = none → P [.node hd []]) :
    Yields P (leaf k stop) where
  reads _ hts := by
    cases hts
    exact h _ rfl rfl

theorem yields_wrap (h : ∀ hd : Head, hd.kind = k → hd.role = none → P [.node hd us]) :
    Yields P (wrap k start us) where
  reads _ hts := by
    cases hts
    exact h _ rfl rfl

theorem yields_node (hr : Yields Q r)
    (h : ∀ (hd : Head) (us : List Tree), hd.kind = k → hd.role = none → Q us → P [.node hd us]) :
    Yields P (node k r) where
  reads ht hts := by
    obtain ⟨_, _, -, hts⟩ := bind_eq_some hts
    obtain ⟨us, _, hus, hts⟩ := bind_eq_some hts
    exact (yields_wrap fun hd hk hrole => h hd us hk hrole (hr.reads ht hus)).reads ht hts

theorem yields_node_of_kind
    (h : ∀ (hd : Head) (us : List Tree), hd.kind = k → P [.node hd us]) : Yields P (node k r) :=
  yields_node (Q := fun _ => True) ⟨fun _ _ => trivial⟩ fun hd us hk _ _ => h hd us hk

instance : Yields AtMostOne (leaf k stop) := yields_leaf fun _ _ _ => Nat.le_refl 1

instance : Yields AtMostOne (wrap k start us) := yields_wrap fun _ _ _ => Nat.le_refl 1

instance : Yields AtMostOne (node k r) := yields_node_of_kind fun _ _ _ => Nat.le_refl 1

instance {t : Tree} : Holds AtMostOne [t] := ⟨Nat.le_refl 1⟩

instance [h : Yields AtMostOne r] {test : Reading Bool} :
    Yields AtMostOne (seq [r, require test]) :=
  yields_seq_cons h (yields_seq_singleton yields_require) (by rintro ts _ hts rfl; simpa using hts)

instance [h : Agree g.isSingle true] : Yields AtMostOne (sub g) where
  reads ht hts := ht.single h.eq hts

instance [h : Agree k.isRestricted false] [h' : Agree k'.isRestricted false] {c : Prop}
    [Decidable c] : Agree (Kind.isRestricted (if c then k else k')) false := by
  split
  · exact h
  · exact h'

instance [h : Agree k.isRestricted false] : Holds (Tree.Admits k) us :=
  ⟨Tree.admits_of_not_restricted h.eq us⟩

instance [h : Agree k.isRestricted false] : Yields (Tree.Admits k) r where
  reads _ _ := Tree.admits_of_not_restricted h.eq _

instance : Additive AllFormed where
  nil := fun _ h => nomatch h
  append hts hus := List.forall_mem_append.2 ⟨hts, hus⟩

theorem AllFormed.singleton {hd : Head} (hk : Tree.Admits hd.kind us) (hlevel : Tree.Level hd us)
    (h : AllFormed us) : AllFormed [.node hd us] := List.forall_mem_singleton.2 (.node hk hlevel h)

instance (priority := low) [h : Agree k.isRestricted false] : Agree k.isLink false :=
  ⟨Kind.not_isLink_of_not_isRestricted h.eq⟩

instance : Yields AllFormed (leaf k stop) :=
  yields_leaf fun _ _ _ => .singleton (Tree.admits_nil _) (Tree.level_nil _) Additive.nil

instance [h : Holds AllFormed us] [hk : Holds (Tree.Admits k) us] [hlink : Agree k.isLink false] :
    Yields AllFormed (wrap k start us) :=
  yields_wrap fun _ hkind _ =>
    .singleton (hkind ▸ hk.holds) (Tree.level_of_not_isLink (hkind ▸ hlink.eq) us) h.holds

instance [h : Yields AllFormed r] [hk : Yields (Tree.Admits k) r] [hlink : Agree k.isLink false] :
    Yields AllFormed (node k r) :=
  yields_node (Q := fun us => AllFormed us ∧ Tree.Admits k us)
    ⟨fun ht hus => ⟨h.reads ht hus, hk.reads ht hus⟩⟩
    fun _ us hkind _ hus =>
      .singleton (hkind ▸ hus.2) (Tree.level_of_not_isLink (hkind ▸ hlink.eq) us) hus.1

instance : Yields AllFormed (sub g) where
  reads ht hts := ht.formed hts

instance [h : Holds AllFormed us] : Holds AllFormed (us.map (Tree.withRole role)) :=
  ⟨List.forall_mem_map.2 fun t ht => (h.holds t ht).withRole role⟩

instance [h : Holds AllFormed us] [hk : Agree k.isRestricted false] :
    Holds AllFormed (us.map (Tree.withKind k)) :=
  ⟨List.forall_mem_map.2 fun t ht => (h.holds t ht).withKind hk.eq⟩

instance [Yields AllFormed r] : Yields AllFormed (field role r) := by
  unfold field
  infer_instance

end

/-! ## Tokens -/

section
variable {P : List Tree → Prop} [hleaf : ∀ k stop, Yields P (leaf k stop)] {k : Kind} {w : String}

instance : Yields P (sym w) := by
  unfold sym
  infer_instance

instance : Yields P closeAngle := by
  unfold closeAngle
  infer_instance

instance : Yields P (keyAs k w) := by
  unfold keyAs
  infer_instance

instance : Yields P (key w) := by
  unfold key
  infer_instance

instance : Yields P (anyName k) := by
  unfold anyName
  refine yields_bind fun _ => yields_bind fun _ => ?_
  split <;> infer_instance

instance : Yields P (identifierAs k) := by
  unfold identifierAs
  refine yields_bind fun _ => ?_
  split <;> infer_instance

instance : Yields P identifier := by
  unfold identifier
  infer_instance

instance : Yields P typeIdentifier := by
  unfold typeIdentifier
  infer_instance

instance : Yields P predefinedType := by
  unfold predefinedType
  refine yields_bind fun _ => ?_
  split <;> infer_instance

instance : Yields P numberLiteral := by
  unfold numberLiteral
  refine yields_bind fun _ => yields_bind fun _ => ?_
  split <;> infer_instance

instance : Yields P stringLiteral := by
  unfold stringLiteral
  refine yields_bind fun _ => ?_
  split
  · split
    · refine yields_bind fun _ => yields_bind fun _ => ?_
      split <;> infer_instance
    · infer_instance
  · infer_instance

instance : Yields P regexLiteral := by
  unfold regexLiteral
  refine yields_bind fun _ => ?_
  split
  · refine yields_bind fun _ => yields_bind fun _ => ?_
    split <;> infer_instance
  · infer_instance

instance : Yields P privateName := by
  unfold privateName
  refine yields_bind fun _ => ?_
  split
  · refine yields_bind fun _ => yields_bind fun _ => ?_
    split <;> infer_instance
  · infer_instance

instance : Yields P (markupName k) := by
  unfold markupName
  refine yields_bind fun _ => yields_bind fun _ => ?_
  split <;> infer_instance

instance : Yields P markupString := by
  unfold markupString
  refine yields_bind fun _ => ?_
  split <;> infer_instance

instance : Yields P optionalChain := by
  unfold optionalChain
  infer_instance

instance : Yields P (operatorToken w) := by
  unfold operatorToken
  infer_instance

section
variable [Additive P] {r : Rule} [Yields P r] {l l' : String}

instance : Yields P (commaList r) := by
  unfold commaList
  infer_instance

instance : Yields P (commaList1 r) := by
  unfold commaList1
  infer_instance

instance : Yields P (enclosed l r l') := by
  unfold enclosed
  infer_instance

instance : Yields P semicolon := by
  unfold semicolon
  infer_instance

end
end

end Grammar

end RouteInventory
