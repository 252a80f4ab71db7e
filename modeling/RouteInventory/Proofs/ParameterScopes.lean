import Mathlib
import RouteInventory.Proofs.CursorDescent
import RouteInventory.Syntax.Scope

/-!
# Parameters and what they shadow

A name is looked up outwards, so a parameter should hide whatever has its name outside of its
function.  It does where the parameter stands in a list.  The only parameter of an arrow function
may also stand without parentheses; it is then not in a list, and the look-up passes it by.

* `Cursor.bindingIn?_cases` — all that a scope can bind a name to.
* `Cursor.ancestors_node`, `Cursor.not_mem_ancestors_node` — where the binding stands.
* `Cursor.binding?_cases` — the look-up from inside a function: inner scopes, the function, outer
  ones.
* `Cursor.binding?_of_lists`, `Cursor.Bare.binding?_eq` — what the two forms of parameters do to it.
* `Cursor.parameter_shadows_iff` — when a parameter shadows everything outside of its function.
* `BareParameter.constant_found` — an outer constant that is found in place of a parameter.
-/

namespace RouteInventory

/-- The node that makes the binding. -/
def Binding.node : Binding → Cursor
  | .variable d => d
  | .parameter p => p
  | .function d => d

namespace Cursor

variable {c d f s scope : Cursor} {name : String} {limit : Nat} {binding : Binding}

/-! ## What a scope binds -/

/-- The parameter stands in the function's list, written as the name alone. -/
structure HasParameter (f : Cursor) (name : String) (p : Cursor) : Prop where
  listed : ∃ list, f.role? .parameters = some list ∧ p ∈ list.parts
  kind : p.kind = .requiredParameter ∨ p.kind = .optionalParameter
  pattern : ∃ pattern, p.role? .pattern = some pattern ∧ pattern.text = name

/-- Some parameter in the function's list is written as the name alone. -/
def Lists (f : Cursor) (name : String) : Prop := ∃ p, f.HasParameter name p

/-- The statement declares a variable or a function, maybe behind `export`. -/
structure Declares (scope statement d : Cursor) : Prop where
  mem : statement ∈ scope.parts
  declared : statement.declared? = some d

theorem hasParameter_of_parameter? {p : Cursor} (h : f.parameter? name = some p) :
    f.HasParameter name p := by
  unfold parameter? at h
  obtain ⟨list, hlist, hfind⟩ := Option.bind_eq_some_iff.1 h
  have hp := List.find?_some hfind
  simp only [Bool.and_eq_true, Bool.or_eq_true, beq_iff_eq, Option.any_eq_true] at hp
  exact ⟨⟨list, hlist, List.mem_of_find?_eq_some hfind⟩, hp.1, hp.2⟩

theorem exists_parameter?_of_lists (h : f.Lists name) : ∃ p, f.parameter? name = some p := by
  obtain ⟨p, ⟨list, hlist, hp⟩, hkind, hpattern⟩ := h
  unfold parameter?
  rw [hlist, Option.bind_some]
  refine Option.isSome_iff_exists.1 (List.find?_isSome.2 ⟨p, hp, ?_⟩)
  simp only [Bool.and_eq_true, Bool.or_eq_true, beq_iff_eq, Option.any_eq_true]
  exact ⟨hkind, hpattern⟩

/-- **What a scope binds a name to**: a parameter of the function that it is, or what one of its
statements declares. -/
theorem bindingIn?_cases (h : scope.bindingIn? limit name = some binding) :
    (∃ p, scope.HasParameter name p ∧ binding = .parameter p) ∨
    ∃ statement d, Declares scope statement d ∧
      ((d.kind = .lexicalDeclaration ∨ d.kind = .variableDeclaration) ∧
          (∃ v ∈ d.parts, v.kind = .variableDeclarator ∧ binding = .variable v) ∨
        d.kind = .functionDeclaration ∧ binding = .function d) := by
  unfold bindingIn? at h
  split at h
  · rename_i p hp
    cases h
    split at hp
    · exact .inl ⟨p, hasParameter_of_parameter? hp, rfl⟩
    · cases hp
  · split at h
    · right
      unfold blockBinding? at h
      obtain ⟨statement, hstatement, hbinds⟩ := List.mem_flatMap.1 (List.mem_of_getLast? h)
      have hmem := (List.takeWhile_sublist _).subset hstatement
      unfold bindingsOf at hbinds
      split at hbinds
      · cases hbinds
      · rename_i d hd
        refine ⟨statement, d, ⟨hmem, hd⟩, ?_⟩
        have hvariable : ∀ q : Cursor → Bool, (∀ v, q v = true → v.kind = .variableDeclarator) →
            binding ∈ (d.parts.filter q).map Binding.variable →
              ∃ v ∈ d.parts, v.kind = .variableDeclarator ∧ binding = .variable v := by
          intro q hq hin
          obtain ⟨v, hv, rfl⟩ := List.mem_map.1 hin
          obtain ⟨hv, hqv⟩ := List.mem_filter.1 hv
          exact ⟨v, hv, hq v hqv, rfl⟩
        have hkind : ∀ (v : Cursor) (e : Bool),
            (v.kind == .variableDeclarator && e) = true → v.kind = .variableDeclarator := by
          intro v e hv
          simpa using (Bool.and_eq_true_iff.1 hv).1
        split at hbinds
        · rename_i hd
          exact .inl ⟨.inl hd, hvariable _ (fun v => hkind v _) hbinds⟩
        · rename_i hd
          exact .inl ⟨.inr hd, hvariable _ (fun v => hkind v _) hbinds⟩
        · rename_i hd
          split at hbinds
          · exact .inr ⟨hd, List.mem_singleton.1 hbinds⟩
          · cases hbinds
        · cases hbinds
    · cases h

/-- A declaration stands in the scope, or in an `export` that does. -/
theorem Declares.ancestors (h : Declares scope s d) :
    d.ancestors = scope :: scope.ancestors ∨
      s.kind = .exportStatement ∧ d.ancestors = s :: scope :: scope.ancestors := by
  have hs := ancestors_of_mem_children (mem_children_of_mem_parts h.mem)
  have hd := h.declared
  unfold declared? at hd
  split at hd
  · rename_i hkind
    right
    refine ⟨by simpa using hkind, ?_⟩
    rw [ancestors_of_mem_children (mem_children_of_role? hd), hs]
  · cases hd
    exact .inl hs

/-- A binding is made below its scope. -/
theorem descends_node (h : scope.bindingIn? limit name = some binding) :
    scope.Descends binding.node := by
  rcases bindingIn?_cases h with ⟨p, hp, rfl⟩ | ⟨s, d, hdeclares, hd⟩
  · obtain ⟨list, hlist, hmem⟩ := hp.listed
    exact (Descends.role .refl hlist).part hmem
  · have hdown : scope.Descends d := by
      have hs : scope.Descends s := Descends.part .refl hdeclares.mem
      have hdeclared := hdeclares.declared
      unfold declared? at hdeclared
      split at hdeclared
      · exact hs.role hdeclared
      · cases hdeclared
        exact hs
    rcases hd with ⟨-, v, hv, -, rfl⟩ | ⟨-, rfl⟩
    · exact hdown.part hv
    · exact hdown

/-- Nodes that may stand between a scope and a binding that it makes. -/
def IsHolder (a : Cursor) : Prop :=
  a.focus.head.role = some .parameters ∨ a.kind = .exportStatement ∨
    a.kind = .lexicalDeclaration ∨ a.kind = .variableDeclaration

/-- Going up from a binding leads to its scope, over a list of parameters or a declaration. -/
theorem ancestors_node (h : scope.bindingIn? limit name = some binding) :
    ∃ holders, binding.node.ancestors = holders ++ scope :: scope.ancestors ∧
      ∀ a ∈ holders, a.IsHolder := by
  rcases bindingIn?_cases h with ⟨p, hp, rfl⟩ | ⟨s, d, hdeclares, hd⟩
  · obtain ⟨list, hlist, hmem⟩ := hp.listed
    refine ⟨[list], ?_, List.forall_mem_singleton.2 (.inl (role_of_role? hlist))⟩
    have hp' := ancestors_of_mem_children (mem_children_of_mem_parts hmem)
    have hlist' := ancestors_of_mem_children (mem_children_of_role? hlist)
    exact hp'.trans (by rw [hlist']; rfl)
  · have hdown : ∃ holders, d.ancestors = holders ++ scope :: scope.ancestors ∧
        ∀ a ∈ holders, a.IsHolder := by
      rcases hdeclares.ancestors with heq | ⟨hkind, heq⟩
      · exact ⟨[], heq, List.forall_mem_nil _⟩
      · exact ⟨[s], heq, List.forall_mem_singleton.2 (.inr (.inl hkind))⟩
    rcases hd with ⟨hkind, v, hv, -, rfl⟩ | ⟨-, rfl⟩
    · obtain ⟨holders, heq, hholders⟩ := hdown
      refine ⟨d :: holders, ?_, List.forall_mem_cons.2 ⟨.inr (.inr hkind), hholders⟩⟩
      have hv' := ancestors_of_mem_children (mem_children_of_mem_parts hv)
      exact hv'.trans (by rw [heq]; rfl)
    · exact hdown

theorem mem_ancestors_node (h : scope.bindingIn? limit name = some binding) :
    scope ∈ binding.node.ancestors := by
  obtain ⟨holders, heq, -⟩ := ancestors_node h
  rw [heq]
  exact List.mem_append_right _ List.mem_cons_self

/-- What is no holder does not stand between a scope around it and a binding of that scope. -/
theorem not_mem_ancestors_node (hf : ¬ f.IsHolder) (hscope : scope ∈ f.ancestors)
    (h : scope.bindingIn? limit name = some binding) : f ∉ binding.node.ancestors := by
  obtain ⟨holders, heq, hholders⟩ := ancestors_node h
  have hdepth := depth_lt_of_mem_ancestors hscope
  rw [heq, List.mem_append, List.mem_cons]
  rintro (hmem | rfl | hmem)
  · exact hf (hholders f hmem)
  · omega
  · have hdepth' := depth_lt_of_mem_ancestors hmem
    omega

/-! ## Looking up from inside a function -/

/-- What the name is bound to by the first ancestor that binds it. -/
def lookup (c : Cursor) (limit : Nat) (name : String) : Option Binding :=
  c.ancestors.findSome? fun s => s.bindingIn? limit name

/-- **From inside a node the look-up comes to the scopes in it, to the node itself, and then to what
lies around it.** -/
theorem binding?_cases (h : f ∈ c.ancestors) :
    (∃ s ∈ c.ancestors, f ∈ s.ancestors ∧
      ∃ b, s.bindingIn? c.span.start name = some b ∧ c.binding? name = some b) ∨
    (∀ s ∈ c.ancestors, f ∈ s.ancestors → s.bindingIn? c.span.start name = none) ∧
      c.binding? name = (f.bindingIn? c.span.start name).or (f.lookup c.span.start name) := by
  obtain ⟨inner, heq, hinner⟩ := ancestors_split h
  have hlookup : c.binding? name =
      (inner.findSome? fun s => s.bindingIn? c.span.start name).or
        ((f.bindingIn? c.span.start name).or (f.lookup c.span.start name)) := by
    unfold binding? lookup
    rw [heq, List.findSome?_append, List.findSome?_cons]
    cases f.bindingIn? c.span.start name <;> rfl
  cases hfirst : inner.findSome? fun s => s.bindingIn? c.span.start name with
  | some b =>
    obtain ⟨s, hs, hb⟩ := List.exists_of_findSome?_eq_some hfirst
    have hmem : s ∈ c.ancestors := by
      rw [heq]
      exact List.mem_append_left _ hs
    exact .inl ⟨s, hmem, hinner s hs, b, hb, by rw [hlookup, hfirst, Option.some_or]⟩
  | none =>
    refine .inr ⟨fun s hs hfs => ?_, by rw [hlookup, hfirst, Option.none_or]⟩
    rw [heq, List.mem_append, List.mem_cons] at hs
    have hdepth := depth_lt_of_mem_ancestors hfs
    rcases hs with hs | rfl | hs
    · exact List.findSome?_eq_none_iff.1 hfirst s hs
    · omega
    · have hdepth' := depth_lt_of_mem_ancestors hs
      omega

/-! ## Parameters -/

/-- An arrow function, as an expression, whose only parameter is the name without parentheses. -/
structure Bare (f : Cursor) (name : String) : Prop where
  kind : f.kind = .arrowFunction
  role : f.focus.head.role ≠ some .parameters
  parameter : ∃ p, f.role? .parameter = some p ∧ p.kind = .identifier ∧ p.text = name

/-- The function has a parameter that is nothing but the name, in a list or without parentheses. -/
def Binds (f : Cursor) (name : String) : Prop := f.isFunction = true ∧ (f.Lists name ∨ f.Bare name)

theorem Bare.not_isHolder (h : f.Bare name) : ¬ f.IsHolder := by
  rintro (hrole | hkind | hkind | hkind)
  · exact h.role hrole
  all_goals
    rw [h.kind] at hkind
    cases hkind

theorem bindingIn?_of_lists (hf : f.isFunction = true) (h : f.Lists name) :
    ∃ p, f.HasParameter name p ∧ f.bindingIn? limit name = some (.parameter p) := by
  obtain ⟨p, hp⟩ := exists_parameter?_of_lists h
  refine ⟨p, hasParameter_of_parameter? hp, ?_⟩
  unfold bindingIn?
  rw [if_pos hf, hp]

/-- A parameter without parentheses is not looked for. -/
theorem Bare.bindingIn?_eq_none (h : f.Bare name) (hlists : ¬ f.Lists name) :
    f.bindingIn? limit name = none := by
  have hnone : f.parameter? name = none := by
    rw [Option.eq_none_iff_forall_ne_some]
    exact fun p hp => hlists ⟨p, hasParameter_of_parameter? hp⟩
  have hblock : f.isBlock = false := by
    unfold isBlock
    rw [h.kind]
    rfl
  unfold bindingIn?
  rw [hnone, ite_self, hblock]
  rfl

/-- **A parameter in a list shadows what is outside of its function**: the name refers to it, or to
what a scope inside the function declares. -/
theorem binding?_of_lists (haround : f ∈ c.ancestors) (hf : f.isFunction = true)
    (hlists : f.Lists name) :
    ∃ b, c.binding? name = some b ∧ f ∈ b.node.ancestors ∧
      ((∃ p, f.HasParameter name p ∧ b = .parameter p) ∨
        ∃ s ∈ c.ancestors, f ∈ s.ancestors ∧ s.bindingIn? c.span.start name = some b) := by
  rcases binding?_cases haround with ⟨s, hs, hfs, b, hb, hbinding⟩ | ⟨-, hbinding⟩
  · exact ⟨b, hbinding, ancestors_trans hfs (mem_ancestors_node hb), .inr ⟨s, hs, hfs, hb⟩⟩
  · obtain ⟨p, hp, hparameter⟩ := bindingIn?_of_lists hf hlists
    rw [hparameter, Option.some_or] at hbinding
    exact ⟨_, hbinding, mem_ancestors_node hparameter, .inl ⟨p, hp, rfl⟩⟩

/-- Past a parameter without parentheses the look-up goes on outside of the function. -/
theorem Bare.binding?_eq (haround : f ∈ c.ancestors) (h : f.Bare name) (hlists : ¬ f.Lists name)
    (hinner : ∀ s ∈ c.ancestors, f ∈ s.ancestors → s.bindingIn? c.span.start name = none) :
    c.binding? name = f.lookup c.span.start name := by
  rcases binding?_cases haround with ⟨s, hs, hfs, b, hb, -⟩ | ⟨-, hbinding⟩
  · rw [hinner s hs hfs] at hb
    cases hb
  · rwa [h.bindingIn?_eq_none hlists, Option.none_or] at hbinding

/-- What the look-up finds outside of such a function does not stand in it. -/
theorem Bare.not_mem_ancestors_of_lookup (h : f.Bare name)
    (hb : f.lookup limit name = some binding) : f ∉ binding.node.ancestors := by
  obtain ⟨s, hs, hbs⟩ := List.exists_of_findSome?_eq_some hb
  exact not_mem_ancestors_node h.not_isHolder hs hbs

/-- **When a parameter shadows what is outside of its function.**  Let a function around a node bind
a name by a parameter, for instance the innermost function that does.  If the parameter stands in a
list, the name refers at the node to a parameter of that name in the list, or to what a scope inside
the function declares.  In general the name refers to something inside the function exactly if the
parameter stands in a list or a scope inside the function binds the name before the node.
Otherwise it refers to whatever it refers to outside of the function. -/
theorem parameter_shadows_iff (haround : f ∈ c.ancestors) (hbinds : f.Binds name) :
    (f.Lists name → ∃ b, c.binding? name = some b ∧ f ∈ b.node.ancestors ∧
      ((∃ p, f.HasParameter name p ∧ b = .parameter p) ∨
        ∃ s ∈ c.ancestors, f ∈ s.ancestors ∧ s.bindingIn? c.span.start name = some b)) ∧
    ((∃ b, c.binding? name = some b ∧ f ∈ b.node.ancestors) ↔
      f.Lists name ∨
        ∃ s ∈ c.ancestors, f ∈ s.ancestors ∧ (s.bindingIn? c.span.start name).isSome) ∧
    (¬ f.Lists name →
      (∀ s ∈ c.ancestors, f ∈ s.ancestors → s.bindingIn? c.span.start name = none) →
      c.binding? name = f.lookup c.span.start name) := by
  obtain ⟨hf, hparameter⟩ := hbinds
  refine ⟨binding?_of_lists haround hf, ⟨?_, ?_⟩, ?_⟩
  · rintro ⟨b, hb, hfb⟩
    by_contra hnot
    obtain ⟨hlists, hscopes⟩ := not_or.1 hnot
    have hbare := hparameter.resolve_left hlists
    have hinner : ∀ s ∈ c.ancestors, f ∈ s.ancestors → s.bindingIn? c.span.start name = none := by
      intro s hs hfs
      by_contra hsome
      exact hscopes ⟨s, hs, hfs, Option.isSome_iff_ne_none.2 hsome⟩
    rw [hbare.binding?_eq haround hlists hinner] at hb
    exact hbare.not_mem_ancestors_of_lookup hb hfb
  · rintro (hlists | ⟨s, hs, hfs, hsome⟩)
    · obtain ⟨b, hb, hfb, -⟩ := binding?_of_lists haround hf hlists
      exact ⟨b, hb, hfb⟩
    · rcases binding?_cases haround with ⟨s', -, hfs', b, hb, hbinding⟩ | ⟨hinner, -⟩
      · exact ⟨b, hbinding, ancestors_trans hfs' (mem_ancestors_node hb)⟩
      · rw [hinner s hs hfs] at hsome
        cases hsome
  · intro hlists hinner
    exact (hparameter.resolve_left hlists).binding?_eq haround hlists hinner

end Cursor

/-! ## A parameter that is passed by -/

namespace BareParameter

open RouteInventory.Tree (sketchAt)

def name (start : Nat) : Tree := sketchAt .identifier start (start + 1) "x" []

/-- `x = 1` -/
def declarator : Tree :=
  sketchAt .variableDeclarator 6 11 ""
    [(name 6).withRole .name, (sketchAt .number 10 11 "1" []).withRole .value]

/-- `const x = 1;` -/
def declaration : Tree := sketchAt .lexicalDeclaration 0 12 "" [declarator]

/-- `x => x` -/
def function : Tree :=
  sketchAt .arrowFunction 13 19 "" [(name 13).withRole .parameter, (name 18).withRole .body]

def statement : Tree := sketchAt .expressionStatement 13 20 "" [function]

/-- `const x = 1; x => x;` -/
def root : Cursor := .ofTree (sketchAt .program 0 20 "" [declaration, statement])

def constant : Cursor := (root.down declaration 0).down declarator 0

def arrow : Cursor := (root.down statement 1).down function 0

/-- The name on the right of the arrow. -/
def use : Cursor := arrow.down ((name 18).withRole .body) 1

theorem not_lists : ¬ arrow.Lists "x" := by
  rintro ⟨p, ⟨list, hlist, -⟩, -, -⟩
  cases hlist

/-- The name refers to the constant outside of the function, not to the parameter. -/
theorem constant_found :
    (arrow ∈ use.ancestors ∧ arrow.Binds "x") ∧ use.binding? "x" = some (.variable constant) ∧
      ¬ ∃ b, use.binding? "x" = some b ∧ arrow ∈ b.node.ancestors := by
  have haround : arrow ∈ use.ancestors := List.mem_cons_self
  have hbinds : arrow.Binds "x" := by
    refine ⟨rfl, .inr ⟨rfl, by decide, arrow.down ((name 13).withRole .parameter) 0, rfl, rfl, rfl⟩⟩
  refine ⟨⟨haround, hbinds⟩, rfl, fun hinside => ?_⟩
  rcases (Cursor.parameter_shadows_iff haround hbinds).2.1.1 hinside with hlists | ⟨s, hs, hfs, -⟩
  · exact not_lists hlists
  · -- no scope lies between the name and the function
    have hdepth := Cursor.depth_lt_of_mem_ancestors hs
    have hdepth' := Cursor.depth_lt_of_mem_ancestors hfs
    have huse : use.depth = arrow.depth + 1 := rfl
    omega

end BareParameter

end RouteInventory
