import Mathlib
import RouteInventory.Fastify.HookAuth
import RouteInventory.Proofs.SourceOrder

/-!
# What the hooks of a route tell

The verdict on a route is fixed by a few words: the first object literal among the arguments holds
the hooks, the first configured hook point whose value names an authenticating middleware decides,
and all such names of its value are reported in source order.

What counts as a name is a class `K` of kinds.  Detection looks at three kinds of names; a private
member, as in `this.#authenticate`, is a name of a further kind.

* `HookDetector.Verdict` is the specification, `Verdict.unique` says that it leaves one verdict.
* `HookDetector.detect_verdict`: detection gives the verdict by the kinds it looks at.
* `HookDetector.detect_verdict_iff`: it gives the verdict by a larger class exactly if no name of a
  further kind would have counted; more middleware names never make a route public, and more hook
  points do not touch the verdict on a route that requires authentication.
* `PrivateHook.authenticate_overlooked`: a private member that is overlooked.
-/

namespace RouteInventory

/-! ## First entries and stretches of text -/

/-- `x` is the first entry with the property. -/
def IsFirst {α : Type} (p : α → Prop) (xs : List α) (x : α) : Prop :=
  p x ∧ ∃ before after, xs = before ++ x :: after ∧ ∀ y ∈ before, ¬ p y

namespace IsFirst

variable {α : Type} {p : α → Prop} {xs : List α} {x y : α}

theorem mem (h : IsFirst p xs x) : x ∈ xs := by
  obtain ⟨-, before, after, rfl, -⟩ := h
  exact List.mem_append_right _ List.mem_cons_self

theorem append (h : IsFirst p xs x) (ys : List α) : IsFirst p (xs ++ ys) x := by
  obtain ⟨hx, before, after, rfl, hbefore⟩ := h
  exact ⟨hx, before, after ++ ys, by simp, hbefore⟩

theorem cons_self (hx : p x) : IsFirst p (x :: xs) x :=
  ⟨hx, [], xs, rfl, List.forall_mem_nil _⟩

theorem cons (hy : ¬ p y) (h : IsFirst p xs x) : IsFirst p (y :: xs) x := by
  obtain ⟨hx, before, after, rfl, hbefore⟩ := h
  exact ⟨hx, y :: before, after, rfl, List.forall_mem_cons.2 ⟨hy, hbefore⟩⟩

theorem find?_eq_some_iff {q : α → Bool} :
    xs.find? q = some x ↔ IsFirst (fun y => q y = true) xs x := by
  rw [List.find?_eq_some_iff_append]
  unfold IsFirst
  simp only [Bool.not_eq_true', Bool.not_eq_true]

theorem unique (hx : IsFirst p xs x) (hy : IsFirst p xs y) : x = y := by
  classical
  have hfind : ∀ {z}, IsFirst p xs z → xs.find? (fun w => decide (p w)) = some z := by
    intro z hz
    refine find?_eq_some_iff.2 ?_
    simpa only [decide_eq_true_eq] using hz
  exact Option.some.inj ((hfind hx).symm.trans (hfind hy))

end IsFirst

theorem occursIn_iff (part text : List Char) : occursIn part text = true ↔ part <:+: text := by
  induction text with
  | nil =>
    rw [occursIn, Bool.or_false, List.isPrefixOf_iff_prefix, List.prefix_nil, List.infix_nil]
  | cons c text ih =>
    rw [occursIn, Bool.or_eq_true, List.isPrefixOf_iff_prefix, ih, List.infix_cons_iff]

theorem containsText_iff (text part : String) :
    containsText text part = true ↔ part.toList <:+: text.toList :=
  occursIn_iff part.toList text.toList

theorem Text.lowercase_eq_empty_iff (s : String) : Text.lowercase s = "" ↔ s = "" := by
  have hlower : ∀ before cs : List Char, Text.lowerFrom before cs = [] ↔ cs = [] := by
    intro before cs
    cases cs with
    | nil => exact ⟨fun _ => rfl, fun _ => rfl⟩
    | cons c cs =>
      rw [Text.lowerFrom]
      simp only [List.append_eq_nil_iff, reduceCtorEq, iff_false, not_and]
      intro hmapped
      split at hmapped
      · cases hmapped
      · split at hmapped
        · split at hmapped <;> cases hmapped
        · cases hmapped
  unfold Text.lowercase
  rw [← String.toList_eq_nil_iff, String.toList_ofList, hlower, String.toList_eq_nil_iff]

namespace HookDetector

/-! ## The specification -/

variable {K : Kind → Bool} {names more : List String} {config : HookConfig}
variable {args : List Cursor} {options value c : Cursor} {hook : String} {found : List String}

/-- One of the names, blanks around it left aside, occurs in the text in some case. -/
def Tells (names : List String) (text : String) : Prop :=
  ∃ m ∈ names, Text.trim m ≠ "" ∧
    (Text.lowercase (Text.trim m)).toList <:+: (Text.lowercase text).toList

/-- A name in a hook's value that stands for an authenticating middleware. -/
structure Middleware (K : Kind → Bool) (names : List String) (value c : Cursor) : Prop where
  inside : value.Contains c
  kind : K c.kind = true
  not_hook : c.text ∉ hookNames
  not_keyword : c.text ∉ hookKeywords
  tells : Tells names c.text

/-- A property of an object literal with the key, in full or in short. -/
def HasKey (key : String) (p : Cursor) : Prop :=
  p.kind = .pair ∧ p.focus.propertyKey? = some key ∨
    p.kind = .shorthandPropertyIdentifier ∧ p.text = key

/-- The value of the first property with the key; a property in short is its own value. -/
def HasValue (options : Cursor) (key : String) (value : Cursor) : Prop :=
  ∃ p, IsFirst (HasKey key) options.parts p ∧
    (p.kind = .pair ∧ p.role? .value = some value ∨ p.kind ≠ .pair ∧ value = p)

/-- The first of several arguments that is an object literal, parentheses aside. -/
def IsOptions (args : List Cursor) (options : Cursor) : Prop :=
  IsFirst (fun o => o.kind = .object) (args.map Cursor.unwrapped) options

/-- The hook's value holds middlewares; `found` are their names in source order. -/
def Finds (K : Kind → Bool) (names : List String) (options : Cursor) (hook : String)
    (found : List String) : Prop :=
  ∃ value nodes, HasValue options hook value ∧ Cursor.InOrder (Middleware K names value) nodes ∧
    nodes ≠ [] ∧ found = nodes.map Cursor.text

/-- The verdict on a route by the arguments of its call. -/
inductive Verdict (K : Kind → Bool) (config : HookConfig) (args : List Cursor) : HookAuth → Prop
  | required {options : Cursor} {hook : String} {found : List String}
      (hoptions : IsOptions args options)
      (hfirst : IsFirst (fun h => ∃ f, Finds K config.middlewareNames options h f)
        config.hookPoints hook)
      (hfinds : Finds K config.middlewareNames options hook found) :
      Verdict K config args ⟨true, found, some hook⟩
  | absent
      (hnone : ∀ options, IsOptions args options → ∀ hook ∈ config.hookPoints, ∀ found,
        ¬ Finds K config.middlewareNames options hook found) :
      Verdict K config args .absent

theorem HasValue.unique {value' : Cursor} (h : HasValue options hook value)
    (h' : HasValue options hook value') : value = value' := by
  obtain ⟨p, hp, hvalue⟩ := h
  obtain ⟨q, hq, hvalue'⟩ := h'
  obtain rfl := hp.unique hq
  rcases hvalue with ⟨hpair, hvalue⟩ | ⟨hshort, rfl⟩ <;>
    rcases hvalue' with ⟨hpair', hvalue'⟩ | ⟨hshort', rfl⟩
  · exact Option.some.inj (hvalue.symm.trans hvalue')
  · exact absurd hpair hshort'
  · exact absurd hpair' hshort
  · rfl

theorem Finds.unique {found' : List String} (h : Finds K names options hook found)
    (h' : Finds K names options hook found') : found = found' := by
  obtain ⟨value, nodes, hvalue, hnodes, -, rfl⟩ := h
  obtain ⟨value', nodes', hvalue', hnodes', -, rfl⟩ := h'
  obtain rfl := hvalue.unique hvalue'
  rw [hnodes.unique hnodes']

/-- There is one verdict. -/
theorem Verdict.unique {auth auth' : HookAuth} (h : Verdict K config args auth)
    (h' : Verdict K config args auth') : auth = auth' := by
  cases h with
  | @required options hook found hoptions hfirst hfinds =>
    cases h' with
    | @required options' hook' found' hoptions' hfirst' hfinds' =>
      obtain rfl := IsFirst.unique hoptions hoptions'
      obtain rfl := hfirst.unique hfirst'
      rw [hfinds.unique hfinds']
    | absent hnone => exact absurd hfinds (hnone options hoptions hook hfirst.mem found)
  | absent hnone =>
    cases h' with
    | @required options hook found hoptions hfirst hfinds =>
      exact absurd hfinds (hnone options hoptions hook hfirst.mem found)
    | absent => rfl

/-! ## Detection meets it -/

theorem isAuthMiddleware_iff (config : HookConfig) (name : String) :
    (ofConfig config).isAuthMiddleware name = true ↔ Tells config.middlewareNames name := by
  unfold isAuthMiddleware ofConfig Tells
  simp only [List.any_eq_true, List.mem_filter, List.mem_map, bne_iff_ne, ne_eq, containsText_iff]
  constructor
  · rintro ⟨_, ⟨⟨m, hm, rfl⟩, hblank⟩, hinfix⟩
    exact ⟨m, hm, fun h => hblank ((Text.lowercase_eq_empty_iff _).2 h), hinfix⟩
  · rintro ⟨m, hm, hblank, hinfix⟩
    exact ⟨_, ⟨⟨m, hm, rfl⟩, fun h => hblank ((Text.lowercase_eq_empty_iff _).1 h)⟩, hinfix⟩

theorem objectProperty?_eq_some_iff :
    options.objectProperty? hook = some value ↔ HasValue options hook value := by
  have hkey : ∀ p : Cursor, ((p.kind == .pair && p.focus.propertyKey? == some hook)
      || (p.kind == .shorthandPropertyIdentifier && p.text == hook)) = true ↔ HasKey hook p := by
    intro p
    simp only [HasKey, Bool.or_eq_true, Bool.and_eq_true, beq_iff_eq]
  unfold Cursor.objectProperty? HasValue
  split
  · rename_i p hfind
    have hp : IsFirst (HasKey hook) options.parts p := by
      simpa only [hkey] using IsFirst.find?_eq_some_iff.1 hfind
    constructor
    · intro hvalue
      refine ⟨p, hp, ?_⟩
      split at hvalue
      · rename_i hpair
        exact .inl ⟨beq_iff_eq.1 hpair, hvalue⟩
      · rename_i hpair
        exact .inr ⟨fun h => hpair (beq_iff_eq.2 h), (Option.some.inj hvalue).symm⟩
    · rintro ⟨q, hq, hvalue⟩
      obtain rfl := hp.unique hq
      rcases hvalue with ⟨hpair, hvalue⟩ | ⟨hshort, rfl⟩
      · rwa [if_pos (beq_iff_eq.2 hpair)]
      · rw [if_neg fun h => hshort (beq_iff_eq.1 h)]
  · rename_i hfind
    refine ⟨fun h => (nomatch h), ?_⟩
    rintro ⟨p, hp, -⟩
    have hnot := List.find?_eq_none.1 hfind p hp.mem
    exact absurd ((hkey p).2 hp.1) hnot

/-- The nodes whose names are reported for a hook. -/
theorem inOrder_middlewares (config : HookConfig) (value : Cursor) :
    ∃ nodes, Cursor.InOrder (Middleware isName config.middlewareNames value) nodes ∧
      (referencedNames value).filter (ofConfig config).isAuthMiddleware =
        nodes.map Cursor.text := by
  refine ⟨value.preorder.filter fun c => isName c.kind && ((!hookNames.contains c.text &&
    !hookKeywords.contains c.text) && (ofConfig config).isAuthMiddleware c.text), ?_, ?_⟩
  · have h := Cursor.inOrder_filter_preorder (fun c => isName c.kind &&
      ((!hookNames.contains c.text && !hookKeywords.contains c.text) &&
        (ofConfig config).isAuthMiddleware c.text)) value
    refine ⟨fun c => (h.mem_iff c).trans ?_, h.sorted⟩
    simp only [Bool.and_eq_true, Bool.not_eq_true', List.contains_eq_mem, decide_eq_false_iff_not,
      isAuthMiddleware_iff]
    constructor
    · rintro ⟨hin, hkind, ⟨hhook, hkeyword⟩, htells⟩
      exact ⟨hin, hkind, hhook, hkeyword, htells⟩
    · rintro ⟨hin, hkind, hhook, hkeyword, htells⟩
      exact ⟨hin, hkind, ⟨hhook, hkeyword⟩, htells⟩
  · unfold referencedNames
    simp only [List.filter_map, List.filter_filter]
    congr 1
    apply List.filter_congr
    intro c _
    simp only [Function.comp_apply]
    ac_rfl

theorem finds_of_middlewaresAt (h : (ofConfig config).middlewaresAt options hook ≠ []) :
    Finds isName config.middlewareNames options hook
      ((ofConfig config).middlewaresAt options hook) := by
  unfold middlewaresAt at h ⊢
  split at h
  · rename_i value hvalue
    obtain ⟨nodes, hnodes, heq⟩ := inOrder_middlewares config value
    refine ⟨value, nodes, objectProperty?_eq_some_iff.1 hvalue, hnodes, ?_, heq⟩
    rintro rfl
    exact h heq
  · exact absurd rfl h

theorem not_finds_of_middlewaresAt (h : (ofConfig config).middlewaresAt options hook = []) :
    ¬ ∃ found, Finds isName config.middlewareNames options hook found := by
  rintro ⟨found, value, nodes, hvalue, hnodes, hne, -⟩
  unfold middlewaresAt at h
  rw [objectProperty?_eq_some_iff.2 hvalue] at h
  obtain ⟨nodes', hnodes', heq⟩ := inOrder_middlewares config value
  rw [hnodes.unique hnodes'] at hne
  exact hne (List.map_eq_nil_iff.1 (heq.symm.trans h))

/-- The first hook point with a middleware decides. -/
theorem firstHook_cases (config : HookConfig) (options : Cursor) (hooks : List String) :
    (∃ hook found, (ofConfig config).firstHook options hooks = ⟨true, found, some hook⟩ ∧
      IsFirst (fun h => ∃ f, Finds isName config.middlewareNames options h f) hooks hook ∧
      Finds isName config.middlewareNames options hook found) ∨
    (ofConfig config).firstHook options hooks = .absent ∧
      ∀ hook ∈ hooks, ¬ ∃ f, Finds isName config.middlewareNames options hook f := by
  induction hooks with
  | nil => exact .inr ⟨rfl, List.forall_mem_nil _⟩
  | cons hook hooks ih =>
    rw [firstHook]
    by_cases hfound : (ofConfig config).middlewaresAt options hook = []
    · have hnot := not_finds_of_middlewaresAt hfound
      simp only [hfound, List.isEmpty_nil, if_true]
      rcases ih with ⟨hook', found, heq, hfirst, hfinds⟩ | ⟨heq, hnone⟩
      · exact .inl ⟨hook', found, heq, hfirst.cons hnot, hfinds⟩
      · exact .inr ⟨heq, List.forall_mem_cons.2 ⟨hnot, hnone⟩⟩
    · have hfinds := finds_of_middlewaresAt hfound
      refine .inl ⟨hook, _, ?_, .cons_self ⟨_, hfinds⟩, hfinds⟩
      simp only [List.isEmpty_iff, hfound, if_false]

/-- **Detection gives the verdict** by the kinds of names that it looks at. -/
theorem detect_verdict (config : HookConfig) (args : List Cursor) :
    Verdict isName config args ((ofConfig config).detect args) := by
  have hoptions : ∀ options, (args.map Cursor.unwrapped).find? (fun a => a.kind == .object) =
      some options ↔ IsOptions args options := by
    intro options
    rw [IsFirst.find?_eq_some_iff]
    simp only [beq_iff_eq]
    rfl
  unfold detect
  split
  · rename_i options hfind
    have hopts := (hoptions options).1 hfind
    rcases firstHook_cases config options (ofConfig config).hookPoints with
      ⟨hook, found, heq, hfirst, hfinds⟩ | ⟨heq, hnone⟩
    · rw [heq]
      exact .required hopts hfirst hfinds
    · rw [heq]
      refine .absent fun options' hopts' hook hhook found hfinds => ?_
      obtain rfl := IsFirst.unique hopts hopts'
      exact hnone hook hhook ⟨found, hfinds⟩
  · rename_i hfind
    refine .absent fun options hopts => ?_
    rw [(hoptions options).2 hopts] at hfind
    cases hfind

/-! ## Names of further kinds -/

/-- A hook point that no earlier one has decided holds a name that counts but is of a kind that
detection does not look at. -/
def Overlooks (K : Kind → Bool) (config : HookConfig) (args : List Cursor) : Prop :=
  ∃ options before hook after value c, IsOptions args options ∧
    config.hookPoints = before ++ hook :: after ∧
    (∀ h ∈ before, ¬ ∃ found, Finds isName config.middlewareNames options h found) ∧
    HasValue options hook value ∧ Middleware K config.middlewareNames value c ∧
    isName c.kind = false

theorem Middleware.mono {K' : Kind → Bool} (h : Middleware K names value c)
    (hK : K c.kind = true → K' c.kind = true) (hnames : names ⊆ more) :
    Middleware K' more value c := by
  obtain ⟨m, hm, hblank, hinfix⟩ := h.tells
  exact ⟨h.inside, hK h.kind, h.not_hook, h.not_keyword, m, hnames hm, hblank, hinfix⟩

theorem exists_finds (hvalue : HasValue options hook value) (hc : Middleware K names value c) :
    ∃ found, Finds K names options hook found := by
  obtain ⟨nodes, hnodes⟩ :=
    Cursor.exists_inOrder fun d (hd : Middleware K names value d) => hd.inside
  refine ⟨_, value, nodes, hvalue, hnodes, ?_, rfl⟩
  rintro rfl
  exact absurd ((hnodes.mem_iff c).2 hc) List.not_mem_nil

theorem Finds.mono {K' : Kind → Bool} (hK : ∀ k, K k = true → K' k = true) (hnames : names ⊆ more)
    (h : Finds K names options hook found) : ∃ found', Finds K' more options hook found' := by
  obtain ⟨value, nodes, hvalue, hnodes, hne, -⟩ := h
  obtain ⟨c, hc⟩ := List.exists_mem_of_ne_nil nodes hne
  exact exists_finds hvalue (((hnodes.mem_iff c).1 hc).mono (hK _) hnames)

/-- Where all names that count are looked at, a larger class makes no difference. -/
theorem finds_congr (hK : ∀ k, isName k = true → K k = true)
    (hall : ∀ value, HasValue options hook value →
      ∀ c, Middleware K names value c → isName c.kind = true) :
    Finds K names options hook found ↔ Finds isName names options hook found := by
  have hsame : ∀ value, HasValue options hook value →
      Middleware K names value = Middleware isName names value := by
    intro value hvalue
    funext c
    refine propext ⟨fun hc => hc.mono (fun _ => hall value hvalue c hc) (List.Subset.refl _), ?_⟩
    exact fun hc => hc.mono (hK _) (List.Subset.refl _)
  constructor
  · rintro ⟨value, nodes, hvalue, hnodes, hrest⟩
    exact ⟨value, nodes, hvalue, hsame value hvalue ▸ hnodes, hrest⟩
  · rintro ⟨value, nodes, hvalue, hnodes, hrest⟩
    exact ⟨value, nodes, hvalue, (hsame value hvalue).symm ▸ hnodes, hrest⟩

/-- A name that is not looked at makes the list of names longer. -/
theorem not_finds_both (hK : ∀ k, isName k = true → K k = true)
    (hvalue : HasValue options hook value) (hc : Middleware K names value c)
    (hkind : isName c.kind = false) (h : Finds K names options hook found) :
    ¬ Finds isName names options hook found := by
  rintro ⟨value', looked, hvalue', hlooked, -, rfl⟩
  obtain ⟨value'', all, hvalue'', hallnodes, -, heq⟩ := h
  obtain rfl := hvalue.unique hvalue'
  obtain rfl := hvalue.unique hvalue''
  have hsubset : looked ⊆ all := by
    intro d hd
    have hd' := (hlooked.mem_iff d).1 hd
    exact (hallnodes.mem_iff d).2 (hd'.mono (hK _) (List.Subset.refl _))
  have hnot : c ∉ looked := by
    intro hmem
    have hnamed := ((hlooked.mem_iff c).1 hmem).kind
    rw [hkind] at hnamed
    cases hnamed
  have hlonger : (c :: looked).length ≤ all.length :=
    ((List.nodup_cons.2 ⟨hnot, hlooked.nodup⟩).subperm
      (List.cons_subset.2 ⟨(hallnodes.mem_iff c).2 hc, hsubset⟩)).length_le
  have hlength : looked.length = all.length := by
    simpa only [List.length_map] using congrArg List.length heq
  rw [List.length_cons] at hlonger
  omega

/-- Where nothing is overlooked, the verdict by the kinds that are looked at is the verdict by the
larger class. -/
theorem Verdict.of_not_overlooks {auth : HookAuth} (hK : ∀ k, isName k = true → K k = true)
    (h : ¬ Overlooks K config args) (hverdict : Verdict isName config args auth) :
    Verdict K config args auth := by
  -- as long as no hook point has decided, both classes find the same
  have hsame : ∀ {options : Cursor} {before after : List String} {hook : String},
      IsOptions args options → config.hookPoints = before ++ hook :: after →
      (∀ b ∈ before, ¬ ∃ f, Finds isName config.middlewareNames options b f) → ∀ found,
      (Finds K config.middlewareNames options hook found ↔
        Finds isName config.middlewareNames options hook found) := by
    intro options before after hook hoptions hsplit hbefore found
    refine finds_congr hK fun value hvalue c hc => ?_
    by_contra hkind
    rw [Bool.not_eq_true] at hkind
    exact h ⟨options, before, hook, after, value, c, hoptions, hsplit, hbefore, hvalue, hc, hkind⟩
  have hquiet : ∀ {options : Cursor} {before after : List String}, IsOptions args options →
      config.hookPoints = before ++ after →
      (∀ b ∈ before, ¬ ∃ f, Finds isName config.middlewareNames options b f) →
      ∀ b ∈ before, ¬ ∃ f, Finds K config.middlewareNames options b f := by
    rintro options before after hoptions hsplit hbefore b hb ⟨f, hf⟩
    obtain ⟨earlier, later, rfl⟩ := List.append_of_mem hb
    rw [List.append_assoc, List.cons_append] at hsplit
    have hearlier : ∀ a ∈ earlier, ¬ ∃ f, Finds isName config.middlewareNames options a f :=
      fun a ha => hbefore a (List.mem_append_left _ ha)
    exact hbefore b hb ⟨f, (hsame hoptions hsplit hearlier f).1 hf⟩
  cases hverdict with
  | required hoptions hfirst hfinds =>
    obtain ⟨hhook, before, after, hsplit, hbefore⟩ := hfirst
    have hfinds' := (hsame hoptions hsplit hbefore _).2 hfinds
    exact .required hoptions ⟨⟨_, hfinds'⟩, before, after, hsplit, hquiet hoptions hsplit hbefore⟩
      hfinds'
  | absent hnone =>
    refine .absent fun options hoptions hook hhook found hfinds => ?_
    have hnone' : ∀ b ∈ config.hookPoints,
        ¬ ∃ f, Finds isName config.middlewareNames options b f :=
      fun b hb ⟨f, hf⟩ => hnone options hoptions b hb f hf
    have hsplit : config.hookPoints = config.hookPoints ++ [] := (List.append_nil _).symm
    exact hquiet hoptions hsplit hnone' hook hhook ⟨found, hfinds⟩

/-- Where something is overlooked, the two verdicts differ. -/
theorem Verdict.not_of_overlooks {auth : HookAuth} (hK : ∀ k, isName k = true → K k = true)
    (h : Overlooks K config args) (hverdict : Verdict isName config args auth) :
    ¬ Verdict K config args auth := by
  intro hverdict'
  obtain ⟨options, before, hook, after, value, c, hoptions, hsplit, hbefore, hvalue, hc, hkind⟩ := h
  obtain ⟨found, hfound⟩ := exists_finds hvalue hc
  have hmem : hook ∈ config.hookPoints := by
    rw [hsplit]
    exact List.mem_append_right _ List.mem_cons_self
  cases hverdict' with
  | absent hnone => exact hnone options hoptions hook hmem found hfound
  | @required options' decided found' hoptions' hfirst' hfinds' =>
    cases hverdict with
    | required hoptions'' hfirst hfinds =>
      obtain rfl := IsFirst.unique hoptions hoptions'
      obtain rfl := IsFirst.unique hoptions hoptions''
      -- the larger class decides at the hook point itself, since it finds something there and
      -- what is decided before would be found by either class
      obtain ⟨-, before', after', hsplit', hbefore'⟩ := hfirst'
      have hdecided : decided = hook := by
        rcases List.append_eq_append_iff.1 (hsplit.symm.trans hsplit') with
          ⟨rest, hrest, htail⟩ | ⟨rest, hrest, htail⟩
        · cases rest with
          | nil => exact (List.cons.inj htail).1.symm
          | cons h rest =>
            obtain rfl : hook = h := (List.cons.inj htail).1
            have hin : hook ∈ before' := by simp [hrest]
            exact absurd ⟨found, hfound⟩ (hbefore' hook hin)
        · cases rest with
          | nil => exact (List.cons.inj htail).1
          | cons h rest =>
            obtain rfl : decided = h := (List.cons.inj htail).1
            have hin : decided ∈ before := by simp [hrest]
            exact absurd ⟨found', hfinds⟩ (hbefore decided hin)
      subst hdecided
      exact not_finds_both hK hvalue hc hkind hfinds' hfinds

/-! ## More names and more hook points -/

theorem required_iff (config : HookConfig) (args : List Cursor) :
    ((ofConfig config).detect args).required = true ↔
      ∃ options, IsOptions args options ∧ ∃ hook ∈ config.hookPoints,
        ∃ found, Finds isName config.middlewareNames options hook found := by
  have hverdict := detect_verdict config args
  generalize (ofConfig config).detect args = auth at hverdict ⊢
  cases hverdict with
  | @required options hook found hoptions hfirst hfinds =>
    exact ⟨fun _ => ⟨options, hoptions, hook, hfirst.mem, found, hfinds⟩, fun _ => rfl⟩
  | absent hnone =>
    refine ⟨fun h => (nomatch h), ?_⟩
    rintro ⟨options, hoptions, hook, hhook, found, hfinds⟩
    exact absurd hfinds (hnone options hoptions hook hhook found)

theorem required_of_more_names (hmore : config.middlewareNames ⊆ more)
    (h : ((ofConfig config).detect args).required = true) :
    ((ofConfig { config with middlewareNames := more }).detect args).required = true := by
  obtain ⟨options, hoptions, hook, hhook, found, hfinds⟩ := (required_iff config args).1 h
  obtain ⟨found', hfinds'⟩ := hfinds.mono (fun _ hk => hk) hmore
  exact (required_iff _ args).2 ⟨options, hoptions, hook, hhook, found', hfinds'⟩

theorem detect_of_more_hooks (extra : List String)
    (h : ((ofConfig config).detect args).required = true) :
    (ofConfig { config with hookPoints := config.hookPoints ++ extra }).detect args =
      (ofConfig config).detect args := by
  have hverdict := detect_verdict config args
  refine (detect_verdict _ args).unique ?_
  generalize (ofConfig config).detect args = auth at hverdict h ⊢
  cases hverdict with
  | required hoptions hfirst hfinds => exact .required hoptions (hfirst.append extra) hfinds
  | absent => cases h

/-- **What detection gives, and when a larger class of names makes a difference.**  Detection gives
the verdict by the three kinds of names that it looks at.  For every class of names that includes
these, it gives the verdict by that class exactly if nothing is overlooked: no hook point up to the
one that decides holds a name of a further kind that would have counted.  More middleware names
never turn a route that requires authentication public, and more hook points behind the others leave
the result on such a route as it is. -/
theorem detect_verdict_iff (config : HookConfig) (args : List Cursor) (K : Kind → Bool)
    (hK : ∀ k, isName k = true → K k = true) :
    Verdict isName config args ((ofConfig config).detect args) ∧
    (Verdict K config args ((ofConfig config).detect args) ↔ ¬ Overlooks K config args) ∧
    (∀ more, config.middlewareNames ⊆ more →
      ((ofConfig config).detect args).required = true →
        ((ofConfig { config with middlewareNames := more }).detect args).required = true) ∧
    ∀ extra, ((ofConfig config).detect args).required = true →
      (ofConfig { config with hookPoints := config.hookPoints ++ extra }).detect args =
        (ofConfig config).detect args := by
  have hverdict := detect_verdict config args
  refine ⟨hverdict, ⟨fun h hoverlooks => ?_, fun h => ?_⟩, ?_, ?_⟩
  · exact hverdict.not_of_overlooks hK hoverlooks h
  · exact hverdict.of_not_overlooks hK h
  · exact fun more hmore => required_of_more_names hmore
  · exact fun extra => detect_of_more_hooks extra

end HookDetector

/-! ## A private member -/

namespace PrivateHook

open RouteInventory.Tree (sketch)

/-- `this.#auth` -/
def member : Tree :=
  sketch .memberExpression "this.#auth" [(sketch .thisExpression "this" []).withRole .object,
    (sketch .privatePropertyIdentifier "#auth" []).withRole .property]

/-- `preHandler: this.#auth` -/
def hook : Tree :=
  sketch .pair "preHandler: this.#auth" [(sketch .propertyIdentifier "preHandler" []).withRole .key,
    member.withRole .value]

/-- The options of `app.get('/me', { preHandler: this.#auth }, show)`. -/
def options : Cursor := .ofTree (sketch .object "" [hook])

def config : HookConfig := ⟨["auth"], ["preHandler"]⟩

/-- Names, those of private members among them. -/
def isMemberName (k : Kind) : Bool := HookDetector.isName k || k == .privatePropertyIdentifier

/-- The value of the hook. -/
def value : Cursor := (options.down hook 0).down (member.withRole .value) 1

def name : Cursor :=
  value.down ((sketch .privatePropertyIdentifier "#auth" []).withRole .property) 1

theorem middleware_name :
    HookDetector.Middleware isMemberName config.middlewareNames value name where
  inside := .of_child ⟨List.mem_of_getElem? (i := 1) rfl, rfl⟩
  kind := rfl
  not_hook := by decide
  not_keyword := by decide
  tells := ⟨"auth", List.mem_cons_self, by decide +kernel, by decide +kernel⟩

/-- The route is taken for a public one, although its hook names a middleware. -/
theorem authenticate_overlooked :
    (∀ k, HookDetector.isName k = true → isMemberName k = true) ∧
    (HookDetector.ofConfig config).detect [options] = .absent ∧
      ¬ HookDetector.Verdict isMemberName config [options] .absent := by
  have hK : ∀ k, HookDetector.isName k = true → isMemberName k = true :=
    fun k hk => Bool.or_eq_true_iff.2 (.inl hk)
  have hdetect : (HookDetector.ofConfig config).detect [options] = .absent := by decide +kernel
  have hoverlooks : HookDetector.Overlooks isMemberName config [options] :=
    ⟨options, [], "preHandler", [], value, name, .cons_self rfl, rfl, List.forall_mem_nil _,
      HookDetector.objectProperty?_eq_some_iff.1 rfl, middleware_name, rfl⟩
  refine ⟨hK, hdetect, fun hverdict => ?_⟩
  rw [← hdetect] at hverdict
  exact (HookDetector.detect_verdict_iff config [options] isMemberName hK).2.1.1 hverdict hoverlooks

end PrivateHook

end RouteInventory
