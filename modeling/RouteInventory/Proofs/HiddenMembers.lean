import Mathlib
import RouteInventory.Proofs.ShapeTexts

/-!
# What rendering never shows

Members of a framework's own objects, members of arrays and everything below the depth limit stay
out of the rendered text.  `Renderer.eraseAt` takes such parts out of a shape, counting depth as
`Renderer.formatAt` does, and `Renderer.eraseFields` does so as `Renderer.properties` counts it.
Nothing hidden is left (`Renderer.BareAt`), and nothing changes in what is written.

* `formatAt_eraseAt`, `properties_eraseFields` — an erased shape is written like the shape itself.
* `bareAt_eraseAt` — an erased shape has no hidden members.
* `nested_formatAt` — the text is made of the words of the shape and of punctuation, with no more
  braces inside each other than the limit allows.
* `hidden_members_stay_hidden` — all of this together, and what follows for two shapes.
-/

namespace RouteInventory

namespace Renderer

/-! ## Erasing -/

mutual
/-- A shape at some depth, without the members that are never shown there. -/
def eraseAt (r : Renderer) (depth : Nat) : Shape → Shape
  | .primitive name => .primitive name
  | .literal text => .literal text
  | .array element => .array (eraseAt r depth element)
  | .union vs => .union (eraseAll r depth vs)
  | .named name module args => .named name module (eraseAll r (depth + 1) args)
  | .object name members =>
    if isElided name || r.limit ≤ depth then .object name []
    else .object name (eraseMembers r (depth + 1) members)

/-- Several shapes at one depth. -/
def eraseAll (r : Renderer) (depth : Nat) : List Shape → List Shape
  | [] => []
  | s :: ss => eraseAt r depth s :: eraseAll r depth ss

/-- The members that are shown, with their shapes erased. -/
def eraseMembers (r : Renderer) (depth : Nat) : List (Member Shape) → List (Member Shape)
  | [] => []
  | ⟨n, s, o⟩ :: ms =>
    if isSuppressed n then eraseMembers r depth ms
    else ⟨n, eraseAt r depth s, o⟩ :: eraseMembers r depth ms
end

/-- A shape without what its text never shows. -/
def erase (r : Renderer) (s : Shape) : Shape := r.eraseAt 0 s

mutual
/-- A shape without what its fields never show: the element of an array is one level deeper. -/
def eraseFields (r : Renderer) : Shape → Shape
  | .array element => .array (r.eraseAt 1 element)
  | .union vs => .union (eraseFieldsAll r vs)
  | s => r.eraseAt 0 s

/-- The alternatives of a union, without what their fields never show. -/
def eraseFieldsAll (r : Renderer) : List Shape → List Shape
  | [] => []
  | s :: ss => eraseFields r s :: eraseFieldsAll r ss
end

theorem eraseAll_eq_map (r : Renderer) (depth : Nat) (ss : List Shape) :
    r.eraseAll depth ss = ss.map (r.eraseAt depth) := by
  induction ss with
  | nil => rfl
  | cons s ss ih => rw [eraseAll, ih, List.map_cons]

theorem eraseMembers_eq_map (r : Renderer) (depth : Nat) (ms : List (Member Shape)) :
    r.eraseMembers depth ms =
      (ms.filter fun m => !isSuppressed m.name).map fun m =>
        ⟨m.name, r.eraseAt depth m.shape, m.optional⟩ := by
  induction ms with
  | nil => rfl
  | cons m ms ih =>
    obtain ⟨n, s, o⟩ := m
    rw [eraseMembers, ih]
    by_cases hn : isSuppressed n = true <;> simp [hn]

theorem eraseFieldsAll_eq_map (r : Renderer) (ss : List Shape) :
    r.eraseFieldsAll ss = ss.map r.eraseFields := by
  induction ss with
  | nil => rfl
  | cons s ss ih => rw [eraseFieldsAll, ih, List.map_cons]

theorem eraseAt_object (r : Renderer) (depth : Nat) (name : Option String)
    (ms : List (Member Shape)) :
    r.eraseAt depth (.object name ms) =
      .object name (if isElided name || r.limit ≤ depth then [] else r.eraseMembers (depth + 1) ms) := by
  rw [eraseAt]
  split <;> rfl

/-! ## Nothing hidden is left -/

mutual
/-- No object in the shape has a member that is hidden where it stands. -/
def BareAt (r : Renderer) (depth : Nat) : Shape → Prop
  | .primitive _ | .literal _ => True
  | .array element => BareAt r depth element
  | .union vs => BareAll r depth vs
  | .named _ _ args => BareAll r (depth + 1) args
  | .object name members =>
    ((isElided name = true ∨ r.limit ≤ depth) → members = []) ∧ BareMembers r (depth + 1) members

/-- No object in any of the shapes has a hidden member. -/
def BareAll (r : Renderer) (depth : Nat) : List Shape → Prop
  | [] => True
  | s :: ss => BareAt r depth s ∧ BareAll r depth ss

/-- No member is hidden, and none is inside. -/
def BareMembers (r : Renderer) (depth : Nat) : List (Member Shape) → Prop
  | [] => True
  | ⟨n, s, _⟩ :: ms => isSuppressed n = false ∧ BareAt r depth s ∧ BareMembers r depth ms
end

theorem bareAll_iff (r : Renderer) (depth : Nat) (ss : List Shape) :
    r.BareAll depth ss ↔ ∀ s ∈ ss, r.BareAt depth s := by
  induction ss with
  | nil => simp [BareAll]
  | cons s ss ih => simp [BareAll, ih]

theorem bareMembers_iff (r : Renderer) (depth : Nat) (ms : List (Member Shape)) :
    r.BareMembers depth ms ↔ ∀ m ∈ ms, isSuppressed m.name = false ∧ r.BareAt depth m.shape := by
  induction ms with
  | nil => simp [BareMembers]
  | cons m ms ih =>
    obtain ⟨n, s, o⟩ := m
    simp [BareMembers, ih, and_assoc]

theorem bareAll_eraseAll {r : Renderer} {depth : Nat} {ss : List Shape}
    (h : ∀ s ∈ ss, ∀ depth, r.BareAt depth (r.eraseAt depth s)) :
    r.BareAll depth (r.eraseAll depth ss) := by
  rw [eraseAll_eq_map, bareAll_iff]
  intro t ht
  obtain ⟨s, hs, rfl⟩ := List.mem_map.1 ht
  exact h s hs depth

/-- **An erased shape has no hidden members.** -/
theorem bareAt_eraseAt (r : Renderer) (s : Shape) :
    ∀ depth, r.BareAt depth (r.eraseAt depth s) := by
  induction s using Shape.induction with
  | primitive name => exact fun _ => trivial
  | literal text => exact fun _ => trivial
  | array element ih => exact ih
  | union vs ih => exact fun depth => bareAll_eraseAll ih
  | named name module args ih => exact fun depth => bareAll_eraseAll ih
  | object name ms ih =>
    intro depth
    rw [eraseAt_object, BareAt]
    split
    · exact ⟨fun _ => rfl, trivial⟩
    · rename_i hshown
      simp only [Bool.or_eq_true, decide_eq_true_eq] at hshown
      refine ⟨fun h => absurd h hshown, ?_⟩
      rw [eraseMembers_eq_map, bareMembers_iff]
      intro m' hm'
      obtain ⟨m, hm, rfl⟩ := List.mem_map.1 hm'
      obtain ⟨hmem, hn⟩ := List.mem_filter.1 hm
      exact ⟨by simpa using hn, ih m hmem (depth + 1)⟩

/-! ## Erased shapes are written alike -/

section
variable {r : Renderer}

theorem map_formatAt_eraseAt {ss : List Shape}
    (h : ∀ s ∈ ss, ∀ depth,
      r.alternativeTexts depth (r.eraseAt depth s) = r.alternativeTexts depth s) (depth : Nat) :
    (r.eraseAll depth ss).map (r.formatAt depth) = ss.map (r.formatAt depth) := by
  rw [eraseAll_eq_map, List.map_map]
  apply List.map_congr_left
  intro s hs
  rw [Function.comp_apply, formatAt_eq_join, h s hs, ← formatAt_eq_join]

theorem formatMembers_eraseMembers {ms : List (Member Shape)}
    (h : ∀ m ∈ ms, ∀ depth,
      r.alternativeTexts depth (r.eraseAt depth m.shape) = r.alternativeTexts depth m.shape)
    (depth : Nat) : r.formatMembers depth (r.eraseMembers depth ms) = r.formatMembers depth ms := by
  rw [eraseMembers_eq_map, formatMembers_eq_map, formatMembers_eq_map, List.filter_map,
    List.map_map, List.filter_filter]
  simp only [Function.comp_def, Bool.and_self]
  apply List.map_congr_left
  intro m hm
  rw [formatAt_eq_join, h m (List.mem_filter.1 hm).1, ← formatAt_eq_join]

/-- The induction is on the texts of the alternatives: under an array each of them counts. -/
theorem alternativeTexts_eraseAt (r : Renderer) (s : Shape) :
    ∀ depth, r.alternativeTexts depth (r.eraseAt depth s) = r.alternativeTexts depth s := by
  induction s using Shape.induction with
  | primitive name => exact fun _ => rfl
  | literal text => exact fun _ => rfl
  | array element ih =>
    intro depth
    change [r.formatAt depth (.array (r.eraseAt depth element))] = [r.formatAt depth (.array element)]
    rw [formatAt_array, formatAt_array, ih depth]
  | union vs ih => exact map_formatAt_eraseAt ih
  | named name module args ih =>
    intro depth
    change [r.formatAt depth (.named name module (r.eraseAll (depth + 1) args))] =
      [r.formatAt depth (.named name module args)]
    have hempty : (r.eraseAll (depth + 1) args).isEmpty = args.isEmpty := by
      rw [eraseAll_eq_map, List.isEmpty_map]
    rw [formatAt, formatAt, hempty, formatAll_eq_map, formatAll_eq_map,
      map_formatAt_eraseAt ih (depth + 1)]
  | object name ms ih =>
    intro depth
    rw [eraseAt_object]
    change [r.formatAt depth (.object name _)] = [r.formatAt depth (.object name ms)]
    rw [formatAt, formatAt]
    split
    · rfl
    · rw [formatMembers_eraseMembers ih (depth + 1)]

/-- **An erased shape is written like the shape itself.** -/
theorem formatAt_eraseAt (r : Renderer) (depth : Nat) (s : Shape) :
    r.formatAt depth (r.eraseAt depth s) = r.formatAt depth s := by
  rw [formatAt_eq_join, alternativeTexts_eraseAt, ← formatAt_eq_join]

/-! ## Fields of erased shapes -/

theorem isNullish_eraseAt (depth : Nat) (s : Shape) :
    (r.eraseAt depth s).isNullish = s.isNullish := by
  cases s with
  | object name ms => rw [eraseAt_object]; rfl
  | _ => rfl

theorem isNullish_eraseFields (s : Shape) : (r.eraseFields s).isNullish = s.isNullish := by
  cases s with
  | object name ms => exact isNullish_eraseAt 0 _
  | _ => rfl

theorem fieldsOf_object (hlimit : 0 < r.limit) (name : Option String) (ms : List (Member Shape)) :
    r.fieldsOf (r.eraseAt 0 (.object name ms)) = r.fieldsOf (.object name ms) := by
  have hlevel : decide (r.limit ≤ 0) = false := by simp; omega
  rw [eraseAt_object, fieldsOf, fieldsOf, hlevel, Bool.or_false]
  split
  · rfl
  · rw [eraseMembers_eq_map, List.filter_map, List.map_map, List.filter_filter]
    simp only [Function.comp_def, Bool.and_self, Nat.zero_add, formatAt_eraseAt]

theorem onlyProperties_map {vs : List Shape}
    (h : ∀ v ∈ vs, r.properties (r.eraseFields v) = r.properties v) :
    r.onlyProperties (vs.map r.eraseFields) = r.onlyProperties vs := by
  induction vs with
  | nil => rfl
  | cons v vs ih =>
    have hv := h v List.mem_cons_self
    have hvs := ih fun w hw => h w (List.mem_cons_of_mem _ hw)
    have hall : (vs.map r.eraseFields).all Shape.isNullish = vs.all Shape.isNullish := by
      simp [List.all_map, Function.comp_def, isNullish_eraseFields]
    rw [List.map_cons, onlyProperties, onlyProperties, isNullish_eraseFields, hall, hv, hvs]

/-- **An erased shape has the fields of the shape itself.** -/
theorem properties_eraseFields (hlimit : 0 < r.limit) (s : Shape) :
    r.properties (r.eraseFields s) = r.properties s := by
  induction s using Shape.induction with
  | primitive name => rfl
  | literal text => rfl
  | array element _ =>
    change [(⟨"items", r.formatAt 1 (.array (r.eraseAt 1 element)), true⟩ : Param)] =
      [⟨"items", r.formatAt 1 (.array element), true⟩]
    have htext : r.formatAt 1 (.array (r.eraseAt 1 element)) = r.formatAt 1 (.array element) :=
      formatAt_eraseAt r 1 (.array element)
    rw [htext]
  | union vs ih =>
    rw [eraseFields, properties, properties, eraseFieldsAll_eq_map, onlyProperties_map ih]
  | named name module args _ => rfl
  | object name ms _ =>
    have hfields := fieldsOf_object hlimit name ms
    change r.properties (r.eraseAt 0 (.object name ms)) = r.fieldsOf (.object name ms)
    rw [eraseAt_object] at hfields ⊢
    exact hfields

end

end Renderer

/-! ## Braces inside each other -/

mutual
/-- The texts that a shape itself holds: names and literals. -/
def Shape.words : Shape → List String
  | .primitive name => [name]
  | .literal text => [text]
  | .array element => element.words
  | .union vs => wordsAll vs
  | .named name _ args => name :: wordsAll args
  | .object name members => name.toList ++ wordsOfMembers members

/-- The texts that several shapes hold. -/
def Shape.wordsAll : List Shape → List String
  | [] => []
  | s :: ss => s.words ++ wordsAll ss

/-- The names of members and the texts of their shapes. -/
def Shape.wordsOfMembers : List (Member Shape) → List String
  | [] => []
  | ⟨n, s, _⟩ :: ms => n :: (s.words ++ wordsOfMembers ms)
end

theorem Shape.mem_wordsAll {ss : List Shape} {s : Shape} (hs : s ∈ ss) {t : String}
    (ht : t ∈ s.words) : t ∈ Shape.wordsAll ss := by
  induction ss with
  | nil => cases hs
  | cons u us ih =>
    rw [wordsAll, List.mem_append]
    rcases List.mem_cons.1 hs with rfl | hs
    · exact .inl ht
    · exact .inr (ih hs)

theorem Shape.mem_wordsOfMembers {ms : List (Member Shape)} {m : Member Shape} (hm : m ∈ ms)
    {t : String} (ht : t = m.name ∨ t ∈ m.shape.words) : t ∈ Shape.wordsOfMembers ms := by
  induction ms with
  | nil => cases hm
  | cons n ns ih =>
    obtain ⟨name, s, o⟩ := n
    rw [wordsOfMembers, List.mem_cons, List.mem_append]
    rcases List.mem_cons.1 hm with rfl | hm
    · exact ht.imp_right .inl
    · exact .inr (.inr (ih hm))

/-- Texts put together from given ones, with at most `n` pairs of braces inside each other. -/
inductive Nested (given : String → Prop) : Nat → String → Prop
  | given {n : Nat} {t : String} (h : given t) : Nested given n t
  | append {n : Nat} {t u : String} (ht : Nested given n t) (hu : Nested given n u) :
    Nested given n (t ++ u)
  | braces {n : Nat} {t : String} (ht : Nested given n t) :
    Nested given (n + 1) ("\x7b" ++ t ++ "\x7d")

namespace Nested

variable {given : String → Prop} {n m : Nat} {t : String}

theorem mono (h : Nested given n t) (hnm : n ≤ m) : Nested given m t := by
  induction h generalizing m with
  | given h => exact .given h
  | append _ _ iht ihu => exact .append (iht hnm) (ihu hnm)
  | braces _ ih =>
    obtain ⟨k, rfl⟩ : ∃ k, m = k + 1 := ⟨m - 1, by omega⟩
    exact .braces (ih (by omega))

theorem intercalate {sep : String} (hnil : given "") (hsep : given sep) {ts : List String}
    (h : ∀ t ∈ ts, Nested given n t) : Nested given n (String.intercalate sep ts) := by
  induction ts with
  | nil => exact .given (by simpa using hnil)
  | cons t ts ih =>
    have ht := h t List.mem_cons_self
    have hts := ih fun u hu => h u (List.mem_cons_of_mem _ hu)
    by_cases hne : ts = []
    · simpa [hne] using ht
    · rw [String.intercalate_cons_of_ne_nil hne]
      exact .append (.append ht (.given hsep)) hts

/-- At no point of the text are more braces open than the index says, and in the end none is, if
the given texts have no braces. -/
theorem count_le (h : Nested given n t)
    (hfree : ∀ u, given u → '\x7b' ∉ u.toList ∧ '\x7d' ∉ u.toList) :
    t.toList.count '\x7b' = t.toList.count '\x7d' ∧
      ∀ k, (t.toList.take k).count '\x7b' ≤ (t.toList.take k).count '\x7d' + n := by
  induction h with
  | given h =>
    obtain ⟨hopen, hclose⟩ := hfree _ h
    refine ⟨by rw [List.count_eq_zero.2 hopen, List.count_eq_zero.2 hclose], fun k => ?_⟩
    rw [List.count_eq_zero.2 fun hmem => hopen (List.mem_of_mem_take hmem)]
    omega
  | @append n t u _ _ iht ihu =>
    rw [String.toList_append]
    refine ⟨by rw [List.count_append, List.count_append, iht.1, ihu.1], fun k => ?_⟩
    rw [List.take_append, List.count_append, List.count_append]
    rcases Nat.le_total t.toList.length k with hk | hk
    · have := ihu.2 (k - t.toList.length)
      rw [List.take_of_length_le hk, iht.1]
      omega
    · have := iht.2 k
      rw [Nat.sub_eq_zero_of_le hk, List.take_zero, List.count_nil, List.count_nil]
      omega
  | @braces n t _ ih =>
    have htext : ("\x7b" ++ t ++ "\x7d").toList = '\x7b' :: (t.toList ++ ['\x7d']) := by simp
    rw [htext]
    refine ⟨by simp [List.count_append, ih.1], fun k => ?_⟩
    cases k with
    | zero => simp
    | succ k =>
      have := ih.2 k
      rw [List.take_succ_cons, List.take_append, List.count_cons, List.count_cons,
        List.count_append, List.count_append]
      have hlast : (['\x7d'].take (k - t.toList.length)).count '\x7b' = 0 :=
        List.count_eq_zero.2 fun hmem => by
          have := List.mem_of_mem_take hmem
          simp at this
      rw [hlast]
      simp only [beq_self_eq_true, if_true]
      omega

end Nested

namespace Renderer

/-- What is written between the words of a shape. -/
def punctuation : List String := ["", " | ", "[]", "<", ", ", ">", ": ", " ", "; ", "object"]

section
variable {r : Renderer} {given : String → Prop} {n depth : Nat}

theorem nested_joinVariants (hmarks : ∀ t ∈ punctuation, given t) {texts : List String}
    (h : ∀ t ∈ texts, Nested given n t) : Nested given n (joinVariants texts) := by
  rw [joinVariants_eq]
  refine Nested.intercalate (hmarks _ (by decide)) (hmarks _ (by decide)) fun t ht => ?_
  exact h t (mem_distinctTexts.1 ht)

theorem nested_formatAt_of_alternatives (hmarks : ∀ t ∈ punctuation, given t) {s : Shape}
    (h : ∀ t ∈ r.alternativeTexts depth s, Nested given n t) :
    Nested given n (r.formatAt depth s) := by
  rw [formatAt_eq_join]
  exact nested_joinVariants hmarks h

/-- The fields of an object that is written out, between braces. -/
theorem nested_fields (hmarks : ∀ t ∈ punctuation, given t) {fields : List String}
    (h : ∀ t ∈ fields, Nested given n t) :
    Nested given (n + 1) ("\x7b " ++ String.intercalate "; " fields ++ "; \x7d") := by
  have hinner : Nested given n (" " ++ String.intercalate "; " fields ++ "; ") :=
    .append (.append (.given (hmarks _ (by decide)))
      (Nested.intercalate (hmarks _ (by decide)) (hmarks _ (by decide)) h))
      (.given (hmarks _ (by decide)))
  have htext : "\x7b " ++ String.intercalate "; " fields ++ "; \x7d" =
      "\x7b" ++ (" " ++ String.intercalate "; " fields ++ "; ") ++ "\x7d" := by
    apply String.toList_injective
    simp
  rw [htext]
  exact .braces hinner

/-- One pair of braces for each level that is left, at every alternative. -/
theorem nested_alternativeTexts (hmarks : ∀ t ∈ punctuation, given t) (s : Shape) :
    (∀ t ∈ s.words, given t) → ∀ depth, ∀ t ∈ r.alternativeTexts depth s,
      Nested given (r.limit - depth) t := by
  induction s using Shape.induction with
  | primitive name =>
    intro hwords depth t ht
    exact .given (hwords t ht)
  | literal text =>
    intro hwords depth t ht
    exact .given (hwords t ht)
  | array element ih =>
    intro hwords depth t ht
    rw [List.mem_singleton.1 ht, formatAt_array]
    refine nested_joinVariants hmarks fun u hu => ?_
    obtain ⟨v, hv, rfl⟩ := List.mem_map.1 hu
    exact .append (ih hwords depth v hv) (.given (hmarks _ (by decide)))
  | union vs ih =>
    intro hwords depth t ht
    obtain ⟨v, hv, rfl⟩ := List.mem_map.1 ht
    refine nested_formatAt_of_alternatives hmarks (ih v hv (fun t ht => ?_) depth)
    exact hwords t (Shape.mem_wordsAll hv ht)
  | named name module args ih =>
    intro hwords depth t ht
    have hname : given name := hwords name (by simp [Shape.words])
    rw [List.mem_singleton.1 ht, formatAt]
    split
    · exact .given hname
    · have hargs : ∀ u ∈ r.formatAll (depth + 1) args, Nested given (r.limit - depth) u := by
        intro u hu
        rw [formatAll_eq_map] at hu
        obtain ⟨a, ha, rfl⟩ := List.mem_map.1 hu
        refine (nested_formatAt_of_alternatives hmarks
          (ih a ha (fun t ht => ?_) (depth + 1))).mono (by omega)
        exact hwords t (by simp [Shape.words, Shape.mem_wordsAll ha ht])
      exact .append (.append (.append (.given hname) (.given (hmarks _ (by decide))))
        (Nested.intercalate (hmarks _ (by decide)) (hmarks _ (by decide)) hargs))
        (.given (hmarks _ (by decide)))
  | object name ms ih =>
    intro hwords depth t ht
    have hname : ∀ other, Nested given (r.limit - depth) other →
        Nested given (r.limit - depth) (name.getD other) := by
      intro other hother
      cases name with
      | none => exact hother
      | some n => exact .given (hwords n (by simp [Shape.words]))
    rw [List.mem_singleton.1 ht, formatAt]
    split
    · exact hname _ (.given (hmarks _ (by decide)))
    · rename_i hshown
      simp only [Bool.or_eq_true, decide_eq_true_eq, not_or, Nat.not_le] at hshown
      -- A level is left for the braces of this object.
      obtain ⟨left, hleft⟩ : ∃ left, r.limit - depth = left + 1 := ⟨r.limit - depth - 1, by omega⟩
      have hfields : ∀ u ∈ r.formatMembers (depth + 1) ms, Nested given left u := by
        intro u hu
        rw [formatMembers_eq_map] at hu
        obtain ⟨m, hm, rfl⟩ := List.mem_map.1 hu
        have hmem := (List.mem_filter.1 hm).1
        have hword : ∀ t, t = m.name ∨ t ∈ m.shape.words → given t := fun t ht =>
          hwords t (by simp [Shape.words, Shape.mem_wordsOfMembers hmem ht])
        have hshape := nested_formatAt_of_alternatives hmarks
          (ih m hmem (fun t ht => hword t (.inr ht)) (depth + 1))
        exact .append (.append (.given (hword _ (.inl rfl))) (.given (hmarks _ (by decide))))
          (hshape.mono (by omega))
      dsimp only
      split
      · refine hname _ ?_
        rw [hleft]
        exact .braces (.given (hmarks "" (by decide)))
      · rw [hleft]
        exact nested_fields hmarks hfields

/-- **Braces are nested no deeper than the levels that are left.** -/
theorem nested_formatAt (r : Renderer) (depth : Nat) (s : Shape) :
    Nested (fun t => t ∈ s.words ∨ t ∈ punctuation) (r.limit - depth) (r.formatAt depth s) :=
  nested_formatAt_of_alternatives (fun _ ht => .inr ht)
    (nested_alternativeTexts (fun _ ht => .inr ht) s (fun _ ht => .inl ht) depth)

end

/-! ## Rendering hides -/

/-- **Rendering never shows hidden structure**, for every depth limit: a shape is written, and has
the fields, as if its hidden members were not there; so shapes that differ in nothing else look the
same.  No more objects are written out inside each other than the limit says, which for words
without braces can be counted in the text. -/
theorem hidden_members_stay_hidden (limit : Nat) (s : Shape) :
    let r := Renderer.ofDepth limit
    (r.BareAt 0 (r.erase s) ∧ r.format s = r.format (r.erase s)) ∧
    r.properties s = r.properties (r.eraseFields s) ∧
    (∀ s', r.erase s = r.erase s' → r.format s = r.format s') ∧
    (∀ s', r.eraseFields s = r.eraseFields s' → r.properties s = r.properties s') ∧
    Nested (fun t => t ∈ s.words ∨ t ∈ punctuation) (max limit 1) (r.format s) ∧
    ((∀ t ∈ s.words, '\x7b' ∉ t.toList ∧ '\x7d' ∉ t.toList) →
      ∀ k, ((r.format s).toList.take k).count '\x7b' ≤
        ((r.format s).toList.take k).count '\x7d' + max limit 1) := by
  intro r
  have hlimit : 0 < r.limit := Nat.lt_of_lt_of_le Nat.one_pos (Nat.le_max_right limit 1)
  have hformat : ∀ s, r.format s = r.format (r.erase s) := fun s => (formatAt_eraseAt r 0 s).symm
  have hfields : ∀ s, r.properties s = r.properties (r.eraseFields s) := fun s =>
    (properties_eraseFields hlimit s).symm
  have hnested : Nested _ (max limit 1) (r.format s) := nested_formatAt r 0 s
  refine ⟨⟨bareAt_eraseAt r s 0, hformat s⟩, hfields s, fun s' h => ?_, fun s' h => ?_, hnested,
    fun hwords => (hnested.count_le fun u hu => ?_).2⟩
  · rw [hformat s, h, ← hformat s']
  · rw [hfields s, h, ← hfields s']
  · rcases hu with hu | hu
    · exact hwords u hu
    · revert u
      decide

end Renderer

namespace PlacedUser

/-- A user at a place, with a logger that is not part of the data. -/
def logged : Shape :=
  .object none [⟨"id", .primitive "number", false⟩, ⟨"log", .ofName "Logger", false⟩,
    ⟨"place", .object (some "Place") [⟨"lat", .primitive "number", false⟩], true⟩]

/-- The same user, at a place of which other things are known. -/
def named : Shape :=
  .object none [⟨"id", .primitive "number", false⟩,
    ⟨"place", .object (some "Place") [⟨"name", .primitive "string", false⟩], true⟩]

/-- One level down, neither the logger nor what is known of the place can be told. -/
theorem written_alike :
    (Renderer.ofDepth 1).erase logged = (Renderer.ofDepth 1).erase named ∧
      (Renderer.ofDepth 1).format logged = (Renderer.ofDepth 1).format named ∧
      (Renderer.ofDepth 1).properties logged = (Renderer.ofDepth 1).properties named ∧
      ∀ k, (((Renderer.ofDepth 1).format logged).toList.take k).count '\x7b' ≤
        (((Renderer.ofDepth 1).format logged).toList.take k).count '\x7d' + 1 := by
  have herase : (Renderer.ofDepth 1).erase logged = (Renderer.ofDepth 1).erase named := by
    decide +kernel
  have hfields : (Renderer.ofDepth 1).eraseFields logged = (Renderer.ofDepth 1).eraseFields named := by
    decide +kernel
  have hwords : ∀ t ∈ logged.words, '\x7b' ∉ t.toList ∧ '\x7d' ∉ t.toList := by decide
  obtain ⟨-, -, hformat, hproperties, -, hcount⟩ := Renderer.hidden_members_stay_hidden 1 logged
  exact ⟨herase, hformat named herase, hproperties named hfields, hcount hwords⟩

end PlacedUser

end RouteInventory
