import Mathlib
import RouteInventory.Proofs.ShapeTexts

/-!
# Alternatives under arrays

A rendered type has no parentheses: `A[] | B[]` is the array of a union, and a reader takes it apart
at the bars.  `Shape.alts` says which alternatives a shape has, with `[]` behind each alternative of
an array's element, and `alternativesIn` which ones a text lists.

The mark `[]` is written behind the texts of the element's alternatives (`Shape.MarkedIn`).  Where
one of these has alternatives of its own, as in an array of arrays of a union, the mark stands
behind the last of them only, and the text reads as another type.

* `alternativesIn_intercalate` — texts without bars are read back from a list of them.
* `singleton_of_marked` — a mark behind a text applies to all of it only if that is one alternative.
* `reads_of_settled` — shapes whose marks stand behind single alternatives are read rightly.
* `marks_apply_iff_settled` — and only these, at every place in the shape.
-/

namespace RouteInventory

/-! ## Texts with bars -/

/-- The characters between the bars of a text. -/
def splitBars : List Char → List (List Char)
  | ' ' :: '|' :: ' ' :: cs => [] :: splitBars cs
  | c :: cs => (splitBars cs).modifyHead (c :: ·)
  | [] => [[]]

/-- The alternatives that a text lists, between bars. -/
def alternativesIn (text : String) : List String := (splitBars text.toList).map String.ofList

/-- A text that is read back as one alternative, whatever follows behind a bar. -/
def Solid (text : String) : Prop :=
  ¬ [' ', '|', ' '] <:+: text.toList ∧ ¬ [' ', '|'] <:+ text.toList

instance (text : String) : Decidable (Solid text) := instDecidableAnd

theorem splitBars_cons {c : Char} {cs : List Char} (h : ¬ [' ', '|', ' '] <+: c :: cs) :
    splitBars (c :: cs) = (splitBars cs).modifyHead (c :: ·) := by
  rw [splitBars]
  rintro rest rfl rfl
  exact h ⟨rest, rfl⟩

theorem splitBars_of_free {cs : List Char} (h : ¬ [' ', '|', ' '] <:+: cs) :
    splitBars cs = [cs] := by
  induction cs with
  | nil => rfl
  | cons c cs ih =>
    rw [List.infix_cons_iff, not_or] at h
    rw [splitBars_cons h.1, ih h.2]
    rfl

theorem splitBars_append {cs : List Char} (hfree : ¬ [' ', '|', ' '] <:+: cs)
    (hend : ¬ [' ', '|'] <:+ cs) (rest : List Char) :
    splitBars (cs ++ ' ' :: '|' :: ' ' :: rest) = cs :: splitBars rest := by
  induction cs with
  | nil => rfl
  | cons c cs ih =>
    rw [List.infix_cons_iff, not_or] at hfree
    rw [List.suffix_cons_iff, not_or] at hend
    have hstart : ¬ [' ', '|', ' '] <+: c :: (cs ++ ' ' :: '|' :: ' ' :: rest) := by
      rintro ⟨more, hmore⟩
      simp only [List.cons_append, List.nil_append, List.cons.injEq] at hmore
      obtain ⟨rfl, hmore⟩ := hmore
      -- The bar would begin here and end in `cs`, or begin with the last two characters.
      cases cs with
      | nil => simp at hmore
      | cons d ds =>
        simp only [List.cons_append, List.cons.injEq] at hmore
        obtain ⟨rfl, hmore⟩ := hmore
        cases ds with
        | nil => exact hend.1 rfl
        | cons d ds =>
          simp only [List.cons_append, List.cons.injEq] at hmore
          obtain ⟨rfl, -⟩ := hmore
          exact hfree.1 ⟨ds, rfl⟩
    rw [List.cons_append, splitBars_cons hstart, ih hfree.2 hend.2]
    rfl

theorem alternativesIn_of_solid {text : String} (h : Solid text) : alternativesIn text = [text] := by
  rw [alternativesIn, splitBars_of_free h.1]
  simp

/-- Texts without bars are read back from a list of them. -/
theorem alternativesIn_intercalate {texts : List String} (hne : texts ≠ [])
    (hsolid : ∀ t ∈ texts, Solid t) :
    alternativesIn (String.intercalate " | " texts) = texts := by
  induction texts with
  | nil => exact absurd rfl hne
  | cons t ts ih =>
    have ht := hsolid t List.mem_cons_self
    by_cases hts : ts = []
    · subst hts
      simpa using alternativesIn_of_solid ht
    · have hlist : (String.intercalate " | " (t :: ts)).toList =
          t.toList ++ ' ' :: '|' :: ' ' :: (String.intercalate " | " ts).toList := by
        rw [String.intercalate_cons_of_ne_nil hts]
        simp
      have hrest := ih hts fun u hu => hsolid u (List.mem_cons_of_mem _ hu)
      rw [alternativesIn] at hrest ⊢
      rw [hlist, splitBars_append ht.1 ht.2, List.map_cons, hrest, String.ofList_toList]

theorem Solid.append_mark {text : String} (h : Solid text) : Solid (text ++ "[]") := by
  have htext : (text ++ "[]").toList = text.toList ++ ['['] ++ [']'] := by simp
  constructor
  · rw [htext, List.infix_concat_iff, List.suffix_concat_iff, List.infix_concat_iff,
      List.suffix_concat_iff]
    have hlast : ∀ {c : Char} {cs : List Char}, c ≠ ' ' → [' ', '|', ' '] ≠ cs ++ [c] := by
      intro c cs hc heq
      have := congrArg List.getLast? heq
      simp at this
      exact hc this.symm
    rintro ((hnil | ⟨cs, heq, -⟩) | (hnil | ⟨cs, heq, -⟩) | hin)
    · cases hnil
    · exact hlast (by decide) heq
    · cases hnil
    · exact hlast (by decide) heq
    · exact h.1 hin
  · rw [htext, List.suffix_concat_iff]
    rintro (hnil | ⟨cs, heq, -⟩)
    · cases hnil
    · have := congrArg List.getLast? heq
      simp at this

/-- A text made of solid ones, with bars between them. -/
def Tidy (text : String) : Prop :=
  ∃ texts, texts ≠ [] ∧ (∀ t ∈ texts, Solid t) ∧ text = String.intercalate " | " texts

theorem Solid.tidy {text : String} (h : Solid text) : Tidy text :=
  ⟨[text], List.cons_ne_nil _ _, by simpa using h, by simp⟩

/-- A mark behind a text goes to the last alternative in it. -/
theorem Tidy.append_mark {text : String} (h : Tidy text) :
    Tidy (text ++ "[]") ∧ ∃ before last, alternativesIn text = before ++ [last] ∧
      alternativesIn (text ++ "[]") = before ++ [last ++ "[]"] := by
  obtain ⟨texts, hne, hsolid, rfl⟩ := h
  obtain ⟨before, last, rfl⟩ : ∃ before last, texts = before ++ [last] :=
    ⟨_, _, (List.dropLast_append_getLast hne).symm⟩
  have hmarked : String.intercalate " | " (before ++ [last]) ++ "[]" =
      String.intercalate " | " (before ++ [last ++ "[]"]) := by
    by_cases hbefore : before = []
    · simp [hbefore]
    · rw [String.intercalate_append_of_ne_nil hbefore (List.cons_ne_nil _ _),
        String.intercalate_append_of_ne_nil hbefore (List.cons_ne_nil _ _)]
      simp [String.append_assoc]
  have hsolid' : ∀ t ∈ before ++ [last ++ "[]"], Solid t := by
    intro t ht
    rcases List.mem_append.1 ht with ht | ht
    · exact hsolid t (List.mem_append_left _ ht)
    · rw [List.mem_singleton.1 ht]
      exact (hsolid last (by simp)).append_mark
  have hne' : before ++ [last ++ "[]"] ≠ [] := by simp
  refine ⟨⟨_, hne', hsolid', hmarked⟩, before, last, ?_, ?_⟩
  · exact alternativesIn_intercalate hne hsolid
  · rw [hmarked, alternativesIn_intercalate hne' hsolid']

theorem intercalate_flatten {parts : List (List String)} (h : ∀ ts ∈ parts, ts ≠ []) :
    String.intercalate " | " (parts.map (String.intercalate " | ")) =
      String.intercalate " | " parts.flatten := by
  induction parts with
  | nil => rfl
  | cons ts parts ih =>
    have hts := h ts List.mem_cons_self
    have hrest := ih fun us hus => h us (List.mem_cons_of_mem _ hus)
    cases parts with
    | nil => simp
    | cons us parts =>
      have hflat : (us :: parts).flatten ≠ [] := by
        rw [List.flatten_cons]
        exact List.append_ne_nil_of_left_ne_nil (h us (by simp)) _
      rw [List.map_cons, String.intercalate_cons_of_ne_nil (by simp), hrest,
        ← String.intercalate_append_of_ne_nil hts hflat, ← List.flatten_cons]

/-- A tidy text is what it lists, with bars in between. -/
theorem Tidy.eq_intercalate {text : String} (h : Tidy text) :
    alternativesIn text ≠ [] ∧ (∀ a ∈ alternativesIn text, Solid a) ∧
      String.intercalate " | " (alternativesIn text) = text := by
  obtain ⟨texts, hne, hsolid, rfl⟩ := h
  rw [alternativesIn_intercalate hne hsolid]
  exact ⟨hne, hsolid, rfl⟩

/-- Tidy texts side by side are one that lists what each of them lists. -/
theorem tidy_joinVariants_of_ne_nil {texts : List String} (hne : texts ≠ [])
    (h : ∀ t ∈ texts, Tidy t) :
    Tidy (Renderer.joinVariants texts) ∧
      ∀ a, a ∈ alternativesIn (Renderer.joinVariants texts) ↔ ∃ t ∈ texts, a ∈ alternativesIn t := by
  have htidy : ∀ t ∈ Renderer.distinctTexts texts, Tidy t := fun t ht =>
    h t (Renderer.mem_distinctTexts.1 ht)
  have hparts : ∀ ts ∈ (Renderer.distinctTexts texts).map alternativesIn, ts ≠ [] := by
    intro ts hts
    obtain ⟨t, ht, rfl⟩ := List.mem_map.1 hts
    exact (htidy t ht).eq_intercalate.1
  have hsame : ((Renderer.distinctTexts texts).map alternativesIn).map (String.intercalate " | ") =
      Renderer.distinctTexts texts := by
    rw [List.map_map]
    conv_rhs => rw [← List.map_id (Renderer.distinctTexts texts)]
    apply List.map_congr_left
    intro t ht
    exact (htidy t ht).eq_intercalate.2.2
  have hjoin : Renderer.joinVariants texts =
      String.intercalate " | " ((Renderer.distinctTexts texts).map alternativesIn).flatten := by
    rw [← intercalate_flatten hparts, hsame, Renderer.joinVariants_eq]
  have hall : ∀ a, a ∈ ((Renderer.distinctTexts texts).map alternativesIn).flatten ↔
      ∃ t ∈ texts, a ∈ alternativesIn t := by
    intro a
    simp [Renderer.mem_distinctTexts]
  have hsolid : ∀ a ∈ ((Renderer.distinctTexts texts).map alternativesIn).flatten, Solid a := by
    intro a ha
    obtain ⟨t, ht, hat⟩ := (hall a).1 ha
    exact (h t ht).eq_intercalate.2.1 a hat
  have hsome : ((Renderer.distinctTexts texts).map alternativesIn).flatten ≠ [] := by
    obtain ⟨t, ht⟩ := List.exists_mem_of_ne_nil texts hne
    obtain ⟨a, ha⟩ := List.exists_mem_of_ne_nil _ (h t ht).eq_intercalate.1
    exact List.ne_nil_of_mem ((hall a).2 ⟨t, ht, ha⟩)
  refine ⟨⟨_, hsome, hsolid, hjoin⟩, fun a => ?_⟩
  rw [hjoin, alternativesIn_intercalate hsome hsolid, hall]

theorem tidy_joinVariants {texts : List String} (h : ∀ t ∈ texts, Tidy t) :
    Tidy (Renderer.joinVariants texts) := by
  by_cases hne : texts = []
  · subst hne
    exact Solid.tidy (by decide)
  · exact (tidy_joinVariants_of_ne_nil hne h).1

/-- **A mark applies to all that stands before it only if that is one alternative**: of several, the
longest ones need a mark and only the last one gets it, while a shortest one must not go without. -/
theorem singleton_of_marked (before : List String) (last : String)
    (h : ∀ t, t ∈ before ++ [last ++ "[]"] ↔ ∃ a ∈ before ++ [last], t = a ++ "[]") :
    before = [] := by
  by_contra hne
  obtain ⟨first, hfirst⟩ := List.exists_mem_of_ne_nil before hne
  have hnonempty : (before ++ [last]).toFinset.Nonempty := ⟨last, by simp⟩
  obtain ⟨longest, hlongest, hmax⟩ := Finset.exists_max_image _ String.length hnonempty
  obtain ⟨shortest, hshortest, hmin⟩ := Finset.exists_min_image _ String.length hnonempty
  simp only [List.mem_toFinset] at hlongest hmax hshortest hmin
  -- The longest one is the last.
  have hlast : longest = last := by
    rcases List.mem_append.1 ((h (longest ++ "[]")).2 ⟨longest, hlongest, rfl⟩) with hmem | hmem
    · have := hmax _ (List.mem_append_left _ hmem)
      rw [String.length_append] at this
      simp at this
    · simpa using hmem
  -- Every other one has a mark, so that a shorter one exists.
  have hshorter : ∀ t ∈ before, ∃ a ∈ before ++ [last], a.length < t.length := by
    intro t ht
    obtain ⟨a, ha, rfl⟩ := (h t).1 (List.mem_append_left _ ht)
    have hmark : "[]".length = 2 := rfl
    exact ⟨a, ha, by rw [String.length_append]; omega⟩
  obtain ⟨a, ha, hlt⟩ := hshorter first hfirst
  rcases List.mem_append.1 hshortest with hmem | hmem
  · obtain ⟨b, hb, hlt'⟩ := hshorter shortest hmem
    have := hmin b hb
    omega
  · have hle := hmax first (List.mem_append_left _ hfirst)
    have hge := hmin a ha
    rw [List.mem_singleton.1 hmem, ← hlast] at hge
    omega

/-! ## Alternatives of shapes -/

namespace Shape

mutual
/-- The alternatives of a shape made of names, literals, arrays and unions. -/
def alts : Shape → List String
  | .primitive name => [name]
  | .literal text => [text]
  | .array element => (alts element).map (· ++ "[]")
  | .union vs => altsAll vs
  | .object _ _ | .named _ _ _ => []

/-- The alternatives of several shapes. -/
def altsAll : List Shape → List String
  | [] => []
  | s :: ss => alts s ++ altsAll ss
end

theorem mem_altsAll {ss : List Shape} {a : String} : a ∈ altsAll ss ↔ ∃ s ∈ ss, a ∈ s.alts := by
  induction ss with
  | nil => simp [altsAll]
  | cons s ss ih => simp [altsAll, ih]

theorem mem_alts_alternatives {s : Shape} {a : String} :
    a ∈ s.alts ↔ ∃ v ∈ s.alternatives, a ∈ v.alts := by
  cases s with
  | union vs => exact mem_altsAll
  | _ => simp [alternatives]

/-- Shapes made of arrays and unions, from texts without bars. -/
inductive Plain : Shape → Prop
  | primitive {name : String} (h : Solid name) : Plain (.primitive name)
  | literal {text : String} (h : Solid text) : Plain (.literal text)
  | array {element : Shape} (h : Plain element) : Plain (.array element)
  | union {vs : List Shape} (h : ∀ v ∈ vs, Plain v) : Plain (.union vs)

/-- The first shape stands in the second, under arrays and unions. -/
inductive Inside : Shape → Shape → Prop
  | self (s : Shape) : Inside s s
  | array {s element : Shape} (h : Inside s element) : Inside s (.array element)
  | union {s v : Shape} {vs : List Shape} (hv : v ∈ vs) (h : Inside s v) : Inside s (.union vs)

/-- A mark is written behind the text of the first shape when the second is written: it is an
alternative of the element of an array. -/
def MarkedIn (s e : Shape) : Prop :=
  ∃ element, Inside (.array element) e ∧ s ∈ element.alternatives

/-- No union is empty, and a mark is only written behind shapes with a single alternative. -/
structure Settled (e : Shape) : Prop where
  nonempty : ∀ vs, Inside (.union vs) e → vs ≠ []
  single : ∀ s : Shape, s.MarkedIn e → ∃ a, ∀ t, t ∈ s.alts ↔ t = a

theorem Inside.trans {s t u : Shape} (h : Inside s t) (h' : Inside t u) : Inside s u := by
  induction h' with
  | self => exact h
  | array _ ih => exact .array ih
  | union hv _ ih => exact .union hv ih

theorem inside_of_mem_alternatives {v s : Shape} (h : v ∈ s.alternatives) : Inside v s := by
  cases s with
  | union vs => exact .union h (.self v)
  | _ => rw [List.mem_singleton.1 h]; exact .self _

theorem MarkedIn.inside {s e : Shape} (h : s.MarkedIn e) : Inside s e := by
  obtain ⟨element, helement, hmem⟩ := h
  exact ((inside_of_mem_alternatives hmem).trans (.array (.self element))).trans helement

theorem Plain.of_inside {s e : Shape} (he : e.Plain) (h : Inside s e) : s.Plain := by
  induction h with
  | self => exact he
  | array _ ih => cases he with | array he => exact ih he
  | union hv _ ih => cases he with | union he => exact ih (he _ hv)

theorem Settled.of_inside {s e : Shape} (he : e.Settled) (h : Inside s e) : s.Settled where
  nonempty vs hvs := he.nonempty vs (hvs.trans h)
  single t ht := by
    obtain ⟨element, helement, hmem⟩ := ht
    exact he.single t ⟨element, helement.trans h, hmem⟩

theorem settled_primitive (name : String) : Settled (.primitive name) where
  nonempty vs h := nomatch h
  single s h := by
    obtain ⟨element, h, -⟩ := h
    cases h

theorem Settled.union {vs : List Shape} (hne : vs ≠ []) (h : ∀ v ∈ vs, v.Settled) :
    Settled (.union vs) where
  nonempty us hus := by
    cases hus with
    | self => exact hne
    | union hv hus => exact (h _ hv).nonempty us hus
  single s hs := by
    obtain ⟨element, helement, hmem⟩ := hs
    cases helement with
    | union hv helement => exact (h _ hv).single s ⟨element, helement, hmem⟩

theorem Settled.array {e : Shape} (h : e.Settled)
    (hsingle : ∀ v ∈ e.alternatives, ∃ a, ∀ t, t ∈ v.alts ↔ t = a) : Settled (.array e) where
  nonempty vs hvs := by
    cases hvs with
    | array hvs => exact h.nonempty vs hvs
  single s hs := by
    obtain ⟨element, helement, hmem⟩ := hs
    cases helement with
    | self => exact hsingle s hmem
    | array helement => exact h.single s ⟨element, helement, hmem⟩

theorem exists_mem_alts {e : Shape} (hplain : e.Plain) (he : e.Settled) : ∃ a, a ∈ e.alts := by
  induction hplain with
  | primitive _ => exact ⟨_, List.mem_cons_self⟩
  | literal _ => exact ⟨_, List.mem_cons_self⟩
  | array _ ih =>
    obtain ⟨a, ha⟩ := ih (he.of_inside (.array (.self _)))
    exact ⟨a ++ "[]", List.mem_map.2 ⟨a, ha, rfl⟩⟩
  | @union vs _ ih =>
    obtain ⟨v, hv⟩ := List.exists_mem_of_ne_nil vs (he.nonempty vs (.self _))
    obtain ⟨a, ha⟩ := ih v hv (he.of_inside (.union hv (.self v)))
    exact ⟨a, mem_altsAll.2 ⟨v, hv, ha⟩⟩

theorem Plain.solid_of_mem_alts {e : Shape} (he : e.Plain) {a : String} (ha : a ∈ e.alts) :
    Solid a := by
  induction he generalizing a with
  | primitive h => rwa [List.mem_singleton.1 ha]
  | literal h => rwa [List.mem_singleton.1 ha]
  | array _ ih =>
    obtain ⟨b, hb, rfl⟩ := List.mem_map.1 ha
    exact (ih hb).append_mark
  | union _ ih =>
    obtain ⟨v, hv, ha⟩ := mem_altsAll.1 ha
    exact ih v hv ha

end Shape

/-! ## Reading the text of a shape -/

namespace Renderer

open Shape

variable {r : Renderer} {depth : Nat}

/-- The text of a shape lists its alternatives. -/
def Reads (r : Renderer) (depth : Nat) (s : Shape) : Prop :=
  ∀ t, t ∈ alternativesIn (r.formatAt depth s) ↔ t ∈ s.alts

/-- A mark behind the text of a shape applies to all of it. -/
def MarksAll (r : Renderer) (depth : Nat) (s : Shape) : Prop :=
  ∀ t, t ∈ alternativesIn (r.formatAt depth s ++ "[]") ↔ ∃ a ∈ s.alts, t = a ++ "[]"

theorem tidy_alternativeTexts {s : Shape} (hs : s.Plain) :
    ∀ t ∈ r.alternativeTexts depth s, Tidy t := by
  induction hs with
  | primitive h => exact fun t ht => List.mem_singleton.1 ht ▸ h.tidy
  | literal h => exact fun t ht => List.mem_singleton.1 ht ▸ h.tidy
  | array _ ih =>
    intro t ht
    rw [List.mem_singleton.1 ht, formatAt_array]
    refine tidy_joinVariants fun u hu => ?_
    obtain ⟨v, hv, rfl⟩ := List.mem_map.1 hu
    exact (ih v hv).append_mark.1
  | union _ ih =>
    intro t ht
    obtain ⟨v, hv, rfl⟩ := List.mem_map.1 ht
    rw [formatAt_eq_join]
    exact tidy_joinVariants (ih v hv)

theorem tidy_formatAt (r : Renderer) (depth : Nat) {s : Shape} (hs : s.Plain) :
    Tidy (r.formatAt depth s) := by
  rw [formatAt_eq_join]
  exact tidy_joinVariants (tidy_alternativeTexts hs)

theorem joinVariants_const {texts : List String} {a : String} (hne : texts ≠ [])
    (h : ∀ t ∈ texts, t = a) : joinVariants texts = a := by
  have hfold : ∀ ts : List String, (∀ t ∈ ts, t = a) →
      ts.foldl (fun acc t => if t ∈ acc then acc else acc ++ [t]) [a] = [a] := by
    intro ts hts
    induction ts with
    | nil => rfl
    | cons t ts ih =>
      rw [List.foldl_cons, if_pos (by simp [hts t List.mem_cons_self])]
      exact ih fun u hu => hts u (List.mem_cons_of_mem _ hu)
  cases texts with
  | nil => exact absurd rfl hne
  | cons t ts =>
    have ht : t = a := h t List.mem_cons_self
    subst ht
    have hdistinct : distinctTexts (t :: ts) = [t] :=
      hfold ts fun u hu => h u (List.mem_cons_of_mem _ hu)
    rw [joinVariants_eq, hdistinct, String.intercalate_singleton]

theorem alternativeTexts_ne_nil {s : Shape} (hs : s.Settled) : r.alternativeTexts depth s ≠ [] := by
  cases s with
  | union vs =>
    have := hs.nonempty vs (.self _)
    simpa [alternativeTexts_union] using this
  | _ => simp [alternativeTexts, alternatives]

/-- A settled shape with one alternative is written as that alternative. -/
theorem alternativeTexts_of_single {s : Shape} (hplain : s.Plain) :
    ∀ {a : String}, s.Settled → (∀ t, t ∈ s.alts ↔ t = a) →
      ∀ t ∈ r.alternativeTexts depth s, t = a := by
  induction hplain with
  | primitive _ =>
    intro a _ hsingle t ht
    exact (hsingle t).1 ht
  | literal _ =>
    intro a _ hsingle t ht
    exact (hsingle t).1 ht
  | @array element hplain ih =>
    intro a hs hsingle t ht
    have helement := hs.of_inside (.array (.self element))
    obtain ⟨b, hb⟩ := exists_mem_alts hplain helement
    have ha : b ++ "[]" = a := (hsingle _).1 (List.mem_map.2 ⟨b, hb, rfl⟩)
    have hone : ∀ t, t ∈ element.alts ↔ t = b := by
      refine fun t => ⟨fun ht => ?_, fun ht => ht ▸ hb⟩
      have := (hsingle _).1 (List.mem_map.2 ⟨t, ht, rfl⟩)
      simpa [← ha] using this
    rw [List.mem_singleton.1 ht, formatAt_array, ← ha]
    refine joinVariants_const (by simpa using alternativeTexts_ne_nil helement) fun u hu => ?_
    obtain ⟨v, hv, rfl⟩ := List.mem_map.1 hu
    rw [ih helement hone v hv]
  | @union vs hplain ih =>
    intro a hs hsingle t ht
    obtain ⟨v, hv, rfl⟩ := List.mem_map.1 ht
    have hsettled := hs.of_inside (.union hv (.self v))
    obtain ⟨b, hb⟩ := exists_mem_alts (hplain v hv) hsettled
    have honly : ∀ t ∈ v.alts, t = a := fun t ht => (hsingle t).1 (mem_altsAll.2 ⟨v, hv, ht⟩)
    have hone : ∀ t, t ∈ v.alts ↔ t = a :=
      fun t => ⟨honly t, fun ht => by rw [ht, ← honly b hb]; exact hb⟩
    rw [formatAt_eq_join]
    exact joinVariants_const (alternativeTexts_ne_nil hsettled) (ih v hv hsettled hone)

theorem marksAll_of_single {s : Shape} (hplain : s.Plain) (hs : s.Settled) {a : String}
    (hsingle : ∀ t, t ∈ s.alts ↔ t = a) : r.MarksAll depth s := by
  have htext : r.formatAt depth s = a := by
    rw [formatAt_eq_join]
    exact joinVariants_const (alternativeTexts_ne_nil hs)
      (alternativeTexts_of_single hplain hs hsingle)
  have hsolid : Solid a := hplain.solid_of_mem_alts ((hsingle a).2 rfl)
  intro t
  rw [htext, alternativesIn_of_solid hsolid.append_mark]
  simp [hsingle]

theorem single_of_marksAll {s : Shape} (hplain : s.Plain) (hreads : r.Reads depth s)
    (hmarks : r.MarksAll depth s) : ∃ a, ∀ t, t ∈ s.alts ↔ t = a := by
  obtain ⟨-, before, last, hlist, hmarked⟩ := (tidy_formatAt r depth hplain).append_mark
  have halts : ∀ t, t ∈ before ++ [last] ↔ t ∈ s.alts := fun t => by rw [← hlist]; exact hreads t
  have hone : before = [] := by
    refine singleton_of_marked before last fun t => ?_
    rw [← hmarked, hmarks t]
    exact exists_congr fun a => and_congr_left' (halts a).symm
  refine ⟨last, fun t => ?_⟩
  rw [← halts t, hone, List.nil_append, List.mem_singleton]

theorem reads_array {element : Shape} (hplain : element.Plain)
    (hne : r.alternativeTexts depth element ≠ [])
    (h : ∀ v ∈ element.alternatives, r.MarksAll depth v) : r.Reads depth (.array element) := by
  have htidy : ∀ t ∈ (r.alternativeTexts depth element).map (· ++ "[]"), Tidy t := by
    intro t ht
    obtain ⟨u, hu, rfl⟩ := List.mem_map.1 ht
    exact (tidy_alternativeTexts hplain u hu).append_mark.1
  intro t
  calc t ∈ alternativesIn (r.formatAt depth (.array element))
      ↔ ∃ u ∈ (r.alternativeTexts depth element).map (· ++ "[]"), t ∈ alternativesIn u := by
        rw [formatAt_array, (tidy_joinVariants_of_ne_nil (by simpa using hne) htidy).2]
    _ ↔ ∃ v ∈ element.alternatives, t ∈ alternativesIn (r.formatAt depth v ++ "[]") := by
        simp [alternativeTexts]
    _ ↔ ∃ v ∈ element.alternatives, ∃ a ∈ v.alts, t = a ++ "[]" :=
        exists_congr fun v => and_congr_right fun hv => h v hv t
    _ ↔ ∃ a ∈ element.alts, t = a ++ "[]" := by
        constructor
        · rintro ⟨v, hv, a, ha, rfl⟩
          exact ⟨a, mem_alts_alternatives.2 ⟨v, hv, ha⟩, rfl⟩
        · rintro ⟨a, ha, rfl⟩
          obtain ⟨v, hv, ha⟩ := mem_alts_alternatives.1 ha
          exact ⟨v, hv, a, ha, rfl⟩
    _ ↔ t ∈ (Shape.array element).alts := by
        simp [alts, eq_comm]

theorem reads_union {vs : List Shape} (hplain : ∀ v ∈ vs, v.Plain) (hne : vs ≠ [])
    (h : ∀ v ∈ vs, r.Reads depth v) : r.Reads depth (.union vs) := by
  intro t
  calc t ∈ alternativesIn (r.formatAt depth (.union vs))
      ↔ ∃ u ∈ vs.map (r.formatAt depth), t ∈ alternativesIn u := by
        rw [formatAt_eq_join, alternativeTexts_union]
        refine (tidy_joinVariants_of_ne_nil (by simpa using hne) fun u hu => ?_).2 t
        obtain ⟨v, hv, rfl⟩ := List.mem_map.1 hu
        exact tidy_formatAt r depth (hplain v hv)
    _ ↔ ∃ v ∈ vs, t ∈ alternativesIn (r.formatAt depth v) := by simp
    _ ↔ ∃ v ∈ vs, t ∈ v.alts := exists_congr fun v => and_congr_right fun hv => h v hv t
    _ ↔ t ∈ (Shape.union vs).alts := mem_altsAll.symm

/-- **Shapes whose marks stand behind single alternatives are read rightly.** -/
theorem reads_of_settled {e : Shape} (hplain : e.Plain) (he : e.Settled) : r.Reads depth e := by
  induction hplain with
  | primitive h => exact fun t => by rw [formatAt, alternativesIn_of_solid h]; rfl
  | literal h => exact fun t => by rw [formatAt, alternativesIn_of_solid h]; rfl
  | @array element hplain _ =>
    have helement := he.of_inside (.array (.self element))
    refine reads_array hplain (alternativeTexts_ne_nil helement) fun v hv => ?_
    have hinside := inside_of_mem_alternatives hv
    obtain ⟨a, hsingle⟩ := he.single v ⟨element, .self _, hv⟩
    exact marksAll_of_single (hplain.of_inside hinside) (helement.of_inside hinside) hsingle
  | @union vs hplain ih =>
    exact reads_union hplain (he.nonempty vs (.self _)) fun v hv =>
      ih v hv (he.of_inside (.union hv (.self v)))

/-- **Every mark applies to the whole element it was written for, exactly in settled shapes.**  For
a shape made of arrays and unions, the text of every shape in it lists its alternatives, and every
mark applies to all alternatives of what it was written behind, if and only if no union in it is
empty and no mark is written behind several alternatives.  Then the type that an array's field
`items` gets reads rightly as well. -/
theorem marks_apply_iff_settled (r : Renderer) (depth : Nat) {e : Shape} (he : e.Plain) :
    ((∀ s, s.Inside e → r.Reads depth s) ∧ (∀ s, s.MarkedIn e → r.MarksAll depth s) ↔ e.Settled) ∧
    (e.Settled → (∀ t, t ∈ alternativesIn (r.format e) ↔ t ∈ e.alts) ∧
      ∀ element, e = .array element → ∃ text, r.properties e = [⟨"items", text, true⟩] ∧
        ∀ t, t ∈ alternativesIn text ↔ t ∈ e.alts) := by
  refine ⟨⟨fun ⟨hreads, hmarks⟩ => ⟨fun vs hvs hnil => ?_, fun s hs => ?_⟩, fun hsettled => ⟨?_, ?_⟩⟩,
    fun hsettled => ⟨reads_of_settled he hsettled, ?_⟩⟩
  · subst hnil
    have hlisted : "" ∈ alternativesIn (joinVariants []) := by decide
    cases (hreads _ hvs "").1 hlisted
  · exact single_of_marksAll (he.of_inside hs.inside) (hreads s hs.inside) (hmarks s hs)
  · exact fun s hs => reads_of_settled (he.of_inside hs) (hsettled.of_inside hs)
  · intro s hs
    obtain ⟨a, hsingle⟩ := hsettled.single s hs
    exact marksAll_of_single (he.of_inside hs.inside) (hsettled.of_inside hs.inside) hsingle
  · rintro element rfl
    exact ⟨r.formatAt 1 (.array element), rfl, reads_of_settled he hsettled⟩

end Renderer

namespace TypedGrid

/-- Rows of texts, or single numbers and flags in a row: `string[][] | number[] | boolean[]`. -/
def rows : Shape :=
  .union [.array (.array (.primitive "string")),
    .array (.union [.primitive "number", .primitive "boolean"])]

/-- Rows of texts or numbers, as in `(string | number)[][]`. -/
def grid : Shape := .array (.array (.union [.primitive "string", .primitive "number"]))

theorem plain_rows : rows.Plain := by
  have hstring : Solid "string" := by decide
  have hnumber : Solid "number" := by decide
  have hboolean : Solid "boolean" := by decide
  refine .union (List.forall_mem_cons.2 ⟨.array (.array (.primitive hstring)),
    List.forall_mem_singleton.2 (.array (.union ?_))⟩)
  exact List.forall_mem_cons.2 ⟨.primitive hnumber, List.forall_mem_singleton.2 (.primitive hboolean)⟩

theorem settled_rows : rows.Settled := by
  have hone : ∀ name t : String, t ∈ (Shape.primitive name).alts ↔ t = name := fun _ _ =>
    List.mem_singleton
  have hstring : Shape.Settled (.array (.primitive "string")) :=
    (Shape.settled_primitive _).array (by simpa [Shape.alternatives] using ⟨_, hone "string"⟩)
  refine .union (by simp) (List.forall_mem_cons.2 ⟨hstring.array ?_,
    List.forall_mem_singleton.2 (Shape.Settled.array (.union (by simp) ?_) ?_)⟩)
  · exact List.forall_mem_singleton.2 ⟨"string[]", fun t => by simp [Shape.alts]⟩
  · exact List.forall_mem_cons.2 ⟨Shape.settled_primitive _,
      List.forall_mem_singleton.2 (Shape.settled_primitive _)⟩
  · exact List.forall_mem_cons.2 ⟨⟨_, hone "number"⟩, List.forall_mem_singleton.2 ⟨_, hone "boolean"⟩⟩

/-- Marks behind one alternative each, at several depths. -/
theorem rows_read :
    rows.Plain ∧ rows.Settled ∧
      ∀ t, t ∈ alternativesIn (Renderer.standard.format rows) ↔ t ∈ rows.alts :=
  ⟨plain_rows, settled_rows,
    ((Renderer.marks_apply_iff_settled _ 0 plain_rows).2 settled_rows).1⟩

/-- The outer mark of a grid reaches its last alternative only. -/
theorem grid_misread :
    alternativesIn (Renderer.standard.format grid) = ["string[]", "number[][]"] ∧
      grid.alts = ["string[][]", "number[][]"] := by
  decide +kernel

end TypedGrid

end RouteInventory
