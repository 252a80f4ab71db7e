import Mathlib.Logic.ExistsUnique
import RouteInventory.Fastify.Registration
import RouteInventory.Proofs.CursorDescent
import RouteInventory.Proofs.ParsedShape

/-!
# Calls and the scopes they belong to

A plugin written in place is recognised twice.  From the call, `Cursor.unwrapped` strips parentheses
and non-null marks from the first argument; from the function, `Cursor.isInlinePlugin` climbs
parentheses up to the call.  In a shaped tree the two differ by the non-null marks only.

* `Cursor.isInlinePlugin_iff`: a function is recognised from below exactly if a registration takes
  it as its plugin and no non-null mark stands between them.
* `Project.IsScope`: the scopes of a file, which are its root and the plugins written in place that
  the registrations of its scopes take.
* `Project.isScope_of_isInlinePlugin`: what is recognised from below is a scope.
* `Project.scopes_partition_calls_iff`: every call belongs to a scope, and to one only exactly if
  no plugin that holds calls stands before a non-null mark.
-/

namespace RouteInventory

namespace Cursor

/-! ## Recognising a plugin from the call -/

/-- The call registers `f` in place: `f` is the function inside its first argument `plugin`. -/
structure Takes (call plugin f : Cursor) : Prop where
  kind : call.kind = .callExpression
  register : call.isRegisterCall = true
  first : call.callArguments.head? = some plugin
  unwraps : plugin.unwrapped = f
  function : f.isFunction = true

/-- A non-null mark stands between an expression and what it unwraps to. -/
def Marked (plugin : Cursor) : Prop :=
  ∃ w ∈ plugin.preorder, w.kind = .nonNullExpression ∧ plugin.unwrapped ∈ w.preorder

variable {r c d f g call args plugin scope : Cursor}

theorem Contains.shaped (h : Contains c d) (hc : c.focus.Shaped) : d.focus.Shaped := by
  induction h with
  | refl => exact hc
  | tail _ hchild ih => exact ih.of_mem_children (focus_mem_children hchild.1)

theorem admits_children (hc : c.focus.Shaped) {k : Kind} (hk : c.kind = k) :
    Tree.Admits k c.focus.children := by
  subst hk
  exact hc.admits

theorem kind_ne_of_isFunction (h : c.isFunction = true) {k : Kind} (hk : k.isFunction = false) :
    c.kind ≠ k := by
  rintro rfl
  exact Bool.false_ne_true (hk.symm.trans h)

theorem isWrapper_of_isFunction (h : c.isFunction = true) : c.isWrapper = false := by
  unfold isWrapper
  rw [Bool.or_eq_false_iff, beq_eq_false_iff_ne, beq_eq_false_iff_ne]
  exact ⟨kind_ne_of_isFunction h rfl, kind_ne_of_isFunction h rfl⟩

theorem kind_of_isWrapper (h : c.isWrapper = true) :
    c.kind = .parenthesizedExpression ∨ c.kind = .nonNullExpression := by
  simpa [isWrapper] using h

theorem map_focus_parts (c : Cursor) :
    c.parts.map focus = c.focus.children.filter Tree.isPart := by
  rw [← map_focus_children, List.filter_map]
  rfl

theorem mem_parts_focus (h : d ∈ c.parts) : d.focus ∈ c.focus.children.filter Tree.isPart :=
  map_focus_parts c ▸ List.mem_map_of_mem h

/-- No piece of a template unwraps to a function. -/
theorem not_isFunction_of_piece (hkind : args.kind = .templateString) (hshaped : args.focus.Shaped)
    (hplugin : plugin ∈ args.parts) : plugin.unwrapped.isFunction = false := by
  have hpiece := admits_children hshaped hkind _ (mem_parts_focus hplugin)
  have hwrap : plugin.isWrapper = false := by
    unfold isWrapper kind
    rcases hpiece with hk | hk | hk <;> rw [hk] <;> rfl
  rw [unwrapped_of_not_isWrapper hwrap]
  unfold isFunction Tree.isFunction
  rcases hpiece with hk | hk | hk <;> rw [hk] <;> rfl

/-- What a call takes stands in a list of arguments or in a template. -/
theorem exists_of_mem_callArguments (hshaped : call.focus.Shaped)
    (hcall : call.kind = .callExpression) (h : d ∈ call.callArguments) :
    ∃ args, Child call args ∧ d ∈ args.parts ∧
      (args.kind = .arguments ∨ args.kind = .templateString) := by
  unfold callArguments at h
  split at h
  · rename_i args hargs
    have hmem : args ∈ call.children := List.mem_of_find?_eq_some hargs
    have hrole : args.focus.head.role = some .arguments := by
      simpa using List.find?_some hargs
    have hkind := admits_children hshaped hcall _ (focus_mem_children hmem) hrole
    have hnamed : args.focus.isNamed = true := by
      unfold Tree.isNamed
      rcases hkind with hk | hk <;> rw [hk] <;> rfl
    exact ⟨args, ⟨hmem, hnamed⟩, h, hkind⟩
  · cases h

namespace Takes

/-- The first argument stands in a list of arguments. -/
theorem exists_arguments (h : Takes call plugin f) (hshaped : call.focus.Shaped) :
    ∃ args, Child call args ∧ args.kind = .arguments ∧ Child args plugin := by
  obtain ⟨args, hargs, hplugin, hkind⟩ :=
    exists_of_mem_callArguments hshaped h.kind (List.mem_of_mem_head? h.first)
  refine ⟨args, hargs, hkind.resolve_right fun htemplate => ?_, child_of_mem_parts hplugin⟩
  have hargsShaped := hshaped.of_mem_children (focus_mem_children hargs.1)
  have hnot := not_isFunction_of_piece htemplate hargsShaped hplugin
  rw [h.unwraps, h.function] at hnot
  cases hnot

theorem wraps (h : Takes call plugin f) : Relation.ReflTransGen Wraps plugin f :=
  h.unwraps ▸ wraps_unwrapped plugin

theorem contains (h : Takes call plugin f) (hshaped : call.focus.Shaped) : Contains call f := by
  obtain ⟨args, hargs, -, hplugin⟩ := h.exists_arguments hshaped
  exact ((Contains.of_child hargs).trans (.of_child hplugin)).trans (.of_wraps h.wraps)

/-- A function around the plugin is around the call, or is the plugin. -/
theorem eq_or_contains (h : Takes call plugin f) (hshaped : call.focus.Shaped)
    (hg : g.isFunction = true) (hgf : Contains g f) : g = f ∨ Contains g call := by
  obtain ⟨args, hargs, hkind, hplugin⟩ := h.exists_arguments hshaped
  have hwraps : Contains plugin f := .of_wraps h.wraps
  rcases hgf.comparable hwraps with hgp | hpg
  · rcases hgp.eq_or_parent hplugin with rfl | hga
    · exact .inl (by rw [← h.unwraps, unwrapped_of_not_isWrapper (isWrapper_of_isFunction hg)])
    · rcases hga.eq_or_parent hargs with rfl | hgc
      · exact absurd hkind (kind_ne_of_isFunction hg rfl)
      · exact .inr hgc
  · rcases isWrapper_of_between h.wraps hpg hgf with rfl | hwrap
    · exact .inl rfl
    · rw [isWrapper_of_isFunction hg] at hwrap
      cases hwrap

theorem depth_lt (h : Takes call plugin f) (hshaped : call.focus.Shaped) :
    call.depth < f.depth := by
  obtain ⟨args, hargs, -, hplugin⟩ := h.exists_arguments hshaped
  have hle : plugin.depth ≤ f.depth := Contains.depth_le (.of_wraps h.wraps)
  have hargsDepth := depth_of_mem_children hargs.1
  have hpluginDepth := depth_of_mem_children hplugin.1
  omega

end Takes

/-! ## Recognising a plugin from the function -/

/-- `d` is what stands in the parentheses that `c` is. -/
def Parenthesizes (c d : Cursor) : Prop :=
  c.kind = .parenthesizedExpression ∧ c.firstPart? = some d

theorem Parenthesizes.wraps (h : Parenthesizes c d) : Wraps c d := by
  refine ⟨?_, h.2⟩
  unfold isWrapper
  rw [h.1]
  rfl

/-- The expression in a pair of parentheses comes before its type. -/
theorem parenthesizes_of_child (hc : c.kind = .parenthesizedExpression) (hshaped : c.focus.Shaped)
    (hcd : Child c d) (hcomment : d.kind ≠ .comment) (htype : d.kind ≠ .typeClause) :
    Parenthesizes c d := by
  have hmem : d ∈ c.parts :=
    List.mem_filter.2 ⟨hcd.1, Bool.and_eq_true_iff.2 ⟨hcd.2, bne_iff_ne.2 hcomment⟩⟩
  have htail : ∀ t ∈ (c.focus.children.filter Tree.isPart).tail, t.kind = .typeClause :=
    admits_children hshaped hc
  rw [← map_focus_parts, ← List.map_tail] at htail
  refine ⟨hc, ?_⟩
  unfold firstPart?
  cases hparts : c.parts with
  | nil =>
    rw [hparts] at hmem
    cases hmem
  | cons first rest =>
    rw [hparts] at hmem htail
    rcases List.mem_cons.1 hmem with rfl | hrest
    · rfl
    · exact absurd (htail _ (List.mem_map_of_mem hrest)) htype

theorem withParentheses_of_child (hcd : Child c d) :
    d.withParentheses =
      if c.kind = .parenthesizedExpression then c.withParentheses else d := by
  unfold withParentheses
  rw [ancestors_of_mem_children hcd.1, List.takeWhile_cons]
  by_cases hk : c.kind = .parenthesizedExpression
  · simp [hk, List.getLast?_cons]
  · simp [hk]

/-- Climbing parentheses from a function, or from parentheses around it, stays inside the tree and
passes nothing but the parentheses around the one expression in them. -/
theorem withParentheses_spec (hr : r.above = []) (hshaped : r.focus.Shaped) (hd : Contains r d)
    (hkind : d.isFunction = true ∨ d.kind = .parenthesizedExpression) :
    Contains r d.withParentheses ∧ Relation.ReflTransGen Parenthesizes d.withParentheses d := by
  induction hd with
  | refl =>
    have hself : r.withParentheses = r := by
      unfold withParentheses ancestors
      rw [hr]
      rfl
    rw [hself]
    exact ⟨.refl r, .refl⟩
  | @tail p d hrp hpd ih =>
    rw [withParentheses_of_child hpd]
    split
    · rename_i hp
      obtain ⟨hin, hchain⟩ := ih (.inr hp)
      have hexpr : d.kind ≠ .comment ∧ d.kind ≠ .typeClause := by
        rcases hkind with hk | hk
        · exact ⟨kind_ne_of_isFunction hk rfl, kind_ne_of_isFunction hk rfl⟩
        · rw [hk]
          decide
      exact ⟨hin, hchain.tail
        (parenthesizes_of_child hp (Contains.shaped hrp hshaped) hpd hexpr.1 hexpr.2)⟩
    · exact ⟨hrp.tail hpd, .refl⟩

/-- An ancestor stands in the same tree. -/
theorem exists_child_of_ancestors (hd : Contains r d) (hr : r.above = []) {rest : List Cursor}
    (hanc : d.ancestors = c :: rest) : Contains r c ∧ Child c d ∧ c.ancestors = rest := by
  rcases Relation.ReflTransGen.cases_tail hd with rfl | ⟨p, hrp, hpd⟩
  · unfold ancestors at hanc
    rw [hr] at hanc
    cases hanc
  · rw [ancestors_of_mem_children hpd.1] at hanc
    cases hanc
    exact ⟨hrp, hpd, rfl⟩

/-- Climbing from what an argument wraps, past parentheses only, ends at the argument. -/
theorem withParentheses_of_wraps (hplugin : Child args plugin) (hargs : args.kind = .arguments)
    (h : Relation.ReflTransGen Wraps plugin f)
    (hmark : ∀ w, Contains plugin w → Contains w f → w.kind ≠ .nonNullExpression) :
    f.withParentheses = plugin := by
  induction h with
  | refl => rw [withParentheses_of_child hplugin, hargs, if_neg (by decide)]
  | @tail b d hb hbd ih =>
    have hparen : b.kind = .parenthesizedExpression :=
      (kind_of_isWrapper hbd.1).resolve_right (hmark b (.of_wraps hb) (.of_child hbd.child))
    rw [withParentheses_of_child hbd.child, if_pos hparen]
    exact ih fun w hw hwb => hmark w hw (hwb.trans (.of_child hbd.child))

theorem isInlinePlugin_iff_climb :
    f.isInlinePlugin = true ↔ f.isFunction = true ∧ ∃ args call rest,
      f.withParentheses.ancestors = args :: call :: rest ∧ args.kind = .arguments ∧
        call.kind = .callExpression ∧ call.isRegisterCall = true ∧
        ∃ a, call.callArguments.head? = some a ∧ a.path = f.withParentheses.path := by
  unfold isInlinePlugin
  rw [Bool.and_eq_true_iff]
  refine and_congr_right fun _ => ?_
  dsimp only
  split
  · rename_i args call rest hanc
    simp [hanc, Option.any_eq_true, and_assoc]
  · rename_i hnone
    constructor
    · intro h
      cases h
    · rintro ⟨args, call, rest, hanc, -⟩
      exact absurd hanc (hnone args call rest)

/-- **The two ways to recognise a plugin differ by the non-null marks only.** -/
theorem isInlinePlugin_iff (hr : r.above = []) (hshaped : r.focus.Shaped) (hf : Contains r f) :
    f.isInlinePlugin = true ↔
      ∃ call plugin, Contains r call ∧ Takes call plugin f ∧ ¬ plugin.Marked := by
  rw [isInlinePlugin_iff_climb]
  constructor
  · rintro ⟨hfun, args, call, rest, hanc, -, hcall, hregister, a, ha, hpath⟩
    obtain ⟨houter, hchain⟩ := withParentheses_spec hr hshaped hf (.inl hfun)
    obtain ⟨hrargs, hargs, hanc⟩ := exists_child_of_ancestors houter hr hanc
    obtain ⟨hrcall, -, -⟩ := exists_child_of_ancestors hrargs hr hanc
    obtain ⟨args', hargs', hparts, -⟩ := exists_of_mem_callArguments (hrcall.shaped hshaped) hcall
      (List.mem_of_mem_head? ha)
    have hra : Contains r a :=
      (hrcall.trans (.of_child hargs')).trans (.of_child (child_of_mem_parts hparts))
    obtain rfl : a = f.withParentheses := hra.eq_of_path_eq houter hpath
    have hwraps : Relation.ReflTransGen Wraps f.withParentheses f :=
      hchain.lift id fun _ _ => Parenthesizes.wraps
    refine ⟨call, f.withParentheses, hrcall, ⟨hcall, hregister, ha,
      unwrapped_eq_of_wraps hwraps (isWrapper_of_isFunction hfun), hfun⟩, ?_⟩
    rintro ⟨w, hw, hmark, hwf⟩
    rw [mem_preorder_iff] at hw hwf
    rw [unwrapped_eq_of_wraps hwraps (isWrapper_of_isFunction hfun)] at hwf
    have hbetween : w = f ∨ w.kind = .parenthesizedExpression :=
      Contains.between (fun _ _ h => ⟨h.wraps.child, h.1⟩) hchain hw hwf
    rcases hbetween with rfl | hparen
    · exact absurd hmark (kind_ne_of_isFunction hfun rfl)
    · rw [hparen] at hmark
      cases hmark
  · rintro ⟨call, plugin, hcall, htakes, hmark⟩
    obtain ⟨args, hargs, hkind, hplugin⟩ := htakes.exists_arguments (hcall.shaped hshaped)
    have houter : f.withParentheses = plugin :=
      withParentheses_of_wraps hplugin hkind htakes.wraps fun w hw hwf => by
        intro hnull
        refine hmark ⟨w, mem_preorder_iff.2 hw, hnull, mem_preorder_iff.2 ?_⟩
        rwa [htakes.unwraps]
    refine ⟨htakes.function, args, call, call.ancestors, ?_, hkind, htakes.kind, htakes.register,
      plugin, htakes.first, by rw [houter]⟩
    rw [houter, ancestors_of_mem_children hplugin.1, ancestors_of_mem_children hargs.1]

/-- Of two arguments that wrap one function, one inside the other, both are the same: a list of
arguments would stand between them. -/
theorem Takes.plugin_eq {call' plugin' : Cursor} (h : Takes call plugin f)
    (h' : Takes call' plugin' f) (hshaped : call'.focus.Shaped)
    (hcontains : Contains plugin plugin') : plugin = plugin' := by
  obtain ⟨args, -, hkind, hargs⟩ := h'.exists_arguments hshaped
  refine (hcontains.eq_or_parent hargs).resolve_right fun hbetween => ?_
  have hf : Contains args f := (Contains.of_child hargs).trans (.of_wraps h'.wraps)
  rcases isWrapper_of_between h.wraps hbetween hf with rfl | hwrap
  · exact absurd hkind (kind_ne_of_isFunction h.function rfl)
  · unfold isWrapper at hwrap
    rw [hkind] at hwrap
    cases hwrap

/-- A function before a non-null mark is not recognised from below. -/
theorem Takes.not_isInlinePlugin (hr : r.above = []) (hshaped : r.focus.Shaped)
    (hcall : Contains r call) (h : Takes call plugin f) (hmark : plugin.Marked) :
    f.isInlinePlugin = false := by
  have hrf : Contains r f := hcall.trans (h.contains (hcall.shaped hshaped))
  rw [← Bool.not_eq_true, isInlinePlugin_iff hr hshaped hrf]
  rintro ⟨call', plugin', hcall', h', hplain⟩
  have heq : plugin = plugin' := by
    rcases (Contains.of_wraps h.wraps).comparable (.of_wraps h'.wraps) with hpp | hpp
    · exact h.plugin_eq h' (hcall'.shaped hshaped) hpp
    · exact (h'.plugin_eq h (hcall.shaped hshaped) hpp).symm
  exact hplain (heq ▸ hmark)

/-! ## The calls of a scope -/

/-- A node belongs to a scope: it lies in it, but in no plugin that is written in place there. -/
def Owns (scope c : Cursor) : Prop :=
  Contains scope c ∧
    ∀ g, Contains scope g → Contains g c → g.isInlinePlugin = true → g = scope

theorem isFunction_of_isInlinePlugin (h : g.isInlinePlugin = true) : g.isFunction = true :=
  (Bool.and_eq_true_iff.1 h).1

theorem mem_scopedCalls_iff :
    c ∈ scope.scopedCalls ↔ c.kind = .callExpression ∧ Owns scope c := by
  unfold scopedCalls
  rw [List.mem_filter, mem_reach_iff, beq_iff_eq, and_comm]
  refine and_congr_right fun hcall => and_congr_right fun _ => forall_congr' fun g => ?_
  refine forall_congr' fun hsg => forall_congr' fun hgc => ?_
  have hpath : g.path = scope.path ↔ g = scope :=
    ⟨hsg.eq_of_path_eq (.refl scope), fun h => h ▸ rfl⟩
  rw [Bool.or_eq_true, beq_iff_eq, hpath, Bool.not_eq_true', ← Bool.not_eq_true]
  constructor
  · intro h hinline
    have hne : g ≠ c := by
      rintro rfl
      exact kind_ne_of_isFunction (isFunction_of_isInlinePlugin hinline) rfl hcall
    exact (h hne).resolve_right (not_not_intro hinline)
  · intro h _
    by_cases hinline : g.isInlinePlugin = true
    · exact .inl (h hinline)
    · exact .inr hinline

/-- Every node belongs to the root or to a plugin that is recognised from below. -/
theorem exists_owner (hc : Contains r c) :
    ∃ s, (s = r ∨ s.isInlinePlugin = true) ∧ Contains r s ∧ Owns s c := by
  induction hc with
  | refl => exact ⟨r, .inl rfl, .refl r, .refl r, fun g hrg hgr _ => hgr.antisymm hrg⟩
  | @tail b c hrb hbc ih =>
    by_cases hinline : c.isInlinePlugin = true
    · exact ⟨c, .inr hinline, hrb.tail hbc, .refl c, fun g hcg hgc _ => hgc.antisymm hcg⟩
    · obtain ⟨s, hs, hrs, hsb, howns⟩ := ih
      refine ⟨s, hs, hrs, hsb.tail hbc, fun g hsg hgc hg => ?_⟩
      rcases hgc.eq_or_parent hbc with rfl | hgb
      · exact absurd hg hinline
      · exact howns g hsg hgb hg

/-- Above a call there is an outermost one, with respect to a node that contains it. -/
theorem exists_outermost_call (hc : Contains f c) (hcall : c.kind = .callExpression) :
    ∃ d, Contains f d ∧ d.kind = .callExpression ∧
      ∀ e, Contains f e → Contains e d → e.kind = .callExpression → e = d := by
  induction hn : c.depth using Nat.strongRecOn generalizing c with
  | ind n ih =>
    by_cases houter : ∃ e, Contains f e ∧ Contains e c ∧ e.kind = .callExpression ∧ e ≠ c
    · obtain ⟨e, hfe, hec, he, hne⟩ := houter
      have hlt : e.depth < c.depth :=
        Nat.lt_of_not_le fun hle => hne (hec.eq_of_depth_le hle)
      exact ih _ (hn ▸ hlt) hfe he rfl
    · exact ⟨c, hc, hcall, fun e hfe hec he =>
        Classical.byContradiction fun hne => houter ⟨e, hfe, hec, he, hne⟩⟩

/-- The outermost calls of a function belong to it: a plugin inside it is taken by another call. -/
theorem owns_outermost_call (hr : r.above = []) (hshaped : r.focus.Shaped) (hrf : Contains r f)
    (hfun : f.isFunction = true) (hfc : Contains f c)
    (houtermost : ∀ e, Contains f e → Contains e c → e.kind = .callExpression → e = c) :
    Owns f c := by
  refine ⟨hfc, fun g hfg hgc hinline => ?_⟩
  obtain ⟨call, plugin, hrcall, htakes, -⟩ :=
    (isInlinePlugin_iff hr hshaped (hrf.trans hfg)).1 hinline
  have hcallShaped := hrcall.shaped hshaped
  rcases htakes.eq_or_contains hcallShaped hfun hfg with rfl | hfcall
  · rfl
  · have hcallc : Contains call c := (htakes.contains hcallShaped).trans hgc
    obtain rfl := houtermost call hfcall hcallc htakes.kind
    have hlt := htakes.depth_lt hcallShaped
    have hle := hgc.depth_le
    omega

/-- What belongs to a plugin that is not recognised from below belongs to the scope of its call
too. -/
theorem Owns.of_not_isInlinePlugin (hs : Owns scope call) (hshaped : call.focus.Shaped)
    (htakes : Takes call plugin f) (hnot : f.isInlinePlugin = false) (hf : Owns f c) :
    Owns scope c := by
  refine ⟨(hs.1.trans (htakes.contains hshaped)).trans hf.1, fun g hsg hgc hinline => ?_⟩
  have hne : g ≠ f := by
    rintro rfl
    exact Bool.false_ne_true (hnot.symm.trans hinline)
  rcases hgc.comparable hf.1 with hgf | hfg
  · have hfun := isFunction_of_isInlinePlugin hinline
    have hgcall := (htakes.eq_or_contains hshaped hfun hgf).resolve_left hne
    exact hs.2 g hsg hgcall hinline
  · exact absurd (hf.2 g hfg hgc hinline) hne

end Cursor

/-! ## The scopes of a file -/

namespace Project

variable {p : Project} {file : SourceFile} {scope call plugin f c : Cursor}

/-- The root, and the plugins written in place that registrations of scopes take. -/
inductive IsScope (p : Project) (file : SourceFile) : Cursor → Prop
  | root : IsScope p file file.root
  | inline {scope f : Cursor} {registration : Registration} : IsScope p file scope →
    registration ∈ p.registrationsIn file scope → registration.plugin = .inline f →
    IsScope p file f

theorem plugin?_eq_inline_iff :
    p.plugin? file c = some (.inline f) ↔ c = f ∧ c.isFunction = true := by
  unfold plugin?
  split
  · rename_i hfun
    simp [hfun]
  · rename_i hfun
    refine iff_of_false ?_ fun h => hfun h.2
    split
    · split
      · split <;> simp
      · simp
    · simp

theorem registration?_inline_iff :
    (∃ registration, p.registration? file call = some registration ∧
        registration.plugin = .inline f) ↔
      call.isRegisterCall = true ∧
        ∃ plugin, call.callArguments.head? = some plugin ∧ plugin.unwrapped = f ∧
          plugin.unwrapped.isFunction = true := by
  unfold registration?
  by_cases hregister : call.isRegisterCall = true
  · cases hargs : call.callArguments with
    | nil => simp [hregister]
    | cons first rest =>
      rw [if_pos hregister, and_iff_right hregister]
      constructor
      · rintro ⟨registration, hreg, hinline⟩
        obtain ⟨plugin, hplugin, rfl⟩ := Option.map_eq_some_iff.1 hreg
        obtain rfl : plugin = .inline f := hinline
        exact ⟨first, rfl, plugin?_eq_inline_iff.1 hplugin⟩
      · rintro ⟨plugin, hfirst, hplugin⟩
        obtain rfl := Option.some.inj hfirst
        exact ⟨_, Option.map_eq_some_iff.2 ⟨_, plugin?_eq_inline_iff.2 hplugin, rfl⟩, rfl⟩
  · simp [hregister]

/-- The plugins written in place that a scope registers are those that its calls take. -/
theorem exists_registration_iff :
    (∃ registration ∈ p.registrationsIn file scope, registration.plugin = .inline f) ↔
      ∃ call ∈ scope.scopedCalls, ∃ plugin, call.Takes plugin f := by
  unfold registrationsIn
  simp only [List.mem_filterMap]
  constructor
  · rintro ⟨registration, ⟨call, hcall, hreg⟩, hinline⟩
    obtain ⟨hregister, plugin, hfirst, hunwraps, hfun⟩ :=
      registration?_inline_iff.1 ⟨registration, hreg, hinline⟩
    exact ⟨call, hcall, plugin, (Cursor.mem_scopedCalls_iff.1 hcall).1, hregister, hfirst,
      hunwraps, hunwraps ▸ hfun⟩
  · rintro ⟨call, hcall, plugin, htakes⟩
    obtain ⟨registration, hreg, hinline⟩ := registration?_inline_iff.2
      ⟨htakes.register, plugin, htakes.first, htakes.unwraps, htakes.unwraps ▸ htakes.function⟩
    exact ⟨registration, ⟨call, hcall, hreg⟩, hinline⟩

theorem IsScope.of_takes (hs : IsScope p file scope) (howns : scope.Owns call)
    (htakes : call.Takes plugin f) : IsScope p file f := by
  have hcall : call ∈ scope.scopedCalls := Cursor.mem_scopedCalls_iff.2 ⟨htakes.kind, howns⟩
  obtain ⟨registration, hreg, hinline⟩ :=
    exists_registration_iff.2 ⟨call, hcall, plugin, htakes⟩
  exact .inline hs hreg hinline

/-- What is recognised from below as a plugin is a scope: the call that takes it belongs to a
scope that begins higher up. -/
theorem isScope_of_isInlinePlugin (hshaped : file.tree.Shaped) (hf : file.root.Contains f)
    (h : f.isInlinePlugin = true) : IsScope p file f := by
  induction hn : f.depth using Nat.strongRecOn generalizing f with
  | ind n ih =>
    obtain ⟨call, plugin, hcall, htakes, -⟩ := (Cursor.isInlinePlugin_iff rfl hshaped hf).1 h
    obtain ⟨s, hs, hrs, howns⟩ := Cursor.exists_owner hcall
    have hdepth : s.depth < n := by
      have hle := howns.1.depth_le
      have hlt := htakes.depth_lt (hcall.shaped hshaped)
      omega
    have hscope : IsScope p file s := by
      rcases hs with rfl | hs
      · exact .root
      · exact ih _ hdepth hrs hs rfl
    exact hscope.of_takes howns htakes

/-- Every node belongs to a scope. -/
theorem exists_scope (p : Project) (hshaped : file.tree.Shaped) (hc : file.root.Contains c) :
    ∃ s, IsScope p file s ∧ s.Owns c := by
  obtain ⟨s, hs, hrs, howns⟩ := Cursor.exists_owner hc
  refine ⟨s, ?_, howns⟩
  rcases hs with rfl | hs
  · exact .root
  · exact isScope_of_isInlinePlugin hshaped hrs hs

theorem IsScope.contained (hshaped : file.tree.Shaped) (h : IsScope p file scope) :
    file.root.Contains scope ∧ (scope = file.root ∨
      ∃ call plugin, file.root.Contains call ∧ call.Takes plugin scope) := by
  induction h with
  | root => exact ⟨.refl _, .inl rfl⟩
  | inline _ hreg hinline ih =>
    obtain ⟨call, hcall, plugin, htakes⟩ := exists_registration_iff.1 ⟨_, hreg, hinline⟩
    have hrcall := ih.1.trans (Cursor.mem_scopedCalls_iff.1 hcall).2.1
    exact ⟨hrcall.trans (htakes.contains (hrcall.shaped hshaped)),
      .inr ⟨call, plugin, hrcall, htakes⟩⟩

end Project

/-- A plugin that holds calls is written in place before a non-null mark. -/
def SourceFile.HasMarkedPlugin (file : SourceFile) : Prop :=
  ∃ call ∈ file.root.descendants .callExpression, ∃ plugin f,
    call.Takes plugin f ∧ plugin.Marked ∧ f.descendants .callExpression ≠ []

namespace Project

variable {p : Project} {file : SourceFile} {s t c : Cursor}

/-- Without marked plugins, of two scopes with a common call the inner one is recognised from
below, so the outer one leaves its calls out. -/
theorem IsScope.eq_of_contains (hshaped : file.tree.Shaped) (hplain : ¬ file.HasMarkedPlugin)
    (hs : IsScope p file s) (ht : IsScope p file t) (hcall : c.kind = .callExpression)
    (hsc : s.Owns c) (htc : t.Owns c) (hst : s.Contains t) : s = t := by
  obtain ⟨hrt, rfl | ⟨call, plugin, hrcall, htakes⟩⟩ := ht.contained hshaped
  · exact hst.antisymm (hs.contained hshaped).1
  · have hunmarked : ¬ plugin.Marked := by
      intro hmark
      have hheld : c ∈ t.descendants .callExpression :=
        Cursor.mem_descendants_iff.2 ⟨htc.1, hcall⟩
      exact hplain ⟨call, Cursor.mem_descendants_iff.2 ⟨hrcall, htakes.kind⟩, plugin, t, htakes,
        hmark, List.ne_nil_of_mem hheld⟩
    have hinline : t.isInlinePlugin = true :=
      (Cursor.isInlinePlugin_iff rfl hshaped hrt).2 ⟨call, plugin, hrcall, htakes, hunmarked⟩
    exact (hsc.2 t hst htc.1 hinline).symm

/-- The outermost call of a marked plugin belongs to the plugin and to the scope that registers
it. -/
theorem exists_shared_call (p : Project) (hshaped : file.tree.Shaped)
    (hmarked : file.HasMarkedPlugin) :
    ∃ c ∈ file.root.descendants .callExpression, ∃ s t, s ≠ t ∧ IsScope p file s ∧
      IsScope p file t ∧ s.Owns c ∧ t.Owns c := by
  obtain ⟨call, hcall, plugin, f, htakes, hmark, hheld⟩ := hmarked
  obtain ⟨hrcall, -⟩ := Cursor.mem_descendants_iff.1 hcall
  have hcallShaped := hrcall.shaped hshaped
  have hcallf : call.Contains f := htakes.contains hcallShaped
  have hnot : f.isInlinePlugin = false :=
    Cursor.Takes.not_isInlinePlugin rfl hshaped hrcall htakes hmark
  obtain ⟨s, hs, hscall⟩ := exists_scope p hshaped hrcall
  obtain ⟨c₀, hc₀⟩ := List.exists_mem_of_ne_nil _ hheld
  obtain ⟨hfc₀, hkind₀⟩ := Cursor.mem_descendants_iff.1 hc₀
  obtain ⟨c, hfc, hkind, houtermost⟩ := Cursor.exists_outermost_call hfc₀ hkind₀
  have hfOwns : f.Owns c := Cursor.owns_outermost_call rfl hshaped (hrcall.trans hcallf)
    htakes.function hfc houtermost
  have hsOwns : s.Owns c := hscall.of_not_isInlinePlugin hcallShaped htakes hnot hfOwns
  have hsf : s ≠ f := by
    rintro rfl
    have hle := hscall.1.depth_le
    have hlt := htakes.depth_lt hcallShaped
    omega
  exact ⟨c, Cursor.mem_descendants_iff.2 ⟨(hrcall.trans hcallf).trans hfc, hkind⟩, s, f, hsf, hs,
    hs.of_takes hscall htakes, hsOwns, hfOwns⟩

/-- The calls of a file are those of its scopes. -/
theorem mem_descendants_iff_scope (p : Project) (hshaped : file.tree.Shaped) :
    c ∈ file.root.descendants .callExpression ↔
      ∃ scope, IsScope p file scope ∧ c ∈ scope.scopedCalls := by
  rw [Cursor.mem_descendants_iff]
  constructor
  · rintro ⟨hc, hkind⟩
    obtain ⟨s, hs, howns⟩ := exists_scope p hshaped hc
    exact ⟨s, hs, Cursor.mem_scopedCalls_iff.2 ⟨hkind, howns⟩⟩
  · rintro ⟨s, hs, hc⟩
    obtain ⟨hkind, howns⟩ := Cursor.mem_scopedCalls_iff.1 hc
    exact ⟨(hs.contained hshaped).1.trans howns.1, hkind⟩

theorem existsUnique_scope_iff (p : Project) (hshaped : file.tree.Shaped) :
    (∀ call ∈ file.root.descendants .callExpression,
        ∃! scope, IsScope p file scope ∧ call ∈ scope.scopedCalls) ↔
      ¬ file.HasMarkedPlugin := by
  constructor
  · intro hunique hmarked
    obtain ⟨c, hc, s, t, hne, hs, ht, hsc, htc⟩ := exists_shared_call p hshaped hmarked
    have hkind := (Cursor.mem_descendants_iff.1 hc).2
    exact hne ((hunique c hc).unique ⟨hs, Cursor.mem_scopedCalls_iff.2 ⟨hkind, hsc⟩⟩
      ⟨ht, Cursor.mem_scopedCalls_iff.2 ⟨hkind, htc⟩⟩)
  · intro hplain call hcall
    obtain ⟨s, hs, hmem⟩ := (mem_descendants_iff_scope p hshaped).1 hcall
    refine ⟨s, ⟨hs, hmem⟩, fun t ⟨ht, hmem'⟩ => ?_⟩
    obtain ⟨hkind, hsc⟩ := Cursor.mem_scopedCalls_iff.1 hmem
    obtain ⟨-, htc⟩ := Cursor.mem_scopedCalls_iff.1 hmem'
    rcases hsc.1.comparable htc.1 with hst | hts
    · exact (hs.eq_of_contains hshaped hplain ht hkind hsc htc hst).symm
    · exact ht.eq_of_contains hshaped hplain hs hkind htc hsc hts

/-- **Scopes partition the calls of a file, up to non-null marks.**  In every file with a shaped
tree, as all parsed trees are, the calls are those of its scopes, and no scope lists a call twice.
Each call has one scope only exactly if no plugin that holds calls is written in place before a
non-null mark. -/
theorem scopes_partition_calls_iff (p : Project) (file : SourceFile) :
    (∀ markup text, file.tree = Grammar.parse markup text → file.tree.Shaped) ∧
    (file.tree.Shaped →
      (∀ call, call ∈ file.root.descendants .callExpression ↔
        ∃ scope, IsScope p file scope ∧ call ∈ scope.scopedCalls) ∧
      (∀ scope, IsScope p file scope → scope.scopedCalls.Nodup) ∧
      ((∀ call ∈ file.root.descendants .callExpression,
          ∃! scope, IsScope p file scope ∧ call ∈ scope.scopedCalls) ↔
        ¬ file.HasMarkedPlugin)) := by
  refine ⟨fun markup text htree => htree ▸ Grammar.parse_shaped markup text,
    fun hshaped => ⟨fun call => ?_, fun scope _ => ?_, ?_⟩⟩
  · exact mem_descendants_iff_scope p hshaped
  · exact (Cursor.nodup_reach _ scope).filter _
  · exact existsUnique_scope_iff p hshaped

end Project

namespace MarkedPlugin

/-- A plugin with one route, written in place before a non-null mark. -/
def text : String :=
  "app.register((async (f) => \x7b f.get('/users', list); \x7d)!, \x7b prefix: '/v1' \x7d);"

def path : Path := ⟨true, ["app", "main.ts"]⟩

def file : SourceFile :=
  ⟨path, "main.ts", Grammar.parse false text, FileFacts.ofTree path (Grammar.parse false text)⟩

/-- The mark stands between the call and the function, which is found by its path. -/
theorem marked_call : ∃ call ∈ file.root.descendants .callExpression,
    call.isRegisterCall = true ∧ ∃ plugin ∈ call.callArguments.head?,
      plugin.unwrapped.isFunction = true ∧
      (∃ w ∈ plugin.preorder, w.kind = .nonNullExpression ∧
        ∃ f ∈ w.preorder, f.path = plugin.unwrapped.path) ∧
      plugin.unwrapped.descendants .callExpression ≠ [] := by
  decide +kernel

theorem hasMarkedPlugin : file.HasMarkedPlugin := by
  obtain ⟨call, hcall, hregister, plugin, hfirst, hfun, ⟨w, hw, hkind, f, hf, hpath⟩, hheld⟩ :=
    marked_call
  have hplugin : plugin.Contains plugin.unwrapped := .of_wraps plugin.wraps_unwrapped
  have hwf : plugin.Contains f :=
    (Cursor.mem_preorder_iff.1 hw).trans (Cursor.mem_preorder_iff.1 hf)
  obtain rfl := hwf.eq_of_path_eq hplugin hpath
  exact ⟨call, hcall, plugin, _, ⟨(Cursor.mem_descendants_iff.1 hcall).2, hregister, hfirst, rfl,
    hfun⟩, ⟨w, hw, hkind, hf⟩, hheld⟩

/-- The call that adds the route belongs to two scopes. -/
theorem call_in_two_scopes :
    file.tree.Shaped ∧ file.HasMarkedPlugin ∧
    ∃ call ∈ file.root.descendants .callExpression, ∃ s t : Cursor, s ≠ t ∧
      (Project.IsScope (.empty ⟨true, ["app"]⟩) file s ∧ call ∈ s.scopedCalls) ∧
      Project.IsScope (.empty ⟨true, ["app"]⟩) file t ∧ call ∈ t.scopedCalls := by
  obtain ⟨hparsed, hpartition⟩ :=
    Project.scopes_partition_calls_iff (.empty ⟨true, ["app"]⟩) file
  have hshaped : file.tree.Shaped := hparsed false text rfl
  obtain ⟨hcover, -, hunique⟩ := hpartition hshaped
  refine ⟨hshaped, hasMarkedPlugin, Classical.byContradiction fun hnone => ?_⟩
  refine hunique.1 (fun call hcall => ?_) hasMarkedPlugin
  obtain ⟨s, hs⟩ := (hcover call).1 hcall
  refine ⟨s, hs, fun t ht => Classical.byContradiction fun hne => hnone ?_⟩
  exact ⟨call, hcall, t, s, hne, ht, hs⟩

end MarkedPlugin

end RouteInventory
