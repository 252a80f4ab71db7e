import Mathlib
import RouteInventory.Proofs.DocumentKeys
import RouteInventory.Proofs.ReplyChains

/-!
# The lines of a scope's endpoints

The line of an endpoint is the one where the call begins that declares it, which need not be the one
where its verb stands.  Calls with their verbs on different lines may so share a line, and in a
parsed file the calls of one chain always do.

* `RouteReader.declaring`: the calls of a scope that declare endpoints.
* `RouteReader.map_line_endpointsIn`: each of them gives its line to an endpoint.
* `Cursor.Chained`: calls that are made on what another call returns.
* `RouteReader.lines_distinct_iff`: when no two endpoints of a scope have the same line.
-/

namespace RouteInventory

/-! ## Chains of calls -/

namespace Cursor

variable {c d : Cursor}

/-- What a call is made on: the object of the member that it calls. -/
def receiver? (c : Cursor) : Option Cursor :=
  if c.kind == .callExpression then
    (c.role? .function).bind fun f =>
      if f.kind == .memberExpression then f.role? .object else none
  else none

/-- The call is made on what the other one returns, with any number of such calls in between. -/
def Chained : Cursor → Cursor → Prop := Relation.TransGen fun c d => c.receiver? = some d

theorem exists_of_receiver? (h : c.receiver? = some d) :
    ∃ f, c.kind = .callExpression ∧ c.role? .function = some f ∧ f.kind = .memberExpression ∧
      f.role? .object = some d := by
  unfold receiver? at h
  split at h
  · rename_i hcall
    obtain ⟨f, hf, h⟩ := Option.bind_eq_some_iff.1 h
    split at h
    · rename_i hmember
      exact ⟨f, beq_iff_eq.1 hcall, hf, beq_iff_eq.1 hmember, h⟩
    · cases h
  · cases h

theorem Descends.receiver (h : c.receiver? = some d) : Descends c d := by
  obtain ⟨f, -, hf, -, hd⟩ := exists_of_receiver? h
  exact Descends.role (Descends.role .refl hf) hd

theorem depth_of_receiver? (h : c.receiver? = some d) : d.depth = c.depth + 2 := by
  obtain ⟨f, -, hf, -, hd⟩ := exists_of_receiver? h
  have hfc := depth_of_mem_children (mem_children_of_role? hf)
  have hdf := depth_of_mem_children (mem_children_of_role? hd)
  rw [hdf, hfc]

theorem Chained.depth_lt (h : Chained c d) : c.depth < d.depth := by
  induction h with
  | single h => rw [depth_of_receiver? h]; omega
  | tail _ h ih => rw [depth_of_receiver? h]; omega

theorem Descends.formed (h : Descends c d) (hc : c.focus.Formed) : d.focus.Formed := by
  induction h with
  | refl => exact hc
  | tail _ hchild ih => exact ih.of_mem_children (focus_mem_children hchild)

/-- What a call or a member applies to begins on its line. -/
theorem line_of_role? (hc : c.focus.Formed) (hlink : c.kind.isLink = true)
    (h : c.role? c.kind.linkRole = some d) : d.line = c.line := by
  have hfocus := congrArg (Option.map focus) h
  rw [focus_role?, Option.map_some] at hfocus
  exact hc.line_eq hlink hfocus

theorem line_of_receiver? (hc : c.focus.Formed) (h : c.receiver? = some d) : d.line = c.line := by
  obtain ⟨f, hcall, hf, hmember, hd⟩ := exists_of_receiver? h
  have hformed : f.focus.Formed := (Descends.role .refl hf).formed hc
  have hfc : f.line = c.line := line_of_role? hc (by rw [hcall]) (by rw [hcall]; exact hf)
  have hdf : d.line = f.line := line_of_role? hformed (by rw [hmember]) (by rw [hmember]; exact hd)
  rw [hdf, hfc]

/-- All calls of a chain begin on one line. -/
theorem Chained.line_eq (h : Chained c d) (hc : c.focus.Formed) :
    d.line = c.line ∧ d.focus.Formed := by
  induction h with
  | single h => exact ⟨line_of_receiver? hc h, (Descends.receiver h).formed hc⟩
  | tail _ h ih =>
    obtain ⟨hline, hformed⟩ := ih
    exact ⟨(line_of_receiver? hformed h).trans hline, (Descends.receiver h).formed hformed⟩

end Cursor

namespace RouteReader

/-! ## The calls that declare endpoints -/

/-- The call declares an endpoint: its path is spelled out, and is one. -/
def RouteCall.declares (c : RouteCall) : Bool := c.first.focus.stringValue?.any isRoutePath

/-- The calls of a scope that declare endpoints. -/
def declaring (scope : Cursor) : List RouteCall :=
  (scope.scopedCalls.filterMap routeCall?).filter RouteCall.declares

/-- The node that names the method of a route. -/
def RouteCall.verb? (c : RouteCall) : Option Cursor :=
  (c.call.role? .function).bind fun f => f.role? .property

/-- The verb stands on another line than where the call begins. -/
def RouteCall.Spread (c : RouteCall) : Prop := c.verb?.map Cursor.line ≠ some c.call.line

variable {r : RouteReader} {file : SourceFile} {scope call : Cursor} {c d : RouteCall} {m : Memo}

/-- What is read of a call is about the call, and its method was read off its verb. -/
theorem routeCall?_spec (h : routeCall? call = some c) :
    c.call = call ∧ ∃ v, c.verb? = some v ∧ Method.ofCall? v.text = some c.method := by
  obtain ⟨f, hf, h⟩ := Option.bind_eq_some_iff.1 h
  split at h
  · cases h
  · rename_i hkind
    obtain ⟨method, hmethod, h⟩ := Option.bind_eq_some_iff.1 h
    obtain ⟨name, hname, hmethod⟩ := Option.bind_eq_some_iff.1 hmethod
    split at h
    · cases h
      have hmember : f.focus.kind = .memberExpression := by simpa [Cursor.kind] using hkind
      have hproperty : (f.focus.role? .property).map Tree.text = some name := by
        unfold Tree.calleeName? at hname
        rw [hmember] at hname
        exact hname
      rw [← Cursor.focus_role?, Option.map_map] at hproperty
      obtain ⟨v, hv, rfl⟩ := Option.map_eq_some_iff.1 hproperty
      refine ⟨rfl, v, ?_, hmethod⟩
      rw [RouteCall.verb?, hf, Option.bind_some, hv]
    · cases h

theorem contains_of_mem_declaring (h : c ∈ declaring scope) : scope.Contains c.call := by
  obtain ⟨call, hmem, hcall⟩ := List.mem_filterMap.1 (List.mem_filter.1 h).1
  rw [(routeCall?_spec hcall).1]
  exact (Cursor.mem_scopedCalls_iff.1 hmem).2.1

/-- The endpoint is the one that the call declares. -/
structure Answers (c : RouteCall) (e : Endpoint) : Prop where
  line : e.line = c.call.line
  method : e.method = c.method
  path : c.first.focus.stringValue? = some e.path

/-- What became of a call is what it declares. -/
def Fits (c : RouteCall) (o : Outcome) : Prop :=
  (c.declares = true ∧ ∃ e, o = .endpoint e ∧ Answers c e) ∨
    (c.declares = false ∧ ∀ e, o ≠ .endpoint e)

theorem fits_readCall (r : RouteReader) (file : SourceFile) (c : RouteCall) (m : Memo) :
    Fits c (r.readCall file c m).1 := by
  unfold Fits readCall RouteCall.declares
  cases hpath : c.first.focus.stringValue? with
  | none =>
    refine .inr ⟨rfl, fun e he => ?_⟩
    cases hhandler : c.handler?.isSome <;> rw [hhandler] at he <;> cases he
  | some path =>
    rw [Option.any_some]
    dsimp only
    cases hroute : isRoutePath path with
    | false =>
      refine .inr ⟨rfl, fun e he => ?_⟩
      cases he
    | true =>
      refine .inl ⟨rfl, _, rfl, ?_⟩
      exact ⟨rfl, rfl, hpath⟩

/-- **The endpoints of a scope** are declared by its calls, one by each in their order. -/
theorem answers_endpointsIn (r : RouteReader) (file : SourceFile) (scope : Cursor) :
    List.Forall₂ Answers (declaring scope) (r.endpointsIn file scope).1 := by
  obtain ⟨-, hfits⟩ := Typer.mapM_preserves (P := fun _ => True) (Q := Fits)
    (scope.scopedCalls.filterMap routeCall?)
    (fun c _ m _ => ⟨trivial, fits_readCall r file c m⟩) [] trivial
  rw [declaring, ← List.filterMap_eq_filter]
  refine List.rel_filterMap (fun c o hfit => ?_) hfits
  rcases hfit with ⟨hdeclares, e, rfl, hanswers⟩ | ⟨hdeclares, hnone⟩
  · rw [Option.guard, if_pos hdeclares]
    exact .some hanswers
  · rw [Option.guard, if_neg (Bool.eq_false_iff.1 hdeclares)]
    cases o with
    | endpoint e => exact absurd rfl (hnone e)
    | skipped | ignored => exact .none

theorem map_line_endpointsIn (r : RouteReader) (file : SourceFile) (scope : Cursor) :
    (r.endpointsIn file scope).1.map Endpoint.line =
      (declaring scope).map fun c => c.call.line := by
  have hlines := (answers_endpointsIn r file scope).imp fun c e h => h.line.symm
  have hsame : List.Forall₂ (· = ·) ((declaring scope).map fun c => c.call.line)
      ((r.endpointsIn file scope).1.map Endpoint.line) :=
    List.forall₂_map_left_iff.2 (List.forall₂_map_right_iff.2 hlines)
  rw [List.forall₂_eq_eq_eq] at hsame
  exact hsame.symm

/-- Where verbs stand on different lines, calls that begin on one line include one that does not
begin where its verb stands. -/
theorem pairwise_line_ne_iff {calls : List RouteCall}
    (hverbs : (calls.map fun c => c.verb?.map Cursor.line).Nodup) :
    (calls.map fun c => c.call.line).Nodup ↔
      calls.Pairwise fun c d => c.Spread ∨ d.Spread → c.call.line ≠ d.call.line := by
  have hapart : calls.Pairwise fun c d => c.verb?.map Cursor.line ≠ d.verb?.map Cursor.line :=
    List.pairwise_map.1 hverbs
  rw [List.Nodup, List.pairwise_map]
  constructor
  · intro h
    refine h.imp ?_
    exact fun hne _ => hne
  · intro h
    refine h.imp₂ (fun c d hspread hverb hline => ?_) hapart
    have hc : ¬ c.Spread := fun hc => hspread (.inl hc) hline
    have hd : ¬ d.Spread := fun hd => hspread (.inr hd) hline
    rw [RouteCall.Spread, not_not] at hc hd
    exact hverb (by rw [hc, hd, hline])

/-- **When the endpoints of a scope have different lines.**  Each of them has the line where the
call begins that declares it.  If the verbs of these calls stand on different lines, then the lines
differ exactly if no call with its verb further down begins on the line of another one.  In a parsed
file, all calls of a chain begin on the line where the chain begins, and so the lines are not
different if two of them declare endpoints. -/
theorem lines_distinct_iff (r : RouteReader) (file : SourceFile) (scope : Cursor) :
    (∀ c ∈ declaring scope, ∃ v, c.verb? = some v ∧ Method.ofCall? v.text = some c.method) ∧
    List.Forall₂ Answers (declaring scope) (r.endpointsIn file scope).1 ∧
    (((declaring scope).map fun c => c.verb?.map Cursor.line).Nodup →
      (((r.endpointsIn file scope).1.map Endpoint.line).Nodup ↔
        (declaring scope).Pairwise fun c d =>
          c.Spread ∨ d.Spread → c.call.line ≠ d.call.line)) ∧
    ∀ (markup : Bool) (text : String),
      (Cursor.ofTree (Grammar.parse markup text)).Contains scope →
      ∀ c ∈ declaring scope, ∀ d ∈ declaring scope, c.call.Chained d.call →
        ¬ ((r.endpointsIn file scope).1.map Endpoint.line).Nodup := by
  refine ⟨fun c hc => ?_, answers_endpointsIn r file scope, fun hverbs => ?_,
    fun markup text hscope c hc d hd hchained hnodup => ?_⟩
  · obtain ⟨call, -, hcall⟩ := List.mem_filterMap.1 (List.mem_filter.1 hc).1
    exact (routeCall?_spec hcall).2
  · rw [map_line_endpointsIn]
    exact pairwise_line_ne_iff hverbs
  · rw [map_line_endpointsIn] at hnodup
    have hbelow := (hscope.trans (contains_of_mem_declaring hc)).descends
    have hline := (hchained.line_eq (hbelow.formed (Grammar.parse_formed markup text))).1
    have hsame : c = d := List.inj_on_of_nodup_map hnodup hc hd hline.symm
    exact absurd (congrArg (fun c : RouteCall => c.call.depth) hsame) hchained.depth_lt.ne

end RouteReader

/-! ## A chain over three lines -/

namespace ChainedRoutes

/-- Two routes of one chain, each on a line of its own. -/
def text : String := "app\n  .get('/a', h)\n  .post('/b', h);"

def path : Path := ⟨true, ["app", "a.ts"]⟩

def file : SourceFile :=
  ⟨path, "a.ts", Grammar.parse false text, FileFacts.ofTree path (Grammar.parse false text)⟩

def reader : RouteReader := .ofConfig (.empty ⟨true, ["app"]⟩) .standard

/-- The calls of the file that declare endpoints: the lines of their verbs, where they stand in the
tree, and where what they are made on stands. -/
theorem places_declaring :
    (RouteReader.declaring file.root).map
        (fun c => (c.verb?.map Cursor.line, c.call.path, c.call.receiver?.map Cursor.path)) =
      [(some 3, [0, 0], some [0, 0, 0, 0]), (some 2, [0, 0, 0, 0], some [0, 0, 0, 0, 0, 0])] := by
  decide +kernel

theorem exists_chained : ∃ c ∈ RouteReader.declaring file.root,
    ∃ d ∈ RouteReader.declaring file.root, c.call.Chained d.call := by
  have hplaces := places_declaring
  have hlength := congrArg List.length hplaces
  rw [List.length_map] at hlength
  obtain ⟨post, get, hcalls⟩ := List.length_eq_two.1 hlength
  have hpost : post ∈ RouteReader.declaring file.root := hcalls ▸ List.mem_cons_self
  have hget : get ∈ RouteReader.declaring file.root :=
    hcalls ▸ List.mem_cons_of_mem _ List.mem_cons_self
  rw [hcalls] at hplaces
  simp only [List.map_cons, List.map_nil, List.cons.injEq, Prod.mk.injEq, and_true] at hplaces
  obtain ⟨⟨-, -, hreceiver⟩, -, hpath, -⟩ := hplaces
  -- Nodes of one tree are the same if their paths are.
  obtain ⟨d, hd, hdpath⟩ := Option.map_eq_some_iff.1 hreceiver
  have hroot := (RouteReader.contains_of_mem_declaring hpost).descends
  have hbelow : file.root.Descends d := hroot.trans (Cursor.Descends.receiver hd)
  have hsame : d = get.call := hbelow.eq_of_path_eq
    (RouteReader.contains_of_mem_declaring hget).descends (hdpath.trans hpath.symm)
  exact ⟨post, hpost, get, hget, .single (hsame ▸ hd)⟩

/-- The verbs stand on different lines, and the endpoints do not have different lines. -/
theorem line_shared :
    ((RouteReader.declaring file.root).map fun c => c.verb?.map Cursor.line) = [some 3, some 2] ∧
      ¬ ((reader.endpointsIn file file.root).1.map Endpoint.line).Nodup := by
  obtain ⟨c, hc, d, hd, hchained⟩ := exists_chained
  obtain ⟨-, -, -, hchains⟩ := RouteReader.lines_distinct_iff reader file file.root
  have hverbs := congrArg (List.map Prod.fst) places_declaring
  rw [List.map_map] at hverbs
  exact ⟨hverbs, hchains false text (.refl _) c hc d hd hchained⟩

end ChainedRoutes

end RouteInventory
