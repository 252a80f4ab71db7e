import Mathlib
import RouteInventory.Fastify.Routes
import RouteInventory.Proofs.LastMembers
import RouteInventory.Proofs.Placeholders
import RouteInventory.Proofs.ResponseEntries

/-!
# Where names of parameters are repeated

The parameters of an endpoint, and the fields of its response, are lists, and nothing keeps their
names apart.  This file follows each list back to what is written in the project: placeholders of a
path, decorators of a method's parameters, and the members of a type.

* `Shape.Repeats`: a shape is taken apart into two fields of one name.
* `Renderer.nodup_properties_iff`: the fields of a shape.
* `RouteReader.callParams_eq`: the parameters that the type argument of a call declares.
* `RouteReader.Declares.namesDistinct_iff`: the names of an endpoint that a call declares.
* `ControllerReader.Declares.namesDistinct_iff`: those of an endpoint that a method declares.
-/

namespace RouteInventory

/-! ## Shapes -/

/-- Two of the fields that a shape is taken apart into have the name: two members of an object that
are shown, or two fields of the only alternative that says that there is a value. -/
inductive Shape.Repeats (name : String) : Shape → Prop
  | members {label : Option String} {ms : List (Member Shape)} (hlabel : Renderer.isElided label = false)
      (hshown : isSuppressed name = false) (htwice : 1 < (Member.names ms).count name) :
    Repeats name (.object label ms)
  | only {vs : List Shape} {v : Shape} (honly : vs.filter (fun v => !v.isNullish) = [v])
      (h : Repeats name v) : Repeats name (.union vs)

/-- A shape is taken apart into fields of different names. -/
def Shape.FieldsApart (s : Shape) : Prop := ∀ name, ¬ s.Repeats name

theorem Shape.fieldsApart_object_iff {label : Option String} {ms : List (Member Shape)} :
    (Shape.object label ms).FieldsApart ↔
      ((Member.names ms).filter fun name => !Renderer.isElided label && !isSuppressed name).Nodup := by
  rw [List.nodup_iff_count_le_one]
  refine forall_congr' fun name => ?_
  have hrepeats : (Shape.object label ms).Repeats name ↔ Renderer.isElided label = false ∧
      isSuppressed name = false ∧ 1 < (Member.names ms).count name := by
    constructor
    · rintro ⟨hlabel, hshown, htwice⟩
      exact ⟨hlabel, hshown, htwice⟩
    · rintro ⟨hlabel, hshown, htwice⟩
      exact .members hlabel hshown htwice
  rw [hrepeats, ← not_lt, not_iff_not]
  by_cases hname : (!Renderer.isElided label && !isSuppressed name) = true
  · have hcount := List.count_filter
      (p := fun name => !Renderer.isElided label && !isSuppressed name)
      (l := Member.names ms) hname
    rw [hcount]
    simp_all
  · have hnone : name ∉ (Member.names ms).filter
        fun name => !Renderer.isElided label && !isSuppressed name :=
      fun h => hname (List.mem_filter.1 h).2
    rw [List.count_eq_zero_of_not_mem hnone]
    simp_all

namespace Renderer

variable {r : Renderer}

theorem expansions_eq_map (r : Renderer) (vs : List Shape) :
    r.expansions vs = (vs.filter fun v => !v.isNullish).map r.expansion := by
  induction vs with
  | nil => rfl
  | cons v vs ih => cases hv : v.isNullish <;> simp [expansions, hv, ih]

/-- **The fields of a shape have different names** unless the shape repeats one. -/
theorem nodup_properties_iff (r : Renderer) (s : Shape) :
    ((r.properties s).map Param.name).Nodup ↔ s.FieldsApart := by
  rw [properties_eq_expansion]
  induction s using Shape.induction with
  | primitive name => exact iff_of_true List.nodup_nil fun _ h => by cases h
  | literal text => exact iff_of_true List.nodup_nil fun _ h => by cases h
  | array element => exact iff_of_true (List.nodup_singleton _) fun _ h => by cases h
  | named name module args => exact iff_of_true List.nodup_nil fun _ h => by cases h
  | object label ms =>
    rw [Shape.fieldsApart_object_iff, expansion, List.map_map, Member.names, List.filter_map]
    rfl
  | union vs ih =>
    have honly {name : String} (h : (Shape.union vs).Repeats name) :
        ∃ v, vs.filter (fun v => !v.isNullish) = [v] ∧ v.Repeats name := by
      cases h with
      | only honly h => exact ⟨_, honly, h⟩
    rw [expansion, expansions_eq_map]
    rcases hvs : vs.filter fun v => !v.isNullish with _ | ⟨v, _ | ⟨w, ws⟩⟩
    · refine iff_of_true (by simp [hvs]) fun name h => ?_
      obtain ⟨v, hv, -⟩ := honly h
      simp [hvs] at hv
    · have hv : v ∈ vs := (List.mem_filter.1 (hvs ▸ List.mem_singleton_self v)).1
      have hrepeats (name : String) : v.Repeats name ↔ (Shape.union vs).Repeats name := by
        refine ⟨.only hvs, fun h => ?_⟩
        obtain ⟨v', hv', h⟩ := honly h
        obtain rfl : v = v' := List.singleton_injective (hvs.symm.trans hv')
        exact h
      simpa [Shape.FieldsApart, hvs, hrepeats] using ih v hv
    · refine iff_of_true (by simp [hvs]) fun name h => ?_
      obtain ⟨v', hv, -⟩ := honly h
      simp [hvs] at hv

/-- The same for a shape that may be missing. -/
theorem nodup_getD_properties_iff (r : Renderer) (shape : Option Shape) :
    (((shape.map r.properties).getD []).map Param.name).Nodup ↔ ∀ s ∈ shape, s.FieldsApart := by
  cases shape <;> simp [r.nodup_properties_iff]

end Renderer

/-! ## Parameters of calls -/

namespace RouteReader

/-- What the type argument of a call says about a part of the request: the shape of the last member
of that name. -/
def declared? (r : RouteReader) (file : SourceFile) (call : Cursor) (part : String) :
    Option Shape :=
  (((call.focus.role? .typeArguments).bind Tree.firstPart?).bind fun t =>
    (r.project.typeShape file t).members.reverse.find? fun m => m.name == part).map Member.shape

/-- Of members with one name the last counts. -/
theorem foldl_addParams (r : RouteReader) (ms : List (Member Shape)) :
    ms.foldl r.addParams ⟨none, [], []⟩ =
      let fields (part : String) := (ms.reverse.find? fun m => m.name == part).map fun m =>
        r.renderer.properties m.shape
      ⟨fields "Params", (fields "Querystring").getD [], (fields "Body").getD []⟩ := by
  induction ms using List.reverseRecOn with
  | nil => rfl
  | append_singleton ms m ih =>
    rw [List.foldl_append, ih, List.foldl_cons, List.foldl_nil, addParams]
    split <;> simp_all

/-- **The parameters that the type argument of a call declares.** -/
theorem callParams_eq (r : RouteReader) (file : SourceFile) (call : Cursor) :
    r.callParams file call =
      let fields (part : String) := (r.declared? file call part).map r.renderer.properties
      ⟨fields "Params", (fields "Querystring").getD [], (fields "Body").getD []⟩ := by
  unfold callParams declared?
  cases (call.focus.role? .typeArguments).bind Tree.firstPart? with
  | none => rfl
  | some t =>
    have hparams : r.paramsOf file t =
        (r.project.typeShape file t).members.foldl r.addParams ⟨none, [], []⟩ := by
      unfold paramsOf
      cases r.project.typeShape file t <;> rfl
    simp only [hparams, foldl_addParams, Option.bind_some, Option.map_map]
    rfl

end RouteReader

/-! ## Fields of responses -/

/-- The fields of the success that is reported. -/
def Responses.firstFields (responses : Option Responses) : List Param :=
  ((responses.bind fun r => r.success.head?).map Success.dataType).getD []

theorem nodup_firstFields_iff {r : Renderer} {responses : Option Responses} {shape : Option Shape}
    (h : Responses.firstFields responses = (shape.map r.properties).getD []) :
    (∀ res ∈ responses, ∀ s ∈ res.success.head?, (s.dataType.map Param.name).Nodup) ↔
      ∀ s ∈ shape, s.FieldsApart := by
  have hresponses : (∀ res ∈ responses, ∀ s ∈ res.success.head?,
      (s.dataType.map Param.name).Nodup) ↔
        ((Responses.firstFields responses).map Param.name).Nodup := by
    cases responses with
    | none => simp [Responses.firstFields]
    | some res => cases hsuccess : res.success.head? <;> simp [Responses.firstFields, hsuccess]
  rw [hresponses, h, r.nodup_getD_properties_iff]

theorem head?_keepFirst {α : Type} (key : α → Nat × Nat) (xs : List α) :
    (keepFirst key [] xs).head? = xs.head? := by
  cases xs with
  | nil => rfl
  | cons x xs => rw [keepFirst, if_neg List.not_mem_nil, List.head?_cons, List.head?_cons]

namespace ResponseReader

/-- What a handler reports of its first success is typed after what comes before it. -/
theorem find?_candidates (r : ResponseReader) (handler : Cursor) (m : Memo) :
    ∃ m', ((r.candidates handler m).find? fun a => a.send.code < 400).map Candidate.dataType =
      (handler.answers.find? fun a => a.2.code < 400).map fun a =>
        (r.payload a.2.payload m').1.1 := by
  unfold candidates
  induction handler.answers generalizing m with
  | nil => exact ⟨m, rfl⟩
  | cons a answers ih =>
    rw [Typer.mapM_cons_run, List.zipWith_cons_cons, List.find?_cons, List.find?_cons]
    by_cases hcode : a.2.code < 400
    · exact ⟨m, by simp [hcode]⟩
    · simpa [hcode] using ih _

theorem head?_success (r : ResponseReader) (handler : Cursor) (m : Memo) :
    ∃ m', (r.responses handler m).1.success.head?.map Success.dataType =
      (handler.answers.find? fun a => a.2.code < 400).map fun a =>
        (r.payload a.2.payload m').1.1 := by
  obtain ⟨m', hfind⟩ := r.find?_candidates handler m
  refine ⟨m', ?_⟩
  rw [← hfind, responses_run, Responses.distinct, head?_keepFirst, List.head?_map, List.head?_filter,
    Option.map_map]
  rfl

end ResponseReader

/-! ## Endpoints of calls -/

/-- The names of parameters, and those of the fields that are reported of a response, are distinct
in each list. -/
def Endpoint.NamesDistinct (e : Endpoint) : Prop :=
  (e.pathParams.map Param.name).Nodup ∧ (e.queryParams.map Param.name).Nodup ∧
    (e.bodyParams.map Param.name).Nodup ∧
    ∀ r ∈ e.responses, ∀ s ∈ r.success.head?, (s.dataType.map Param.name).Nodup

theorem exists_of_mem_mapM {σ α β : Type} {f : α → StateM σ β} {xs : List α} {b : β} {s : σ}
    (h : b ∈ ((xs.mapM f).run s).1) : ∃ a ∈ xs, ∃ s', ((f a).run s').1 = b := by
  induction xs generalizing s with
  | nil => cases h
  | cons a xs ih =>
    rw [List.mapM_cons] at h
    rcases List.mem_cons.1 h with rfl | h
    · exact ⟨a, List.mem_cons_self, s, rfl⟩
    · obtain ⟨c, hc, s', hb⟩ := ih h
      exact ⟨c, List.mem_cons_of_mem a hc, s', hb⟩

namespace RouteReader

variable {r : RouteReader} {file : SourceFile} {c : RouteCall} {m : Memo} {e : Endpoint}

/-- The endpoint is what a call in the file declares. -/
structure Declares (r : RouteReader) (file : SourceFile) (c : RouteCall) (e : Endpoint) : Prop where
  path : c.first.focus.stringValue? = some e.path
  pathParams :
    e.pathParams = (r.callParams file c.call).path.getD (RoutePath.placeholders e.path)
  queryParams : e.queryParams = (r.callParams file c.call).query
  bodyParams : e.bodyParams = (r.callParams file c.call).body
  responses : ∃ m, e.responses = (r.responsesOf file c.handler? m).1

theorem declares_of_readCall
    (h : ((r.readCall file c).run m).1 = .endpoint e) : r.Declares file c e := by
  unfold readCall at h
  split at h
  · split at h <;> cases h
  · rename_i path hpath
    split at h
    · cases h
    · cases h
      exact ⟨hpath, rfl, rfl, rfl, m, rfl⟩

theorem declares_of_mem_endpointsIn {scope : Cursor}
    (h : e ∈ (r.endpointsIn file scope).1) :
    ∃ c ∈ scope.scopedCalls.filterMap routeCall?, r.Declares file c e := by
  obtain ⟨o, ho, he⟩ := List.mem_filterMap.1 h
  obtain ⟨c, hmem, m, hc⟩ := exists_of_mem_mapM ho
  cases o with
  | endpoint e' =>
    cases he
    exact ⟨c, hmem, declares_of_readCall hc⟩
  | skipped | ignored => cases he

/-- The shape of what is reported of a call's handler: of what it answers with, with a code that is
no error, the first. -/
def reported? (r : RouteReader) (file : SourceFile) (c : RouteCall) (m : Memo) : Option Shape :=
  if r.withResponses then
    (c.handler?.bind fun handler =>
      (handler.answers.find? fun a => a.2.code < 400).bind fun a => a.2.payload).map fun value =>
        (Typer.inferResponse ⟨r.project, file⟩ value m).1
  else none

/-- Nothing that a call says about its route repeats a name: not the placeholders of the path, which
count if the type argument does not speak of them, no part of the request in the type argument, and
not the response. -/
structure NamesApart (r : RouteReader) (file : SourceFile) (c : RouteCall) (m : Memo)
    (path : String) : Prop where
  placeholders : r.declared? file c.call "Params" = none →
    (path.toList.tails.filterMap (RoutePath.nameAt? Text.isWord)).Nodup
  declared : ∀ part ∈ ["Params", "Querystring", "Body"], ∀ s ∈ r.declared? file c.call part,
    s.FieldsApart
  response : ∀ s ∈ r.reported? file c m, s.FieldsApart

theorem firstFields_responsesOf (r : RouteReader) (file : SourceFile) (c : RouteCall) (m : Memo) :
    ∃ m', Responses.firstFields (r.responsesOf file c.handler? m).1 =
      ((r.reported? file c m').map r.renderer.properties).getD [] := by
  unfold responsesOf reported?
  cases r.withResponses with
  | false => exact ⟨m, rfl⟩
  | true =>
    cases c.handler? with
    | none => exact ⟨m, rfl⟩
    | some handler =>
      obtain ⟨m', hfirst⟩ :=
        ResponseReader.head?_success ⟨⟨r.project, file⟩, r.renderer⟩ handler m
      refine ⟨m', (congrArg (Option.getD · []) hfirst).trans ?_⟩
      rw [if_pos rfl, Option.bind_some]
      cases handler.answers.find? fun a => a.2.code < 400 with
      | none => rfl
      | some a =>
        rw [Option.bind_some]
        cases hpayload : a.2.payload <;> simp [hpayload] <;> rfl

/-- The names of path parameters are those of the type argument, or else the placeholders. -/
theorem Declares.nodup_pathParams_iff (h : r.Declares file c e) :
    (e.pathParams.map Param.name).Nodup ↔
      (r.declared? file c.call "Params" = none →
        (e.path.toList.tails.filterMap (RoutePath.nameAt? Text.isWord)).Nodup) ∧
      ∀ s ∈ r.declared? file c.call "Params", s.FieldsApart := by
  rw [h.pathParams, r.callParams_eq]
  dsimp only
  cases r.declared? file c.call "Params" with
  | none =>
    have hnames : (RoutePath.placeholders e.path).map Param.name =
        e.path.toList.tails.filterMap (RoutePath.nameAt? Text.isWord) :=
      (map_name_ofPlaceholder _).trans (RoutePath.placeholderNames_eq (by decide) _)
    simp [hnames]
  | some s => simp [Renderer.nodup_properties_iff]

/-- **When an endpoint that a call declares repeats no name.**  The fields of its response are those
of the reported shape, with what the typer remembered by then. -/
theorem Declares.namesDistinct_iff (h : r.Declares file c e) :
    ∃ m, Responses.firstFields e.responses =
        ((r.reported? file c m).map r.renderer.properties).getD [] ∧
      (e.NamesDistinct ↔ r.NamesApart file c m e.path) := by
  obtain ⟨m, hresponses⟩ := h.responses
  obtain ⟨m', hfields⟩ := r.firstFields_responsesOf file c m
  rw [← hresponses] at hfields
  refine ⟨m', hfields, ?_⟩
  rw [Endpoint.NamesDistinct, h.nodup_pathParams_iff, h.queryParams, h.bodyParams,
    nodup_firstFields_iff hfields, r.callParams_eq, Renderer.nodup_getD_properties_iff,
    Renderer.nodup_getD_properties_iff]
  constructor
  · rintro ⟨⟨hplaceholders, hpath⟩, hquery, hbody, hresponse⟩
    refine ⟨hplaceholders, ?_, hresponse⟩
    exact List.forall_mem_cons.2 ⟨hpath, List.forall_mem_cons.2
      ⟨hquery, List.forall_mem_singleton.2 hbody⟩⟩
  · rintro ⟨hplaceholders, hdeclared, hresponse⟩
    exact ⟨⟨hplaceholders, hdeclared _ (by decide)⟩, hdeclared _ (by decide),
      hdeclared _ (by decide), hresponse⟩

end RouteReader

/-! ## Endpoints of methods -/

namespace ControllerReader

variable {r : ControllerReader} {file : SourceFile} {method : Cursor} {m : Memo} {e : Endpoint}

/-- The endpoint is what a method in the file declares. -/
structure Declares (r : ControllerReader) (file : SourceFile) (method : Cursor) (e : Endpoint) :
    Prop where
  pathParams : e.pathParams =
    addPlaceholders (paramsFrom .path (r.methodParams file method)) (RoutePath.placeholders e.path)
  queryParams : e.queryParams = paramsFrom .query (r.methodParams file method)
  bodyParams : e.bodyParams = paramsFrom .body (r.methodParams file method)
  responses : ∃ verb decorators m, e.responses = if r.withResponses then
    some (r.responses ⟨r.project, file⟩ method verb decorators m).1 else none

theorem declares_of_route? {mount sourceFile : String} {route : ControllerRoute} (auth : GuardAuth)
    (h : ((r.route? file mount method).run m).1 = some route) :
    r.Declares file method (route.endpoint sourceFile auth) := by
  unfold route? at h
  dsimp only at h
  split at h
  · cases h
  · rename_i verb d _
    split at h
    · rename_i hwith
      cases h
      exact ⟨rfl, rfl, rfl, verb, method.decorators, m, (if_pos hwith).symm⟩
    · rename_i hwith
      cases h
      exact ⟨rfl, rfl, rfl, verb, method.decorators, m, (if_neg hwith).symm⟩

/-- The first value that a method returns itself. -/
def returned? (method : Cursor) : Option Cursor :=
  ((((method.role? .body).map Cursor.ownNodes).getD []).filter fun c =>
    c.kind == .returnStatement).findSome? Cursor.firstPart?

/-- The shape of what is reported of a method: its declared result, or else of the values that it
returns the first. -/
def reported? (r : ControllerReader) (file : SourceFile) (method : Cursor) (m : Memo) :
    Option Shape :=
  if r.withResponses then
    (method.focus.returnType?.map fun type => (r.project.typeShape file type).delivered).or
      ((returned? method).map fun value => (Typer.inferResponse ⟨r.project, file⟩ value m).1)
  else none

/-- Nothing that a method says about its route repeats a name: not what its parameters bind to one
part of the request, and not the response. -/
structure NamesApart (r : ControllerReader) (file : SourceFile) (method : Cursor) (m : Memo) :
    Prop where
  bound : ∀ source : ParamSource,
    ((r.boundBy source.decorator file method).map Param.name).Nodup
  response : ∀ s ∈ r.reported? file method m, s.FieldsApart

theorem head?_successes (r : ControllerReader) (file : SourceFile) (method : Cursor) (code : Nat)
    (m : Memo) (hwith : r.withResponses = true) :
    (r.successes ⟨r.project, file⟩ method code
      (((method.role? .body).map Cursor.ownNodes).getD []) m).1.head?.map Success.dataType =
        (r.reported? file method m).map r.renderer.properties := by
  rw [reported?, if_pos hwith, successes]
  cases method.focus.returnType? with
  | some type => rfl
  | none =>
    rw [returned?]
    generalize (((method.role? .body).map Cursor.ownNodes).getD []).filter (fun c =>
        c.kind == .returnStatement) = own
    induction own with
    | nil => rfl
    | cons c cs ih =>
      rw [List.filterMap_cons, List.findSome?_cons]
      cases c.firstPart? with
      | none => exact ih
      | some value =>
        dsimp only [Option.map_some]
        rw [Typer.mapM_cons_run]
        rfl

theorem firstFields_responses (r : ControllerReader) (file : SourceFile) (method : Cursor)
    (verb : Method) (decorators : List Decorator) (m : Memo) :
    Responses.firstFields (if r.withResponses then
        some (r.responses ⟨r.project, file⟩ method verb decorators m).1 else none) =
      ((r.reported? file method m).map r.renderer.properties).getD [] := by
  split
  · rename_i hwith
    rw [← r.head?_successes file method (successCode verb decorators) m hwith,
      ← head?_keepFirst fun s : Success => (s.code, s.line)]
    rfl
  · rename_i hwith
    rw [reported?, if_neg hwith]
    rfl

/-- **When an endpoint that a method declares repeats no name.**  Placeholders never do, and the
fields of its response are those of the reported shape. -/
theorem Declares.namesDistinct_iff (h : r.Declares file method e) :
    ∃ m, Responses.firstFields e.responses =
        ((r.reported? file method m).map r.renderer.properties).getD [] ∧
      (e.NamesDistinct ↔ r.NamesApart file method m) := by
  obtain ⟨verb, decorators, m, hresponses⟩ := h.responses
  have hfields := r.firstFields_responses file method verb decorators m
  rw [← hresponses] at hfields
  refine ⟨m, hfields, ?_⟩
  rw [Endpoint.NamesDistinct, h.pathParams, h.queryParams, h.bodyParams, nodup_addPlaceholders,
    paramsFrom_methodParams, paramsFrom_methodParams, paramsFrom_methodParams,
    nodup_firstFields_iff hfields]
  constructor
  · rintro ⟨hpath, hquery, hbody, hresponse⟩
    refine ⟨fun source => ?_, hresponse⟩
    cases source with
    | path => exact hpath
    | query => exact hquery
    | body => exact hbody
  · rintro ⟨hbound, hresponse⟩
    exact ⟨hbound .path, hbound .query, hbound .body, hresponse⟩

end ControllerReader

end RouteInventory
