import Mathlib
import RouteInventory.Proofs.ControllerReadings
import RouteInventory.Proofs.PathTexts
import RouteInventory.Proofs.ShapeTexts
import RouteInventory.Proofs.TyperMemory

/-!
# The path parameters of a controller's routes

The path parameters of a route are those that the method binds, and a required string for each
placeholder of the path that none of them is named for.

* `RoutePath.placeholderNames_eq`: the placeholders of a path, each read off its own position.
* `addPlaceholders_eq`: what is added to the parameters that are bound.
* `ControllerReader.boundFields_eq`: what a parameter binds that is bound as a whole.
* `ControllerReader.paramsFrom_methodParams`: the parameters that a method binds.
* `ControllerReader.placeholders_accounted`: the path parameters of all routes of a controller.
-/

namespace RouteInventory

namespace RoutePath

variable {isWord : Char → Bool} {path name : String}

theorem segments_eq (path : String) :
    segments path = ((path.toList.splitOn '/').map String.ofList).filter (· != "") := by
  rw [segments, Text.splitOn_slash]

/-- The name at the beginning of a text, if it begins with a colon and a name. -/
def nameAt? (isWord : Char → Bool) (cs : List Char) : Option String :=
  if cs.head? = some ':' ∧ cs.tail.takeWhile isWord ≠ [] then
    some (String.ofList (cs.tail.takeWhile isWord))
  else none

/-- The path has the placeholder: the name stands after a colon, and no longer name does. -/
def HasPlaceholder (isWord : Char → Bool) (path name : String) : Prop :=
  ∃ before after, path.toList = before ++ ':' :: (name.toList ++ after) ∧ name ≠ "" ∧
    (∀ c ∈ name.toList, isWord c = true) ∧ ∀ c ∈ after.head?, isWord c = false

/-- What is still to be read of the name that has been begun. -/
def pending (isWord : Char → Bool) (current : Option (List Char)) (cs : List Char) : List String :=
  (current.map fun acc => collected ((cs.takeWhile isWord).reverse ++ acc)).getD []

theorem pending_none (isWord : Char → Bool) (cs : List Char) : pending isWord none cs = [] := rfl

/-- A name begins after a colon. -/
theorem toList_nameAt? (isWord : Char → Bool) (c : Char) (cs : List Char) :
    (nameAt? isWord (c :: cs)).toList =
      pending isWord (if c == ':' then some [] else none) cs := by
  by_cases hc : c = ':'
  · by_cases hrun : cs.takeWhile isWord = []
    · simp [nameAt?, pending, collected, hc, hrun]
    · simp [nameAt?, pending, collected, hc, hrun]
  · simp [nameAt?, pending, hc]

theorem filterMap_tails_cons (isWord : Char → Bool) (c : Char) (cs : List Char) :
    (c :: cs).tails.filterMap (nameAt? isWord) =
      pending isWord (if c == ':' then some [] else none) cs
        ++ cs.tails.filterMap (nameAt? isWord) := by
  rw [← toList_nameAt?, List.tails_cons, List.filterMap_eq_flatMap_toList, List.flatMap_cons,
    List.filterMap_eq_flatMap_toList]

/-- Names are read off their own positions; `current` is the one that has been begun before. -/
theorem namesFrom_eq (hcolon : isWord ':' = false) (current : Option (List Char))
    (cs : List Char) :
    namesFrom isWord current cs =
      pending isWord current cs ++ cs.tails.filterMap (nameAt? isWord) := by
  induction cs generalizing current with
  | nil =>
    cases current with
    | none => rfl
    | some acc => simp [namesFrom, pending, nameAt?]
  | cons c cs ih =>
    cases current with
    | none => rw [namesFrom, ih, filterMap_tails_cons, pending_none, List.nil_append]
    | some acc =>
      rw [namesFrom, filterMap_tails_cons]
      split
      · rename_i hc
        have hne : (c == ':') = false := by
          rw [beq_eq_false_iff_ne]
          rintro rfl
          rw [hcolon] at hc
          cases hc
        rw [ih, hne, if_neg Bool.false_ne_true, pending_none, List.nil_append]
        simp [pending, hc]
      · rename_i hc
        rw [ih]
        simp [pending, hc]

/-- **The placeholders of a path**, each read off its own position. -/
theorem placeholderNames_eq (hcolon : isWord ':' = false) (path : String) :
    placeholderNames isWord path = path.toList.tails.filterMap (nameAt? isWord) :=
  namesFrom_eq hcolon none path.toList

theorem mem_placeholderNames_iff (hcolon : isWord ':' = false) :
    name ∈ placeholderNames isWord path ↔ HasPlaceholder isWord path name := by
  rw [placeholderNames_eq hcolon, List.mem_filterMap]
  constructor
  · rintro ⟨cs, hcs, hname⟩
    obtain ⟨before, hpath⟩ := (List.mem_tails _ _).1 hcs
    obtain ⟨⟨hhead, hne⟩, hname⟩ := Option.ite_none_right_eq_some.1 hname
    obtain ⟨rest, rfl⟩ := List.head?_eq_some_iff.1 hhead
    obtain rfl := Option.some.inj hname
    refine ⟨before, rest.dropWhile isWord, ?_, ?_, ?_, ?_⟩
    · rw [String.toList_ofList, List.tail_cons, List.takeWhile_append_dropWhile, hpath]
    · intro hempty
      rw [List.tail_cons] at hne
      exact hne (by simpa using congrArg String.toList hempty)
    · intro c hc
      rw [String.toList_ofList] at hc
      exact List.mem_takeWhile_imp hc
    · intro c hc
      have hend := List.head?_dropWhile_not isWord rest
      rwa [Option.mem_def.1 hc] at hend
  · rintro ⟨before, after, hpath, hne, hword, hafter⟩
    refine ⟨':' :: (name.toList ++ after), (List.mem_tails _ _).2 ⟨before, hpath.symm⟩, ?_⟩
    have hstop : after.takeWhile isWord = [] := by
      cases after with
      | nil => rfl
      | cons c after => exact List.takeWhile_cons_of_neg (by simp [hafter c rfl])
    have hrun : (name.toList ++ after).takeWhile isWord = name.toList := by
      rw [List.takeWhile_append_of_pos hword, hstop, List.append_nil]
    have hname : name.toList ≠ [] := fun hnil => hne (String.toList_eq_nil_iff.1 hnil)
    rw [nameAt?, List.tail_cons, hrun, if_pos ⟨rfl, hname⟩, String.ofList_toList]

end RoutePath

/-! ## Parameters that are added -/

/-- The parameter that stands for a placeholder. -/
def Param.ofPlaceholder (name : String) : Param := ⟨name, "string", true⟩

/-- No name is added that is there already. -/
theorem nodup_addPlaceholders {bound placeholders : List Param} :
    ((addPlaceholders bound placeholders).map Param.name).Nodup ↔
      (bound.map Param.name).Nodup := by
  unfold addPlaceholders
  induction placeholders generalizing bound with
  | nil => rfl
  | cons q qs ih =>
    rw [List.foldl_cons, ih]
    split
    · rfl
    · rename_i hany
      have hnew : q.name ∉ bound.map Param.name := by simpa using hany
      rw [List.map_append, List.map_singleton, ← List.concat_eq_append, List.nodup_concat]
      exact and_iff_right hnew

/-- **What is added for placeholders**: one parameter for each that is not named yet, in the order
of their first places. -/
theorem addPlaceholders_eq (bound : List Param) (names : List String) :
    addPlaceholders bound (names.map .ofPlaceholder) =
      bound ++ ((names.filter (· ∉ bound.map Param.name)).eraseDups.map .ofPlaceholder) := by
  unfold addPlaceholders
  induction names generalizing bound with
  | nil => simp
  | cons name names ih =>
    have hany : (bound.any fun p => p.name == (Param.ofPlaceholder name).name) =
        decide (name ∈ bound.map Param.name) := by
      rw [Bool.eq_iff_iff]
      simp [Param.ofPlaceholder]
    rw [List.map_cons, List.foldl_cons, ih, hany, List.filter_cons]
    by_cases hbound : name ∈ bound.map Param.name
    · simp only [hbound, decide_true, not_true_eq_false, decide_false, if_true,
        Bool.false_eq_true, if_false]
    · have hfresh : names.filter (· ∉ (bound ++ [Param.ofPlaceholder name]).map Param.name) =
          (names.filter (· ∉ bound.map Param.name)).filter fun n => !n == name := by
        have hmem (n : String) : n ∉ (bound ++ [Param.ofPlaceholder name]).map Param.name ↔
            n ≠ name ∧ n ∉ bound.map Param.name := by
          rw [List.map_append, List.mem_append, not_or, and_comm]
          exact and_congr_left' (not_congr List.mem_singleton)
        rw [List.filter_filter]
        apply List.filter_congr
        intro n _
        rw [Bool.eq_iff_iff, decide_eq_true_iff, hmem]
        simp
      simp only [hbound, decide_false, not_false_eq_true, decide_true, if_true,
        Bool.false_eq_true, if_false, List.eraseDups_cons, List.map_cons, hfresh,
        List.append_assoc, List.singleton_append]

theorem map_name_ofPlaceholder (names : List String) :
    (names.map Param.ofPlaceholder).map Param.name = names := by
  rw [List.map_map]
  exact List.map_id names

/-- The names that are left are those that would be added if nothing was bound. -/
theorem nodup_eraseDups_names (names : List String) : names.eraseDups.Nodup := by
  have hadded : ((addPlaceholders [] (names.map .ofPlaceholder)).map Param.name).Nodup :=
    nodup_addPlaceholders.2 List.nodup_nil
  rw [addPlaceholders_eq, List.nil_append, map_name_ofPlaceholder] at hadded
  simpa using hadded

/-- The parameters are those that are bound, and one for each placeholder that is not: every
placeholder is named, and just once if it is not bound. -/
structure Accounts (bound : List Param) (path : String) (params : List Param) : Prop where
  eq : params = bound ++ ((path.toList.tails.filterMap (RoutePath.nameAt? Text.isWord)).filter
    (· ∉ bound.map Param.name)).eraseDups.map .ofPlaceholder
  mem : ∀ name, RoutePath.HasPlaceholder Text.isWord path name → name ∈ params.map Param.name
  once : ∀ name, RoutePath.HasPlaceholder Text.isWord path name → name ∉ bound.map Param.name →
    (params.map Param.name).count name = 1

theorem accounts_addPlaceholders (bound : List Param) (path : String) :
    Accounts bound path (addPlaceholders bound (RoutePath.placeholders path)) := by
  have hcolon : Text.isWord ':' = false := by decide
  have heq : addPlaceholders bound (RoutePath.placeholders path) = bound ++
      ((RoutePath.placeholderNames Text.isWord path).filter
        (· ∉ bound.map Param.name)).eraseDups.map .ofPlaceholder := addPlaceholders_eq bound _
  have hinferred {name : String} (hname : RoutePath.HasPlaceholder Text.isWord path name)
      (hbound : name ∉ bound.map Param.name) :
      name ∈ ((RoutePath.placeholderNames Text.isWord path).filter
        (· ∉ bound.map Param.name)).eraseDups := by
    rw [List.mem_eraseDups, List.mem_filter, RoutePath.mem_placeholderNames_iff hcolon]
    exact ⟨hname, decide_eq_true hbound⟩
  refine ⟨heq.trans (by rw [RoutePath.placeholderNames_eq hcolon]), fun name hname => ?_,
    fun name hname hbound => ?_⟩
  · rw [heq, List.map_append, map_name_ofPlaceholder, List.mem_append]
    by_cases hbound : name ∈ bound.map Param.name
    · exact .inl hbound
    · exact .inr (hinferred hname hbound)
  · rw [heq, List.map_append, map_name_ofPlaceholder, List.count_append,
      List.count_eq_zero_of_not_mem hbound, Nat.zero_add]
    exact List.count_eq_one_of_mem (nodup_eraseDups_names _) (hinferred hname hbound)

/-! ## Shapes that are taken apart -/

def Shape.isObject : Shape → Bool
  | .object _ _ => true
  | _ => false

namespace Renderer

mutual
/-- What a shape is taken apart into: the items of an array, the members of an object that are
shown, and for a union that of its only alternative that says that there is a value. -/
def expansion (r : Renderer) : Shape → List Param
  | .primitive _ => []
  | .literal _ => []
  | .array element => [⟨"items", r.formatAt 1 (.array element), true⟩]
  | .union vs => if (r.expansions vs).length = 1 then (r.expansions vs).flatten else []
  | .object name members =>
    (members.filter fun m => !isElided name && !isSuppressed m.name).map fun m =>
      ⟨m.name, r.formatAt 1 m.shape, !m.optional⟩
  | .named _ _ _ => []

/-- What each alternative is taken apart into that says that there is a value. -/
def expansions (r : Renderer) : List Shape → List (List Param)
  | [] => []
  | v :: vs => if v.isNullish then r.expansions vs else r.expansion v :: r.expansions vs
end

variable {r : Renderer}

theorem expansions_eq_nil_iff {vs : List Shape} :
    r.expansions vs = [] ↔ vs.all Shape.isNullish = true := by
  induction vs with
  | nil => simp [expansions]
  | cons v vs ih => cases hv : v.isNullish <;> simp [expansions, hv, ih]

theorem onlyProperties_eq {vs : List Shape} (h : ∀ v ∈ vs, r.properties v = r.expansion v) :
    r.onlyProperties vs =
      if (r.expansions vs).length = 1 then (r.expansions vs).flatten else [] := by
  induction vs with
  | nil => rfl
  | cons v vs ih =>
    obtain ⟨hv, hvs⟩ := List.forall_mem_cons.1 h
    rw [onlyProperties, expansions]
    split
    · exact ih hvs
    · split
      · rename_i hall
        rw [expansions_eq_nil_iff.2 hall, hv]
        simp
      · rename_i hall
        have hmore : (r.expansions vs).length ≠ 0 :=
          mt (expansions_eq_nil_iff.1 ∘ List.length_eq_zero_iff.1) hall
        rw [if_neg (by simpa using hmore)]

/-- **The fields of a shape.** -/
theorem properties_eq_expansion (r : Renderer) (s : Shape) : r.properties s = r.expansion s := by
  induction s using Shape.induction with
  | primitive name => rfl
  | literal text => rfl
  | array element => rfl
  | union vs ih => rw [properties, onlyProperties_eq ih, expansion]
  | object name ms =>
    rw [properties, fieldsOf, expansion]
    · cases isElided name <;> simp
    · exact fun _ h => by cases h
  | named name module args => rfl

end Renderer

/-! ## Parameters that are bound -/

/-- The decorator that binds parameters to a part of the request. -/
def ParamSource.decorator : ParamSource → String
  | .path => "Param"
  | .query => "Query"
  | .body => "Body"

namespace ControllerReader

variable {r : ControllerReader} {file : SourceFile} {method param : Cursor}

/-- The decorator that says where a parameter comes from: the first that says so, even if what it
binds is not reported. -/
def binder? (r : ControllerReader) (param : Cursor) : Option Decorator :=
  if param.kind = .requiredParameter ∨ param.kind = .optionalParameter then
    param.decorators.find? fun d =>
      (ParamSource.ofDecorator? d.name).isSome || r.unreported.contains d.name
  else none

/-- What a parameter of the type binds as a whole: what the type is taken apart into, or the
parameter itself with the text of the type.  An object without fields binds nothing. -/
def wholeOf (r : ControllerReader) (file : SourceFile) (name : String) (required : Bool)
    (type : Tree) : List Param :=
  let shape := r.project.typeShape file type
  if shape.isObject = true ∨ r.renderer.expansion shape ≠ [] then r.renderer.expansion shape
  else [⟨name, r.renderer.format shape, required⟩]

/-- What a decorator binds: the value that it names, with the type as it is written, or else the
parameter as a whole, which can be anything if it has no type. -/
def bindings (r : ControllerReader) (file : SourceFile) (param : Cursor) (d : Decorator) :
    List Param :=
  let required := !param.focus.isOptional && (param.role? .value).isNone
  match d.firstString? with
  | some name =>
    [⟨name, (param.focus.declaredType?.map fun t =>
      String.intercalate " " (Text.words t.text)).getD "any", required⟩]
  | none =>
    let name := ((param.role? .pattern).map Cursor.text).getD ""
    (param.focus.declaredType?.map (r.wholeOf file name required)).getD [⟨name, "any", required⟩]

/-- What the parameters of a method bind with the decorator, in their order. -/
def boundBy (r : ControllerReader) (decorator : String) (file : SourceFile) (method : Cursor) :
    List Param :=
  (((method.role? .parameters).map Cursor.parts).getD []).flatMap fun param =>
    ((r.binder? param).filter fun d => d.name == decorator).toList.flatMap (r.bindings file param)

/-- **What a parameter binds that is bound as a whole.** -/
theorem boundFields_eq (r : ControllerReader) (file : SourceFile) (name : String)
    (type : Option Tree) (required : Bool) :
    r.boundFields file name type required =
      (type.map (r.wholeOf file name required)).getD [⟨name, "any", required⟩] := by
  cases type with
  | none => rfl
  | some t =>
    have hfields (fields : List Param) (b : Bool) :
        (!fields.isEmpty || b) = true ↔ b = true ∨ fields ≠ [] := by
      cases fields <;> simp
    simp only [boundFields, Option.map_some, Option.getD_some, wholeOf,
      Renderer.properties_eq_expansion, hfields]
    rfl

theorem boundParams_eq (r : ControllerReader) (file : SourceFile) (param : Cursor) :
    r.boundParams file param = (r.binder? param).bind fun d =>
      (ParamSource.ofDecorator? d.name).map fun source => (source, r.bindings file param d) := by
  have hkind : (param.kind != .requiredParameter && param.kind != .optionalParameter) = true ↔
      ¬ (param.kind = .requiredParameter ∨ param.kind = .optionalParameter) := by simp
  unfold boundParams binder?
  by_cases hparam : param.kind = .requiredParameter ∨ param.kind = .optionalParameter
  · rw [if_neg (hkind.not.2 (not_not.2 hparam)), if_pos hparam]
    cases hd : param.decorators.find? fun d =>
        (ParamSource.ofDecorator? d.name).isSome || r.unreported.contains d.name with
    | none => rfl
    | some d =>
      cases hsource : ParamSource.ofDecorator? d.name with
      | none => simp [hsource]
      | some source =>
        simp only [Option.bind_eq_bind, Option.bind_some, hsource, Option.map_some, bindings,
          boundFields_eq]
        cases d.firstString? <;> rfl
  · rw [if_pos (hkind.2 hparam), if_neg hparam]
    rfl

theorem ofDecorator?_eq_iff {name : String} {source : ParamSource} :
    ParamSource.ofDecorator? name = some source ↔ name = source.decorator := by
  unfold ParamSource.ofDecorator? ParamSource.decorator
  split <;> cases source <;> simp_all

theorem paramsFrom_append (source : ParamSource) (bound more : List (ParamSource × List Param)) :
    paramsFrom source (bound ++ more) = paramsFrom source bound ++ paramsFrom source more := by
  rw [paramsFrom, List.filter_append, List.flatMap_append]
  rfl

theorem paramsFrom_boundParams (r : ControllerReader) (source : ParamSource) (file : SourceFile)
    (param : Cursor) :
    paramsFrom source (r.boundParams file param).toList =
      ((r.binder? param).filter fun d => d.name == source.decorator).toList.flatMap
        (r.bindings file param) := by
  rw [boundParams_eq]
  cases r.binder? param with
  | none => rfl
  | some d =>
    rw [Option.bind_some, Option.filter_some]
    by_cases hname : d.name = source.decorator
    · rw [ofDecorator?_eq_iff.2 hname, if_pos (beq_iff_eq.2 hname)]
      simp [paramsFrom]
    · rw [if_neg (mt beq_iff_eq.1 hname)]
      cases hsource : ParamSource.ofDecorator? d.name with
      | none => rfl
      | some other =>
        have hother : other ≠ source := fun heq =>
          hname (ofDecorator?_eq_iff.1 (hsource.trans (congrArg some heq)))
        simp [paramsFrom, hother]

/-- **The parameters that a method binds** to a part of the request. -/
theorem paramsFrom_methodParams (r : ControllerReader) (source : ParamSource) (file : SourceFile)
    (method : Cursor) :
    paramsFrom source (r.methodParams file method) = r.boundBy source.decorator file method := by
  have hlist : r.methodParams file method =
      (((method.role? .parameters).map Cursor.parts).getD []).filterMap (r.boundParams file) := by
    unfold methodParams
    cases method.role? .parameters <;> rfl
  rw [hlist, boundBy, List.filterMap_eq_flatMap_toList]
  induction ((method.role? .parameters).map Cursor.parts).getD [] with
  | nil => rfl
  | cons param params ih =>
    rw [List.flatMap_cons, List.flatMap_cons, paramsFrom_append, ih, paramsFrom_boundParams]

/-! ## Routes -/

/-- The decorator that makes a method a route. -/
def routeDecorator? (method : Cursor) : Option Decorator :=
  method.decorators.find? fun d => (Method.ofDecorator? d.name).isSome

/-- The methods of a class that are routes, with the decorators that make them so. -/
def declaredRoutes (node : Cursor) : List (Cursor × Decorator) :=
  node.methods.filterMap fun method => (routeDecorator? method).map fun d => (method, d)

theorem findSome?_map_prod {α β : Type} (f : α → Option β) (xs : List α) :
    (xs.findSome? fun x => (f x).map fun b => (b, x)).map Prod.snd =
      xs.find? fun x => (f x).isSome := by
  induction xs with
  | nil => rfl
  | cons x xs ih =>
    rw [List.findSome?_cons, List.find?_cons]
    cases f x with
    | none => exact ih
    | some b => rfl

/-- A method is a route exactly if a decorator makes it one, and then its path parameters are
complete. -/
theorem route?_rel (r : ControllerReader) (file : SourceFile) (mount : String) (method : Cursor)
    (m : Memo) :
    Option.Rel (fun declared route => route.path = RoutePath.join [mount, declared.2.path] ∧
        Accounts (r.boundBy "Param" file declared.1) route.path route.pathParams)
      ((routeDecorator? method).map fun d => (method, d)) (r.route? file mount method m).1 := by
  rw [routeDecorator?, ← findSome?_map_prod fun d : Decorator => Method.ofDecorator? d.name]
  have haccounts (path : String) : Accounts (r.boundBy "Param" file method) path
      (addPlaceholders (paramsFrom .path (r.methodParams file method))
        (RoutePath.placeholders path)) := by
    rw [paramsFrom_methodParams]
    exact accounts_addPlaceholders _ path
  unfold route?
  dsimp only
  cases method.decorators.findSome? fun d => (Method.ofDecorator? d.name).map fun m => (m, d) with
  | none => exact .none
  | some found =>
    obtain ⟨verb, d⟩ := found
    dsimp only
    split
    · exact .some ⟨rfl, haccounts _⟩
    · exact .some ⟨rfl, haccounts _⟩

/-- **All placeholders are accounted for.**  The routes of a controller are the methods with a
decorator for a verb, in their order.  The path of each is that of its decorator, joined to that of
the controller's, and its path parameters are those that the method binds, followed by one for each
placeholder that is not among them. -/
theorem placeholders_accounted (r : ControllerReader) (ref : ControllerRef) (k : Controller)
    (h : r.read ref = some k) :
    ∃ file cls d node, r.ReadsFrom ref file cls ∧ cls.decorator? "Controller" = some d ∧
      file.classNode? cls.span = some node ∧
      List.Forall₂ (fun declared route =>
        route.path = RoutePath.join [RoutePath.join [d.path], declared.2.path] ∧
          Accounts (r.boundBy "Param" file declared.1) route.path route.pathParams)
        (declaredRoutes node) k.routes := by
  have hsucceeds : (r.read ref).isSome := Option.isSome_iff_exists.2 ⟨k, h⟩
  obtain ⟨file, hfile, h⟩ := Option.bind_eq_some_iff.1 h
  obtain ⟨cls, hcls, h⟩ := Option.bind_eq_some_iff.1 h
  obtain ⟨d, hd, h⟩ := Option.bind_eq_some_iff.1 h
  obtain ⟨node, hnode, h⟩ := Option.bind_eq_some_iff.1 h
  cases h
  refine ⟨file, cls, d, node, ⟨hfile, hcls, hsucceeds⟩, hd, hnode, ?_⟩
  obtain ⟨-, hrelated⟩ := Typer.mapM_preserves (P := fun _ => True) node.methods
    (fun method _ m _ => ⟨trivial, r.route?_rel file (RoutePath.join [d.path]) method m⟩) [] trivial
  exact List.rel_filterMap (fun _ _ h => h) hrelated

end ControllerReader

/-! ## A route with some placeholders bound -/

namespace PartlyBound

open RouteInventory.Tree (sketch sketchAt)

/-- `@name(arguments)` -/
def decorator (name : String) (arguments : List String) : Tree :=
  sketch .decorator "" [sketch .callExpression ""
    [(sketch .identifier name []).withRole .function,
      (sketch .arguments "" (arguments.map fun a => sketch .string a [])).withRole .arguments]]

/-- `: type` -/
def typeClause (type : Tree) : Tree := (sketch .typeClause "" [type]).withRole .type

/-- `name: string`, with what stands behind the name. -/
def field (name : String) (mark : List Tree) : Tree :=
  sketch .publicFieldDefinition "" ((sketch .propertyIdentifier name []).withRole .name ::
    mark ++ [typeClause (sketch .predefinedType "string" [])])

/-- `class Where { org: string; tag?: string }` -/
def dto : Tree :=
  sketchAt .classDeclaration 0 10 ""
    [(sketch .classBody "" [field "org" [], field "tag" [sketch .token "?" []]]).withRole .body]

/-- `@Param() where: Where` -/
def whole : Tree :=
  sketch .requiredParameter "" [decorator "Param" [],
    (sketch .identifier "where" []).withRole .pattern,
    typeClause (sketch .typeIdentifier "Where" [])]

/-- `@Param('id') id` -/
def named : Tree :=
  sketch .requiredParameter "" [decorator "Param" ["'id'"],
    (sketch .identifier "id" []).withRole .pattern]

def method : Tree :=
  sketch .methodDefinition "" [(sketch .formalParameters "" [whole, named]).withRole .parameters]

/-- The body of a class, `@Get(':id/:page') read(@Param() where: Where, @Param('id') id) {}`. -/
def body : Tree := (sketch .classBody "" [decorator "Get" ["':id/:page'"], method]).withRole .body

/-- The class of the controller. -/
def node : Tree := sketchAt .classDeclaration 10 30 "" [body]

def path : Path := ⟨true, ["app", "u.ts"]⟩

/-- The class, with `@Controller(':org')` before it. -/
def users : ClassFacts :=
  ⟨"Users", path, node.span, none, [⟨"Controller", [.string ":org"], 1⟩]⟩

def file : SourceFile :=
  ⟨path, "u.ts", sketchAt .program 0 30 "" [dto, node],
    ⟨[], [⟨"Where", path, dto.span, none, []⟩, users], []⟩⟩

def reader : ControllerReader :=
  ⟨⟨⟨true, ["app"]⟩, [file], [], []⟩, .standard, [], false⟩

def ref : ControllerRef := ⟨"Users", path, false, "App"⟩

theorem join_paths : RoutePath.join [RoutePath.join [":org"], ":id/:page"] = "/:org/:id/:page" := by
  have horg : RoutePath.segments ":org" = [":org"] := by rw [RoutePath.segments_eq]; rfl
  have hid : RoutePath.segments ":id/:page" = [":id", ":page"] := by
    rw [RoutePath.segments_eq]
    rfl
  have hmount : RoutePath.join [":org"] = "/:org" := by
    rw [RoutePath.join, List.flatMap_singleton, horg]
    rfl
  have hsame : RoutePath.segments "/:org" = [":org"] := by rw [RoutePath.segments_eq]; rfl
  rw [hmount, RoutePath.join, List.flatMap_cons, List.flatMap_singleton, hsame, hid]
  rfl

/-- The fields of the class that is bound as a whole come first and cover the placeholder of the
controller, then comes the parameter that is bound by its name, and one placeholder is added. -/
theorem page_added : ∃ k route, reader.read ref = some k ∧ k.routes = [route] ∧
    route.pathParams = [⟨"org", "string", true⟩, ⟨"tag", "string", false⟩, ⟨"id", "any", true⟩,
      ⟨"page", "string", true⟩] := by
  have hreads : reader.ReadsFrom ref file users :=
    ControllerReader.readsFrom_iff.2 ⟨rfl, rfl, by decide⟩
  obtain ⟨k, hk⟩ := Option.isSome_iff_exists.1 hreads.succeeds
  obtain ⟨file', cls, d, node', hfrom, hd, hnode, hroutes⟩ :=
    ControllerReader.placeholders_accounted reader ref k hk
  obtain rfl : file = file' := Option.some.inj (hreads.file.symm.trans hfrom.file)
  obtain rfl : users = cls := Option.some.inj (hreads.means.symm.trans hfrom.means)
  obtain rfl : ⟨"Controller", [.string ":org"], 1⟩ = d := Option.some.inj hd
  obtain rfl : file.root.down node 1 = node' := Option.some.inj hnode
  have hdeclared : ControllerReader.declaredRoutes (file.root.down node 1) =
      [(((file.root.down node 1).down body 0).down method 1,
        ⟨"Get", [.string ":id/:page"], 1⟩)] := rfl
  rw [hdeclared] at hroutes
  obtain ⟨route, rest, ⟨hpath, haccounts⟩, hrest, hroutes⟩ :=
    List.forall₂_cons_left_iff.1 hroutes
  obtain rfl := List.forall₂_nil_left_iff.1 hrest
  refine ⟨k, route, hk, hroutes, ?_⟩
  have hbound : reader.boundBy "Param" file (((file.root.down node 1).down body 0).down method 1) =
      [⟨"org", "string", true⟩, ⟨"tag", "string", false⟩, ⟨"id", "any", true⟩] := by
    decide +kernel
  have heq := haccounts.eq
  rw [hbound, hpath.trans join_paths] at heq
  rw [heq]
  decide +kernel

end PartlyBound

end RouteInventory
