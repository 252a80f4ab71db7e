import Mathlib
import RouteInventory.Nest.Controller
import RouteInventory.Proofs.ParameterNames
import RouteInventory.Proofs.ResponseEntries

/-!
# Which function a response belongs to

What happens inside a further function is not the answer of the handler around it.  The walks over a
body stop at the functions that are recognised, and generators are not among these: what a generator
returns, sends or throws is taken for an answer of the handler that it stands in.

* `Cursor.Attributed`: what holds of every node that an entry comes from.
* `ResponseReader.attributed_of_mem_candidates`, `ControllerReader.returned_of_mem_success`,
  `ControllerReader.thrown_of_mem_errors`: where entries come from, for both kinds of handlers.
* `entries_enclosed_iff`: when the nearest function around an entry's node is the handler.
* `InnerGenerator.returned_inside`: an entry that comes from a generator.
-/

namespace RouteInventory

namespace Cursor

variable {f c : Cursor}

/-- The node counts for the function: no recognised function lies between them, and so the function
is the nearest one of any kind unless a generator lies between. -/
structure Attributed (f c : Cursor) : Prop where
  nearest : Nearest f c
  enclosing_iff : c.enclosing? = some f ↔ ¬ InGenerator f c

theorem Nearest.attributed (h : Nearest f c) : Attributed f c := ⟨h, enclosing?_eq_some_iff h⟩

/-- The function answers at the node: it returns a value there, or makes a call. -/
def Answers (f c : Cursor) : Prop := (∃ e, f.Returns c e) ∨ f.Calls c

/-- The function throws at the node: by a statement of its own. -/
def Throws (f c : Cursor) : Prop :=
  ∃ body, f.role? .body = some body ∧ body.Own c ∧ c.kind = .throwStatement

end Cursor

/-! ## Handlers of routes that are registered by calls -/

theorem ResponseReader.attributed_of_mem_candidates {r : ResponseReader} {handler : Cursor}
    {m : Memo} {a : Candidate} (hf : handler.isFunction = true)
    (ha : a ∈ r.candidates handler m) : handler.Answers a.node ∧ handler.Attributed a.node := by
  rcases mem_candidates ha with ⟨e, hreturns, -, -⟩ | ⟨hcalls, -⟩
  · exact ⟨.inl ⟨e, hreturns⟩, (hreturns.nearest hf).attributed⟩
  · exact ⟨.inr hcalls, (hcalls.nearest hf).attributed⟩

/-! ## Methods of controllers -/

namespace ControllerReader

variable {r : ControllerReader} {typer : Typer} {method : Cursor} {verb : Method}
variable {decorators : List Decorator} {m : Memo}

theorem mem_own_iff {c : Cursor} :
    c ∈ ((method.role? .body).map Cursor.ownNodes).getD [] ↔
      ∃ body, method.role? .body = some body ∧ body.Own c := by
  cases hbody : method.role? .body with
  | none => simp
  | some body => simp [Cursor.mem_ownNodes_iff]

/-- A success of a method is its declared result, or comes from a `return` of its own. -/
theorem returned_of_mem_success {s : Success}
    (hs : s ∈ (r.responses typer method verb decorators m).1.success) :
    s.source = .declared ∨ ∃ body c e m', method.role? .body = some body ∧ body.Own c ∧
      c.kind = .returnStatement ∧ c.firstPart? = some e ∧
      s = ⟨successCode verb decorators, r.renderer.properties (typer.inferResponse e m').1,
        (typer.inferResponse e m').1.name?, .returned, c.line⟩ := by
  have hmem : s ∈ (r.successes typer method (successCode verb decorators)
      (((method.role? .body).map Cursor.ownNodes).getD []) m).1 :=
    (keepFirst_sublist ..).subset hs
  unfold successes at hmem
  cases htype : method.focus.returnType? with
  | some type =>
    rw [htype] at hmem
    obtain rfl := List.mem_singleton.1 hmem
    exact .inl rfl
  | none =>
    rw [htype] at hmem
    obtain ⟨⟨c, e⟩, hce, m', hshape⟩ := exists_of_mem_mapM hmem
    obtain ⟨c', hc', hvalue⟩ := List.mem_filterMap.1 hce
    obtain ⟨e', he', heq⟩ := Option.map_eq_some_iff.1 hvalue
    obtain ⟨rfl, rfl⟩ := Prod.mk.inj heq
    obtain ⟨hown, hkind⟩ := List.mem_filter.1 hc'
    obtain ⟨body, hbody, hown⟩ := mem_own_iff.1 hown
    exact .inr ⟨body, c', e', m', hbody, hown, beq_iff_eq.1 hkind, he', hshape.symm⟩

/-- A failure of a method comes from a `throw` of its own. -/
theorem thrown_of_mem_errors {f : Failure}
    (hf : f ∈ (r.responses typer method verb decorators m).1.errors) :
    ∃ c, method.Throws c ∧ c.thrown? = some f := by
  have hmem : f ∈ ((((method.role? .body).map Cursor.ownNodes).getD []).filter
      fun c => c.kind == .throwStatement).filterMap Cursor.thrown? :=
    (keepFirst_sublist ..).subset hf
  obtain ⟨c, hc, hthrown⟩ := List.mem_filterMap.1 hmem
  obtain ⟨hown, hkind⟩ := List.mem_filter.1 hc
  obtain ⟨body, hbody, hown⟩ := mem_own_iff.1 hown
  exact ⟨c, ⟨body, hbody, hown, beq_iff_eq.1 hkind⟩, hthrown⟩

end ControllerReader

/-- **Where the entries of a handler come from.**  Every entry that a registered handler or a method
of a controller gets from a returned value, a call that sends something or a `throw` comes from a
node with no recognised function between it and the handler.  The nearest function of any kind
around that node is the handler exactly if no generator lies between them. -/
theorem entries_enclosed_iff {f : Cursor} (hf : f.isFunction = true) (m : Memo) :
    (∀ r : ResponseReader,
      (∀ s ∈ (r.responses f m).1.success, ∃ a ∈ r.candidates f m, a.success = s ∧
        f.Answers a.node ∧ f.Attributed a.node) ∧
      ∀ e ∈ (r.responses f m).1.errors, ∃ a ∈ r.candidates f m, a.failure = e ∧
        f.Answers a.node ∧ f.Attributed a.node) ∧
    ∀ (r : ControllerReader) (typer : Typer) (verb : Method) (decorators : List Decorator),
      (∀ s ∈ (r.responses typer f verb decorators m).1.success, s.source = .declared ∨
        ∃ c e m', c.kind = .returnStatement ∧ c.firstPart? = some e ∧
          s = ⟨ControllerReader.successCode verb decorators,
            r.renderer.properties (typer.inferResponse e m').1,
            (typer.inferResponse e m').1.name?, .returned, c.line⟩ ∧ f.Attributed c) ∧
      ∀ e ∈ (r.responses typer f verb decorators m).1.errors,
        ∃ c, c.kind = .throwStatement ∧ c.thrown? = some e ∧ f.Attributed c := by
  refine ⟨fun r => ?_, fun r typer verb decorators => ⟨fun s hs => ?_, fun e he => ?_⟩⟩
  · obtain ⟨hsuccess, herrors⟩ := (r.report_responses f m).exists_candidate
    constructor
    · intro s hs
      obtain ⟨a, ha, heq⟩ := hsuccess s hs
      exact ⟨a, ha, heq, ResponseReader.attributed_of_mem_candidates hf ha⟩
    · intro e he
      obtain ⟨a, ha, heq⟩ := herrors e he
      exact ⟨a, ha, heq, ResponseReader.attributed_of_mem_candidates hf ha⟩
  · rcases ControllerReader.returned_of_mem_success hs with hdeclared |
      ⟨body, c, e, m', hbody, hown, hkind, hvalue, heq⟩
    · exact .inl hdeclared
    · exact .inr ⟨c, e, m', hkind, hvalue, heq, (Cursor.nearest_of_own hf hbody hown).attributed⟩
  · obtain ⟨c, ⟨body, hbody, hown, hkind⟩, hthrown⟩ := ControllerReader.thrown_of_mem_errors he
    exact ⟨c, hkind, hthrown, (Cursor.nearest_of_own hf hbody hown).attributed⟩

/-! ## A generator in a handler -/

namespace InnerGenerator

open RouteInventory.Tree (sketch)

/-- `return 1;` -/
def statement : Tree := sketch .returnStatement "" [sketch .number "1" []]

def inner : Tree := (sketch .statementBlock "" [statement]).withRole .body

/-- `function* ids() { return 1; }` -/
def generator : Tree := sketch .generatorFunctionDeclaration "" [inner]

def block : Tree := (sketch .statementBlock "" [generator]).withRole .body

/-- `() => { function* ids() { return 1; } }` -/
def function : Tree := sketch .arrowFunction "" [block]

def handler : Cursor := .ofTree function

def ids : Cursor := (handler.down block 0).down generator 0

def returned : Cursor := (ids.down inner 0).down statement 0

def file : SourceFile := ⟨⟨true, ["app", "a.ts"]⟩, "a.ts", function, ⟨[], [], []⟩⟩

def reader : ResponseReader := ⟨⟨.empty ⟨true, ["app"]⟩, file⟩, .standard⟩

/-- What the generator returns, as an answer of the handler. -/
def entry : Success := ⟨200, [], none, .returned, 1⟩

/-- What the generator returns is reported for the handler, which is not the nearest function. -/
theorem returned_inside :
    handler.isFunction = true ∧ entry ∈ (reader.responses handler []).1.success ∧
      ∃ a ∈ reader.candidates handler [], a.success = entry ∧ a.node.enclosing? ≠ some handler := by
  have hentry : entry ∈ (reader.responses handler []).1.success := by decide +kernel
  obtain ⟨a, ha, heq, -, hattributed⟩ := ((entries_enclosed_iff rfl []).1 reader).1 entry hentry
  refine ⟨rfl, hentry, a, ha, heq, fun henclosing => ?_⟩
  have hone : reader.candidates handler [] =
      [⟨returned, plainSend (returned, returned.down (sketch .number "1" []) 0), [], none⟩] := rfl
  rw [hone, List.mem_singleton] at ha
  subst ha
  refine hattributed.enclosing_iff.1 henclosing ⟨ids, ?_, ?_, rfl⟩
  · exact List.mem_cons_of_mem _ List.mem_cons_self
  · exact List.mem_cons_of_mem _ List.mem_cons_self

end InnerGenerator

end RouteInventory
