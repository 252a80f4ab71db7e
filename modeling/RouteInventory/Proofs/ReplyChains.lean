import Mathlib
import RouteInventory.Proofs.PluginScopes
import RouteInventory.Proofs.ResponseEntries

/-!
# Chains of calls on the reply

A response is sent by a chain of calls that begins with the reply, as in `reply.code(404).send(x)`.
Two readers look at such chains.  `Tree.isReply` follows the whole chain, but stops at parentheses
and non-null marks.  `Cursor.sendCall?` looks at the last one or two calls, strips parentheses and
marks there, and does not ask what a chain with a code begins with.

* `Cursor.next?`, `Cursor.BeginsWith`, `Cursor.Plain`: chains, through parentheses and marks.
* `Cursor.isRootedAt_iff`, `Cursor.isReply_iff`: what the first reader accepts.
* `Cursor.sendCall?_cases`: what the second accepts.
* `Cursor.sendCall_reply_iff`: when the two agree, and when a return statement counts twice.
* `ForeignChain.counted_twice`: a chain on another object that is taken for a response.
-/

namespace RouteInventory

/-! ## Nodes and their trees -/

namespace Cursor

variable {c d e : Cursor} {name : String}

theorem focus_role? (c : Cursor) (r : Role) : (c.role? r).map focus = c.focus.role? r := by
  unfold role? Tree.role?
  rw [← map_focus_children, List.find?_map]
  rfl

theorem focus_firstPart? (c : Cursor) : c.firstPart?.map focus = c.focus.firstPart? := by
  unfold firstPart? Tree.firstPart? Tree.parts
  rw [← List.head?_map, map_focus_parts]

/-- What an expression unwraps to does not depend on where it stands. -/
theorem focus_unwrapped_congr (h : c.focus = d.focus) : c.unwrapped.focus = d.unwrapped.focus := by
  induction hn : c.focus.size using Nat.strongRecOn generalizing c d with
  | ind n ih =>
    have hwrap : c.isWrapper = d.isWrapper := by
      unfold isWrapper kind
      rw [h]
    have hfirst : c.firstPart?.map focus = d.firstPart?.map focus := by
      rw [focus_firstPart?, focus_firstPart?, h]
    rw [unwrapped_eq c, unwrapped_eq d, hwrap]
    split
    · cases hc : c.firstPart? with
      | none =>
        rw [hc, Option.map_none, eq_comm, Option.map_eq_none_iff] at hfirst
        rw [hfirst]
        exact h
      | some p =>
        rw [hc, Option.map_some, eq_comm, Option.map_eq_some_iff] at hfirst
        obtain ⟨q, hq, hpq⟩ := hfirst
        rw [hq]
        have hsize : p.focus.size < c.focus.size :=
          size_lt_of_mem_parts (List.mem_of_mem_head? hc)
        exact ih _ (hn ▸ hsize) hpq.symm rfl
    · exact h

theorem focus_unwrapped (c : Cursor) : c.unwrapped.focus = c.focus.unwrapped :=
  focus_unwrapped_congr (c := c) (d := ofTree c.focus) rfl

/-! ## Chains -/

/-- One step towards the beginning of a chain: to what is called, to what a member is taken of, or
into parentheses and past a non-null mark. -/
def next? (c : Cursor) : Option Cursor :=
  if c.kind = .callExpression then c.role? .function
  else if c.kind = .memberExpression then c.role? .object
  else if c.isWrapper then c.firstPart?
  else none

/-- The chain at `c` leads to `d`. -/
def Leads : Cursor → Cursor → Prop := Relation.ReflTransGen fun c d => c.next? = some d

/-- The chain begins with the name. -/
def BeginsWith (c : Cursor) (name : String) : Prop :=
  ∃ d, Leads c d ∧ d.kind = .identifier ∧ d.text = name

/-- The chain has no parentheses and no non-null marks. -/
def Plain (c : Cursor) : Prop := ∀ d, Leads c d → d.isWrapper = false

theorem leads_iff : Leads c d ↔ c = d ∨ ∃ e, c.next? = some e ∧ Leads e d :=
  Relation.ReflTransGen.cases_head_iff

theorem next?_of_identifier (h : c.kind = .identifier) : c.next? = none := by
  simp [next?, isWrapper, h]

theorem next?_of_wraps (h : Wraps c d) : c.next? = some d := by
  rcases kind_of_isWrapper h.1 with hkind | hkind <;> simp [next?, h.1, hkind, h.2]

theorem beginsWith_of_next (h : c.next? = some e) : c.BeginsWith name ↔ e.BeginsWith name := by
  unfold BeginsWith
  constructor
  · rintro ⟨d, hd, hkind, htext⟩
    rcases leads_iff.1 hd with rfl | ⟨e', he', hd⟩
    · rw [next?_of_identifier hkind] at h
      cases h
    · obtain rfl := Option.some.inj (h.symm.trans he')
      exact ⟨d, hd, hkind, htext⟩
  · rintro ⟨d, hd, hkind, htext⟩
    exact ⟨d, .head h hd, hkind, htext⟩

theorem beginsWith_of_next_eq_none (h : c.next? = none) :
    c.BeginsWith name ↔ c.kind = .identifier ∧ c.text = name := by
  unfold BeginsWith
  constructor
  · rintro ⟨d, hd, hkind, htext⟩
    rcases leads_iff.1 hd with rfl | ⟨e, he, -⟩
    · exact ⟨hkind, htext⟩
    · rw [h] at he
      cases he
  · rintro ⟨hkind, htext⟩
    exact ⟨c, .refl, hkind, htext⟩

theorem plain_of_next (h : c.next? = some e) : c.Plain ↔ c.isWrapper = false ∧ e.Plain := by
  constructor
  · intro hplain
    exact ⟨hplain c .refl, fun d hd => hplain d (.head h hd)⟩
  · rintro ⟨hc, hplain⟩ d hd
    rcases leads_iff.1 hd with rfl | ⟨e', he', hd⟩
    · exact hc
    · obtain rfl := Option.some.inj (h.symm.trans he')
      exact hplain d hd

/-! ## The reader that follows the whole chain -/

end Cursor

namespace Tree

theorem roleIsRootedAt_eq (name : String) (r : Role) (ts : List Tree) :
    roleIsRootedAt name r ts =
      (ts.find? fun t => t.head.role == some r).any (isRootedAt name) := by
  induction ts with
  | nil => rfl
  | cons t ts ih =>
    rw [roleIsRootedAt, List.find?_cons]
    cases h : t.head.role == some r
    · simpa using ih
    · rfl

theorem isRootedAt_eq (t : Tree) (name : String) :
    t.isRootedAt name =
      if t.kind = .identifier then t.text == name
      else if t.kind = .callExpression then (t.role? .function).any (isRootedAt name)
      else if t.kind = .memberExpression then (t.role? .object).any (isRootedAt name)
      else false := by
  obtain ⟨h, ts⟩ := t
  rw [isRootedAt]
  change _ = if h.kind = .identifier then _ else if h.kind = .callExpression then _
    else if h.kind = .memberExpression then _ else _
  split
  · rename_i hkind
    simp [hkind, text, head]
  · rename_i hkind
    simp [hkind, roleIsRootedAt_eq, role?, children]
  · rename_i hkind
    simp [hkind, roleIsRootedAt_eq, role?, children]
  · rename_i hidentifier hcall hmember
    rw [if_neg hidentifier, if_neg hcall, if_neg hmember]

end Tree

namespace Cursor

variable {c o call handler : Cursor} {name reply : String} {s : SendCall}

/-- **The chain is accepted** exactly if it begins with the name and is plain. -/
theorem isRootedAt_iff (c : Cursor) (name : String) :
    c.focus.isRootedAt name = true ↔ c.BeginsWith name ∧ c.Plain := by
  induction hn : c.focus.size using Nat.strongRecOn generalizing c with
  | ind n ih =>
    have hrole : ∀ r : Role, c.next? = c.role? r → c.kind ≠ .identifier → c.isWrapper = false →
        ((c.focus.role? r).any (Tree.isRootedAt name) = true ↔ c.BeginsWith name ∧ c.Plain) := by
      intro r hnext hkind hwrap
      rw [← focus_role?]
      cases hc : c.role? r with
      | none =>
        rw [hc] at hnext
        simp [beginsWith_of_next_eq_none hnext, hkind]
      | some d =>
        rw [hc] at hnext
        have hsize : d.focus.size < c.focus.size := size_lt_of_role? hc
        rw [beginsWith_of_next hnext, plain_of_next hnext]
        simp [hwrap, ih _ (hn ▸ hsize) d rfl]
    rw [Tree.isRootedAt_eq]
    change (if c.kind = .identifier then c.text == name
      else if c.kind = .callExpression then (c.focus.role? .function).any (Tree.isRootedAt name)
      else if c.kind = .memberExpression then (c.focus.role? .object).any (Tree.isRootedAt name)
      else false) = true ↔ _
    split
    · rename_i hkind
      have hplain : c.Plain := by
        intro d hd
        rcases leads_iff.1 hd with rfl | ⟨e, he, -⟩
        · simp [isWrapper, hkind]
        · rw [next?_of_identifier hkind] at he
          cases he
      rw [beginsWith_of_next_eq_none (next?_of_identifier hkind), beq_iff_eq]
      exact ⟨fun h => ⟨⟨hkind, h⟩, hplain⟩, fun h => h.1.2⟩
    · rename_i hidentifier
      split
      · rename_i hkind
        exact hrole .function (by simp [next?, hkind]) hidentifier (by simp [isWrapper, hkind])
      · rename_i hcall
        split
        · rename_i hkind
          exact hrole .object (by simp [next?, hkind]) hidentifier (by simp [isWrapper, hkind])
        · rename_i hmember
          refine ⟨fun h => absurd h Bool.false_ne_true, ?_⟩
          rintro ⟨hbegins, hplain⟩
          have hwrap : c.isWrapper = false := hplain c .refl
          have hnext : c.next? = none := by simp [next?, hcall, hmember, hwrap]
          exact absurd ((beginsWith_of_next_eq_none hnext).1 hbegins).1 hidentifier

/-- An expression without parentheses, marks and a leading `await`. -/
def awaited (e : Cursor) : Cursor :=
  if e.unwrapped.kind = .awaitExpression then
    (e.unwrapped.firstPart?.map unwrapped).getD e.unwrapped
  else e.unwrapped

theorem isReply_eq (e : Cursor) (reply : String) :
    e.focus.isReply reply = e.awaited.focus.isRootedAt reply := by
  have hkind : e.focus.unwrapped.kind = e.unwrapped.kind := by
    rw [← focus_unwrapped]
    rfl
  unfold Tree.isReply awaited
  simp only [hkind, beq_iff_eq]
  split
  · rename_i hawait
    rw [← focus_unwrapped, ← focus_firstPart?]
    cases e.unwrapped.firstPart? with
    | none =>
      have hnot : e.unwrapped.focus.kind = .awaitExpression := hawait
      simp [Tree.isRootedAt_eq, hnot]
    | some d => simp [← focus_unwrapped]
  · rw [focus_unwrapped]

theorem isReply_iff (e : Cursor) (reply : String) :
    e.focus.isReply reply = true ↔ e.awaited.BeginsWith reply ∧ e.awaited.Plain := by
  rw [isReply_eq, isRootedAt_iff]

theorem awaited_of_call (h : c.kind = .callExpression) : c.awaited = c := by
  have hunwrapped : c.unwrapped = c := unwrapped_of_not_isWrapper (by simp [isWrapper, h])
  simp [awaited, hunwrapped, h]

/-! ## The reader that looks at the last calls -/

/-- **What is read as sending something**: `send` on the reply itself, or on a call that sets the
code, in which case nothing is asked about what that call is made on. -/
theorem sendCall?_cases (h : call.sendCall? reply = some s) :
    ∃ f o, call.role? .function = some f ∧ f.kind = .memberExpression ∧ f.role? .object = some o ∧
      (s.source = .replySend ∧ o.unwrapped.kind = .identifier ∧ o.unwrapped.text = reply ∨
        s.source = .replyCode ∧ ∀ name, call.sendCall? name = some s) := by
  unfold sendCall? at h
  obtain ⟨f, hf, h⟩ := Option.bind_eq_some_iff.1 h
  split at h
  · cases h
  · rename_i hsend
    obtain ⟨o, ho, h⟩ := Option.bind_eq_some_iff.1 h
    have hmember : f.kind = .memberExpression := by
      by_contra hne
      exact hsend (by simp [hne])
    refine ⟨f, o, hf, hmember, ho, ?_⟩
    dsimp only at h
    split at h
    · rename_i hkind
      split at h
      · rename_i htext
        cases h
        exact .inl ⟨rfl, hkind, beq_iff_eq.1 htext⟩
      · cases h
    · rename_i hkind
      refine .inr ⟨?_, fun name => ?_⟩
      · obtain ⟨g, -, h⟩ := Option.bind_eq_some_iff.1 h
        split at h
        · obtain ⟨code, -, rfl⟩ := Option.map_eq_some_iff.1 h
          rfl
        · cases h
      · unfold sendCall?
        rw [hf, Option.bind_some, if_neg hsend, ho, Option.bind_some]
        dsimp only
        rw [hkind]
        exact h
    · cases h

theorem beginsWith_of_unwrapped (hkind : o.unwrapped.kind = .identifier)
    (htext : o.unwrapped.text = name) : o.BeginsWith name :=
  ⟨o.unwrapped, (wraps_unwrapped o).lift id fun _ _ => next?_of_wraps, hkind, htext⟩

/-- **When the two readers of chains agree.**  Let a handler make a call that is read as sending
something.  The call counts as one on the reply exactly if its chain begins with the reply and is
plain.  A call without a code does begin with the reply; a call with a code is read in the same way
whatever the reply is called.  A returned value counts as a plain one unless it is, awaited or not,
a plain chain that begins with the reply; so if the call is what is returned, it counts a second
time exactly if its chain begins with something else or is not plain. -/
theorem sendCall_reply_iff (hcall : handler.Calls call) (hsend : call.sendCall? reply = some s) :
    (call.focus.isReply reply = true ↔ call.BeginsWith reply ∧ call.Plain) ∧
    (s.source = .replySend ∧ call.BeginsWith reply ∨
      s.source = .replyCode ∧ ∀ name, call.sendCall? name = some s) ∧
    (∀ r e, handler.Returns r e →
      ((r, e) ∈ handler.plainReturns reply ↔
        ¬ (e.awaited.BeginsWith reply ∧ e.awaited.Plain))) ∧
    ∀ r e, handler.Returns r e → e.awaited = call →
      ((r, e) ∈ handler.plainReturns reply ↔ ¬ call.focus.isReply reply = true) := by
  obtain ⟨body, -, -, hkind⟩ := hcall
  have hreply : call.focus.isReply reply = true ↔ call.BeginsWith reply ∧ call.Plain := by
    rw [isReply_iff, awaited_of_call hkind]
  have hplain : ∀ r e, handler.Returns r e →
      ((r, e) ∈ handler.plainReturns reply ↔
        ¬ (e.awaited.BeginsWith reply ∧ e.awaited.Plain)) := by
    intro r e hreturns
    unfold plainReturns
    rw [List.mem_filter, mem_returnedValues_iff, Bool.not_eq_true', ← isReply_iff,
      Bool.not_eq_true]
    exact and_iff_right hreturns
  refine ⟨hreply, ?_, hplain, fun r e hreturns heq => ?_⟩
  · obtain ⟨f, o, hf, hmember, ho, ⟨hsource, hid, htext⟩ | hcoded⟩ := sendCall?_cases hsend
    · have hcallNext : call.next? = some f := by simp [next?, hkind, hf]
      have hmemberNext : f.next? = some o := by simp [next?, hmember, ho]
      refine .inl ⟨hsource, ?_⟩
      rw [beginsWith_of_next hcallNext, beginsWith_of_next hmemberNext]
      exact beginsWith_of_unwrapped hid htext
    · exact .inr hcoded
  · rw [hplain r e hreturns, heq, hreply]

end Cursor

/-! ## A chain on another object -/

namespace ForeignChain

open RouteInventory.Tree (sketch)

/-- A call of a member: `object.name(argument)`. -/
def memberCall (object : Tree) (name : String) (argument : Tree) : Tree :=
  sketch .callExpression ""
    [(sketch .memberExpression "" [object.withRole .object,
        (sketch .propertyIdentifier name []).withRole .property]).withRole .function,
      (sketch .arguments "" [argument]).withRole .arguments]

/-- `upstream.code(404).send(error)` -/
def chain : Tree :=
  memberCall (memberCall (sketch .identifier "upstream" []) "code" (sketch .number "404" [])) "send"
    (sketch .identifier "error" [])

/-- `return upstream.code(404).send(error);` -/
def statement : Tree := sketch .returnStatement "" [chain]

def block : Tree := (sketch .statementBlock "" [statement]).withRole .body

/-- `() => { return upstream.code(404).send(error); }` -/
def handler : Cursor := .ofTree (sketch .arrowFunction "" [block])

def body : Cursor := handler.down block 0

def returned : Cursor := body.down statement 0

def call : Cursor := returned.down chain 0

theorem calls : handler.Calls call := Cursor.mem_ownCalls_iff.1 (List.mem_of_getElem? (i := 0) rfl)

theorem returns : handler.Returns returned call :=
  Cursor.mem_returnedValues_iff.1 (List.mem_of_getElem? (i := 0) rfl)

def sent : SendCall := ⟨404, call.callArguments.head?, .replyCode, 1⟩

/-- The chain begins with something other than the reply, and yet it is read as a failure that the
handler sends.  The `return` that it stands in counts as a success. -/
theorem counted_twice :
    (handler.Calls call ∧ call.sendCall? "reply" = some sent) ∧
      call.BeginsWith "upstream" ∧ call.focus.isReply "reply" = false ∧
      (returned, call) ∈ handler.plainReturns "reply" := by
  have hsend : call.sendCall? "reply" = some sent := by rfl
  have hreply : call.focus.isReply "reply" = false := by decide +kernel
  obtain ⟨-, -, -, htwice⟩ := Cursor.sendCall_reply_iff calls hsend
  refine ⟨⟨calls, hsend⟩, ?_, hreply, ?_⟩
  · exact ((Cursor.isRootedAt_iff call "upstream").1 (by decide +kernel)).1
  · refine (htwice returned call returns (Cursor.awaited_of_call rfl)).2 ?_
    rw [hreply]
    exact Bool.false_ne_true

end ForeignChain

end RouteInventory
