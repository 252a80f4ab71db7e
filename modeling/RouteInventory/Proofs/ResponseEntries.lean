import Mathlib
import RouteInventory.Proofs.HandlerBodies
import RouteInventory.Proofs.TyperMemory

/-!
# Which responses of a handler are reported

The responses of a handler are first gathered as candidates: what it returns and what it sends, in
this order.  Each candidate is typed with what the typer remembers of the earlier ones.  Codes
divide the candidates into successes and failures, and of those with one code on one line the first
is reported.

* `keepFirst_eq_eraseDupsBy`: dropping what was seen before is the library's `eraseDupsBy`.
* `ResponseReader.candidates`: the candidates with the nodes that they were read off.
* `ResponseReader.responses_run`: the responses are made of the candidates, each on its own.
* `ResponseReader.responses_keep_first`: what is reported, and in which order.
-/

namespace RouteInventory

/-! ## Keeping the first -/

section

variable {α β : Type}

theorem keepFirst_eq_filter (key : α → Nat × Nat) (seen : List (Nat × Nat)) (xs : List α) :
    keepFirst key seen xs =
      (xs.filter fun x => decide (key x ∉ seen)).eraseDupsBy fun x y => key x == key y := by
  induction xs generalizing seen with
  | nil => rfl
  | cons x xs ih =>
    rw [keepFirst, List.filter_cons]
    by_cases hseen : key x ∈ seen
    · simp only [hseen, not_true_eq_false, decide_false, Bool.false_eq_true, if_true, if_false, ih]
    · simp only [hseen, not_false_eq_true, decide_true, if_true, if_false, ih,
        List.eraseDupsBy_cons, List.filter_filter]
      congr 2
      apply List.filter_congr
      intro y _
      simp only [List.mem_cons, not_or, Bool.decide_and, beq_eq_false_iff_ne, ne_eq]

theorem keepFirst_eq_eraseDupsBy (key : α → Nat × Nat) (xs : List α) :
    keepFirst key [] xs = xs.eraseDupsBy fun x y => key x == key y := by
  rw [keepFirst_eq_filter]
  simp

theorem keepFirst_map (key : β → Nat × Nat) (f : α → β) (seen : List (Nat × Nat)) (xs : List α) :
    keepFirst key seen (xs.map f) = (keepFirst (fun x => key (f x)) seen xs).map f := by
  induction xs generalizing seen with
  | nil => rfl
  | cons x xs ih =>
    rw [List.map_cons, keepFirst, keepFirst]
    split
    · exact ih seen
    · rw [ih, List.map_cons]

theorem keepFirst_sublist (key : α → Nat × Nat) (seen : List (Nat × Nat)) (xs : List α) :
    (keepFirst key seen xs).Sublist xs := by
  induction xs generalizing seen with
  | nil => exact .slnil
  | cons x xs ih =>
    rw [keepFirst]
    split
    · exact .cons x (ih seen)
    · exact .cons_cons x (ih _)

/-- What is dropped has the code and the line of something that is kept, or was seen before. -/
theorem exists_key_eq_of_mem (key : α → Nat × Nat) (seen : List (Nat × Nat)) {x : α} {xs : List α}
    (hx : x ∈ xs) : key x ∈ seen ∨ ∃ y ∈ keepFirst key seen xs, key y = key x := by
  induction xs generalizing seen with
  | nil => cases hx
  | cons z xs ih =>
    rw [keepFirst]
    split
    · rename_i hseen
      rcases List.mem_cons.1 hx with rfl | hx
      · exact .inl hseen
      · exact ih seen hx
    · rcases List.mem_cons.1 hx with rfl | hx
      · exact .inr ⟨x, List.mem_cons_self, rfl⟩
      · rcases ih (key z :: seen) hx with hmem | ⟨y, hy, heq⟩
        · rcases List.mem_cons.1 hmem with heq | hmem
          · exact .inr ⟨z, List.mem_cons_self, heq.symm⟩
          · exact .inl hmem
        · exact .inr ⟨y, List.mem_cons_of_mem z hy, heq⟩

theorem nodup_map_keepFirst (key : α → Nat × Nat) (seen : List (Nat × Nat)) (xs : List α) :
    ((keepFirst key seen xs).map key).Nodup ∧ ∀ x ∈ keepFirst key seen xs, key x ∉ seen := by
  induction xs generalizing seen with
  | nil => exact ⟨List.nodup_nil, List.forall_mem_nil _⟩
  | cons x xs ih =>
    rw [keepFirst]
    split
    · exact ih seen
    · rename_i hseen
      obtain ⟨hnodup, hfresh⟩ := ih (key x :: seen)
      refine ⟨?_, List.forall_mem_cons.2 ⟨hseen, fun y hy hmem => ?_⟩⟩
      · rw [List.map_cons, List.nodup_cons]
        refine ⟨fun hmem => ?_, hnodup⟩
        obtain ⟨y, hy, heq⟩ := List.mem_map.1 hmem
        exact hfresh y hy (heq ▸ List.mem_cons_self)
      · exact hfresh y hy (List.mem_cons_of_mem _ hmem)

end

/-! ## Candidates -/

/-- The returned values that are not what the reply gave back. -/
def Cursor.plainReturns (handler : Cursor) (reply : String) : List (Cursor × Cursor) :=
  handler.returnedValues.filter fun v => !v.2.focus.isReply reply

/-- A returned value as something that is sent: with code 200, at the line of the `return`. -/
def plainSend (v : Cursor × Cursor) : SendCall := ⟨200, some v.2, .returned, v.1.line⟩

/-- What a handler answers with, each with the node where it does: plain returned values, with code
200, and then the calls that are read as sending something. -/
def Cursor.answers (handler : Cursor) : List (Cursor × SendCall) :=
  (handler.plainReturns handler.replyName).map (fun v => (v.1, plainSend v)) ++
    handler.ownCalls.filterMap fun c => (c.sendCall? handler.replyName).map fun s => (c, s)

/-- A response before duplicates are dropped: where it was read off, what is sent there, and what
was found out about the payload. -/
structure Candidate where
  node : Cursor
  send : SendCall
  dataType : List Param
  typeName : Option String

namespace Candidate

def key (a : Candidate) : Nat × Nat := (a.send.code, a.send.line)

def success (a : Candidate) : Success :=
  ⟨a.send.code, a.dataType, a.typeName, a.send.source, a.send.line⟩

/-- A failure, whose data leave out the fields that say what went wrong. -/
def failure (a : Candidate) : Failure :=
  ⟨a.send.code, (a.send.payload.bind Cursor.message?).getD (messageOfType a.dataType),
    a.dataType.filter fun p => p.name != "error" && p.name != "message", a.send.line⟩

def response (a : Candidate) : Success ⊕ Failure :=
  if 400 ≤ a.send.code then .inr a.failure else .inl a.success

theorem filterMap_getLeft?_response (as : List Candidate) :
    (as.map response).filterMap Sum.getLeft? =
      (as.filter fun a => a.send.code < 400).map success := by
  induction as with
  | nil => rfl
  | cons a as ih =>
    rw [List.map_cons, List.filterMap_cons, List.filter_cons, ih, response]
    by_cases h : 400 ≤ a.send.code
    · simp [h, Nat.not_lt.2 h]
    · simp [h, Nat.lt_of_not_le h]

theorem filterMap_getRight?_response (as : List Candidate) :
    (as.map response).filterMap Sum.getRight? =
      (as.filter fun a => 400 ≤ a.send.code).map failure := by
  induction as with
  | nil => rfl
  | cons a as ih =>
    rw [List.map_cons, List.filterMap_cons, List.filter_cons, ih, response]
    by_cases h : 400 ≤ a.send.code <;> simp [h]

end Candidate

/-! ## Runs -/

section

variable {α β γ : Type}

/-- A run whose answers are made of those of another. -/
theorem mapM_zipWith {f : α → Typing β} {h : α → Typing γ} (make : α → γ → β)
    (hf : ∀ x m, f x m = (make x (h x m).1, (h x m).2)) (xs : List α) (m : Memo) :
    xs.mapM f m = (List.zipWith make xs (xs.mapM h m).1, (xs.mapM h m).2) := by
  induction xs generalizing m with
  | nil => rfl
  | cons x xs ih => simp only [Typer.mapM_cons_run, hf, ih, List.zipWith_cons_cons]

theorem mapM_append_run (f : α → Typing β) (xs ys : List α) (m : Memo) :
    (xs ++ ys).mapM f m =
      ((xs.mapM f m).1 ++ (ys.mapM f (xs.mapM f m).2).1, (ys.mapM f (xs.mapM f m).2).2) := by
  induction xs generalizing m with
  | nil => rfl
  | cons x xs ih => simp only [List.cons_append, Typer.mapM_cons_run, ih]

theorem mapM_map_run (f : β → Typing γ) (g : α → β) (xs : List α) (m : Memo) :
    (xs.map g).mapM f m = xs.mapM (fun x => f (g x)) m := by
  induction xs generalizing m with
  | nil => rfl
  | cons x xs ih => simp only [List.map_cons, Typer.mapM_cons_run, ih]

theorem length_mapM_run (f : α → Typing β) (xs : List α) (m : Memo) :
    (xs.mapM f m).1.length = xs.length := by
  induction xs generalizing m with
  | nil => rfl
  | cons x xs ih => simp only [Typer.mapM_cons_run, List.length_cons, ih]

end

namespace ResponseReader

/-- A candidate for each answer, its payload typed after those of the answers before it. -/
def candidates (r : ResponseReader) (handler : Cursor) (m : Memo) : List Candidate :=
  List.zipWith (fun a p => ⟨a.1, a.2, p.1, p.2⟩) handler.answers
    (handler.answers.mapM (fun a => r.payload a.2.payload) m).1

theorem sent_run (r : ResponseReader) (node : Cursor) (s : SendCall) (m : Memo) :
    r.sent s m = (Candidate.response ⟨node, s, (r.payload s.payload m).1.1,
      (r.payload s.payload m).1.2⟩, (r.payload s.payload m).2) := by
  by_cases h : 400 ≤ s.code
  · have hresponse : ∀ dataType typeName, Candidate.response ⟨node, s, dataType, typeName⟩ =
        .inr (Candidate.failure ⟨node, s, dataType, typeName⟩) := fun _ _ => if_pos h
    rw [hresponse]
    unfold sent
    simp only [h, if_true]
    rfl
  · have hresponse : ∀ dataType typeName, Candidate.response ⟨node, s, dataType, typeName⟩ =
        .inl (Candidate.success ⟨node, s, dataType, typeName⟩) := fun _ _ => if_neg h
    rw [hresponse]
    unfold sent
    simp only [h, if_false]
    rfl

/-- A plain return is typed like a call that sends the value with code 200. -/
theorem returned_run (r : ResponseReader) (reply : String) (handler : Cursor) (m : Memo) :
    r.returned reply handler.returnedValues m =
      (((handler.plainReturns reply).mapM (fun v => r.sent (plainSend v)) m).1.filterMap
          Sum.getLeft?,
        ((handler.plainReturns reply).mapM (fun v => r.sent (plainSend v)) m).2) ∧
    ((handler.plainReturns reply).mapM (fun v => r.sent (plainSend v)) m).1.filterMap
      Sum.getRight? = [] := by
  unfold returned Cursor.plainReturns
  generalize List.filter _ handler.returnedValues = values
  induction values generalizing m with
  | nil => exact ⟨rfl, rfl⟩
  | cons v values ih =>
    obtain ⟨hleft, hright⟩ := ih (r.payload (some v.2) m).2
    rw [Typer.mapM_cons_run, Typer.mapM_cons_run, sent_run r v.1]
    exact ⟨congrArg (fun rest => (_ :: rest.1, rest.2)) hleft, hright⟩

theorem mapM_answers_run (r : ResponseReader) (handler : Cursor) (m : Memo) :
    (handler.answers.mapM (fun a => r.sent a.2) m).1 =
      (r.candidates handler m).map Candidate.response := by
  rw [mapM_zipWith (fun a (p : List Param × Option String) =>
    Candidate.response ⟨a.1, a.2, p.1, p.2⟩) (fun a m => r.sent_run a.1 a.2 m), candidates,
    List.map_zipWith]

/-- **The responses are made of the candidates**, each of them on its own. -/
theorem responses_run (r : ResponseReader) (handler : Cursor) (m : Memo) :
    (r.responses handler m).1 = Responses.distinct
      ⟨((r.candidates handler m).filter fun a => a.send.code < 400).map Candidate.success,
        ((r.candidates handler m).filter fun a => 400 ≤ a.send.code).map Candidate.failure⟩ := by
  obtain ⟨hreturned, hnone⟩ := r.returned_run handler.replyName handler m
  have hall := r.mapM_answers_run handler m
  rw [Cursor.answers, mapM_append_run, mapM_map_run] at hall
  have hsends : ∀ m', (handler.ownCalls.filterMap fun c =>
      (c.sendCall? handler.replyName).map fun s => (c, s)).mapM (fun a => r.sent a.2) m' =
        (handler.ownCalls.filterMap fun c => c.sendCall? handler.replyName).mapM r.sent m' := by
    intro m'
    rw [← mapM_map_run r.sent Prod.snd, List.map_filterMap]
    simp only [Option.map_map, Function.comp_def, Option.map_id']
  rw [hsends] at hall
  rw [← Candidate.filterMap_getLeft?_response, ← Candidate.filterMap_getRight?_response, ← hall,
    List.filterMap_append, List.filterMap_append, hnone, List.nil_append]
  have hrun : (r.responses handler m).1 = Responses.distinct
      ⟨(r.returned handler.replyName handler.returnedValues m).1 ++
          ((handler.ownCalls.filterMap fun c => c.sendCall? handler.replyName).mapM r.sent
            (r.returned handler.replyName handler.returnedValues m).2).1.filterMap Sum.getLeft?,
        ((handler.ownCalls.filterMap fun c => c.sendCall? handler.replyName).mapM r.sent
          (r.returned handler.replyName handler.returnedValues m).2).1.filterMap
            Sum.getRight?⟩ := rfl
  rw [hrun, hreturned]

theorem map_candidates (r : ResponseReader) (handler : Cursor) (m : Memo) :
    (r.candidates handler m).map (fun a => (a.node, a.send)) = handler.answers := by
  have hlength := length_mapM_run (fun a : Cursor × SendCall => r.payload a.2.payload)
    handler.answers m
  rw [candidates, List.map_zipWith]
  generalize (handler.answers.mapM (fun a => r.payload a.2.payload) m).1 = told at hlength ⊢
  generalize handler.answers = answers at hlength ⊢
  induction answers generalizing told with
  | nil => rfl
  | cons a answers ih =>
    cases told with
    | nil => cases hlength
    | cons p told =>
      rw [List.zipWith_cons_cons, ih told (Nat.succ.inj hlength)]

/-- Each candidate is a value that the handler returns, or a call of its own. -/
theorem mem_candidates {r : ResponseReader} {handler : Cursor} {m : Memo} {a : Candidate}
    (h : a ∈ r.candidates handler m) :
    (∃ e, handler.Returns a.node e ∧ e.focus.isReply handler.replyName = false ∧
      a.send = plainSend (a.node, e)) ∨
    handler.Calls a.node ∧ a.node.sendCall? handler.replyName = some a.send := by
  have hanswer : (a.node, a.send) ∈ handler.answers := by
    rw [← r.map_candidates handler m]
    exact List.mem_map_of_mem h
  rcases List.mem_append.1 hanswer with hreturned | hsent
  · obtain ⟨⟨node, e⟩, hplain, heq⟩ := List.mem_map.1 hreturned
    obtain ⟨hnode, hsend⟩ := Prod.mk.inj heq
    obtain ⟨hvalue, hreply⟩ := List.mem_filter.1 hplain
    obtain rfl : node = a.node := hnode
    exact .inl ⟨e, Cursor.mem_returnedValues_iff.1 hvalue, by simpa using hreply, hsend.symm⟩
  · obtain ⟨c, hcall, hsend⟩ := List.mem_filterMap.1 hsent
    obtain ⟨s, hs, heq⟩ := Option.map_eq_some_iff.1 hsend
    obtain ⟨rfl, rfl⟩ := Prod.mk.inj heq
    exact .inr ⟨Cursor.mem_ownCalls_iff.1 hcall, hs⟩

end ResponseReader

/-! ## What is reported -/

/-- The responses report the candidates: divided at code 400, and of those with one code on one line
the first. -/
structure Responses.Report (out : Responses) (candidates : List Candidate) : Prop where
  success_lt : ∀ s ∈ out.success, s.code < 400
  le_errors : ∀ f ∈ out.errors, 400 ≤ f.code
  nodup_success : (out.success.map fun s => (s.code, s.line)).Nodup
  nodup_errors : (out.errors.map fun f => (f.code, f.line)).Nodup
  success_eq : out.success =
    ((candidates.filter fun a => a.send.code < 400).eraseDupsBy fun a b => a.key == b.key).map
      Candidate.success
  errors_eq : out.errors =
    ((candidates.filter fun a => 400 ≤ a.send.code).eraseDupsBy fun a b => a.key == b.key).map
      Candidate.failure

theorem Responses.report_distinct (candidates : List Candidate) :
    (Responses.distinct ⟨(candidates.filter fun a => a.send.code < 400).map Candidate.success,
      (candidates.filter fun a => 400 ≤ a.send.code).map Candidate.failure⟩).Report
        candidates := by
  have hmem : ∀ {α : Type} {key : α → Nat × Nat} {xs : List α} {x : α},
      x ∈ keepFirst key [] xs → x ∈ xs := fun h => (keepFirst_sublist ..).subset h
  refine ⟨fun s hs => ?_, fun f hf => ?_, (nodup_map_keepFirst ..).1, (nodup_map_keepFirst ..).1,
    ?_, ?_⟩
  · obtain ⟨a, ha, rfl⟩ := List.mem_map.1 (hmem hs)
    exact of_decide_eq_true (List.mem_filter.1 ha).2
  · obtain ⟨a, ha, rfl⟩ := List.mem_map.1 (hmem hf)
    exact of_decide_eq_true (List.mem_filter.1 ha).2
  · rw [← keepFirst_eq_eraseDupsBy]
    exact keepFirst_map ..
  · rw [← keepFirst_eq_eraseDupsBy]
    exact keepFirst_map ..

theorem ResponseReader.report_responses (r : ResponseReader) (handler : Cursor) (m : Memo) :
    (r.responses handler m).1.Report (r.candidates handler m) := by
  rw [r.responses_run handler m]
  exact Responses.report_distinct _

theorem Responses.Report.exists_candidate {out : Responses} {candidates : List Candidate}
    (h : out.Report candidates) :
    (∀ s ∈ out.success, ∃ a ∈ candidates, a.success = s) ∧
      ∀ f ∈ out.errors, ∃ a ∈ candidates, a.failure = f := by
  have hmem : ∀ {as : List Candidate} {a : Candidate},
      a ∈ (as.eraseDupsBy fun a b => a.key == b.key) → a ∈ as := by
    intro as a ha
    rw [← keepFirst_eq_eraseDupsBy] at ha
    exact (keepFirst_sublist ..).subset ha
  constructor
  · intro s hs
    rw [h.success_eq] at hs
    obtain ⟨a, ha, heq⟩ := List.mem_map.1 hs
    exact ⟨a, (List.mem_filter.1 (hmem ha)).1, heq⟩
  · intro f hf
    rw [h.errors_eq] at hf
    obtain ⟨a, ha, heq⟩ := List.mem_map.1 hf
    exact ⟨a, (List.mem_filter.1 (hmem ha)).1, heq⟩

end RouteInventory
