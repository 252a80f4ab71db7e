import Mathlib
import RouteInventory.Proofs.NestedFunctions

/-!
# The codes of a controller's responses

The successes of a method have the code that a decorator sets, which counts only if it is a status
code.  The failures have the codes of the exceptions that the method throws.  For the exceptions
with names of their own these come from a table, but the general one takes whatever number or member
of the table of codes it is given.

* `Cursor.StatesCode`, `Cursor.Constructs`, `Cursor.AnswersWith`: what the code of an exception is.
* `Cursor.thrown?_eq_some_iff`: the failure that a `throw` statement amounts to.
* `ControllerReader.forall_errors_iff`: what holds of the codes of all failures.
* `ControllerReader.codes_valid_iff`: when the codes are those of successes and failures.
-/

namespace RouteInventory

/-- The codes that a response can have. -/
def IsStatus (code : Nat) : Prop := 100 ≤ code ∧ code ≤ 599

/-- The codes that a failure can have. -/
def IsFailureStatus (code : Nat) : Prop := 400 ≤ code ∧ code ≤ 599

instance (code : Nat) : Decidable (IsStatus code) := inferInstanceAs (Decidable (_ ∧ _))

instance (code : Nat) : Decidable (IsFailureStatus code) := inferInstanceAs (Decidable (_ ∧ _))

/-! ## Tables -/

section

variable {α β : Type} [BEq α] [LawfulBEq α]

/-- In a table without repeated keys, what is found is what is listed. -/
theorem lookup_eq_some_iff_mem {table : List (α × β)} (h : (table.map Prod.fst).Nodup) {key : α}
    {value : β} : table.lookup key = some value ↔ (key, value) ∈ table := by
  induction table with
  | nil => simp
  | cons entry table ih =>
    obtain ⟨hfresh, hnodup⟩ := List.nodup_cons.1 h
    rw [List.lookup_cons, List.mem_cons]
    by_cases hkey : key = entry.1
    · subst hkey
      have hother : (entry.1, value) ∉ table := fun hmem =>
        hfresh (List.mem_map.2 ⟨_, hmem, rfl⟩)
      simp only [beq_self_eq_true, Option.some.injEq, hother, or_false]
      exact ⟨fun hvalue => hvalue ▸ rfl, fun heq => congrArg Prod.snd heq.symm⟩
    · have hne : (key, value) ≠ entry := fun heq => hkey (congrArg Prod.fst heq)
      simp only [beq_eq_false_iff_ne.2 hkey, hne, false_or]
      exact ih hnodup

end

theorem nodup_httpStatuses : (httpStatuses.map Prod.fst).Nodup := by decide

theorem nodup_httpExceptions : (httpExceptions.map Prod.fst).Nodup := by decide

/-! ## The exceptions that are thrown -/

namespace Cursor

variable {c e : Cursor} {name : String} {args : List Cursor} {code : Nat}

/-- The expression states a code: as a number, or as a member of the table of codes. -/
inductive StatesCode (e : Cursor) (code : Nat) : Prop
  | number (hkind : e.unwrapped.kind = .number) (h : codeOfText? e.unwrapped.text = some code)
  | member {p : Cursor} (hkind : e.unwrapped.kind = .memberExpression)
      (hp : e.unwrapped.role? .property = some p) (h : (p.text, code) ∈ httpStatuses)

/-- The statement throws `new name(args)`. -/
def Constructs (c : Cursor) (name : String) (args : List Cursor) : Prop :=
  ∃ operand k, c.firstPart? = some operand ∧ operand.unwrapped.kind = .newExpression ∧
    operand.unwrapped.role? .constructor = some k ∧ k.text = name ∧
    operand.unwrapped.callArguments = args

/-- The exception stands for a code: one of the framework for that of the table, the general one for
that of its second argument. -/
inductive AnswersWith (name : String) (args : List Cursor) (code : Nat) : Prop
  | standard {message : String} (h : (name, code, message) ∈ httpExceptions)
  | stated {e : Cursor} (hname : name = "HttpException") (he : args[1]? = some e)
      (h : e.StatesCode code)

theorem httpStatus?_eq_some_iff : e.httpStatus? = some code ↔ e.StatesCode code := by
  unfold httpStatus?
  dsimp only
  constructor
  · intro h
    split at h
    · exact .number ‹_› h
    · obtain ⟨p, hp, hlookup⟩ := Option.bind_eq_some_iff.1 h
      exact .member ‹_› hp ((lookup_eq_some_iff_mem nodup_httpStatuses).1 hlookup)
    · cases h
  · rintro (⟨hkind, h⟩ | ⟨hkind, hp, h⟩)
    · rw [hkind]
      exact h
    · rw [hkind]
      exact Option.bind_eq_some_iff.2 ⟨_, hp, (lookup_eq_some_iff_mem nodup_httpStatuses).2 h⟩

/-- The general exception is not in the table. -/
theorem ne_of_mem_httpExceptions {message : String} (h : (name, code, message) ∈ httpExceptions) :
    name ≠ "HttpException" := by
  rintro rfl
  exact absurd (List.mem_map_of_mem h) (by decide : "HttpException" ∉ httpExceptions.map Prod.fst)

theorem exceptionCode?_isSome_iff :
    (∃ message, exceptionCode? name args = some (code, message)) ↔ AnswersWith name args code := by
  unfold exceptionCode?
  constructor
  · rintro ⟨message, h⟩
    split at h
    · rename_i hname
      obtain ⟨code', hcode, heq⟩ := Option.map_eq_some_iff.1 h
      obtain ⟨rfl, -⟩ := Prod.mk.inj heq
      obtain ⟨e, he, hstatus⟩ := Option.bind_eq_some_iff.1 hcode
      exact .stated (beq_iff_eq.1 hname) he (httpStatus?_eq_some_iff.1 hstatus)
    · exact .standard ((lookup_eq_some_iff_mem nodup_httpExceptions).1 h)
  · rintro (⟨h⟩ | ⟨hname, he, h⟩)
    · rw [if_neg (by simpa using ne_of_mem_httpExceptions h)]
      exact ⟨_, (lookup_eq_some_iff_mem nodup_httpExceptions).2 h⟩
    · rw [if_pos (by simpa using hname), he]
      exact ⟨_, Option.map_eq_some_iff.2 ⟨code, httpStatus?_eq_some_iff.2 h, rfl⟩⟩

/-- A `throw` statement amounts to a failure with a code exactly if it throws an exception that
stands for the code. -/
theorem thrown?_iff : (∃ f, c.thrown? = some f ∧ f.code = code) ↔
    ∃ name args, c.Constructs name args ∧ AnswersWith name args code := by
  unfold thrown?
  constructor
  · rintro ⟨f, h, rfl⟩
    obtain ⟨operand, hoperand, h⟩ := Option.bind_eq_some_iff.1 h
    dsimp only at h
    split at h
    · cases h
    · rename_i hkind
      obtain ⟨k, hk, h⟩ := Option.bind_eq_some_iff.1 h
      obtain ⟨⟨code, message⟩, hcode, rfl⟩ := Option.map_eq_some_iff.1 h
      exact ⟨k.text, _, ⟨operand, k, hoperand, by simpa using hkind, hk, rfl, rfl⟩,
        exceptionCode?_isSome_iff.1 ⟨message, hcode⟩⟩
  · rintro ⟨_, _, ⟨operand, k, hoperand, hkind, hk, rfl, rfl⟩, hanswers⟩
    obtain ⟨message, hcode⟩ := exceptionCode?_isSome_iff.2 hanswers
    rw [hoperand, Option.bind_some, if_neg (by simpa using hkind), hk, Option.bind_some]
    dsimp only
    rw [hcode]
    exact ⟨_, rfl, rfl⟩

/-- The expression is the second argument of a general exception that the function throws. -/
def Passes (f e : Cursor) : Prop :=
  ∃ c args, f.Throws c ∧ c.Constructs "HttpException" args ∧ args[1]? = some e

/-- What holds of every code that an expression can state holds of the number that it is and of the
entries for the member that it names. -/
theorem forall_statesCode_iff {P : Nat → Prop} : (∀ code, e.StatesCode code → P code) ↔
    (e.unwrapped.kind = .number → ∀ code, codeOfText? e.unwrapped.text = some code → P code) ∧
    (e.unwrapped.kind = .memberExpression → ∀ p, e.unwrapped.role? .property = some p →
      ∀ code, (p.text, code) ∈ httpStatuses → P code) := by
  constructor
  · intro h
    exact ⟨fun hkind code hcode => h code (.number hkind hcode),
      fun hkind p hp code hcode => h code (.member hkind hp hcode)⟩
  · rintro ⟨hnumber, hmember⟩ code (⟨hkind, hcode⟩ | ⟨hkind, hp, hcode⟩)
    · exact hnumber hkind code hcode
    · exact hmember hkind _ hp code hcode

end Cursor

/-! ## The codes of a route -/

/-- The members of the table of codes that stand for successes. -/
def successNames : List String := ["OK", "CREATED", "ACCEPTED", "NO_CONTENT"]

theorem forall_listed_iff {member : String} :
    (∀ code, (member, code) ∈ httpStatuses → IsFailureStatus code) ↔ member ∉ successNames := by
  have hlisted : ∀ x ∈ httpStatuses, x.1 ∉ successNames → IsFailureStatus x.2 := by decide
  have hsuccess : ∀ n ∈ successNames, ∃ x ∈ httpStatuses, x.1 = n ∧ ¬ IsFailureStatus x.2 := by
    decide
  constructor
  · intro h hmem
    obtain ⟨x, hx, rfl, hcode⟩ := hsuccess member hmem
    exact hcode (h x.2 hx)
  · exact fun h code hmem => hlisted (member, code) hmem h

namespace ControllerReader

variable {r : ControllerReader} {typer : Typer} {method : Cursor} {verb : Method}
variable {decorators : List Decorator} {m : Memo}

/-- A code that a decorator sets counts only if it is a status code. -/
theorem isStatus_successCode (verb : Method) (decorators : List Decorator) :
    IsStatus (successCode verb decorators) := by
  have hchoice (chosen : Option Nat) (standard : Nat) (hchosen : ∀ code ∈ chosen, IsStatus code)
      (hstandard : IsStatus standard) : IsStatus (chosen.getD standard) := by
    cases chosen with
    | none => exact hstandard
    | some code => exact hchosen code rfl
  refine hchoice _ _ (fun code hcode => ?_) (by split <;> decide)
  obtain ⟨d, -, hcode⟩ := Option.bind_eq_some_iff.1 hcode
  obtain ⟨a, -, hcode⟩ := Option.bind_eq_some_iff.1 hcode
  obtain ⟨n, -, hcode⟩ := Option.bind_eq_some_iff.1 hcode
  obtain ⟨-, hrange⟩ := Option.filter_eq_some_iff.1 hcode
  simpa [IsStatus] using hrange

/-- All successes of a method have one code. -/
theorem code_of_mem_success {s : Success}
    (hs : s ∈ (r.responses typer method verb decorators m).1.success) :
    s.code = successCode verb decorators := by
  have hmem : s ∈ (r.successes typer method (successCode verb decorators)
      (((method.role? .body).map Cursor.ownNodes).getD []) m).1 :=
    (keepFirst_sublist ..).subset hs
  unfold successes at hmem
  cases htype : method.focus.returnType? with
  | some type =>
    rw [htype] at hmem
    obtain rfl := List.mem_singleton.1 hmem
    rfl
  | none =>
    rw [htype] at hmem
    obtain ⟨_, -, m', rfl⟩ := exists_of_mem_mapM hmem
    rfl

/-- The codes of a method's failures are those of the exceptions that it throws. -/
theorem exists_mem_errors_iff {code : Nat} :
    (∃ f ∈ (r.responses typer method verb decorators m).1.errors, f.code = code) ↔
      ∃ c name args, method.Throws c ∧ c.Constructs name args ∧
        Cursor.AnswersWith name args code := by
  constructor
  · rintro ⟨f, hf, rfl⟩
    obtain ⟨c, hthrows, hthrown⟩ := thrown_of_mem_errors hf
    obtain ⟨name, args, h⟩ := Cursor.thrown?_iff.1 ⟨f, hthrown, rfl⟩
    exact ⟨c, name, args, hthrows, h⟩
  · rintro ⟨c, name, args, ⟨body, hbody, hown, hkind⟩, hconstructs, hanswers⟩
    obtain ⟨f, hthrown, rfl⟩ := Cursor.thrown?_iff.2 ⟨name, args, hconstructs, hanswers⟩
    have hmem : f ∈ ((((method.role? .body).map Cursor.ownNodes).getD []).filter
        fun c => c.kind == .throwStatement).filterMap Cursor.thrown? :=
      List.mem_filterMap.2 ⟨c, List.mem_filter.2
        ⟨mem_own_iff.2 ⟨body, hbody, hown⟩, beq_iff_eq.2 hkind⟩, hthrown⟩
    rcases exists_key_eq_of_mem (fun f : Failure => (f.code, f.line)) [] hmem with hseen |
      ⟨g, hg, heq⟩
    · cases hseen
    · exact ⟨g, hg, congrArg Prod.fst heq⟩

/-- What holds of the codes of all exceptions with names of their own holds of all failures exactly
if it holds of every code that a general exception is given. -/
theorem forall_errors_iff {P : Nat → Prop} (h : ∀ x ∈ httpExceptions, P x.2.1) :
    (∀ f ∈ (r.responses typer method verb decorators m).1.errors, P f.code) ↔
      ∀ e, method.Passes e → ∀ code, e.StatesCode code → P code := by
  constructor
  · rintro herrors e ⟨c, args, hthrows, hconstructs, he⟩ code hcode
    obtain ⟨f, hf, rfl⟩ := exists_mem_errors_iff.2
      ⟨c, _, args, hthrows, hconstructs, .stated rfl he hcode⟩
    exact herrors f hf
  · intro hstated f hf
    obtain ⟨c, name, args, hthrows, hconstructs, hanswers⟩ := exists_mem_errors_iff.1 ⟨f, hf, rfl⟩
    rcases hanswers with ⟨hlisted⟩ | ⟨rfl, he, hcode⟩
    · exact h _ hlisted
    · exact hstated _ ⟨c, args, hthrows, hconstructs, he⟩ _ hcode

/-- **The codes that are reported.**  The codes of successes are status codes.  The codes of
failures are those of the exceptions that the method throws itself: they are status codes exactly if
no general exception is given a number that is none, and at least 400 exactly if none is given a
smaller number or one of the members that stand for successes either. -/
theorem codes_valid_iff (r : ControllerReader) (typer : Typer) (method : Cursor) (verb : Method)
    (decorators : List Decorator) (m : Memo) :
    (∀ s ∈ (r.responses typer method verb decorators m).1.success, IsStatus s.code) ∧
    (∀ code, (∃ f ∈ (r.responses typer method verb decorators m).1.errors, f.code = code) ↔
      ∃ c name args, method.Throws c ∧ c.Constructs name args ∧
        Cursor.AnswersWith name args code) ∧
    ((∀ f ∈ (r.responses typer method verb decorators m).1.errors, IsStatus f.code) ↔
      ∀ e, method.Passes e → e.unwrapped.kind = .number →
        ∀ code, codeOfText? e.unwrapped.text = some code → IsStatus code) ∧
    ((∀ f ∈ (r.responses typer method verb decorators m).1.errors, IsFailureStatus f.code) ↔
      ∀ e, method.Passes e →
        (e.unwrapped.kind = .number →
          ∀ code, codeOfText? e.unwrapped.text = some code → IsFailureStatus code) ∧
        (e.unwrapped.kind = .memberExpression →
          ∀ p, e.unwrapped.role? .property = some p → p.text ∉ successNames)) := by
  refine ⟨fun s hs => ?_, fun code => exists_mem_errors_iff, ?_, ?_⟩
  · rw [code_of_mem_success hs]
    exact isStatus_successCode verb decorators
  · have hlisted : ∀ x ∈ httpStatuses, IsStatus x.2 := by decide
    rw [forall_errors_iff (by decide)]
    simp only [Cursor.forall_statesCode_iff]
    refine forall₂_congr fun e _ => ⟨And.left, fun hnumber => ⟨hnumber, ?_⟩⟩
    exact fun _ p _ code hmem => hlisted (p.text, code) hmem
  · rw [forall_errors_iff (by decide)]
    simp only [Cursor.forall_statesCode_iff, forall_listed_iff]

end ControllerReader

/-! ## A code that is none -/

namespace StrangeCode

open RouteInventory.Tree (sketch)

def args : Tree :=
  (sketch .arguments "" [sketch .string "'x'" [], sketch .number "999" []]).withRole .arguments

/-- `throw new HttpException('x', 999);` -/
def statement : Tree :=
  sketch .throwStatement "" [sketch .newExpression ""
    [(sketch .identifier "HttpException" []).withRole .constructor, args]]

/-- `read() { throw new HttpException('x', 999); }` -/
def method : Cursor := .ofTree
  (sketch .methodDefinition "" [(sketch .statementBlock "" [statement]).withRole .body])

def typer : Typer :=
  ⟨.empty ⟨true, ["app"]⟩, ⟨⟨true, ["app", "a.ts"]⟩, "a.ts", method.focus, ⟨[], [], []⟩⟩⟩

def reader : ControllerReader := ⟨typer.project, .standard, [], true⟩

/-- The number is reported as the code of a failure, and it is what the exception was given. -/
theorem reported : (∃ f ∈ (reader.responses typer method .get [] []).1.errors, f.code = 999) ∧
    ∃ e code, method.Passes e ∧ codeOfText? e.unwrapped.text = some code ∧ ¬ IsStatus code := by
  have hcode : ∃ f ∈ (reader.responses typer method .get [] []).1.errors, f.code = 999 := by
    decide +kernel
  refine ⟨hcode, ?_⟩
  obtain ⟨f, hf, hcode⟩ := hcode
  by_contra hnone
  have hvalid := (ControllerReader.codes_valid_iff reader typer method .get [] []).2.2.1.2
    fun e he _ code htext => by_contra fun hcode => hnone ⟨e, code, he, htext, hcode⟩
  exact absurd (hvalid f hf) (by rw [hcode]; decide)

end StrangeCode

end RouteInventory
