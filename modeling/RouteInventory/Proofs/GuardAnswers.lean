import Mathlib.Data.List.Forall2
import Mathlib.Logic.Relation
import RouteInventory.Nest.Guards

/-!
# Answers about guards do not depend on what was asked before

`GuardRules.Auth` is the least predicate on names that holds of a name if the project has classes
of that name and each of them extends an authenticating base, or a class of which it holds.

The search remembers a provisional `false` for every name that it is looking into, and answers that
rest on such an entry are remembered for good.  They are right nevertheless: all classes of a name
have to agree, so a name *requires* each name that its classes extend, and a name that requires
itself is never in the least predicate.

* `inheritsAt_sound` — a search keeps the memory sound and answers what `Auth` says.
* `session_answers` — every search ends, and each answer of a session is the one that the rules
  give for its name alone.
-/

namespace RouteInventory.GuardRules

/-! ## The least predicate -/

mutual
/-- Names whose classes all inherit from an authenticating base. -/
inductive Auth (r : GuardRules) : String → Prop
  | of_classes {name : String} (declared : r.project.classesNamed name ≠ [])
      (each : ∀ c ∈ r.project.classesNamed name, AuthClass r c) : Auth r name

/-- Classes that extend the result of an authenticating call, an authenticating base, or a name that
inherits from one. -/
inductive AuthClass (r : GuardRules) : ClassFacts → Prop
  | call {c : ClassFacts} {callee : String} (base : c.base = some (.call callee))
      (auth : callee ∈ r.authBases) : AuthClass r c
  | direct {c : ClassFacts} {name : String} (base : c.base = some (.name name))
      (auth : name ∈ r.authBases) : AuthClass r c
  | inherited {c : ClassFacts} {name : String} (base : c.base = some (.name name))
      (auth : Auth r name) : AuthClass r c
end

variable {r : GuardRules}

theorem auth_iff {name : String} :
    r.Auth name ↔ r.project.classesNamed name ≠ [] ∧
      ∀ c ∈ r.project.classesNamed name, r.AuthClass c :=
  ⟨fun ⟨declared, each⟩ => ⟨declared, each⟩, fun ⟨declared, each⟩ => .of_classes declared each⟩

theorem authClass_of_settled {c : ClassFacts} {answer : Bool}
    (h : r.baseVerdict c = .inl answer) : r.AuthClass c ↔ answer = true := by
  unfold baseVerdict at h
  split at h
  · rename_i callee hb
    cases h
    constructor
    · rintro (⟨base, auth⟩ | ⟨base, _⟩ | ⟨base, _⟩) <;> rw [hb] at base <;> cases base
      simpa using auth
    · intro ha
      exact .call hb (by simpa using ha)
  · rename_i base hb
    split at h
    · rename_i hin
      cases h
      exact ⟨fun _ => rfl, fun _ => .direct hb (by simpa using hin)⟩
    · cases h
  · rename_i hcall hname
    cases h
    constructor
    · rintro (⟨base, _⟩ | ⟨base, _⟩ | ⟨base, _⟩)
      · exact absurd base (hcall _)
      · exact absurd base (hname _)
      · exact absurd base (hname _)
    · intro ha
      cases ha

theorem base_of_open {c : ClassFacts} {base : String} (h : r.baseVerdict c = .inr base) :
    c.base = some (.name base) ∧ base ∉ r.authBases := by
  unfold baseVerdict at h
  split at h
  · cases h
  · rename_i name hb
    split at h
    · cases h
    · rename_i hin
      cases h
      exact ⟨hb, by simpa using hin⟩
  · cases h

theorem authClass_of_open {c : ClassFacts} {base : String} (h : r.baseVerdict c = .inr base) :
    r.AuthClass c ↔ r.Auth base := by
  obtain ⟨hb, hout⟩ := base_of_open h
  constructor
  · rintro (⟨hc, _⟩ | ⟨hc, auth⟩ | ⟨hc, auth⟩) <;> rw [hb] at hc <;> cases hc
    · exact absurd auth hout
    · exact auth
  · exact fun auth => .inherited hb auth

/-! ## Names that require themselves -/

/-- Some class of the first name can only inherit through the second. -/
def Requires (r : GuardRules) (name base : String) : Prop :=
  ∃ c ∈ r.project.classesNamed name, r.baseVerdict c = .inr base

/-- What a name in the least predicate requires is found in finitely many steps. -/
theorem Auth.acc {name : String} (h : r.Auth name) :
    Acc (fun base name => r.Requires name base) name := by
  refine @Auth.rec r (fun name _ => Acc (fun base name => r.Requires name base) name)
    (fun c _ => ∀ base, r.baseVerdict c = .inr base →
      Acc (fun base name => r.Requires name base) base) ?_ ?_ ?_ ?_ name h
  · intro name _ _ each
    exact Acc.intro name fun base ⟨c, hc, hb⟩ => each c hc base hb
  · intro c callee hcall _ base hb
    rw [(base_of_open hb).1] at hcall
    cases hcall
  · intro c name hname hin base hb
    rw [(base_of_open hb).1] at hname
    cases hname
    exact absurd hin (base_of_open hb).2
  · intro c name hname _ hacc base hb
    rw [(base_of_open hb).1] at hname
    cases hname
    exact hacc

/-- A name that requires itself, through whatever names, does not inherit. -/
theorem not_auth_of_cycle {name : String} (h : Relation.TransGen r.Requires name name) :
    ¬ r.Auth name := by
  intro auth
  have hacc := auth.acc.transGen
  induction hacc with
  | intro name _ ih => exact ih name (Relation.transGen_swap.2 h) h auth

/-! ## Sound memories -/

/-- Every answer that is remembered is right, those about pending names apart, which are `false`. -/
def Sound (r : GuardRules) (pending : List String) (m : GuardMemory) : Prop :=
  ∀ name answer, m.answer? name = some answer →
    (answer = true ↔ r.Auth name) ∨ (answer = false ∧ name ∈ pending)

theorem sound_nothing (r : GuardRules) (diagnostics : List Diagnostic) :
    r.Sound [] ⟨[], diagnostics⟩ := by
  intro name answer h
  cases h

theorem Sound.lookInto {pending : List String} {m : GuardMemory} (h : r.Sound pending m)
    (name : String) : r.Sound (name :: pending) (r.lookInto name m) := by
  intro other answer ha
  rw [answer?_lookInto] at ha
  by_cases heq : name = other
  · subst heq
    rw [GuardMemory.answer?_remember_self] at ha
    cases ha
    exact Or.inr ⟨rfl, List.mem_cons_self⟩
  · rw [GuardMemory.answer?_remember_of_ne _ _ heq] at ha
    rcases h other answer ha with hok | ⟨hf, hp⟩
    · exact Or.inl hok
    · exact Or.inr ⟨hf, List.mem_cons_of_mem _ hp⟩

theorem Sound.remember {pending : List String} {m : GuardMemory} {name : String} {answer : Bool}
    (h : r.Sound (name :: pending) m) (ha : answer = true ↔ r.Auth name) :
    r.Sound pending (m.remember name answer) := by
  intro other b hb
  by_cases heq : name = other
  · subst heq
    rw [GuardMemory.answer?_remember_self] at hb
    cases hb
    exact Or.inl ha
  · rw [GuardMemory.answer?_remember_of_ne _ _ heq] at hb
    rcases h other b hb with hok | ⟨hf, hp⟩
    · exact Or.inl hok
    · refine Or.inr ⟨hf, ?_⟩
      rcases List.mem_cons.1 hp with hp | hp
      · exact absurd hp.symm heq
      · exact hp

/-! ## The search -/

/-- A question that keeps memories sound and answers what the proposition says. -/
def AnswersTo (r : GuardRules) (pending : List String) (ask : StateT GuardMemory Option Bool)
    (holds : Prop) : Prop :=
  ∀ m answer m', r.Sound pending m → ask m = some (answer, m') →
    r.Sound pending m' ∧ (answer = true ↔ holds)

theorem answersTo_mapM {pending : List String}
    {f : ClassFacts → StateT GuardMemory Option Bool} {P : ClassFacts → Prop} :
    ∀ (classes : List ClassFacts), (∀ c ∈ classes, r.AnswersTo pending (f c) (P c)) →
      ∀ m answers m', r.Sound pending m → classes.mapM f m = some (answers, m') →
        r.Sound pending m' ∧ (answers.all id = true ↔ ∀ c ∈ classes, P c) := by
  intro classes
  induction classes with
  | nil =>
    intro _ m answers m' hm h
    cases h
    exact ⟨hm, by simp⟩
  | cons c cs ih =>
    intro hf m answers m' hm h
    rw [mapM_cons_apply] at h
    obtain ⟨⟨b, m₁⟩, hb, h⟩ := Option.bind_eq_some_iff.1 h
    obtain ⟨⟨bs, m₂⟩, hbs, h⟩ := Option.map_eq_some_iff.1 h
    obtain ⟨rfl, rfl⟩ := Prod.mk.inj h
    obtain ⟨hm₁, hP⟩ := hf c List.mem_cons_self m b m₁ hm hb
    obtain ⟨hm₂, hPs⟩ := ih (fun d hd => hf d (List.mem_cons_of_mem _ hd)) m₁ bs m₂ hm₁ hbs
    refine ⟨hm₂, ?_⟩
    rw [List.all_cons, Bool.and_eq_true, hPs, List.forall_mem_cons]
    exact and_congr_left' hP

/-- **A search is right whatever is pending**: the pending names all require the name that is looked
for, so an answer that meets a provisional entry has met a name that requires itself. -/
theorem inheritsAt_sound (r : GuardRules) :
    ∀ (n : Nat) (name : String) (pending : List String),
      (∀ q ∈ pending, Relation.TransGen r.Requires q name) →
      r.AnswersTo pending (r.inheritsAt n name) (r.Auth name) := by
  intro n
  induction n with
  | zero =>
    intro name pending _ m answer m' _ h
    cases h
  | succ n ih =>
    intro name pending hpending m answer m' hm h
    rw [inheritsAt_succ] at h
    cases ha : m.answer? name with
    | some b =>
      rw [ha] at h
      cases h
      refine ⟨hm, ?_⟩
      rcases hm name answer ha with hok | ⟨hf, hp⟩
      · exact hok
      · subst hf
        have hno : ¬ r.Auth name := not_auth_of_cycle (hpending name hp)
        exact ⟨Bool.false_ne_true.elim, fun auth => absurd auth hno⟩
    | none =>
      rw [ha] at h
      obtain ⟨⟨answers, m₁⟩, hmap, h⟩ := Option.map_eq_some_iff.1 h
      cases h
      have each : ∀ c ∈ r.project.classesNamed name,
          r.AnswersTo (name :: pending) (r.extendsAuth (r.inheritsAt n) c) (r.AuthClass c) := by
        intro c hc m₂ b m₃ hm₂ h₂
        unfold extendsAuth at h₂
        cases hv : r.baseVerdict c with
        | inl settled =>
          rw [hv] at h₂
          cases h₂
          exact ⟨hm₂, (authClass_of_settled hv).symm⟩
        | inr base =>
          rw [hv] at h₂
          have hreq : r.Requires name base := ⟨c, hc, hv⟩
          rw [authClass_of_open hv]
          refine ih base (name :: pending) ?_ m₂ b m₃ hm₂ h₂
          intro q hq
          rcases List.mem_cons.1 hq with rfl | hq
          · exact .single hreq
          · exact .tail (hpending q hq) hreq
      obtain ⟨hm₁, hall⟩ := answersTo_mapM _ each _ answers m₁ (hm.lookInto name) hmap
      have hanswer : (!(r.project.classesNamed name).isEmpty && answers.all id) = true ↔
          r.Auth name := by
        rw [auth_iff, ← hall]
        simp
      exact ⟨hm₁.remember hanswer, hanswer⟩

theorem inheritsAuth_sound {m : GuardMemory} (hm : r.Sound [] m) (name : String) :
    r.Sound [] (r.inheritsAuth name m).2 ∧
      ((r.inheritsAuth name m).1 = true ↔ r.Auth name) := by
  refine r.inheritsAt_sound r.searchDepth name [] (fun q hq => by cases hq) m _ _ hm ?_
  unfold inheritsAuth
  exact (Option.some_get _).symm

/-! ## Sessions -/

/-- What can be asked of one analysis of guards. -/
inductive Request where
  | classify (name : String)
  | inherits (name : String)
  | forget
  | takeDiagnostics

/-- What is answered. -/
inductive Reply where
  | verdict (v : GuardVerdict)
  | inherits (answer : Bool)
  | forgotten
  | diagnostics (ds : List Diagnostic)

/-- The reply to one request, with the memory handed on. -/
def reply (r : GuardRules) : Request → StateM GuardMemory Reply
  | .classify name => return .verdict (← r.classify name)
  | .inherits name => return .inherits (← r.inheritsAuth name)
  | .forget => do
    modify GuardMemory.forget
    return .forgotten
  | .takeDiagnostics => return .diagnostics (← GuardMemory.takeDiagnostics)

/-- The replies to requests made one after another, from a given memory on. -/
def repliesFrom (r : GuardRules) : GuardMemory → List Request → List Reply
  | _, [] => []
  | m, q :: qs =>
    let (a, m') := r.reply q m
    a :: r.repliesFrom m' qs

/-- The replies of an analysis that remembers nothing at first. -/
def session (r : GuardRules) (requests : List Request) : List Reply :=
  r.repliesFrom .nothing requests

open Classical in
/-- The verdict that the rules give for a name. -/
noncomputable def verdictOn (r : GuardRules) (name : String) : GuardVerdict :=
  if name ∈ r.excludeGuards then ⟨false, .high, .excluded⟩
  else if name ∈ r.authGuards then ⟨true, .high, .config⟩
  else if r.Auth name then ⟨true, .high, .inheritance⟩
  else if r.fitsPattern name then ⟨true, .medium, .pattern⟩
  else ⟨false, .low, .unknown⟩

/-- The right replies to a request; they do not mention the memory. -/
def Answers (r : GuardRules) : Request → Reply → Prop
  | .classify name, .verdict v => v = r.verdictOn name
  | .inherits name, .inherits answer => answer = true ↔ r.Auth name
  | .forget, .forgotten => True
  | .takeDiagnostics, .diagnostics _ => True
  | _, _ => False

theorem classify_apply (r : GuardRules) (name : String) (m : GuardMemory) :
    r.classify name m =
      if name ∈ r.excludeGuards then (⟨false, .high, .excluded⟩, m)
      else if name ∈ r.authGuards then (⟨true, .high, .config⟩, m)
      else
        (if (r.inheritsAuth name m).1 then ⟨true, .high, .inheritance⟩
          else if r.fitsPattern name then ⟨true, .medium, .pattern⟩
          else ⟨false, .low, .unknown⟩,
        (r.inheritsAuth name m).2) := by
  unfold classify
  by_cases hex : name ∈ r.excludeGuards
  · simp only [List.contains_iff_mem, hex, if_true]
    rfl
  · by_cases hauth : name ∈ r.authGuards
    · simp only [List.contains_iff_mem, hex, hauth, if_true, if_false]
      rfl
    · simp only [List.contains_iff_mem, hex, hauth, if_false, bind, StateT.bind]
      obtain ⟨answer, m'⟩ := r.inheritsAuth name m
      cases answer <;> cases r.fitsPattern name <;> rfl

theorem classify_sound {m : GuardMemory} (hm : r.Sound [] m) (name : String) :
    r.Sound [] (r.classify name m).2 ∧ (r.classify name m).1 = r.verdictOn name := by
  rw [classify_apply]
  unfold verdictOn
  by_cases hex : name ∈ r.excludeGuards
  · rw [if_pos hex, if_pos hex]
    exact ⟨hm, rfl⟩
  · by_cases hauth : name ∈ r.authGuards
    · rw [if_neg hex, if_neg hex, if_pos hauth, if_pos hauth]
      exact ⟨hm, rfl⟩
    · obtain ⟨hm', hanswer⟩ := inheritsAuth_sound hm name
      rw [if_neg hex, if_neg hex, if_neg hauth, if_neg hauth]
      refine ⟨hm', ?_⟩
      by_cases hr : r.Auth name
      · rw [if_pos (hanswer.2 hr), if_pos hr]
      · rw [if_neg fun h => hr (hanswer.1 h), if_neg hr]

/-- One request keeps the memory sound and is answered rightly. -/
theorem reply_sound {m : GuardMemory} (hm : r.Sound [] m) (q : Request) :
    r.Sound [] (r.reply q m).2 ∧ r.Answers q (r.reply q m).1 := by
  cases q with
  | classify name => exact classify_sound hm name
  | inherits name => exact inheritsAuth_sound hm name
  | forget => exact ⟨sound_nothing r m.diagnostics, trivial⟩
  | takeDiagnostics => exact ⟨hm, trivial⟩

theorem repliesFrom_answers (r : GuardRules) :
    ∀ (requests : List Request) (m : GuardMemory), r.Sound [] m →
      List.Forall₂ r.Answers requests (r.repliesFrom m requests) := by
  intro requests
  induction requests with
  | nil => intro _ _; exact .nil
  | cons q qs ih =>
    intro m hm
    obtain ⟨hm', hq⟩ := reply_sound hm q
    exact .cons hq (ih _ hm')

/-- **Every search ends, and every reply of a session is the one that the rules give for the request
alone**, whatever was asked, forgotten or taken before, and however classes extend each other. -/
theorem session_answers (r : GuardRules) (requests : List Request) :
    (∀ name m, ∃ answer m', r.inheritsAt r.searchDepth name m = some (answer, m')) ∧
      List.Forall₂ r.Answers requests (r.session requests) := by
  refine ⟨fun name m => ?_, repliesFrom_answers r requests _ (sound_nothing r [])⟩
  obtain ⟨⟨answer, m'⟩, h⟩ := Option.isSome_iff_exists.1 (r.isSome_inheritsAt_searchDepth name m)
  exact ⟨answer, m', h⟩

end RouteInventory.GuardRules
