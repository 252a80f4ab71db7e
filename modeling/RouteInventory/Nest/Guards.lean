import RouteInventory.Config.Basic
import RouteInventory.Project

/-!
# Guards

A guard is classified by its name.  The first rule that applies decides: the guards that the
configuration excludes, the guards that it names, classes that inherit from an authenticating base,
and names that fit a pattern.

A class inherits from an authenticating base if it extends one, or extends a class of the project
that does; of several classes with one name all have to.  Answers are remembered, and a class that is
being looked at counts as not inheriting, so that classes which extend each other end the search.
-/

namespace RouteInventory

/-- What decides about guards. -/
structure GuardRules where
  project : Project
  authGuards : List String
  excludeGuards : List String
  authBases : List String
  /-- Whether a name fits one of the patterns. -/
  fitsPattern : String → Bool

namespace GuardRules

/-- The rules of a configuration, with its patterns given as a predicate. -/
def ofConfig (p : Project) (config : GuardConfig) (fitsPattern : String → Bool) : GuardRules where
  project := p
  authGuards := config.authGuards
  excludeGuards := config.excludeGuards
  authBases := config.authBaseClasses
  fitsPattern := fitsPattern

end GuardRules

/-- What is remembered between questions about guards. -/
structure GuardMemory where
  /-- Answers about inheritance, the latest first. -/
  answers : List (String × Bool)
  diagnostics : List Diagnostic
  deriving DecidableEq, Repr, Inhabited

namespace GuardMemory

def nothing : GuardMemory := ⟨[], []⟩

def answer? (m : GuardMemory) (name : String) : Option Bool :=
  (m.answers.find? fun e => e.1 == name).map Prod.snd

def remember (name : String) (answer : Bool) (m : GuardMemory) : GuardMemory :=
  { m with answers := (name, answer) :: m.answers }

def report (d : Diagnostic) (m : GuardMemory) : GuardMemory :=
  { m with diagnostics := m.diagnostics ++ [d] }

/-- Everything that `m` has an answer for, `m'` has one for. -/
instance : LE GuardMemory := ⟨fun m m' => ∀ name, (m.answer? name).isSome → (m'.answer? name).isSome⟩

theorem le_refl (m : GuardMemory) : m ≤ m := fun _ h => h

theorem le_trans {m₁ m₂ m₃ : GuardMemory} (h : m₁ ≤ m₂) (h' : m₂ ≤ m₃) : m₁ ≤ m₃ :=
  fun name hm => h' name (h name hm)

theorem answer?_remember_self (name : String) (answer : Bool) (m : GuardMemory) :
    (m.remember name answer).answer? name = some answer := by
  simp [answer?, remember]

theorem answer?_remember_of_ne {name other : String} (answer : Bool) (m : GuardMemory)
    (h : name ≠ other) : (m.remember name answer).answer? other = m.answer? other := by
  simp [answer?, remember, h]

theorem le_remember (name : String) (answer : Bool) (m : GuardMemory) :
    m ≤ m.remember name answer := by
  intro other hm
  by_cases h : name = other
  · rw [h, answer?_remember_self]; rfl
  · rwa [answer?_remember_of_ne answer m h]

/-- Forgets the answers, but not the diagnostics. -/
def forget (m : GuardMemory) : GuardMemory := { m with answers := [] }

/-- Hands the diagnostics over. -/
def takeDiagnostics : StateM GuardMemory (List Diagnostic) := fun m =>
  (m.diagnostics, { m with diagnostics := [] })

end GuardMemory

namespace GuardRules

/-- The diagnostic for a name with several classes. -/
def ambiguity (r : GuardRules) (name : String) (classes : List ClassFacts) : Diagnostic :=
  ⟨.ambiguousDeclaration,
    String.intercalate ", " (classes.map fun c => r.project.relative c.file),
    s!"class '{name}' is declared {classes.length} times"⟩

/-- What the base of a class says about it: whether it authenticates, or which name decides. -/
def baseVerdict (r : GuardRules) (c : ClassFacts) : Bool ⊕ String :=
  match c.base with
  | some (.call callee) => .inl (r.authBases.contains callee)
  | some (.name base) => if r.authBases.contains base then .inl true else .inr base
  | _ => .inl false

/-- Whether one class extends an authenticating base, given how to find out about other names. -/
def extendsAuth (r : GuardRules) (ask : String → StateT GuardMemory Option Bool)
    (c : ClassFacts) : StateT GuardMemory Option Bool :=
  match r.baseVerdict c with
  | .inl answer => return answer
  | .inr base => ask base

/-- What is remembered when the search comes to a name: it counts as not inheriting for now, and
several classes of that name are reported. -/
def lookInto (r : GuardRules) (name : String) (m : GuardMemory) : GuardMemory :=
  let classes := r.project.classesNamed name
  let seeded := m.remember name false
  if 1 < classes.length then seeded.report (r.ambiguity name classes) else seeded

/-- Whether the classes with a name inherit from an authenticating base; without an answer if a
chain of more than `n` names has to be followed. -/
def inheritsAt (r : GuardRules) : Nat → String → StateT GuardMemory Option Bool
  | 0, _ => failure
  | n + 1, name => do
    match (← get).answer? name with
    | some answer => return answer
    | none =>
      modify (r.lookInto name)
      let classes := r.project.classesNamed name
      let each ← classes.mapM (r.extendsAuth (r.inheritsAt n))
      let answer := !classes.isEmpty && each.all id
      modify (GuardMemory.remember name answer)
      return answer

/-! ## The search ends -/

theorem inheritsAt_succ (r : GuardRules) (n : Nat) (name : String) (m : GuardMemory) :
    r.inheritsAt (n + 1) name m =
      match m.answer? name with
      | some answer => some (answer, m)
      | none =>
        ((r.project.classesNamed name).mapM (r.extendsAuth (r.inheritsAt n))
          (r.lookInto name m)).map fun (each, m') =>
            let answer := !(r.project.classesNamed name).isEmpty && each.all id
            (answer, m'.remember name answer) := by
  change (match m.answer? name with
    | some answer => pure answer
    | none => _ : StateT GuardMemory Option Bool) m = _
  cases m.answer? name with
  | some answer => rfl
  | none =>
    change ((r.project.classesNamed name).mapM (r.extendsAuth (r.inheritsAt n))
      (r.lookInto name m)).bind _ = _
    cases (r.project.classesNamed name).mapM (r.extendsAuth (r.inheritsAt n))
      (r.lookInto name m) <;> rfl

/-- One class after the other, with the memory handed on. -/
theorem mapM_cons_apply (f : ClassFacts → StateT GuardMemory Option Bool) (c : ClassFacts)
    (cs : List ClassFacts) (m : GuardMemory) :
    (c :: cs).mapM f m =
      (f c m).bind fun (b, m₁) => (cs.mapM f m₁).map fun (bs, m₂) => (b :: bs, m₂) := by
  rw [List.mapM_cons]
  simp only [Option.map_eq_bind]
  rfl

/-- A name that some class has stands in the index. -/
theorem mem_index_of_mem_classesNamed {p : Project} {name : String} {c : ClassFacts}
    (hc : c ∈ p.classesNamed name) : ∃ e ∈ p.classIndex, e.1 = name := by
  unfold Project.classesNamed at hc
  split at hc
  · rename_i e paths he
    exact ⟨_, List.mem_of_find?_eq_some he, by simpa using List.find?_some he⟩
  · cases hc

/-- The entries of the class index that nothing is remembered about. -/
def undecided (r : GuardRules) (m : GuardMemory) : List (String × List Path) :=
  r.project.classIndex.filter fun e => (m.answer? e.1).isNone

theorem undecided_of_le {r : GuardRules} {m m' : GuardMemory} (h : m ≤ m') :
    r.undecided m' = (r.undecided m).filter fun e => (m'.answer? e.1).isNone := by
  unfold undecided
  rw [List.filter_filter]
  apply List.filter_congr
  intro e _
  cases hm : m.answer? e.1 with
  | none => simp
  | some answer =>
    have := h e.1 (by rw [hm]; rfl)
    simp [Option.isNone_eq_false_iff.2 this]

theorem length_undecided_le {r : GuardRules} {m m' : GuardMemory} (h : m ≤ m') :
    (r.undecided m').length ≤ (r.undecided m).length := by
  rw [undecided_of_le h]
  exact List.length_filter_le _ _

theorem answer?_lookInto (r : GuardRules) (name other : String) (m : GuardMemory) :
    (r.lookInto name m).answer? other = (m.remember name false).answer? other := by
  unfold lookInto
  simp only
  split <;> rfl

theorem le_lookInto (r : GuardRules) (name : String) (m : GuardMemory) : m ≤ r.lookInto name m := by
  intro other h
  rw [answer?_lookInto]
  exact GuardMemory.le_remember name false m other h

/-- Looking into a name that classes have leaves fewer names undecided. -/
theorem length_undecided_lookInto_lt {r : GuardRules} {name : String} {m : GuardMemory}
    {c : ClassFacts} (hm : m.answer? name = none) (hc : c ∈ r.project.classesNamed name) :
    (r.undecided (r.lookInto name m)).length < (r.undecided m).length := by
  obtain ⟨e, he, rfl⟩ := mem_index_of_mem_classesNamed hc
  rw [undecided_of_le (le_lookInto r e.1 m)]
  apply List.length_filter_lt_length_iff_exists.2
  refine ⟨e, List.mem_filter.2 ⟨he, by simp [hm]⟩, ?_⟩
  rw [answer?_lookInto, GuardMemory.answer?_remember_self]
  simp

/-- Questions about each of several classes are answered if those about one class are. -/
theorem mapM_returns {f : ClassFacts → StateT GuardMemory Option Bool} {m : GuardMemory} :
    ∀ (classes : List ClassFacts),
      (∀ c ∈ classes, ∀ m₁, m ≤ m₁ → ∃ b m₂, f c m₁ = some (b, m₂) ∧ m₁ ≤ m₂) →
      ∀ m₁, m ≤ m₁ → ∃ bs m₂, classes.mapM f m₁ = some (bs, m₂) ∧ m₁ ≤ m₂ := by
  intro classes
  induction classes with
  | nil => exact fun _ m₁ _ => ⟨[], m₁, rfl, GuardMemory.le_refl m₁⟩
  | cons c cs ih =>
    intro hf m₁ h₁
    obtain ⟨b, m₂, hb, h₂⟩ := hf c List.mem_cons_self m₁ h₁
    obtain ⟨bs, m₃, hbs, h₃⟩ := ih (fun d hd => hf d (List.mem_cons_of_mem _ hd)) m₂
      (GuardMemory.le_trans h₁ h₂)
    refine ⟨b :: bs, m₃, ?_, GuardMemory.le_trans h₂ h₃⟩
    simp only [mapM_cons_apply, hb, Option.bind_some, hbs, Option.map_some]

/-- A chain of bases has no more names than are undecided, and the last one may have no class. -/
theorem inheritsAt_returns (r : GuardRules) :
    ∀ (n : Nat) (name : String) (m : GuardMemory), (r.undecided m).length < n →
      ∃ answer m', r.inheritsAt n name m = some (answer, m') ∧ m ≤ m' := by
  intro n
  induction n with
  | zero => intro _ _ h; omega
  | succ n ih =>
    intro name m hn
    rw [inheritsAt_succ]
    cases hm : m.answer? name with
    | some answer => exact ⟨answer, m, rfl, GuardMemory.le_refl m⟩
    | none =>
      have each : ∀ c ∈ r.project.classesNamed name, ∀ m₁, r.lookInto name m ≤ m₁ →
          ∃ b m₂, r.extendsAuth (r.inheritsAt n) c m₁ = some (b, m₂) ∧ m₁ ≤ m₂ := by
        intro c hc m₁ h₁
        have hlt := length_undecided_lookInto_lt hm hc
        have hle := length_undecided_le (r := r) h₁
        unfold extendsAuth
        cases r.baseVerdict c with
        | inl answer => exact ⟨answer, m₁, rfl, GuardMemory.le_refl m₁⟩
        | inr base => exact ih base m₁ (by omega)
      obtain ⟨bs, m₁, hbs, h₁⟩ := mapM_returns _ each _ (GuardMemory.le_refl _)
      simp only [hbs, Option.map_some]
      refine ⟨_, _, rfl, ?_⟩
      exact GuardMemory.le_trans (le_lookInto r name m)
        (GuardMemory.le_trans h₁ (GuardMemory.le_remember _ _ _))

/-- The length of a chain of bases that no search exceeds. -/
def searchDepth (r : GuardRules) : Nat := r.project.classIndex.length + 1

theorem isSome_inheritsAt_searchDepth (r : GuardRules) (name : String) (m : GuardMemory) :
    (r.inheritsAt r.searchDepth name m).isSome := by
  have hlt : (r.undecided m).length < r.searchDepth :=
    Nat.lt_succ_of_le (List.length_filter_le _ _)
  obtain ⟨answer, m', h, -⟩ := r.inheritsAt_returns _ name m hlt
  rw [h]
  rfl

/-- Whether the classes with a name inherit from an authenticating base. -/
def inheritsAuth (r : GuardRules) (name : String) : StateM GuardMemory Bool := fun m =>
  (r.inheritsAt r.searchDepth name m).get (r.isSome_inheritsAt_searchDepth name m)

/-! ## Verdicts -/

/-- Classifies a guard. -/
def classify (r : GuardRules) (name : String) : StateM GuardMemory GuardVerdict := do
  if r.excludeGuards.contains name then return ⟨false, .high, .excluded⟩
  else if r.authGuards.contains name then return ⟨true, .high, .config⟩
  else if ← r.inheritsAuth name then return ⟨true, .high, .inheritance⟩
  else if r.fitsPattern name then return ⟨true, .medium, .pattern⟩
  else return ⟨false, .low, .unknown⟩

end GuardRules

end RouteInventory
