import Mathlib.Data.List.Basic
import RouteInventory.Nest.GuardPatterns
import RouteInventory.Proofs.GuardAnswers

/-!
# What a detector says about an endpoint

One detector serves all endpoints of a run, and what it remembers of one endpoint it uses for the
next.  Still its answer is a function of the configuration, the project and the endpoint alone.

* `detect_sound` — from a sound memory, the answer is `expected` and the memory stays sound.
* `sound_memoryAfter` — every history of questions leaves a sound memory.
* `requirement_eq_required_iff`, `confidence_eq_high_iff` and those beside them — what the summary of
  a list of guards says.
* `detect_after` — the law of detection: public marks win, otherwise the guards of the three levels
  decide, and further guards take a requirement away only where applying them is a public mark.
-/

namespace RouteInventory

/-- What an endpoint says about its authentication: the guards of the application, and the
decorators of its controller and its method. -/
structure Protection where
  everywhere : List String
  ofClass : List Decorator
  ofMethod : List Decorator

namespace Protection

/-- The decorators of both levels. -/
def marks (e : Protection) : List Decorator := e.ofClass ++ e.ofMethod

/-- The second has all guards of the first, level by level, and its new decorators only apply
guards. -/
structure AddsGuards (e e' : Protection) : Prop where
  everywhere : e.everywhere ⊆ e'.everywhere
  ofClass : Decorator.guardNames e.ofClass ⊆ Decorator.guardNames e'.ofClass
  ofMethod : Decorator.guardNames e.ofMethod ⊆ Decorator.guardNames e'.ofMethod
  marks : ∀ m ∈ e'.marks, m ∈ e.marks ∨ m.name = "UseGuards"

end Protection

namespace GuardConfig

/-- A decorator that marks what it stands on as public. -/
def MarksPublic (config : GuardConfig) (m : Decorator) : Prop :=
  m.name ∈ config.publicDecorators ∨ m.metadataKey ∈ config.publicMetadataKeys

/-- An endpoint that is marked as public, on its controller or its method. -/
def Exposes (config : GuardConfig) (e : Protection) : Prop :=
  ∃ m ∈ e.marks, config.MarksPublic m

/-- Guards make an endpoint public only if applying guards is itself a public mark. -/
theorem Exposes.of_addsGuards {config : GuardConfig} {e e' : Protection} (h : e.AddsGuards e')
    (hnot : ¬ config.Exposes e) (hpub : config.Exposes e') :
    ∃ m ∈ e'.marks, m.name = "UseGuards" ∧ config.MarksPublic m := by
  obtain ⟨m, hm, hmark⟩ := hpub
  rcases h.marks m hm with hold | hname
  · exact absurd ⟨m, hold, hmark⟩ hnot
  · exact ⟨m, hm, hname, hmark⟩

end GuardConfig

/-! ## Guards with the verdicts of the rules -/

namespace GuardRules

variable {r : GuardRules}

/-- A guard at a level, with the verdict that the rules give for its name. -/
noncomputable def judged (r : GuardRules) (level : GuardLevel) (name : String) : DetectedGuard :=
  ⟨name, level, (r.verdictOn name).isAuth, (r.verdictOn name).reason⟩

/-- The guards of an endpoint: those of the application, of the controller and of the method. -/
noncomputable def guardsOf (r : GuardRules) (e : Protection) : List DetectedGuard :=
  e.everywhere.map (r.judged .global) ++
    (Decorator.guardNames e.ofClass).map (r.judged .controller) ++
      (Decorator.guardNames e.ofMethod).map (r.judged .method)

theorem guardsOf_subset {e e' : Protection} (h : e.AddsGuards e') :
    r.guardsOf e ⊆ r.guardsOf e' := by
  have heverywhere := List.map_subset (r.judged .global) h.everywhere
  have hclass := List.map_subset (r.judged .controller) h.ofClass
  have hmethod := List.map_subset (r.judged .method) h.ofMethod
  intro g hg
  simp only [guardsOf, List.mem_append] at hg ⊢
  rcases hg with (hg | hg) | hg
  · exact .inl (.inl (heverywhere hg))
  · exact .inl (.inr (hclass hg))
  · exact .inr (hmethod hg)

end GuardRules

namespace GuardDetector

open GuardRules

/-! ## Summaries of guards -/

section Summary

variable (guards : List DetectedGuard)

theorem requirement_eq_required_iff :
    requirement guards = .required ↔ ∃ g ∈ guards, g.isAuth = true := by
  unfold requirement
  split
  · simp_all
  · split <;> simp_all

theorem requirement_eq_unknown_iff : requirement guards = .unknown ↔ guards = [] := by
  cases guards with
  | nil => simp [requirement]
  | cons g gs =>
    unfold requirement
    split <;> simp

theorem requirement_eq_notRequired_iff :
    requirement guards = .notRequired ↔ guards ≠ [] ∧ ∀ g ∈ guards, g.isAuth = false := by
  have hrequired := requirement_eq_required_iff guards
  have hunknown := requirement_eq_unknown_iff guards
  cases h : requirement guards with
  | required =>
    obtain ⟨g, hg, hauth⟩ := hrequired.1 h
    simp only [reduceCtorEq, false_iff, not_and]
    intro _ hnone
    rw [hnone g hg] at hauth
    cases hauth
  | notRequired =>
    rw [h] at hrequired hunknown
    simp_all
  | unknown => simp [hunknown.1 h]

theorem isFirm_iff (reason : GuardReason) :
    isFirm reason = true ↔ reason = .config ∨ reason = .inheritance ∨ reason = .excluded := by
  cases reason <;> decide

theorem isFirm_eq_false_iff (reason : GuardReason) :
    isFirm reason = false ↔ reason = .unknown ∨ reason = .pattern := by
  cases reason <;> decide

theorem confidence_eq_high_iff :
    confidence guards = .high ↔ guards ≠ [] ∧
      ∀ g ∈ guards, g.reason = .config ∨ g.reason = .inheritance ∨ g.reason = .excluded := by
  simp only [← isFirm_iff]
  cases guards with
  | nil => simp [confidence]
  | cons g gs =>
    unfold confidence
    split
    · simp_all
    · split
      · simp_all
      · split <;> simp_all

theorem confidence_eq_low_iff :
    confidence guards = .low ↔ guards = [] ∨ ∃ g ∈ guards, g.reason = .unknown := by
  unfold confidence
  split
  · simp_all
  · rename_i hne
    have hcons : guards ≠ [] := by simpa using hne
    split
    · -- A reason that needs no guess is not the unknown one.
      rename_i hfirm
      have hknown : ¬ ∃ g ∈ guards, g.reason = .unknown := by
        rintro ⟨g, hg, hunknown⟩
        have := List.all_eq_true.1 hfirm g hg
        rw [hunknown] at this
        cases this
      simp only [hcons, hknown, or_self, reduceCtorEq]
    · split <;> simp_all

theorem confidence_eq_medium_iff :
    confidence guards = .medium ↔
      (∃ g ∈ guards, g.reason = .pattern) ∧ ∀ g ∈ guards, g.reason ≠ .unknown := by
  have hhigh := confidence_eq_high_iff guards
  have hlow := confidence_eq_low_iff guards
  simp only [← isFirm_iff] at hhigh
  constructor
  · intro hmedium
    rw [hmedium] at hhigh hlow
    simp only [reduceCtorEq, false_iff, not_and, not_or, not_exists] at hhigh hlow
    have hloose := hhigh hlow.1
    push Not at hloose
    obtain ⟨g, hg, hloose⟩ := hloose
    have hguess := (isFirm_eq_false_iff g.reason).1 (Bool.eq_false_iff.2 hloose)
    exact ⟨⟨g, hg, hguess.resolve_left (hlow.2 g hg)⟩, hlow.2⟩
  · rintro ⟨⟨g, hg, hpattern⟩, hknown⟩
    cases hc : confidence guards with
    | medium => rfl
    | high =>
      have := (hhigh.1 hc).2 g hg
      rw [hpattern] at this
      cases this
    | low =>
      rcases hlow.1 hc with rfl | ⟨g', hg', hunknown⟩
      · cases hg
      · exact absurd hunknown (hknown g' hg')

end Summary

/-! ## One detection -/

variable {d : GuardDetector}

/-- The guards of one level get the verdicts of the rules, and the memory stays sound. -/
theorem guardsAt_sound (level : GuardLevel) :
    ∀ (names : List String) (m : GuardMemory), d.rules.Sound [] m →
      d.rules.Sound [] (d.guardsAt level names m).2 ∧
        (d.guardsAt level names m).1 = names.map (d.rules.judged level) := by
  intro names
  induction names with
  | nil => exact fun m hm => ⟨hm, rfl⟩
  | cons name names ih =>
    intro m hm
    obtain ⟨hm₁, hverdict⟩ := classify_sound hm name
    obtain ⟨hm₂, hrest⟩ := ih (d.rules.classify name m).2 hm₁
    have hstep : d.guardsAt level (name :: names) m =
        (⟨name, level, (d.rules.classify name m).1.isAuth, (d.rules.classify name m).1.reason⟩ ::
          (d.guardsAt level names (d.rules.classify name m).2).1,
        (d.guardsAt level names (d.rules.classify name m).2).2) := by
      unfold guardsAt
      rw [List.mapM_cons]
      rfl
    rw [hstep]
    refine ⟨hm₂, ?_⟩
    rw [hrest, hverdict]
    rfl

/-- Whether the detector takes an endpoint for public. -/
def exposes (d : GuardDetector) (e : Protection) : Bool :=
  d.isPublic e.ofMethod || d.isPublic e.ofClass

/-- The answer about an endpoint, without a memory. -/
noncomputable def expected (d : GuardDetector) (e : Protection) : GuardAuth :=
  if d.exposes e then ⟨.notRequired, .high, []⟩
  else ⟨requirement (d.rules.guardsOf e), confidence (d.rules.guardsOf e), d.rules.guardsOf e⟩

theorem expected_of_exposes {e : Protection} (h : d.exposes e = true) :
    d.expected e = ⟨.notRequired, .high, []⟩ := if_pos h

theorem expected_of_not_exposes {e : Protection} (h : ¬ d.exposes e = true) :
    d.expected e = ⟨requirement (d.rules.guardsOf e), confidence (d.rules.guardsOf e),
      d.rules.guardsOf e⟩ := if_neg h

/-- **One detection is right and keeps the memory sound.** -/
theorem detect_sound {m : GuardMemory} (hm : d.rules.Sound [] m) (e : Protection) :
    d.rules.Sound [] (d.detect e.everywhere e.ofClass e.ofMethod m).2 ∧
      (d.detect e.everywhere e.ofClass e.ofMethod m).1 = d.expected e := by
  by_cases hpub : d.exposes e = true
  · have hdetect : d.detect e.everywhere e.ofClass e.ofMethod m = (⟨.notRequired, .high, []⟩, m) := by
      rw [detect, if_pos (show (d.isPublic e.ofMethod || d.isPublic e.ofClass) = true from hpub)]
      rfl
    rw [hdetect, expected_of_exposes hpub]
    exact ⟨hm, rfl⟩
  · obtain ⟨hm₁, heverywhere⟩ := guardsAt_sound .global e.everywhere m hm
    obtain ⟨hm₂, hclass⟩ := guardsAt_sound .controller (Decorator.guardNames e.ofClass) _ hm₁
    obtain ⟨hm₃, hmethod⟩ := guardsAt_sound .method (Decorator.guardNames e.ofMethod) _ hm₂
    rw [expected_of_not_exposes hpub, detect,
      if_neg (show ¬ (d.isPublic e.ofMethod || d.isPublic e.ofClass) = true from hpub)]
    refine ⟨hm₃, ?_⟩
    rw [guardsOf, ← heverywhere, ← hclass, ← hmethod]
    rfl

/-! ## Histories -/

/-- What can be asked of a detector. -/
inductive Inquiry where
  | detect (e : Protection)
  | takeDiagnostics

/-- The memory after one question. -/
def remembered (d : GuardDetector) (m : GuardMemory) : Inquiry → GuardMemory
  | .detect e => (d.detect e.everywhere e.ofClass e.ofMethod m).2
  | .takeDiagnostics => (GuardMemory.takeDiagnostics m).2

/-- The memory of a detector that was asked one question after the other. -/
def memoryAfter (d : GuardDetector) (history : List Inquiry) : GuardMemory :=
  history.foldl d.remembered .nothing

theorem sound_remembered {m : GuardMemory} (hm : d.rules.Sound [] m) (q : Inquiry) :
    d.rules.Sound [] (d.remembered m q) := by
  cases q with
  | detect e => exact (detect_sound hm e).1
  | takeDiagnostics => exact hm

theorem sound_memoryAfter (d : GuardDetector) (history : List Inquiry) :
    d.rules.Sound [] (d.memoryAfter history) := by
  unfold memoryAfter
  have hstart : d.rules.Sound [] .nothing := sound_nothing d.rules []
  generalize GuardMemory.nothing = m at hstart
  induction history generalizing m with
  | nil => exact hstart
  | cons q qs ih => exact ih _ (sound_remembered hstart q)

/-- The answer about an endpoint after a history of questions. -/
def answerAfter (d : GuardDetector) (history : List Inquiry) (e : Protection) : GuardAuth :=
  (d.detect e.everywhere e.ofClass e.ofMethod (d.memoryAfter history)).1

theorem answerAfter_eq (d : GuardDetector) (history : List Inquiry) (e : Protection) :
    d.answerAfter history e = d.expected e :=
  (detect_sound (sound_memoryAfter d history) e).2

/-- Further guards never take a requirement away, as long as the endpoint is not public. -/
theorem required_of_addsGuards {e e' : Protection} (h : e.AddsGuards e')
    (hreq : (d.expected e).required = .required) (hnot : ¬ d.exposes e' = true) :
    (d.expected e').required = .required := by
  by_cases hpub : d.exposes e = true
  · rw [expected_of_exposes hpub] at hreq
    cases hreq
  · rw [expected_of_not_exposes hpub] at hreq
    obtain ⟨g, hg, hauth⟩ := (requirement_eq_required_iff _).1 hreq
    rw [expected_of_not_exposes hnot]
    exact (requirement_eq_required_iff _).2 ⟨g, guardsOf_subset h hg, hauth⟩

/-- What the detector takes for public is what the configuration marks. -/
theorem exposes_iff {p : Project} {config : GuardConfig}
    (hd : GuardDetector.compile p config = .ok d) (e : Protection) :
    d.exposes e = true ↔ config.Exposes e := by
  unfold GuardDetector.compile at hd
  split at hd
  · cases hd
    simp only [exposes, isPublic, ofConfig, Bool.or_eq_true, List.any_eq_true,
      List.contains_iff_mem, GuardConfig.Exposes, GuardConfig.MarksPublic, Protection.marks,
      List.mem_append, or_and_right, exists_or]
    exact or_comm
  · cases hd

/-- **The law of detection**, for every detector of a configuration and whatever was asked of it
before: a public mark settles the endpoint; otherwise its guards are those of the three levels with
the verdicts that the rules give for their names alone, and these decide.  Further guards keep a
requirement; they can only make the endpoint public where `@UseGuards` itself is a public mark. -/
theorem detect_after {p : Project} {config : GuardConfig}
    (hd : GuardDetector.compile p config = .ok d) (history : List Inquiry) (e : Protection) :
    (config.Exposes e → d.answerAfter history e = ⟨.notRequired, .high, []⟩) ∧
    (¬ config.Exposes e →
      let a := d.answerAfter history e
      a.guards = d.rules.guardsOf e ∧
      (a.required = .required ↔ ∃ g ∈ a.guards, g.isAuth = true) ∧
      (a.required = .unknown ↔ a.guards = []) ∧
      (a.required = .notRequired ↔ a.guards ≠ [] ∧ ∀ g ∈ a.guards, g.isAuth = false) ∧
      (a.confidence = .high ↔ a.guards ≠ [] ∧
        ∀ g ∈ a.guards, g.reason = .config ∨ g.reason = .inheritance ∨ g.reason = .excluded) ∧
      (a.confidence = .low ↔ a.guards = [] ∨ ∃ g ∈ a.guards, g.reason = .unknown) ∧
      (a.confidence = .medium ↔
        (∃ g ∈ a.guards, g.reason = .pattern) ∧ ∀ g ∈ a.guards, g.reason ≠ .unknown)) ∧
    ∀ history' e', e.AddsGuards e' → (d.answerAfter history e).required = .required →
      (¬ config.Exposes e' → (d.answerAfter history' e').required = .required) ∧
      (config.Exposes e' → ∃ m ∈ e'.marks, m.name = "UseGuards" ∧ config.MarksPublic m) := by
  refine ⟨fun hpub => ?_, fun hnot => ?_, fun history' e' hadds hreq => ⟨fun hnot => ?_, ?_⟩⟩
  · rw [answerAfter_eq, expected_of_exposes ((exposes_iff hd e).2 hpub)]
  · rw [answerAfter_eq, expected_of_not_exposes (mt (exposes_iff hd e).1 hnot)]
    exact ⟨rfl, requirement_eq_required_iff _, requirement_eq_unknown_iff _,
      requirement_eq_notRequired_iff _, confidence_eq_high_iff _, confidence_eq_low_iff _,
      confidence_eq_medium_iff _⟩
  · rw [answerAfter_eq] at hreq ⊢
    exact required_of_addsGuards hadds hreq (mt (exposes_iff hd e').1 hnot)
  · intro hpub
    refine GuardConfig.Exposes.of_addsGuards hadds (fun hold => ?_) hpub
    rw [answerAfter_eq, expected_of_exposes ((exposes_iff hd e).2 hold)] at hreq
    cases hreq

end GuardDetector

namespace TokenGuarded

/-- Guards of tokens are known by their name; `@Open` is a public mark. -/
def config : GuardConfig where
  guardPatterns := [".*TokenGuard$"]
  authGuards := []
  excludeGuards := ["RateGuard"]
  publicDecorators := ["Open"]
  publicMetadataKeys := ["isPublic"]
  authBaseClasses := []

def project : Project := .empty ⟨true, ["app"]⟩

def patterns : List Regex := (readPatterns config.guardPatterns).toOption.getD []

def detector : GuardDetector := .ofConfig project config fun name => patterns.any (·.occursIn name)

theorem compile_eq : GuardDetector.compile project config = .ok detector := rfl

/-- The guard holds for the whole application. -/
def everywhere : Protection := ⟨["TokenGuard"], [], []⟩

/-- The same, with a guard on the method that authenticates nobody. -/
def limited : Protection := ⟨["TokenGuard"], [], [⟨"UseGuards", [.name "RateGuard"], 3⟩]⟩

theorem adds : everywhere.AddsGuards limited where
  everywhere := List.Subset.refl _
  ofClass := List.Subset.refl _
  ofMethod := List.nil_subset _
  marks := by
    intro m hm
    have hm : m = ⟨"UseGuards", [.name "RateGuard"], 3⟩ := by
      simpa [limited, Protection.marks] using hm
    exact .inr (by rw [hm])

theorem isAuth_token : (detector.rules.verdictOn "TokenGuard").isAuth = true := by
  have hexcluded : "TokenGuard" ∉ detector.rules.excludeGuards := by decide
  have hnamed : "TokenGuard" ∉ detector.rules.authGuards := by decide
  have hauth : ¬ detector.rules.Auth "TokenGuard" := fun h =>
    (GuardRules.auth_iff.1 h).1 rfl
  have hfits : detector.rules.fitsPattern "TokenGuard" = true := by decide +kernel
  unfold GuardRules.verdictOn
  rw [if_neg hexcluded, if_neg hnamed, if_neg hauth, if_pos hfits]

theorem not_exposes_limited : ¬ config.Exposes limited := by
  rintro ⟨m, hm, hmark⟩
  have hm : m = ⟨"UseGuards", [.name "RateGuard"], 3⟩ := by
    simpa [limited, Protection.marks] using hm
  subst hm
  revert hmark
  unfold GuardConfig.MarksPublic
  decide +kernel

/-- The requirement stays when a guard is added that authenticates nobody, whatever was asked
before. -/
theorem required_limited :
    GuardDetector.compile project config = .ok detector ∧
      (detector.answerAfter [.detect limited, .takeDiagnostics] everywhere).required = .required ∧
      (detector.answerAfter [.detect everywhere] limited).required = .required := by
  have hnot : ¬ config.Exposes everywhere := by
    rintro ⟨m, hm, -⟩
    cases hm
  obtain ⟨hguards, hrequired, -⟩ :=
    (GuardDetector.detect_after compile_eq [.detect limited, .takeDiagnostics] everywhere).2.1 hnot
  have hstart := hrequired.2 (by
    rw [hguards]
    exact ⟨detector.rules.judged .global "TokenGuard", List.mem_cons_self, isAuth_token⟩)
  refine ⟨compile_eq, hstart, ?_⟩
  exact ((GuardDetector.detect_after compile_eq _ everywhere).2.2 [.detect everywhere] limited adds
    hstart).1 not_exposes_limited

/-- The same rules, where applying guards is a public mark. -/
def opening : GuardConfig := { config with publicDecorators := ["UseGuards"] }

def opener : GuardDetector := .ofConfig project opening fun name => patterns.any (·.occursIn name)

/-- There the guard that is added makes the endpoint public, though it was not, and takes the
requirement away. -/
theorem opened_by_guard :
    GuardDetector.compile project opening = .ok opener ∧
      ¬ opening.Exposes everywhere ∧ everywhere.AddsGuards limited ∧
      (opener.answerAfter [] everywhere).required = .required ∧
      (opener.answerAfter [] limited).required = .notRequired := by
  refine ⟨rfl, ?_, adds, by decide +kernel, by decide +kernel⟩
  rintro ⟨m, hm, -⟩
  cases hm

end TokenGuarded

end RouteInventory
