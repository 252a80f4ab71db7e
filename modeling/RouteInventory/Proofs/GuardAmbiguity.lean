import Mathlib
import RouteInventory.Proofs.GuardAnswers

/-!
# Ambiguous guards are reported once

A name with several classes is reported when the search for its bases first comes to it.  The search
goes through all classes of a name, also after one of them has settled the answer, and it does not
come back to a name that it remembers.  So whatever is asked in a session, and in whatever order,
every ambiguous name that the questions lead to is reported, and none is reported twice.

* `Log` — a memory tells which names were met, and the diagnostics are those of the ambiguous ones.
* `inheritsAt_visits` — a search adds to the log the names that it leads to.
* `exists_log` — after a session the log holds exactly what its questions lead to.
* `ambiguity_reported_once` — the diagnostics of a session.
-/

namespace RouteInventory.GuardRules

variable {r : GuardRules}

/-! ## Diagnostics of names -/

/-- What is reported of an ambiguous name. -/
def ambiguityOf (r : GuardRules) (name : String) : Diagnostic :=
  r.ambiguity name (r.project.classesNamed name)

/-- Of a text that ends in a number what stands before the number is known. -/
theorem eq_of_append_digits {xs ys ds es : List Char} {c : Char} (hc : c.isDigit = false)
    (hds : ∀ d ∈ ds, d.isDigit = true) (hes : ∀ d ∈ es, d.isDigit = true)
    (h : xs ++ c :: ds = ys ++ c :: es) : xs = ys := by
  have hlast : ∀ zs fs : List Char, (∀ d ∈ fs, d.isDigit = true) →
      (zs ++ c :: fs).reverse.takeWhile Char.isDigit = fs.reverse := by
    intro zs fs hfs
    have hall : ∀ d ∈ fs.reverse, d.isDigit = true := fun d hd => hfs d (List.mem_reverse.1 hd)
    simp [List.takeWhile_append_of_pos hall, hc]
  have hdigits : ds.reverse = es.reverse := by
    rw [← hlast xs ds hds, h, hlast ys es hes]
  rw [List.reverse_inj.1 hdigits] at h
  exact List.append_cancel_right h

/-- No two names are reported alike. -/
theorem ambiguityOf_injective (r : GuardRules) : Function.Injective r.ambiguityOf := by
  intro name name' h
  let digits (name : String) : List Char := Nat.toDigits 10 (r.project.classesNamed name).length
  have hmessage (name : String) : (r.ambiguityOf name).message.toList =
      "class '".toList ++ ((name.toList ++ "' is declared".toList) ++ ' ' :: digits name) ++
        " times".toList := by
    simp [ambiguityOf, ambiguity, digits]
    rfl
  have hdigits (name : String) : ∀ d ∈ digits name, d.isDigit = true := fun d hd =>
    Nat.isDigit_of_mem_toDigits (by decide) (by decide) hd
  have htexts := congrArg (fun d : Diagnostic => d.message.toList) h
  simp only [hmessage] at htexts
  have hnumbered := List.append_cancel_left (List.append_cancel_right htexts)
  have hbefore := eq_of_append_digits (by decide) (hdigits name) (hdigits name') hnumbered
  exact String.toList_inj.1 (List.append_cancel_right hbefore)

/-! ## Names that a search leads to -/

/-- A class of the first name extends the second, which is no authenticating base. -/
def Extends (r : GuardRules) (name base : String) : Prop :=
  ∃ c ∈ r.project.classesNamed name, c.base = some (.name base) ∧ base ∉ r.authBases

theorem baseVerdict_eq_inr_iff {c : ClassFacts} {base : String} :
    r.baseVerdict c = .inr base ↔ c.base = some (.name base) ∧ base ∉ r.authBases := by
  refine ⟨base_of_open, ?_⟩
  rintro ⟨hbase, hout⟩
  unfold baseVerdict
  rw [hbase]
  simp [hout]

/-- The names that a memory has met, in order: it remembers just these, and what was reported so
far are the ambiguous ones among them.  Diagnostics that were handed over come first. -/
structure Log (r : GuardRules) (taken : List Diagnostic) (names : List String) (m : GuardMemory) :
    Prop where
  known : ∀ name, (m.answer? name).isSome ↔ name ∈ names
  nodup : names.Nodup
  reported : taken ++ m.diagnostics =
    (names.filter fun name => 1 < (r.project.classesNamed name).length).map r.ambiguityOf

/-- What the names extend was met too, except for names that are being looked at. -/
def Closed (r : GuardRules) (pending names : List String) : Prop :=
  ∀ name ∈ names, name ∉ pending → ∀ base, r.Extends name base → base ∈ names

variable {taken : List Diagnostic} {names pending : List String} {m : GuardMemory}

theorem Log.lookInto (h : r.Log taken names m) {name : String} (hnew : name ∉ names) :
    r.Log taken (names ++ [name]) (r.lookInto name m) where
  known other := by
    rw [answer?_lookInto, List.mem_append, List.mem_singleton, ← h.known]
    by_cases heq : name = other
    · subst heq
      simp [GuardMemory.answer?_remember_self]
    · rw [GuardMemory.answer?_remember_of_ne _ _ heq]
      simp [Ne.symm heq]
  nodup := by
    rw [← List.concat_eq_append, List.nodup_concat]
    exact ⟨hnew, h.nodup⟩
  reported := by
    rw [List.filter_append, List.map_append, ← h.reported]
    unfold GuardRules.lookInto
    by_cases hmany : 1 < (r.project.classesNamed name).length
    · simp [hmany, GuardMemory.report, GuardMemory.remember, ambiguityOf]
    · simp [hmany, GuardMemory.remember]

theorem Log.remember (h : r.Log taken names m) {name : String} (hknown : name ∈ names)
    (answer : Bool) : r.Log taken names (m.remember name answer) where
  known other := by
    by_cases heq : name = other
    · subst heq
      simp [GuardMemory.answer?_remember_self, hknown]
    · rw [GuardMemory.answer?_remember_of_ne _ _ heq, h.known]
  nodup := h.nodup
  reported := h.reported

/-! ## Names that are added -/

/-- The new names are what the roots lead to, as far as it was not met before. -/
structure Adds (r : GuardRules) (pending names : List String) (roots : String → Prop)
    (new : List String) : Prop where
  closed : r.Closed pending (names ++ new)
  found : ∀ root, roots root → root ∈ names ++ new
  reached : ∀ name ∈ new, ∃ root, roots root ∧ Relation.ReflTransGen r.Extends root name

namespace Adds

variable {new new' : List String} {roots roots' : String → Prop}

theorem nothing (hclosed : r.Closed pending names) (hroots : ∀ root, roots root → root ∈ names) :
    r.Adds pending names roots [] where
  closed := by rwa [List.append_nil]
  found := by rwa [List.append_nil]
  reached _ hname := absurd hname List.not_mem_nil

theorem append (h : r.Adds pending names roots new)
    (h' : r.Adds pending (names ++ new) roots' new') :
    r.Adds pending names (fun root => roots root ∨ roots' root) (new ++ new') where
  closed := by
    rw [← List.append_assoc]
    exact h'.closed
  found root hroot := by
    rw [← List.append_assoc]
    rcases hroot with hroot | hroot
    · exact List.mem_append_left _ (h.found root hroot)
    · exact h'.found root hroot
  reached name hname := by
    rcases List.mem_append.1 hname with hname | hname
    · obtain ⟨root, hroot, hreach⟩ := h.reached name hname
      exact ⟨root, .inl hroot, hreach⟩
    · obtain ⟨root, hroot, hreach⟩ := h'.reached name hname
      exact ⟨root, .inr hroot, hreach⟩

theorem congr (h : r.Adds pending names roots new) (hiff : ∀ root, roots root ↔ roots' root) :
    r.Adds pending names roots' new := by
  have hsame : roots = roots' := funext fun root => propext (hiff root)
  exact hsame ▸ h

end Adds

/-! ## One search -/

/-- A question that comes to the roots and to what they lead to, and to no other new names. -/
def Visits (r : GuardRules) {α : Type} (pending : List String) (ask : StateT GuardMemory Option α)
    (roots : String → Prop) : Prop :=
  ∀ taken names m answer m', r.Log taken names m → r.Closed pending names →
    ask m = some (answer, m') →
      ∃ new, r.Log taken (names ++ new) m' ∧ r.Adds pending names roots new

theorem visits_mapM {f : ClassFacts → StateT GuardMemory Option Bool}
    {roots : ClassFacts → String → Prop} :
    ∀ classes : List ClassFacts, (∀ c ∈ classes, r.Visits pending (f c) (roots c)) →
      r.Visits pending (classes.mapM f) fun root => ∃ c ∈ classes, roots c root := by
  intro classes
  induction classes with
  | nil =>
    intro _ taken names m answers m' hlog hclosed h
    cases h
    refine ⟨[], by rwa [List.append_nil], .nothing hclosed ?_⟩
    rintro root ⟨c, hc, -⟩
    cases hc
  | cons c cs ih =>
    intro hf taken names m answers m' hlog hclosed h
    rw [mapM_cons_apply] at h
    obtain ⟨⟨b, m₁⟩, hb, h⟩ := Option.bind_eq_some_iff.1 h
    obtain ⟨⟨bs, m₂⟩, hbs, h⟩ := Option.map_eq_some_iff.1 h
    obtain ⟨rfl, rfl⟩ := Prod.mk.inj h
    obtain ⟨new, hlog₁, hadds₁⟩ := hf c List.mem_cons_self taken names m b m₁ hlog hclosed hb
    obtain ⟨new', hlog₂, hadds₂⟩ := ih (fun d hd => hf d (List.mem_cons_of_mem _ hd)) taken _ m₁ bs
      m₂ hlog₁ hadds₁.closed hbs
    rw [List.append_assoc] at hlog₂
    exact ⟨new ++ new', hlog₂, (hadds₁.append hadds₂).congr fun root => by simp⟩

theorem extendsAuth_visits {ask : String → StateT GuardMemory Option Bool} {c : ClassFacts}
    (h : ∀ base, r.baseVerdict c = .inr base → r.Visits pending (ask base) (· = base)) :
    r.Visits pending (r.extendsAuth ask c) fun root => r.baseVerdict c = .inr root := by
  intro taken names m answer m' hlog hclosed hask
  unfold extendsAuth at hask
  cases hv : r.baseVerdict c with
  | inl settled =>
    rw [hv] at hask
    cases hask
    refine ⟨[], by rwa [List.append_nil], .nothing hclosed ?_⟩
    intro root hroot
    cases hroot
  | inr base =>
    rw [hv] at hask
    obtain ⟨new, hlog', hadds⟩ := h base hv taken names m answer m' hlog hclosed hask
    exact ⟨new, hlog', hadds.congr fun root => by simp [eq_comm]⟩

/-- **A search** comes to its name and to all that the name leads to.  What a pending name extends
need not have been met yet. -/
theorem inheritsAt_visits (r : GuardRules) :
    ∀ (n : Nat) (name : String) (pending : List String),
      r.Visits pending (r.inheritsAt n name) (· = name) := by
  intro n
  induction n with
  | zero =>
    intro name pending taken names m answer m' _ _ h
    cases h
  | succ n ih =>
    intro name pending taken names m answer m' hlog hclosed h
    rw [inheritsAt_succ] at h
    cases ha : m.answer? name with
    | some b =>
      rw [ha] at h
      cases h
      have hknown : name ∈ names := (hlog.known name).1 (by rw [ha]; rfl)
      refine ⟨[], by rwa [List.append_nil], .nothing hclosed ?_⟩
      rintro root rfl
      exact hknown
    | none =>
      rw [ha] at h
      obtain ⟨⟨answers, m₁⟩, hmap, h⟩ := Option.map_eq_some_iff.1 h
      cases h
      have hnew : name ∉ names := by
        rw [← hlog.known, ha]
        exact Bool.false_ne_true
      -- The name itself is pending now: its bases are met one after the other.
      have hpending : r.Closed (name :: pending) (names ++ [name]) := by
        intro other hother hout base hbase
        rw [List.mem_cons, not_or] at hout
        rcases List.mem_append.1 hother with hother | hother
        · exact List.mem_append_left _ (hclosed other hother hout.2 base hbase)
        · exact absurd (List.mem_singleton.1 hother) hout.1
      obtain ⟨new, hlog₁, hadds⟩ := visits_mapM (r.project.classesNamed name)
        (fun c _ => extendsAuth_visits fun base _ => ih base (name :: pending)) taken _ _ answers m₁
        (hlog.lookInto hnew) hpending hmap
      rw [List.append_assoc, List.singleton_append] at hlog₁
      have hmem : name ∈ names ++ name :: new := by simp
      refine ⟨name :: new, hlog₁.remember hmem _, ?_, ?_, ?_⟩
      · intro other hother hout base hbase
        rw [List.append_cons] at hother ⊢
        by_cases heq : other = name
        · subst heq
          obtain ⟨c, hc, hext⟩ := hbase
          exact hadds.found base ⟨c, hc, baseVerdict_eq_inr_iff.2 hext⟩
        · refine hadds.closed other hother ?_ base hbase
          rw [List.mem_cons, not_or]
          exact ⟨heq, hout⟩
      · rintro root rfl
        exact hmem
      · intro other hother
        refine ⟨name, rfl, ?_⟩
        rcases List.mem_cons.1 hother with rfl | hother
        · exact .refl
        · obtain ⟨base, ⟨c, hc, hv⟩, hreach⟩ := hadds.reached other hother
          exact .head ⟨c, hc, baseVerdict_eq_inr_iff.1 hv⟩ hreach

theorem inheritsAuth_visits (hlog : r.Log taken names m) (hclosed : r.Closed [] names)
    (name : String) :
    ∃ new, r.Log taken (names ++ new) (r.inheritsAuth name m).2 ∧
      r.Adds [] names (· = name) new := by
  have hsearch : r.inheritsAt r.searchDepth name m = some (r.inheritsAuth name m) := by
    unfold inheritsAuth
    exact (Option.some_get _).symm
  exact r.inheritsAt_visits r.searchDepth name [] taken names m _ _ hlog hclosed hsearch

/-! ## Sessions -/

/-- A request asks whether a name inherits.  Guards that the configuration settles are not looked
into. -/
inductive Asks (r : GuardRules) : Request → String → Prop
  | inherits (name : String) : Asks r (.inherits name) name
  | classify {name : String} (kept : name ∉ r.excludeGuards) (unsettled : name ∉ r.authGuards) :
      Asks r (.classify name) name

/-- The questions of a session lead to a name. -/
def LeadsTo (r : GuardRules) (requests : List Request) (name : String) : Prop :=
  ∃ q ∈ requests, ∃ root, r.Asks q root ∧ Relation.ReflTransGen r.Extends root name

/-- The diagnostics that a reply hands over. -/
def Reply.handedOver : Reply → List Diagnostic
  | .diagnostics ds => ds
  | _ => []

/-- What an analysis remembers after some requests. -/
def memoryAfter (r : GuardRules) (m : GuardMemory) (requests : List Request) : GuardMemory :=
  requests.foldl (fun m q => (r.reply q m).2) m

/-- All diagnostics of a session: those that were handed over, and those that are left. -/
def accumulated (r : GuardRules) (requests : List Request) : List Diagnostic :=
  (r.session requests).flatMap Reply.handedOver ++ (r.memoryAfter .nothing requests).diagnostics

theorem classify_visits (hlog : r.Log taken names m) (hclosed : r.Closed [] names)
    (name : String) :
    ∃ new, r.Log taken (names ++ new) (r.classify name m).2 ∧
      r.Adds [] names (r.Asks (.classify name)) new := by
  rw [classify_apply]
  have hsettled (h : name ∈ r.excludeGuards ∨ name ∈ r.authGuards) :
      ∃ new, r.Log taken (names ++ new) m ∧ r.Adds [] names (r.Asks (.classify name)) new := by
    refine ⟨[], by rwa [List.append_nil], .nothing hclosed ?_⟩
    rintro root ⟨⟩
    rcases h with h | h <;> contradiction
  by_cases hex : name ∈ r.excludeGuards
  · rw [if_pos hex]
    exact hsettled (.inl hex)
  · by_cases hauth : name ∈ r.authGuards
    · rw [if_neg hex, if_pos hauth]
      exact hsettled (.inr hauth)
    · rw [if_neg hex, if_neg hauth]
      obtain ⟨new, hlog', hadds⟩ := inheritsAuth_visits hlog hclosed name
      refine ⟨new, hlog', hadds.congr fun root => ?_⟩
      constructor
      · rintro rfl
        exact .classify hex hauth
      · rintro ⟨⟩
        rfl

/-- One request that lets nothing be forgotten adds to the log what it leads to. -/
theorem reply_visits {q : Request} (hq : q ≠ .forget) (hlog : r.Log taken names m)
    (hclosed : r.Closed [] names) :
    ∃ new, r.Log (taken ++ (r.reply q m).1.handedOver) (names ++ new) (r.reply q m).2 ∧
      r.Adds [] names (r.Asks q) new := by
  cases q with
  | classify name =>
    obtain ⟨new, hlog', hadds⟩ := classify_visits hlog hclosed name
    refine ⟨new, ?_, hadds⟩
    change r.Log (taken ++ []) _ _
    rwa [List.append_nil]
  | inherits name =>
    obtain ⟨new, hlog', hadds⟩ := inheritsAuth_visits hlog hclosed name
    refine ⟨new, ?_, hadds.congr fun root => ?_⟩
    · change r.Log (taken ++ []) _ _
      rwa [List.append_nil]
    · constructor
      · rintro rfl
        exact .inherits root
      · rintro ⟨⟩
        rfl
  | forget => exact absurd rfl hq
  | takeDiagnostics =>
    refine ⟨[], ?_, .nothing hclosed fun root hroot => by cases hroot⟩
    rw [List.append_nil]
    refine ⟨hlog.known, hlog.nodup, ?_⟩
    change taken ++ m.diagnostics ++ [] = _
    rw [List.append_nil, hlog.reported]

/-- A session adds to the log what its questions lead to. -/
theorem session_visits (requests : List Request) (h : Request.forget ∉ requests)
    (hlog : r.Log taken names m) (hclosed : r.Closed [] names) :
    ∃ new, r.Log (taken ++ (r.repliesFrom m requests).flatMap Reply.handedOver) (names ++ new)
        (r.memoryAfter m requests) ∧
      r.Adds [] names (fun root => ∃ q ∈ requests, r.Asks q root) new := by
  induction requests generalizing taken names m with
  | nil =>
    refine ⟨[], ?_, .nothing hclosed fun root hroot => ?_⟩
    · simpa [repliesFrom, memoryAfter] using hlog
    · obtain ⟨q, hq, -⟩ := hroot
      cases hq
  | cons q qs ih =>
    rw [List.mem_cons, not_or] at h
    obtain ⟨new, hlog₁, hadds₁⟩ := reply_visits (Ne.symm h.1) hlog hclosed
    obtain ⟨new', hlog₂, hadds₂⟩ := ih h.2 hlog₁ hadds₁.closed
    rw [List.append_assoc, List.append_assoc] at hlog₂
    exact ⟨new ++ new', hlog₂, (hadds₁.append hadds₂).congr fun root => by simp⟩

theorem exists_log (r : GuardRules) {requests : List Request} (h : Request.forget ∉ requests) :
    ∃ names : List String, names.Nodup ∧ (∀ name, name ∈ names ↔ r.LeadsTo requests name) ∧
      r.accumulated requests =
        (names.filter fun name => 1 < (r.project.classesNamed name).length).map r.ambiguityOf := by
  have hlog : r.Log [] [] .nothing :=
    ⟨fun name => by simp [GuardMemory.nothing, GuardMemory.answer?], .nil, rfl⟩
  have hclosed : r.Closed [] [] := fun name hname => absurd hname List.not_mem_nil
  obtain ⟨names, hlog', hadds⟩ := session_visits requests h hlog hclosed
  rw [List.nil_append] at hlog'
  refine ⟨names, hlog'.nodup, fun name => ⟨fun hname => ?_, ?_⟩, hlog'.reported⟩
  · obtain ⟨root, ⟨q, hq, hasks⟩, hreach⟩ := hadds.reached name hname
    exact ⟨q, hq, root, hasks, hreach⟩
  · rintro ⟨q, hq, root, hasks, hreach⟩
    induction hreach with
    | refl => exact hadds.found root ⟨q, hq, hasks⟩
    | tail _ hext ih => exact hadds.closed _ ih List.not_mem_nil _ hext

/-- **Ambiguity is reported exactly once.**  In a session that lets nothing be forgotten, the
diagnostics are those of the names that are declared more than once and that the questions lead to,
one for each name and none besides.  Asking the same in another order changes at most the order of
the diagnostics. -/
theorem ambiguity_reported_once (r : GuardRules) (requests : List Request)
    (h : Request.forget ∉ requests) :
    (∃ names : List String, names.Nodup ∧ r.accumulated requests = names.map r.ambiguityOf ∧
      ∀ name, name ∈ names ↔
        2 ≤ (r.project.classesNamed name).length ∧ r.LeadsTo requests name) ∧
    Function.Injective r.ambiguityOf ∧
    ∀ requests', requests.Perm requests' →
      (r.accumulated requests').Perm (r.accumulated requests) := by
  obtain ⟨names, hnodup, hmem, hreported⟩ := r.exists_log h
  refine ⟨⟨_, hnodup.filter _, hreported, fun name => ?_⟩, r.ambiguityOf_injective, ?_⟩
  · rw [List.mem_filter, hmem, and_comm, decide_eq_true_iff]
    rfl
  · intro requests' hperm
    obtain ⟨names', hnodup', hmem', hreported'⟩ :=
      r.exists_log (fun hforget => h (hperm.mem_iff.2 hforget))
    have hsame : names'.Perm names := by
      rw [List.perm_ext_iff_of_nodup hnodup' hnodup]
      intro name
      simp only [hmem, hmem', LeadsTo, hperm.mem_iff]
    rw [hreported, hreported']
    exact (hsame.filter _).map _

end RouteInventory.GuardRules

namespace RouteInventory.SharedGuard

open GuardRules (Request)

def path : Path := ⟨true, ["g.ts"]⟩

/-- A guard `G` that extends `S`, which is declared twice. -/
def file : SourceFile :=
  ⟨path, "g.ts", default,
    { imports := []
      classes := [⟨"G", path, default, some (.name "S"), []⟩, ⟨"S", path, default, none, []⟩,
        ⟨"S", path, default, none, []⟩]
      declarations := [] }⟩

def rules : GuardRules where
  project := ⟨⟨true, []⟩, [file], [("G", [path]), ("S", [path])], []⟩
  authGuards := []
  excludeGuards := []
  authBases := []
  fitsPattern _ := false

def requests : List Request := [.classify "G", .takeDiagnostics, .inherits "S"]

/-- The name that is declared twice is met through `G` and is asked for again, and is reported
once. -/
theorem reported_through_extension : Request.forget ∉ requests ∧
    rules.accumulated requests = [rules.ambiguityOf "S"] := by
  have hforget : Request.forget ∉ requests := by simp [requests]
  obtain ⟨⟨names, hnodup, hreported, hmem⟩, -⟩ :=
    rules.ambiguity_reported_once requests hforget
  refine ⟨hforget, ?_⟩
  have hleads : rules.LeadsTo requests "S" :=
    ⟨.inherits "S", by simp [requests], "S", .inherits "S", .refl⟩
  have honly : ∀ name, 2 ≤ (rules.project.classesNamed name).length → name = "S" := by
    intro name hmany
    by_contra hS
    by_cases hG : name = "G"
    · subst hG
      revert hmany
      decide
    · have hnone : rules.project.classesNamed name = [] := by
        simp [Project.classesNamed, rules, Ne.symm hG, Ne.symm hS]
      simp [hnone] at hmany
  have hnames : names.Perm ["S"] := by
    rw [List.perm_ext_iff_of_nodup hnodup (List.nodup_singleton "S")]
    intro name
    rw [hmem, List.mem_singleton]
    constructor
    · exact fun hname => honly name hname.1
    · rintro rfl
      exact ⟨by decide, hleads⟩
  rw [hreported, List.perm_singleton.1 hnames, List.map_singleton]

end RouteInventory.SharedGuard
