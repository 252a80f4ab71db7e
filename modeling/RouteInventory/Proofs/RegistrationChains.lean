import Mathlib.Data.List.Basic
import Mathlib.Data.List.Pairwise
import Mathlib.Order.Basic
import RouteInventory.Extract.Groups
import RouteInventory.Fastify.Walk

/-!
# The walk over registrations enumerates chains

A chain of registrations is given by positions: the first among the registrations of the entry file,
each further one among those of the plugin before it.  `RouteReader.placeAfter?` follows a chain
without any state: it ends at a plugin unless a position is not taken, or an imported plugin is not
a file of the project or is a file that is already on the chain.

The walk threads one set of active files through all its calls, adding and removing them as it goes.
What it pushes are nevertheless the scopes at the ends of the chains, one for each chain, in the
order of their positions: a chain comes before its extensions, and earlier registrations come before
later ones.

* `followScope_explores` — the same for the registrations of any scope, by recursion on the walk.
* `walk_pushes_chains` — the walk from an entry file.
-/

namespace RouteInventory

/-! ## Chains -/

/-- Where a chain of registrations leads: a scope of a file, the prefixes that were spelled out on
the way, and the files on the chain, latest first. -/
structure Place where
  file : SourceFile
  scope : Cursor
  mounts : List String
  files : List Path

/-- The first prefix as it is, each further one joined to what stands before it. -/
def joinMounts : List String → Option String
  | [] => none
  | m :: ms => some (ms.foldl (fun outer mount => RoutePath.join [outer, mount]) m)

theorem joinMounts_append (mounts : List String) (mount : String) :
    joinMounts (mounts ++ [mount]) = some (RouteReader.mountUnder (joinMounts mounts) mount) := by
  cases mounts with
  | nil => rfl
  | cons m ms => simp [joinMounts, RouteReader.mountUnder]

namespace Place

/-- The entry file, on its own chain. -/
def ofEntry (file : SourceFile) : Place := ⟨file, file.root, [], [file.path]⟩

end Place

namespace RouteReader

/-- Where a registration made at a place leads. -/
def lead? (r : RouteReader) (pl : Place) (reg : Registration) : Option Place :=
  match reg.plugin with
  | .inline body => some ⟨pl.file, body, pl.mounts ++ [reg.mount], pl.files⟩
  | .imported _ _ (.file key) =>
    if key ∈ pl.files then none
    else
      (r.project.fileAt? key).map fun f =>
        ⟨f, f.root, pl.mounts ++ [reg.mount], key :: pl.files⟩
  | .imported _ _ (.missing _) => none
  | .imported _ _ (.package _) => none

/-- The registrations made at a place. -/
def registrationsAt (r : RouteReader) (pl : Place) : List Registration :=
  r.project.registrationsIn pl.file pl.scope

/-- Where a chain leads from a place. -/
def placeAfter? (r : RouteReader) : Place → List Nat → Option Place
  | pl, [] => some pl
  | pl, i :: is =>
    ((r.registrationsAt pl)[i]?.bind (r.lead? pl)).bind fun next => r.placeAfter? next is

/-- What the scope at a place contributes: its endpoints, under the prefix of the chain. -/
def contribution (r : RouteReader) (pl : Place) : String × List Endpoint :=
  ((joinMounts pl.mounts).getD "/", (r.endpointsIn pl.file pl.scope).1)

/-- What chains contribute, each once. -/
def contributions (r : RouteReader) (pl : Place) (chains : List (List Nat)) :
    List (String × List Endpoint) :=
  chains.filterMap fun c => (r.placeAfter? pl c).map r.contribution

/-- The walk goes from `w` to `v` by pushing what the chains with the property contribute, which it
meets in order. -/
def Explores (r : RouteReader) (pl : Place) (P : List Nat → Prop) (w v : Walk) : Prop :=
  ∃ chains : List (List Nat), chains.Pairwise (· < ·) ∧
    (∀ c, c ∈ chains ↔ P c ∧ (r.placeAfter? pl c).isSome) ∧
    v.groups = w.groups ++ r.contributions pl chains

variable {r : RouteReader} {pl next : Place}

/-! ## Chains through one registration -/

theorem placeAfter?_cons {i : Nat} {reg : Registration} (hi : (r.registrationsAt pl)[i]? = some reg)
    (is : List Nat) :
    r.placeAfter? pl (i :: is) = (r.lead? pl reg).bind fun next => r.placeAfter? next is := by
  rw [placeAfter?, hi]
  rfl

/-- A registration that leads nowhere is on no chain. -/
theorem explores_of_lead_none {i : Nat} {reg : Registration} {w v : Walk}
    (hi : (r.registrationsAt pl)[i]? = some reg) (hlead : r.lead? pl reg = none)
    (hv : v.groups = w.groups) : r.Explores pl (fun c => c.head? = some i) w v := by
  refine ⟨[], .nil, fun c => ?_, by rw [hv]; exact (List.append_nil _).symm⟩
  constructor
  · intro h
    cases h
  · rintro ⟨hc, hsome⟩
    cases c with
    | nil => cases hc
    | cons j js =>
      cases hc
      rw [placeAfter?_cons hi, hlead] at hsome
      cases hsome

theorem contributions_cons {i : Nat} {reg : Registration}
    (hi : (r.registrationsAt pl)[i]? = some reg) (hlead : r.lead? pl reg = some next)
    (chains : List (List Nat)) :
    r.contributions pl (chains.map (i :: ·)) = r.contributions next chains := by
  unfold contributions
  rw [List.filterMap_map]
  apply List.filterMap_congr
  intro c _
  simp only [Function.comp_apply, placeAfter?_cons hi, hlead, Option.bind_some]

/-- The chains through a registration are the one that ends at its plugin and those that go on from
there. -/
theorem explores_of_lead_some {i : Nat} {reg : Registration} {w u v : Walk}
    (hi : (r.registrationsAt pl)[i]? = some reg) (hlead : r.lead? pl reg = some next)
    (hu : u.groups = w.groups ++ [r.contribution next])
    (h : r.Explores next (· ≠ []) u v) : r.Explores pl (fun c => c.head? = some i) w v := by
  obtain ⟨chains, hsorted, hmem, hgroups⟩ := h
  refine ⟨([] :: chains).map (i :: ·), ?_, fun c => ?_, ?_⟩
  · rw [List.pairwise_map]
    refine (List.pairwise_cons.2 ⟨fun c hc => ?_, hsorted⟩).imp fun h =>
      List.cons_lt_cons_iff.2 (Or.inr ⟨rfl, h⟩)
    cases c with
    | nil => exact absurd rfl ((hmem []).1 hc).1
    | cons j js => exact List.nil_lt_cons j js
  · rw [List.mem_map]
    constructor
    · rintro ⟨d, hd, rfl⟩
      refine ⟨rfl, ?_⟩
      rw [placeAfter?_cons hi, hlead]
      rcases List.mem_cons.1 hd with rfl | hd
      · rfl
      · exact ((hmem d).1 hd).2
    · rintro ⟨hc, hsome⟩
      cases c with
      | nil => cases hc
      | cons j js =>
        cases hc
        refine ⟨js, ?_, rfl⟩
        rw [placeAfter?_cons hi, hlead] at hsome
        by_cases hjs : js = []
        · exact List.mem_cons.2 (Or.inl hjs)
        · exact List.mem_cons_of_mem _ ((hmem js).2 ⟨hjs, hsome⟩)
  · rw [contributions_cons hi hlead, hgroups, hu, List.append_assoc]
    rfl

/-! ## Chains through several registrations -/

/-- Chains through registrations from position `k` on are those through the one at `k` and those
through the later ones. -/
theorem Explores.cons {k : Nat} {w u v : Walk}
    (h : r.Explores pl (fun c => c.head? = some k) w u)
    (h' : r.Explores pl (fun c => ∃ i, c.head? = some i ∧ k + 1 ≤ i) u v) :
    r.Explores pl (fun c => ∃ i, c.head? = some i ∧ k ≤ i) w v := by
  obtain ⟨chains, hsorted, hmem, hgroups⟩ := h
  obtain ⟨chains', hsorted', hmem', hgroups'⟩ := h'
  refine ⟨chains ++ chains', ?_, fun c => ?_, ?_⟩
  · refine List.pairwise_append.2 ⟨hsorted, hsorted', fun c hc c' hc' => ?_⟩
    obtain ⟨hhead, -⟩ := (hmem c).1 hc
    obtain ⟨⟨i, hhead', hi⟩, -⟩ := (hmem' c').1 hc'
    cases c with
    | nil => cases hhead
    | cons a as =>
      cases c' with
      | nil => cases hhead'
      | cons b bs =>
        cases hhead
        cases hhead'
        exact List.cons_lt_cons_iff.2 (Or.inl hi)
  · rw [List.mem_append, hmem, hmem', ← or_and_right]
    refine and_congr_left fun _ => ?_
    constructor
    · rintro (hc | ⟨i, hc, hi⟩)
      · exact ⟨k, hc, Nat.le_refl k⟩
      · exact ⟨i, hc, Nat.le_of_succ_le hi⟩
    · rintro ⟨i, hc, hi⟩
      rcases Nat.eq_or_lt_of_le hi with rfl | hlt
      · exact Or.inl hc
      · exact Or.inr ⟨i, hc, hlt⟩
  · rw [hgroups', hgroups, List.append_assoc]
    unfold contributions
    rw [List.filterMap_append]

/-- No chain goes through a position after the last registration. -/
theorem explores_of_length_le {k : Nat} {w : Walk} (hk : (r.registrationsAt pl).length ≤ k) :
    r.Explores pl (fun c => ∃ i, c.head? = some i ∧ k ≤ i) w w := by
  refine ⟨[], .nil, fun c => ?_, (List.append_nil _).symm⟩
  constructor
  · intro h
    cases h
  · rintro ⟨⟨i, hc, hi⟩, hsome⟩
    cases c with
    | nil => cases hc
    | cons j js =>
      cases hc
      rw [placeAfter?, List.getElem?_eq_none (Nat.le_trans hk hi)] at hsome
      cases hsome

/-! ## The walk -/

mutual
theorem follow_explores (r : RouteReader) (pl : Place) (path : Path) (outer : Option String)
    (w : Walk) (fresh : path ∉ w.active) (stored : r.project.fileAt? path = some pl.file)
    (hscope : pl.scope = pl.file.root) (hfiles : pl.files = path :: w.active)
    (houter : outer = joinMounts pl.mounts) :
    r.Explores pl (· ≠ []) w (r.follow path pl.file outer w fresh stored).val := by
  rw [follow]
  have hactive : (w.enter path).active = pl.files := by
    rw [Walk.active_enter_of_notMem fresh, hfiles]
  have h := followScope_explores r pl outer (w.enter path) hactive houter
  rw [hscope] at h
  exact h
termination_by ((r.project.filesOutside w.active).length, 0, 0)
decreasing_by
  exact Prod.Lex.left _ _ (Project.length_filesOutside_enter_lt stored fresh)

/-- Following a scope pushes what the chains contribute that begin there. -/
theorem followScope_explores (r : RouteReader) (pl : Place) (outer : Option String) (w : Walk)
    (hactive : w.active = pl.files) (houter : outer = joinMounts pl.mounts) :
    r.Explores pl (· ≠ []) w (r.followScope pl.file pl.scope outer w).val := by
  rw [followScope]
  have h := followAll_explores r pl outer (r.registrationsAt pl) 0 rfl (fun _ h => h) w hactive
    houter
  obtain ⟨chains, hsorted, hmem, hgroups⟩ := h
  refine ⟨chains, hsorted, fun c => (hmem c).trans (and_congr_left fun _ => ?_), hgroups⟩
  cases c with
  | nil => simp
  | cons i is => simp
termination_by ((r.project.filesOutside w.active).length, pl.scope.focus.size,
  (r.registrationsAt pl).length + 2)
decreasing_by
  exact Prod.Lex.right _ (Prod.Lex.right _ (Nat.lt_succ_self _))

theorem followAll_explores (r : RouteReader) (pl : Place) (outer : Option String)
    (regs : List Registration) (k : Nat) (hregs : (r.registrationsAt pl).drop k = regs)
    (among : ∀ reg ∈ regs, reg ∈ r.project.registrationsIn pl.file pl.scope) (w : Walk)
    (hactive : w.active = pl.files) (houter : outer = joinMounts pl.mounts) :
    r.Explores pl (fun c => ∃ i, c.head? = some i ∧ k ≤ i) w
      (r.followAll pl.file pl.scope outer regs among w).val := by
  match regs with
  | [] =>
    rw [followAll]
    exact explores_of_length_le (List.drop_eq_nil_iff.1 hregs)
  | reg :: regs =>
    rw [followAll]
    have hk : (r.registrationsAt pl)[k]? = some reg := by
      rw [← List.head?_drop, hregs]
      rfl
    have hrest : (r.registrationsAt pl).drop (k + 1) = regs := by
      rw [← List.tail_drop, hregs]
      rfl
    have hone := followOne_explores r pl outer reg k hk (among reg List.mem_cons_self) w hactive
      houter
    have hkept := (r.followOne pl.file pl.scope outer reg (among reg List.mem_cons_self) w).property
    exact hone.cons
      (followAll_explores r pl outer regs (k + 1) hrest _ _ (hkept.trans hactive) houter)
termination_by ((r.project.filesOutside w.active).length, pl.scope.focus.size, regs.length + 1)
decreasing_by
  · exact Prod.Lex.right _ (Prod.Lex.right _ (Nat.succ_pos _))
  · rw [(r.followOne pl.file pl.scope outer reg (among reg List.mem_cons_self) w).property]
    exact Prod.Lex.right _ (Prod.Lex.right _ (Nat.lt_succ_self _))

theorem followOne_explores (r : RouteReader) (pl : Place) (outer : Option String)
    (reg : Registration) (k : Nat) (hk : (r.registrationsAt pl)[k]? = some reg)
    (among : reg ∈ r.project.registrationsIn pl.file pl.scope) (w : Walk)
    (hactive : w.active = pl.files) (houter : outer = joinMounts pl.mounts) :
    r.Explores pl (fun c => c.head? = some k) w
      (r.followOne pl.file pl.scope outer reg among w).val := by
  have hmount : joinMounts (pl.mounts ++ [reg.mount]) = some (mountUnder outer reg.mount) := by
    rw [joinMounts_append, houter]
  rw [followOne]
  split
  · rename_i body hplugin
    have hlead : r.lead? pl reg = some ⟨pl.file, body, pl.mounts ++ [reg.mount], pl.files⟩ := by
      rw [lead?, hplugin]
    refine explores_of_lead_some hk hlead ?_ (followScope_explores r
      ⟨pl.file, body, pl.mounts ++ [reg.mount], pl.files⟩ _ _ hactive hmount.symm)
    rw [contribution, hmount]
    rfl
  · rename_i name module key hplugin
    split
    · rename_i hmem
      refine explores_of_lead_none hk ?_ rfl
      rw [lead?, hplugin]
      exact if_pos (hactive ▸ hmem)
    · rename_i hmem
      split
      · rename_i f hf
        have hlead : r.lead? pl reg =
            some ⟨f, f.root, pl.mounts ++ [reg.mount], key :: pl.files⟩ := by
          rw [lead?, hplugin]
          simp only [hf, ← hactive, if_neg hmem, Option.map_some]
        refine explores_of_lead_some hk hlead ?_ (follow_explores r
          ⟨f, f.root, pl.mounts ++ [reg.mount], key :: pl.files⟩ key _ _ _ hf rfl ?_ hmount.symm)
        · rw [contribution, hmount]
          rfl
        · rw [← hactive]
          rfl
      · rename_i hf
        refine explores_of_lead_none hk ?_ rfl
        rw [lead?, hplugin]
        simp only [hf, ← hactive, if_neg hmem, Option.map_none]
  · rename_i name module guess hplugin
    refine explores_of_lead_none hk ?_ rfl
    rw [lead?, hplugin]
  · rename_i name module package hplugin
    refine explores_of_lead_none hk ?_ rfl
    rw [lead?, hplugin]
termination_by ((r.project.filesOutside w.active).length, pl.scope.focus.size, 0)
decreasing_by
  · exact Prod.Lex.right _ (Prod.Lex.left _ _ (Project.size_lt_of_inline ‹_› ‹_›))
  · exact Prod.Lex.right _ (Prod.Lex.left _ _ (Tree.size_pos _))
end

/-- **The walk from an entry file pushes its own endpoints and then, in order, the endpoints of the
scope at the end of every chain of registrations**, each under the prefix of its chain.  Following a
file leaves the active files as they were, so that a file counts once for every chain to it. -/
theorem walk_pushes_chains (r : RouteReader) (file : SourceFile) :
    (∃ chains : List (List Nat), chains.Pairwise (· < ·) ∧
      (∀ c, c ∈ chains ↔ c ≠ [] ∧ (r.placeAfter? (.ofEntry file) c).isSome) ∧
      (r.walk file.path file).groups =
        ("/", (r.endpointsOf file).1) :: r.contributions (.ofEntry file) chains ∧
      RouteGroup.gather (r.walk file.path file).groups =
        (r.contributions (.ofEntry file) chains).foldl RouteGroup.push
          (RouteGroup.push [] ("/", (r.endpointsOf file).1))) ∧
    (∀ path f outer w fresh stored, (r.follow path f outer w fresh stored).val.active = w.active) ∧
    (r.walk file.path file).active = [] := by
  have hfresh : file.path ∉ (Walk.start.push "/" (r.endpointsOf file)).active := by
    intro h
    cases h
  have hactive := Walk.active_enter_of_notMem hfresh
  obtain ⟨chains, hsorted, hmem, hgroups⟩ :=
    followScope_explores r (.ofEntry file) none _ hactive rfl
  have hpushed : (r.walk file.path file).groups =
      ("/", (r.endpointsOf file).1) :: r.contributions (.ofEntry file) chains := hgroups
  refine ⟨⟨chains, hsorted, hmem, hpushed, ?_⟩, ?_, ?_⟩
  · rw [RouteGroup.gather, hpushed, List.foldl_cons]
  · intro path f outer w fresh stored
    exact (r.follow path f outer w fresh stored).property
  · exact Walk.active_leave hfresh (r.followScope file file.root none _).property

end RouteReader

end RouteInventory
