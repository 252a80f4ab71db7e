import Mathlib
import RouteInventory.Proofs.ShapeExpansion
import RouteInventory.Proofs.TyperMemory

/-!
# Of members with the same name the last one counts

Members are put together in two places: where objects are intersected, and where an object literal
is made of properties and spreads.  Both work one member at a time, dropping an earlier one of the
same name and putting the new one last.  `Member.keepLast` says what this amounts to for a whole
list: a member stays exactly if no later one has its name.

Since `keepLast` does not mind being applied to a piece of the list before, it does not matter how
the operands of an intersection are grouped.

* `Member.putAll_eq` — what putting members over others gives.
* `Member.keepLast_append_keepLast`, `Member.keepLast_keepLast_append` — pieces may come first.
* `Resolve.read_intersection`, `Resolve.read_parentheses` — intersections and parentheses by parts.
* `Tree.Intersects` — the groupings of an intersection's operands.
* `Typer.members_combine_last` — the rule for intersections, however grouped, and for literals.
-/

namespace RouteInventory

namespace Member

/-! ## Keeping the last -/

/-- The names of members, in their order. -/
def names (ms : List (Member Shape)) : List String := ms.map Member.name

/-- The members of which no later one has the name, in their order. -/
def keepLast : List (Member Shape) → List (Member Shape)
  | [] => []
  | m :: ms => if m.name ∈ names ms then keepLast ms else m :: keepLast ms

variable {m : Member Shape} {ms more : List (Member Shape)}

@[simp] theorem names_nil : names [] = [] := rfl

@[simp] theorem names_cons : names (m :: ms) = m.name :: names ms := rfl

@[simp] theorem names_append : names (ms ++ more) = names ms ++ names more := List.map_append

theorem keepLast_cons_of_mem (h : m.name ∈ names ms) : keepLast (m :: ms) = keepLast ms := by
  rw [keepLast, if_pos h]

theorem keepLast_cons_of_not_mem (h : m.name ∉ names ms) :
    keepLast (m :: ms) = m :: keepLast ms := by
  rw [keepLast, if_neg h]

/-- No name is lost. -/
theorem mem_names_keepLast {x : String} : x ∈ names (keepLast ms) ↔ x ∈ names ms := by
  induction ms with
  | nil => simp [keepLast]
  | cons m ms ih =>
    by_cases h : m.name ∈ names ms
    · rw [keepLast_cons_of_mem h, ih, names_cons, List.mem_cons]
      constructor
      · exact Or.inr
      · rintro (rfl | hx)
        · exact h
        · exact hx
    · rw [keepLast_cons_of_not_mem h, names_cons, names_cons, List.mem_cons, List.mem_cons, ih]

/-- No name is left twice. -/
theorem nodup_names_keepLast (ms : List (Member Shape)) : (names (keepLast ms)).Nodup := by
  induction ms with
  | nil => exact List.nodup_nil
  | cons m ms ih =>
    by_cases h : m.name ∈ names ms
    · rwa [keepLast_cons_of_mem h]
    · rw [keepLast_cons_of_not_mem h, names_cons]
      exact List.nodup_cons.2 ⟨fun hmem => h (mem_names_keepLast.1 hmem), ih⟩

theorem keepLast_of_nodup (h : (names ms).Nodup) : keepLast ms = ms := by
  induction ms with
  | nil => rfl
  | cons m ms ih =>
    obtain ⟨hm, hms⟩ := List.nodup_cons.1 h
    rw [keepLast_cons_of_not_mem hm, ih hms]

theorem mem_of_mem_keepLast (h : m ∈ keepLast ms) : m ∈ ms := by
  induction ms with
  | nil => exact h
  | cons n ms ih =>
    by_cases hn : n.name ∈ names ms
    · rw [keepLast_cons_of_mem hn] at h
      exact List.mem_cons_of_mem n (ih h)
    · rw [keepLast_cons_of_not_mem hn] at h
      rcases List.mem_cons.1 h with rfl | h
      · exact List.mem_cons_self
      · exact List.mem_cons_of_mem n (ih h)

/-- The members whose names do not come again. -/
def without (ms : List (Member Shape)) (taken : List String) : List (Member Shape) :=
  ms.filter fun m => m.name ∉ taken

theorem names_without (taken : List String) :
    names (without ms taken) = (names ms).filter (· ∉ taken) := by
  rw [names, without, names, List.filter_map]
  rfl

/-- Of two pieces, the second is kept as it is by itself. -/
theorem keepLast_append (ms more : List (Member Shape)) :
    keepLast (ms ++ more) = without (keepLast ms) (names more) ++ keepLast more := by
  induction ms with
  | nil => rfl
  | cons m ms ih =>
    rw [List.cons_append]
    by_cases hlater : m.name ∈ names ms
    · have hmem : m.name ∈ names (ms ++ more) := by simp [hlater]
      rw [keepLast_cons_of_mem hmem, keepLast_cons_of_mem hlater, ih]
    · rw [keepLast_cons_of_not_mem hlater]
      by_cases hmore : m.name ∈ names more
      · have hmem : m.name ∈ names (ms ++ more) := by simp [hmore]
        rw [keepLast_cons_of_mem hmem, ih]
        simp [without, hmore]
      · have hmem : m.name ∉ names (ms ++ more) := by simp [hlater, hmore]
        rw [keepLast_cons_of_not_mem hmem, ih]
        simp [without, hmore]

/-- What was kept of the second piece might as well be all of it. -/
theorem keepLast_append_keepLast (ms more : List (Member Shape)) :
    keepLast (ms ++ keepLast more) = keepLast (ms ++ more) := by
  have hnames : without (keepLast ms) (names (keepLast more)) =
      without (keepLast ms) (names more) := by
    simp only [without, mem_names_keepLast]
  rw [keepLast_append, keepLast_append, hnames, keepLast_of_nodup (nodup_names_keepLast more)]

/-- What was kept of the first piece might as well be all of it. -/
theorem keepLast_keepLast_append (ms more : List (Member Shape)) :
    keepLast (keepLast ms ++ more) = keepLast (ms ++ more) := by
  rw [keepLast_append, keepLast_append, keepLast_of_nodup (nodup_names_keepLast ms)]

/-! ## Putting members over others -/

/-- **Members that are put over others replace those of the same name**, and of members with the
same name among them the last one counts. -/
theorem putAll_eq (ms more : List (Member Shape)) :
    putAll ms more = without ms (names more) ++ keepLast more := by
  induction more generalizing ms with
  | nil => simp [putAll, without, keepLast]
  | cons m more ih =>
    have hstep : putAll ms (m :: more) = putAll (put ms m) more := rfl
    have hfilter : without (ms.filter fun n => n.name != m.name) (names more) =
        without ms (names (m :: more)) := by
      simp only [without, List.filter_filter]
      congr 1
      funext n
      by_cases hn : n.name = m.name <;> simp [hn]
    rw [hstep, ih, put]
    by_cases h : m.name ∈ names more
    · rw [keepLast_cons_of_mem h, ← hfilter]
      simp [without, h]
    · rw [keepLast_cons_of_not_mem h, ← hfilter]
      simp [without, h]

/-- What was kept so far and what comes next. -/
theorem putAll_keepLast (ms more : List (Member Shape)) :
    putAll (keepLast ms) more = keepLast (ms ++ more) := by
  rw [putAll_eq, keepLast_append]

theorem foldl_putAll {α : Type} (f : α → List (Member Shape)) (l : List α)
    (ms : List (Member Shape)) :
    l.foldl (fun acc a => putAll acc (f a)) (keepLast ms) = keepLast (ms ++ l.flatMap f) := by
  induction l generalizing ms with
  | nil => simp
  | cons a l ih => rw [List.foldl_cons, putAll_keepLast, ih, List.flatMap_cons, List.append_assoc]

end Member

/-! ## Intersections -/

namespace Shape

/-- The shape has members. -/
def IsObject (s : Shape) : Prop := ∃ name ms, s = object name ms

theorem mergeObjects?_eq {parts : List Shape} (h : ∀ s ∈ parts, s.IsObject) :
    mergeObjects? parts = some (Member.keepLast (parts.flatMap members)) := by
  induction parts using List.reverseRecOn with
  | nil => rfl
  | append_singleton parts s ih =>
    obtain ⟨name, ms, rfl⟩ := h s (List.mem_append_right _ List.mem_cons_self)
    have hbefore := ih fun t ht => h t (List.mem_append_left _ ht)
    unfold mergeObjects? at hbefore ⊢
    rw [List.foldl_append, hbefore, List.foldl_cons, List.foldl_nil, List.flatMap_append,
      List.flatMap_singleton, ← Member.putAll_keepLast]
    rfl

/-- Only objects can be merged. -/
theorem isObject_of_mergeObjects? {parts : List Shape} {ms : List (Member Shape)}
    (h : mergeObjects? parts = some ms) : ∀ s ∈ parts, s.IsObject := by
  induction parts using List.reverseRecOn generalizing ms with
  | nil => exact List.forall_mem_nil _
  | append_singleton parts s ih =>
    unfold mergeObjects? at h
    rw [List.foldl_append, List.foldl_cons, List.foldl_nil] at h
    split at h
    · rename_i before name more hbefore
      exact List.forall_mem_append.2 ⟨ih hbefore, List.forall_mem_singleton.2 ⟨name, more, rfl⟩⟩
    · cases h

theorem intersectionOf_eq (text : String) {parts : List Shape} (h : ∀ s ∈ parts, s.IsObject) :
    intersectionOf text parts = object none (Member.keepLast (parts.flatMap members)) := by
  rw [intersectionOf, mergeObjects?_eq h]

end Shape

namespace Resolve

/-- The shape of a type with `n` levels to go, while the names on the stack are being expanded. -/
def read (p : Project) (n : Nat) (stack : List String) (file : SourceFile) (t : Tree) : Shape :=
  ((shapeAt p n file t).run stack).1

variable {p : Project} {n : Nat} {stack : List String} {file : SourceFile} {t u : Tree}

theorem shapeAt_succ (p : Project) (n : Nat) :
    shapeAt p (n + 1) = step p (shapeAt p n) (shapeAt p (n - 1)) := by
  cases n <;> rfl

theorem shapeAt_run (p : Project) (n : Nat) (stack : List String) (file : SourceFile) (t : Tree) :
    (shapeAt p n file t).run stack = (read p n stack file t, stack) := by
  have hstack := (reads_shapeAt p n file t stack).1
  exact Prod.ext rfl hstack

theorem run_bind_of_kept {α β : Type} {x : Expanding α} {f : α → Expanding β} {a : α}
    (hx : x.run stack = (a, stack)) : (x >>= f).run stack = (f a).run stack := by
  change (f (x.run stack).1).run (x.run stack).2 = (f a).run stack
  rw [hx]

theorem step_run (p : Project) (n : Nat) (stack : List String) (file : SourceFile) (t : Tree) :
    (step p (shapeAt p n) (shapeAt p (n - 1)) file t).run stack =
      (read p (n + 1) stack file t, stack) := by
  rw [← shapeAt_run, shapeAt_succ]

/-- Since the stack is left as it was, the meaningful ones of several types are read apart. -/
theorem stepParts_run (p : Project) (n : Nat) (stack : List String) (file : SourceFile)
    (ts : List Tree) :
    (stepParts p (shapeAt p n) (shapeAt p (n - 1)) file ts).run stack =
      ((ts.filter Tree.isPart).map (read p (n + 1) stack file), stack) := by
  induction ts with
  | nil => rfl
  | cons t ts ih =>
    rw [stepParts, List.filter_cons]
    split
    · rw [run_bind_of_kept (step_run p n stack file t), run_bind_of_kept ih]
      rfl
    · exact ih

theorem stepLast_run (p : Project) (n : Nat) (stack : List String) (file : SourceFile)
    (ts : List Tree) :
    (stepLast p (shapeAt p n) (shapeAt p (n - 1)) file ts).run stack =
      ((ts.filter Tree.isPart).getLast?.map (read p (n + 1) stack file), stack) := by
  induction ts with
  | nil => rfl
  | cons t ts ih =>
    rw [stepLast, run_bind_of_kept ih]
    cases hlast : (ts.filter Tree.isPart).getLast? with
    | some last =>
      have hsame : ((t :: ts).filter Tree.isPart).getLast? = some last := by
        by_cases ht : t.isPart = true <;> simp [ht, List.getLast?_cons, hlast]
      rw [hsame]
      rfl
    | none =>
      have hnil := List.getLast?_eq_none_iff.1 hlast
      simp only [Option.map_none]
      by_cases ht : t.isPart = true
      · rw [if_pos ht, List.filter_cons_of_pos ht, hnil,
          run_bind_of_kept (step_run p n stack file t)]
        rfl
      · rw [if_neg ht, List.filter_cons_of_neg ht, hnil]
        rfl

theorem read_intersection (h : t.kind = .intersectionType) :
    read p (n + 1) stack file t =
      .intersectionOf t.text (t.parts.map (read p (n + 1) stack file)) := by
  obtain ⟨hd, ts⟩ := t
  have hkind : hd.kind = .intersectionType := h
  rw [read, shapeAt_succ, step]
  simp only [hkind]
  rw [run_bind_of_kept (stepParts_run p n stack file ts)]
  rfl

theorem read_union (h : t.kind = .unionType) :
    read p (n + 1) stack file t = .unionOf (t.parts.map (read p (n + 1) stack file)) := by
  obtain ⟨hd, ts⟩ := t
  have hkind : hd.kind = .unionType := h
  rw [read, shapeAt_succ, step]
  simp only [hkind]
  rw [run_bind_of_kept (stepParts_run p n stack file ts)]
  rfl

theorem read_parentheses (h : t.kind = .parenthesizedType) (hlast : t.parts.getLast? = some u) :
    read p (n + 1) stack file t = read p (n + 1) stack file u := by
  obtain ⟨hd, ts⟩ := t
  have hkind : hd.kind = .parenthesizedType := h
  have hlast' : (ts.filter Tree.isPart).getLast? = some u := hlast
  rw [read, shapeAt_succ, step]
  simp only [hkind]
  rw [run_bind_of_kept (stepLast_run p n stack file ts), hlast']
  rfl

end Resolve

/-! ## Groupings -/

namespace Tree

mutual
/-- The type is the intersection of the operands, however they are grouped by parentheses. -/
inductive Intersects : Tree → List Tree → Prop
  | intersection {t : Tree} {operands : List Tree} :
    t.kind = .intersectionType → Groups t.parts operands → Intersects t operands
  | parentheses {t inner : Tree} {operands : List Tree} :
    t.kind = .parenthesizedType → t.parts.getLast? = some inner → Intersects inner operands →
      Intersects t operands

/-- Some of the types are operands, the others intersections of operands. -/
inductive Groups : List Tree → List Tree → Prop
  | nil : Groups [] []
  | operand {t : Tree} {ts operands : List Tree} :
    Groups ts operands → Groups (t :: ts) (t :: operands)
  | group {t : Tree} {ts inner operands : List Tree} :
    Intersects t inner → Groups ts operands → Groups (t :: ts) (inner ++ operands)
end

end Tree

namespace Resolve

variable {p : Project} {n : Nat} {stack : List String} {file : SourceFile} {t : Tree}
  {operands : List Tree}

/-- What several types bring into an intersection: all of them are objects, and these are their
members, one after the other. -/
def Brings (f : Tree → Shape) (ts : List Tree) (ms : List (Member Shape)) : Prop :=
  (∀ t ∈ ts, (f t).IsObject) ∧ Member.keepLast (ts.flatMap fun t => (f t).members) =
    Member.keepLast ms

/-- **An intersection has the last members of its operands**, whichever way they are grouped. -/
theorem read_of_intersects (h : t.Intersects operands)
    (hobjects : ∀ u ∈ operands, (read p (n + 1) stack file u).IsObject) :
    read p (n + 1) stack file t = .object none
      (Member.keepLast (operands.flatMap fun u => (read p (n + 1) stack file u).members)) := by
  let f := read p (n + 1) stack file
  -- the second motive is about the types side by side in an intersection
  refine @Tree.Intersects.rec
    (fun t operands _ => (∀ u ∈ operands, (f u).IsObject) →
      f t = .object none (Member.keepLast (operands.flatMap fun u => (f u).members)))
    (fun ts operands _ => (∀ u ∈ operands, (f u).IsObject) →
      Brings f ts (operands.flatMap fun u => (f u).members))
    ?_ ?_ ?_ ?_ ?_ t operands h hobjects
  · intro t operands hkind _ hparts hobjects
    obtain ⟨hall, hkeep⟩ := hparts hobjects
    have hmerge : Shape.intersectionOf t.text (t.parts.map f) = _ :=
      Shape.intersectionOf_eq t.text (List.forall_mem_map.2 hall)
    rw [List.flatMap_map, hkeep] at hmerge
    exact (read_intersection hkind).trans hmerge
  · intro t inner operands hkind hlast _ hinner hobjects
    exact (read_parentheses hkind hlast).trans (hinner hobjects)
  · intro _
    exact ⟨List.forall_mem_nil _, rfl⟩
  · intro t ts operands _ hrest hobjects
    obtain ⟨ht, hobjects⟩ := List.forall_mem_cons.1 hobjects
    obtain ⟨hall, hkeep⟩ := hrest hobjects
    refine ⟨List.forall_mem_cons.2 ⟨ht, hall⟩, ?_⟩
    rw [List.flatMap_cons, List.flatMap_cons, ← Member.keepLast_append_keepLast, hkeep,
      Member.keepLast_append_keepLast]
  · intro t ts inner operands _ _ hgroup hrest hobjects
    obtain ⟨hinner, hobjects⟩ := List.forall_mem_append.1 hobjects
    obtain ⟨hall, hkeep⟩ := hrest hobjects
    have ht := hgroup hinner
    refine ⟨List.forall_mem_cons.2 ⟨⟨_, _, ht⟩, hall⟩, ?_⟩
    have hmembers : (f t).members = Member.keepLast (inner.flatMap fun u => (f u).members) := by
      rw [ht]
      rfl
    rw [List.flatMap_cons, List.flatMap_append, hmembers, Member.keepLast_keepLast_append,
      ← Member.keepLast_append_keepLast, hkeep, Member.keepLast_append_keepLast]

/-- **Operands of the same shapes give the same intersection**, however they are grouped. -/
theorem typeShape_eq_of_intersects {t' : Tree} {operands' : List Tree} (h : t.Intersects operands)
    (h' : t'.Intersects operands') (hobjects : ∀ u ∈ operands, (p.typeShape file u).IsObject)
    (hsame : operands.map (p.typeShape file) = operands'.map (p.typeShape file)) :
    p.typeShape file t = p.typeShape file t' := by
  have hobjects' : ∀ u ∈ operands', (p.typeShape file u).IsObject := by
    intro u hu
    have hmem : p.typeShape file u ∈ operands.map (p.typeShape file) :=
      hsame ▸ List.mem_map_of_mem hu
    obtain ⟨v, hv, hshape⟩ := List.mem_map.1 hmem
    exact hshape ▸ hobjects v hv
  have hmembers : operands.flatMap (fun u => (p.typeShape file u).members) =
      operands'.flatMap fun u => (p.typeShape file u).members := by
    rw [← List.flatMap_map, hsame, List.flatMap_map]
  have ht : p.typeShape file t = .object none
      (Member.keepLast (operands.flatMap fun u => (p.typeShape file u).members)) :=
    read_of_intersects (n := 12) h hobjects
  have ht' : p.typeShape file t' = .object none
      (Member.keepLast (operands'.flatMap fun u => (p.typeShape file u).members)) :=
    read_of_intersects (n := 12) h' hobjects'
  rw [ht, ht', hmembers]

end Resolve

/-! ## Object literals -/

namespace Typer

variable {t : Typer} {n : Nat} {c e : Cursor} {m : Memo}

/-- The members that one entry of an object literal brings: a property itself, a spread the members
of what is spread, and every other entry none. -/
def contribution (t : Typer) (n : Nat) (e : Cursor) : Typing (List (Member Shape)) :=
  if e.kind = .pair then
    -- a computed key names no member
    (e.focus.propertyKey?.bind fun key => (e.role? .value).map fun value => do
      return [⟨key, ← t.inferAt n value, false⟩]).getD (return [])
  else if e.kind = .shorthandPropertyIdentifier then
    return [⟨e.text, ← t.inferAt n e, false⟩]
  else if e.kind = .spreadElement then
    (e.firstPart?.map fun spread => do return (← t.inferAt n spread).members).getD (return [])
  else return []

theorem contribution_of_none (h : entryValue? e = none) : t.contribution n e = return [] := by
  unfold contribution
  by_cases hpair : e.kind = .pair
  · simp only [entryValue?, hpair] at h
    rw [if_pos hpair]
    cases hkey : e.focus.propertyKey? with
    | none => rfl
    | some key =>
      rw [hkey, Option.isSome_some, if_pos rfl] at h
      rw [h]
      rfl
  · rw [if_neg hpair]
    by_cases hshort : e.kind = .shorthandPropertyIdentifier
    · simp only [entryValue?, hshort] at h
      cases h
    · rw [if_neg hshort]
      by_cases hspread : e.kind = .spreadElement
      · simp only [entryValue?, hspread] at h
        rw [if_pos hspread, h]
        rfl
      · rw [if_neg hspread]

theorem contribution_of_some {value : Cursor} (h : entryValue? e = some value) :
    t.contribution n e = return entryMembers e (← t.inferAt n value) := by
  unfold contribution
  by_cases hpair : e.kind = .pair
  · simp only [entryValue?, hpair] at h
    simp only [entryMembers, hpair]
    cases hkey : e.focus.propertyKey? with
    | none =>
      rw [hkey] at h
      cases h
    | some key =>
      rw [hkey, Option.isSome_some, if_pos rfl] at h
      rw [h]
      rfl
  · rw [if_neg hpair]
    by_cases hshort : e.kind = .shorthandPropertyIdentifier
    · simp only [entryValue?, hshort] at h
      cases h
      simp only [entryMembers, hshort]
      rfl
    · rw [if_neg hshort]
      by_cases hspread : e.kind = .spreadElement
      · simp only [entryValue?, hspread] at h
        simp only [entryMembers, hspread, h]
        rfl
      · unfold entryValue? at h
        split at h
        · exact absurd ‹_› hpair
        · exact absurd ‹_› hshort
        · exact absurd ‹_› hspread
        · cases h

/-- Entry by entry, or all values first and then the members: the same members and memory. -/
theorem contributions_run (t : Typer) (n : Nat) (es : List Cursor) (m : Memo) :
    let entries := es.filter fun e => (entryValue? e).isSome
    let values := (entries.filterMap entryValue?).mapM (t.inferAt n) m
    (es.mapM (t.contribution n) m).1.flatten =
        (entries.zip values.1).flatMap (fun e => entryMembers e.1 e.2) ∧
      (es.mapM (t.contribution n) m).2 = values.2 := by
  induction es generalizing m with
  | nil => exact ⟨rfl, rfl⟩
  | cons e es ih =>
    cases hvalue : entryValue? e with
    | none =>
      have hrun : t.contribution n e m = ([], m) := by
        rw [contribution_of_none hvalue]
        rfl
      obtain ⟨hmembers, hmemory⟩ := ih m
      rw [mapM_cons_run, hrun]
      simp only [List.filter_cons, hvalue, Option.isSome_none, Bool.false_eq_true, if_false]
      exact ⟨hmembers, hmemory⟩
    | some value =>
      have hrun : t.contribution n e m =
          (entryMembers e (t.inferAt n value m).1, (t.inferAt n value m).2) := by
        rw [contribution_of_some hvalue]
        rfl
      obtain ⟨hmembers, hmemory⟩ := ih (t.inferAt n value m).2
      rw [mapM_cons_run, hrun]
      simp only [List.filter_cons, hvalue, Option.isSome_some, if_true, List.filterMap_cons,
        mapM_cons_run, List.zip_cons_cons, List.flatMap_cons, List.flatten_cons]
      exact ⟨congrArg _ hmembers, hmemory⟩

/-- **An object literal has the last members of its entries.** -/
theorem inferAt_object (hkind : c.unwrapped.kind = .object)
    (hnew : m.get? c.unwrapped.path = none) :
    (t.inferAt (n + 1) c m).1 =
      .object none (Member.keepLast (c.unwrapped.parts.mapM (t.contribution n) m).1.flatten) := by
  have hrecipe : t.recipe c.unwrapped = objectRecipe c.unwrapped := by
    unfold recipe
    rw [hkind]
  have hlast := Member.foldl_putAll (fun e : Cursor × Shape => entryMembers e.1 e.2)
    ((c.unwrapped.parts.filter fun e => (entryValue? e).isSome).zip
      (((c.unwrapped.parts.filter fun e => (entryValue? e).isSome).filterMap entryValue?).mapM
        (t.inferAt n) m).1) []
  rw [inferAt_of_none hnew, hrecipe, (contributions_run t n _ m).1]
  exact congrArg (Shape.object none) hlast

open Resolve in
/-- **Of members with the same name the last one counts**, and takes the last place.  An
intersection of objects is an object without a name that has the last members of its operands in
this sense, with any levels to go and any names being expanded.  So two intersections whose operands
have the same shapes have the same shape, however they are grouped.  An object literal that is not
remembered has the last members of its entries, each with the shapes found when its turn comes. -/
theorem members_combine_last (p : Project) :
    (∀ n stack file t operands, t.Intersects operands →
      (∀ u ∈ operands, (read p (n + 1) stack file u).IsObject) →
      read p (n + 1) stack file t = .object none
        (Member.keepLast (operands.flatMap fun u => (read p (n + 1) stack file u).members))) ∧
    (∀ file t t' operands operands', t.Intersects operands → t'.Intersects operands' →
      (∀ u ∈ operands, (p.typeShape file u).IsObject) →
      operands.map (p.typeShape file) = operands'.map (p.typeShape file) →
      p.typeShape file t = p.typeShape file t') ∧
    ∀ file n c m, c.unwrapped.kind = .object → Memo.get? m c.unwrapped.path = none →
      (inferAt ⟨p, file⟩ (n + 1) c m).1 = .object none (Member.keepLast
        (c.unwrapped.parts.mapM (contribution ⟨p, file⟩ n) m).1.flatten) := by
  refine ⟨?_, ?_, ?_⟩
  · intro n stack file t operands hgroup hobjects
    exact read_of_intersects hgroup hobjects
  · intro file t t' operands operands' hgroup hgroup' hobjects hsame
    exact typeShape_eq_of_intersects hgroup hgroup' hobjects hsame
  · intro file n c m hkind hnew
    exact inferAt_object hkind hnew

end Typer

/-! ## Two groupings -/

namespace GroupedTypes

open RouteInventory.Tree (sketch)

/-- An object type with properties of primitive types. -/
def object (properties : List (String × String)) : Tree :=
  sketch .objectType "" (properties.map fun property =>
    sketch .propertySignature ""
      [(sketch .propertyIdentifier property.1 []).withRole .name,
        (sketch .typeClause "" [sketch .predefinedType property.2 []]).withRole .type])

def user : Tree := object [("id", "number"), ("name", "string")]

def tagged : Tree := object [("name", "symbol"), ("tag", "string")]

def keyed : Tree := object [("id", "string")]

def intersection (types : List Tree) : Tree := sketch .intersectionType "" types

def inParentheses (t : Tree) : Tree := sketch .parenthesizedType "" [t]

/-- `(user & tagged) & keyed` -/
def leftward : Tree := intersection [inParentheses (intersection [user, tagged]), keyed]

/-- `user & (tagged & keyed)` -/
def rightward : Tree := intersection [user, inParentheses (intersection [tagged, keyed])]

def project : Project := .empty ⟨true, ["app"]⟩

theorem intersects_pair {a b : Tree} (h : (intersection [a, b]).parts = [a, b]) :
    (inParentheses (intersection [a, b])).Intersects [a, b] := by
  have hgroup : Tree.Groups (intersection [a, b]).parts [a, b] := by
    rw [h]
    exact .operand (.operand .nil)
  exact .parentheses rfl rfl (.intersection rfl hgroup)

theorem leftward_intersects : leftward.Intersects [user, tagged, keyed] := by
  have hgroup : Tree.Groups leftward.parts ([user, tagged] ++ [keyed]) :=
    .group (intersects_pair rfl) (.operand .nil)
  exact .intersection rfl hgroup

theorem rightward_intersects : rightward.Intersects [user, tagged, keyed] := by
  have hgroup : Tree.Groups rightward.parts (user :: ([tagged, keyed] ++ [])) :=
    .operand (.group (intersects_pair rfl) .nil)
  exact .intersection rfl hgroup

/-- Both groupings keep the second `name` and the second `id`, at their own places. -/
theorem grouped_alike :
    (∀ t ∈ [user, tagged, keyed], (project.typeShape default t).IsObject) ∧
    project.typeShape default leftward = project.typeShape default rightward ∧
    project.typeShape default leftward = .object none
      [⟨"name", .primitive "symbol", false⟩, ⟨"tag", .primitive "string", false⟩,
        ⟨"id", .primitive "string", false⟩] := by
  have hobjects : ∀ t ∈ [user, tagged, keyed], (project.typeShape default t).IsObject := by
    simp only [List.forall_mem_cons]
    exact ⟨⟨_, _, rfl⟩, ⟨_, _, rfl⟩, ⟨_, _, rfl⟩, List.forall_mem_nil _⟩
  refine ⟨hobjects, ?_, by decide⟩
  exact (Typer.members_combine_last project).2.1 default leftward rightward _ _
    leftward_intersects rightward_intersects hobjects rfl

end GroupedTypes

end RouteInventory
