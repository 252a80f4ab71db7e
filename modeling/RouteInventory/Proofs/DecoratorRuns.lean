import Mathlib
import RouteInventory.Nest.Controller
import RouteInventory.Proofs.CursorDescent

/-!
# Comments among decorators

The decorators of a declaration stand before it, or among its children.  Comments may stand between
them, and should not matter: `Cursor.attached` are all decorators in the run of decorators and
comments before a declaration, followed by those among its children.

`Cursor.decoratorNodes` passes over comments among the children, but before the declaration it stops
at the first one.  So it finds the attached decorators exactly if no comment of the run stands
behind a decorator (`Cursor.Unbroken`), and otherwise only those behind the last comment.

* `decoratorNodes_eq` — what is found, in source order.
* `decoratorNodes_eq_attached_iff` — when this is all that is attached.
* `attached_congr` — comments make no difference to what is attached.
* `decorators_found_iff_unbroken` — when comments make no difference to what is found, and to routes.
-/

namespace RouteInventory

/-! ## Stretches of a list -/

section
variable {α : Type} {p q : α → Bool}

/-- Dropping the elements of a second kind from a stretch of two kinds leaves a stretch of the
first. -/
theorem filter_takeWhile_or (hdisjoint : ∀ x, p x = true → q x = false) (l : List α) :
    (l.takeWhile fun x => p x || q x).filter p = (l.filter fun x => !q x).takeWhile p := by
  induction l with
  | nil => rfl
  | cons x xs ih =>
    by_cases hp : p x = true
    · have hq := hdisjoint x hp
      simp [hp, hq, ih]
    · by_cases hq : q x = true
      · simp [hp, hq, ih]
      · simp [hp, hq]

/-- In a stretch of two kinds, those of the first kind stand together at the start exactly if none
of them stands behind one of the second. -/
theorem takeWhile_eq_filter_iff (hdisjoint : ∀ x, p x = true → q x = false) {l : List α}
    (hl : ∀ x ∈ l, (p x || q x) = true) :
    l.takeWhile p = l.filter p ↔ l.Pairwise fun x y => q x = true → p y = false := by
  induction l with
  | nil => simp
  | cons x xs ih =>
    have hxs := ih fun y hy => hl y (List.mem_cons_of_mem _ hy)
    by_cases hp : p x = true
    · have hq := hdisjoint x hp
      simp [hp, hq, hxs]
    · have hq : q x = true := by
        have := hl x List.mem_cons_self
        simpa [hp] using this
      rw [List.takeWhile_cons_of_neg hp, List.filter_cons_of_neg hp, List.pairwise_cons, eq_comm,
        List.filter_eq_nil_iff]
      constructor
      · intro hnone
        have hnone' : ∀ y ∈ xs, p y = false := fun y hy => Bool.eq_false_iff.2 (hnone y hy)
        refine ⟨fun y hy _ => hnone' y hy, ?_⟩
        exact List.pairwise_of_forall_mem_list fun _ _ y hy _ => hnone' y hy
      · intro h y hy
        rw [h.1 y hy hq]
        exact Bool.false_ne_true

end

namespace Tree

def isDecorator (t : Tree) : Bool := t.kind == .decorator

def isComment (t : Tree) : Bool := t.kind == .comment

theorem isComment_eq_false {t : Tree} (h : t.isDecorator = true) : t.isComment = false := by
  have hkind : t.kind = .decorator := by simpa [isDecorator] using h
  rw [isComment, hkind]
  rfl

end Tree

namespace Cursor

/-! ## What stands before a declaration -/

/-- The named siblings before a node, in source order. -/
def preceding (c : Cursor) : List Tree :=
  c.above.head?.elim [] fun f => (f.parent.children.take f.index).filter Tree.isNamed

/-- The decorators and comments directly before a node. -/
def run (c : Cursor) : List Tree := c.preceding.rtakeWhile fun t => t.isDecorator || t.isComment

/-- The decorators among the children. -/
def ownDecorators (c : Cursor) : List Tree := c.focus.parts.filter Tree.isDecorator

/-- The decorators of a declaration, wherever comments stand. -/
def attached (c : Cursor) : List Tree := c.run.filter Tree.isDecorator ++ c.ownDecorators

/-- No comment stands behind a decorator, in the run before the node. -/
def Unbroken (c : Cursor) : Prop :=
  c.run.Pairwise fun t u => t.isDecorator = true → u.isComment = false

instance (c : Cursor) : Decidable c.Unbroken := inferInstanceAs (Decidable (List.Pairwise _ _))

/-- Two declarations with the same siblings before them and the same children, comments apart. -/
structure DiffersInComments (c c' : Cursor) : Prop where
  preceding : (c.preceding.filter fun t => !t.isComment) = c'.preceding.filter fun t => !t.isComment
  parts : c.focus.parts = c'.focus.parts

theorem map_focus_earlierSiblings (c : Cursor) :
    c.earlierSiblings.map focus = c.preceding.reverse := by
  obtain ⟨t, above⟩ := c
  cases above with
  | nil => rfl
  | cons f fs =>
    have hfilter : ((⟨f.parent, fs⟩ : Cursor).children.take f.index).filter
          (fun d => d.focus.isNamed) =
        ((⟨f.parent, fs⟩ : Cursor).children.take f.index).filter (Tree.isNamed ∘ focus) := rfl
    rw [earlierSiblings, preceding, List.map_reverse, hfilter, ← List.filter_map, List.map_take,
      map_focus_children]
    rfl

/-- Found are the decorators directly before the node, and those among its children. -/
theorem decoratorNodes_eq (c : Cursor) :
    c.decoratorNodes = c.preceding.rtakeWhile Tree.isDecorator ++ c.ownDecorators := by
  have hbefore : (c.earlierSiblings.takeWhile fun s => s.kind == .decorator).reverse.map focus =
      c.preceding.rtakeWhile Tree.isDecorator := by
    have hmap : (c.earlierSiblings.takeWhile (Tree.isDecorator ∘ focus)).map focus =
        (c.earlierSiblings.map focus).takeWhile Tree.isDecorator := List.takeWhile_map.symm
    rw [List.map_reverse, List.rtakeWhile, ← map_focus_earlierSiblings, ← hmap]
    rfl
  rw [decoratorNodes, hbefore]
  rfl

/-- The run ends where the decorators directly before the node do, or earlier in the source. -/
theorem rtakeWhile_run (c : Cursor) :
    c.run.rtakeWhile Tree.isDecorator = c.preceding.rtakeWhile Tree.isDecorator := by
  rw [run, List.rtakeWhile, List.rtakeWhile, List.rtakeWhile, List.reverse_reverse,
    List.takeWhile_takeWhile]
  congr 2
  funext t
  cases t.isDecorator <;> simp

theorem rtakeWhile_eq_filter_iff (c : Cursor) :
    c.run.rtakeWhile Tree.isDecorator = c.run.filter Tree.isDecorator ↔ c.Unbroken := by
  have hkinds : ∀ t ∈ c.run.reverse, (t.isDecorator || t.isComment) = true := by
    intro t ht
    rw [run, List.rtakeWhile, List.reverse_reverse] at ht
    exact List.mem_takeWhile_imp (p := fun t : Tree => t.isDecorator || t.isComment) ht
  have hpairs := takeWhile_eq_filter_iff (fun _ => Tree.isComment_eq_false) hkinds
  rw [List.filter_reverse, List.pairwise_reverse, ← List.reverse_eq_iff] at hpairs
  rw [List.rtakeWhile, hpairs, Unbroken]
  -- The same said of each pair, seen from its other end.
  have hpair : ∀ t u : Tree, (u.isComment = true → t.isDecorator = false) ↔
      (t.isDecorator = true → u.isComment = false) := by
    intro t u
    cases t.isDecorator <;> cases u.isComment <;> simp
  simp only [hpair]

/-- **Found are all attached decorators exactly if no comment stands behind one of them.** -/
theorem decoratorNodes_eq_attached_iff (c : Cursor) :
    c.decoratorNodes = c.attached ↔ c.Unbroken := by
  rw [decoratorNodes_eq, attached, List.append_left_inj, ← rtakeWhile_run,
    rtakeWhile_eq_filter_iff]

/-- **Comments make no difference to what is attached.** -/
theorem attached_congr {c c' : Cursor} (h : c.DiffersInComments c') : c.attached = c'.attached := by
  have hrun : ∀ c : Cursor, c.run.filter Tree.isDecorator =
      (c.preceding.filter fun t => !t.isComment).rtakeWhile Tree.isDecorator := by
    intro c
    rw [run, List.rtakeWhile, List.rtakeWhile, List.filter_reverse,
      filter_takeWhile_or fun _ => Tree.isComment_eq_false, List.filter_reverse]
  rw [attached, attached, hrun, hrun, h.preceding, ownDecorators, ownDecorators, h.parts]

/-- A declaration in its place among the children of a node. -/
def placed (h : Head) (before : List Tree) (t : Tree) (behind : List Tree) (above : List Frame) :
    Cursor :=
  ⟨t, ⟨.node h (before ++ t :: behind), before.length⟩ :: above⟩

theorem preceding_placed (h : Head) (before : List Tree) (t : Tree) (behind : List Tree)
    (above : List Frame) :
    (placed h before t behind above).preceding = before.filter Tree.isNamed := by
  change ((before ++ t :: behind).take before.length).filter Tree.isNamed = _
  rw [List.take_left]

/-- Comments that are put before a declaration, or taken away there, are the only difference. -/
theorem differsInComments_placed {h : Head} {before before' : List Tree} (t : Tree)
    (behind behind' : List Tree) (above : List Frame)
    (hbefore : (before.filter fun u => !u.isComment) = before'.filter fun u => !u.isComment) :
    (placed h before t behind above).DiffersInComments (placed h before' t behind' above) where
  preceding := by
    rw [preceding_placed, preceding_placed, List.filter_comm, hbefore, List.filter_comm]
  parts := rfl

theorem decoratorNodes_congr_iff {c c' : Cursor} (h : c.DiffersInComments c') (hc : c.Unbroken) :
    c'.decoratorNodes = c.decoratorNodes ↔ c'.Unbroken := by
  rw [(decoratorNodes_eq_attached_iff c).2 hc, attached_congr h, decoratorNodes_eq_attached_iff]

theorem decorators_congr {c c' : Cursor} (h : c.DiffersInComments c') (hc : c.Unbroken)
    (hc' : c'.Unbroken) : c.decorators = c'.decorators := by
  rw [decorators, decorators, (decoratorNodes_congr_iff h hc).2 hc']

end Cursor

/-! ## Routes -/

/-- What the decorators of a method say about its route: verb and path; they also hold the guards
and the public marks. -/
def ControllerRoute.told (r : ControllerRoute) : Method × String × List Decorator :=
  (r.method, r.path, r.decorators)

/-- What decorators tell about a route. -/
def Decorator.tell (mount : String) (ds : List Decorator) : Option (Method × String × List Decorator) :=
  (ds.findSome? fun d => (Method.ofDecorator? d.name).map fun m => (m, d)).map fun (verb, d) =>
    (verb, RoutePath.join [mount, d.path], ds)

theorem ControllerReader.told_route? (r : ControllerReader) (file : SourceFile) (mount : String)
    (method : Cursor) (m : Memo) :
    ((r.route? file mount method).run m).1.map ControllerRoute.told =
      Decorator.tell mount method.decorators := by
  unfold route? Decorator.tell
  dsimp only
  split
  · rename_i hnone
    rw [hnone]
    rfl
  · rename_i verb d hsome
    rw [hsome]
    split
    · rfl
    · rfl

/-- **Comments between decorators matter exactly where one stands behind a decorator of the run
before a declaration.**  Then the decorators before the last comment are lost; otherwise all that
are attached are found, so that removing or inserting comments changes neither the decorators of a
declaration nor verb, path, guards and public marks of its route. -/
theorem decorators_found_iff_unbroken (c : Cursor) :
    c.decoratorNodes = c.run.rtakeWhile Tree.isDecorator ++ c.ownDecorators ∧
    (c.decoratorNodes = c.attached ↔ c.Unbroken) ∧
    ∀ c', c.DiffersInComments c' →
      c.attached = c'.attached ∧
      (c.Unbroken → (c'.decoratorNodes = c.decoratorNodes ↔ c'.Unbroken)) ∧
      (c.Unbroken → c'.Unbroken → c.decorators = c'.decorators ∧
        ∀ (r : ControllerReader) (file file' : SourceFile) (mount : String) (m m' : Memo),
          ((r.route? file mount c).run m).1.map ControllerRoute.told =
            ((r.route? file' mount c').run m').1.map ControllerRoute.told) := by
  refine ⟨?_, Cursor.decoratorNodes_eq_attached_iff c, fun c' h => ⟨Cursor.attached_congr h,
    Cursor.decoratorNodes_congr_iff h, fun hc hc' => ?_⟩⟩
  · rw [Cursor.rtakeWhile_run, Cursor.decoratorNodes_eq]
  · have hsame := Cursor.decorators_congr h hc hc'
    refine ⟨hsame, fun r file file' mount m m' => ?_⟩
    rw [ControllerReader.told_route?, ControllerReader.told_route?, hsame]

namespace GuardedMethod

open RouteInventory.Tree (sketch)

/-- A method behind a guard and a verb, with comments where they are given. -/
def behind (before : List Tree) : Cursor :=
  .placed ⟨.classBody, none, ⟨0, 0, 1, 1⟩, ""⟩ before (sketch .methodDefinition "list()" []) [] []

def guard : Tree := sketch .decorator "@UseGuards(TokenGuard)" []

def verb : Tree := sketch .decorator "@Get()" []

def remark : Tree := sketch .comment "// administrators only" []

/-- A comment before the decorators changes nothing; between them it takes the guard away. -/
theorem guard_lost_behind_remark :
    (behind [remark, guard, verb]).Unbroken ∧
      (behind [remark, guard, verb]).decoratorNodes = (behind [guard, verb]).decoratorNodes ∧
      (behind [guard, remark, verb]).decoratorNodes ≠ (behind [guard, verb]).decoratorNodes := by
  have hplain : (behind [guard, verb]).Unbroken := by decide
  have hbefore : (behind [remark, guard, verb]).Unbroken := by decide
  have hbetween : ¬ (behind [guard, remark, verb]).Unbroken := by decide
  have hfound := (decorators_found_iff_unbroken (behind [guard, verb])).2.2
  refine ⟨hbefore, ((hfound _ ?_).2.1 hplain).2 hbefore, mt ((hfound _ ?_).2.1 hplain).1 hbetween⟩
  · exact Cursor.differsInComments_placed _ _ _ _ rfl
  · exact Cursor.differsInComments_placed _ _ _ _ rfl

end GuardedMethod

end RouteInventory
