import Mathlib
import RouteInventory.Proofs.ParameterScopes
import RouteInventory.Shape.Infer

/-!
# When the memory of a typer does not show

A typer follows expressions for a fixed number of levels and remembers the shape of every node that
it has met.  The two do not go together: a node that is met deep down is remembered with the shape
that the remaining levels allow, and whoever asks for it later is given that shape.

`Typer.DrawsOn` relates an expression to the nodes that its shape may depend on, and
`Typer.settles` says that the levels suffice for all of them.  Two questions can disturb each other
only if they draw on a common node and one of them is cut off.

* `inferAt_frame`, `inferAt_keeps`, `inferAt_congr` — the memory is read and changed only at nodes
  that the expression draws on, and what is remembered is not replaced.
* `inferAt_settled` — an expression that is not cut off has the shape that it has without any
  memory, as long as what is remembered about the nodes it draws on is right.
* `answers_eq_alone` — questions of which no two disturb each other are answered as if each were
  the only one.
* `CutOff.answers_differ` — two questions that are not.
-/

namespace RouteInventory

namespace Memo

theorem get?_nil (path : List Nat) : Memo.get? [] path = none := rfl

theorem get?_cons (m : Memo) (path path' : List Nat) (s : Shape) :
    Memo.get? ((path, s) :: m) path' = if path = path' then some s else m.get? path' := by
  unfold get?
  rw [List.find?_cons]
  by_cases h : path = path'
  · simp [h]
  · rw [beq_eq_false_iff_ne.2 h, if_neg h]

end Memo

namespace Typer

/-! ## Runs over several nodes -/

section

variable {α β : Type} {f : α → Typing β}

theorem mapM_nil_run (m : Memo) : ([] : List α).mapM f m = ([], m) := by
  rw [List.mapM_nil]
  rfl

theorem mapM_cons_run (c : α) (cs : List α) (m : Memo) :
    (c :: cs).mapM f m =
      ((f c m).1 :: (cs.mapM f (f c m).2).1, (cs.mapM f (f c m).2).2) := by
  rw [List.mapM_cons]
  rfl

/-- What each run preserves, all of them do, and what holds of each answer holds of all. -/
theorem mapM_preserves {P : Memo → Prop} {Q : α → β → Prop} (cs : List α)
    (h : ∀ c ∈ cs, ∀ m, P m → P (f c m).2 ∧ Q c (f c m).1) :
    ∀ m, P m → P (cs.mapM f m).2 ∧ List.Forall₂ Q cs (cs.mapM f m).1 := by
  induction cs with
  | nil =>
    intro m hm
    rw [mapM_nil_run]
    exact ⟨hm, .nil⟩
  | cons c cs ih =>
    intro m hm
    obtain ⟨hfirst, hanswer⟩ := h c List.mem_cons_self m hm
    obtain ⟨hrest, hanswers⟩ := ih (fun d hd => h d (List.mem_cons_of_mem _ hd)) _ hfirst
    rw [mapM_cons_run]
    exact ⟨hrest, .cons hanswer hanswers⟩

/-- Memories that no run tells apart are not told apart by all of them. -/
theorem mapM_congr_run {R : Memo → Memo → Prop} (cs : List α)
    (h : ∀ c ∈ cs, ∀ m m', R m m' → (f c m).1 = (f c m').1 ∧ R (f c m).2 (f c m').2) :
    ∀ m m', R m m' → (cs.mapM f m).1 = (cs.mapM f m').1 ∧ R (cs.mapM f m).2 (cs.mapM f m').2 := by
  induction cs with
  | nil =>
    intro m m' hm
    rw [mapM_nil_run, mapM_nil_run]
    exact ⟨rfl, hm⟩
  | cons c cs ih =>
    intro m m' hm
    obtain ⟨hanswer, hfirst⟩ := h c List.mem_cons_self m m' hm
    obtain ⟨hanswers, hrest⟩ := ih (fun d hd => h d (List.mem_cons_of_mem _ hd)) _ _ hfirst
    rw [mapM_cons_run, mapM_cons_run, hanswer, hanswers]
    exact ⟨rfl, hrest⟩

end

/-! ## What an expression draws on -/

variable {t : Typer} {n k : Nat} {c d e : Cursor} {m m' : Memo}

/-- The expression asks for the shape of the node, parentheses aside. -/
def Asks (t : Typer) (c d : Cursor) : Prop := ∃ e ∈ (t.recipe c).asks, e.unwrapped = d

/-- The shape of the expression may depend on that of the node. -/
def DrawsOn (t : Typer) (c d : Cursor) : Prop := Relation.ReflTransGen t.Asks c.unwrapped d

theorem drawsOn_self (t : Typer) (c : Cursor) : t.DrawsOn c c.unwrapped := .refl

theorem DrawsOn.of_asks (he : e ∈ (t.recipe c.unwrapped).asks) (h : t.DrawsOn e d) :
    t.DrawsOn c d :=
  .head ⟨e, he, rfl⟩ h

theorem get_bind_run {α : Type} (f : Memo → Typing α) (m : Memo) :
    ((get : Typing Memo) >>= f) m = f m m := rfl

theorem inferAt_of_some {s : Shape} (h : m.get? c.unwrapped.path = some s) :
    t.inferAt (n + 1) c m = (s, m) := by
  rw [inferAt, get_bind_run, h]
  rfl

theorem inferAt_of_none (h : m.get? c.unwrapped.path = none) :
    t.inferAt (n + 1) c m =
      ((t.recipe c.unwrapped).make ((t.recipe c.unwrapped).asks.mapM (t.inferAt n) m).1,
        (c.unwrapped.path,
          (t.recipe c.unwrapped).make ((t.recipe c.unwrapped).asks.mapM (t.inferAt n) m).1) ::
            ((t.recipe c.unwrapped).asks.mapM (t.inferAt n) m).2) := by
  rw [inferAt, get_bind_run, h]
  rfl

/-- Only what is remembered about nodes that the expression draws on can change. -/
theorem inferAt_frame (path : List Nat) :
    ∀ (n : Nat) (c : Cursor), (∀ d, t.DrawsOn c d → d.path ≠ path) →
      ∀ m, (t.inferAt n c m).2.get? path = m.get? path := by
  intro n
  induction n with
  | zero => intro c _ m; rfl
  | succ n ih =>
    intro c hc m
    cases hget : m.get? c.unwrapped.path with
    | some s => rw [inferAt_of_some hget]
    | none =>
      have hasked := mapM_preserves (P := fun m₁ => m₁.get? path = m.get? path)
        (Q := fun _ _ => True) (t.recipe c.unwrapped).asks (f := t.inferAt n)
        (fun e he m₁ hm₁ =>
          ⟨(ih e (fun d hd => hc d (.of_asks he hd)) m₁).trans hm₁, trivial⟩) m rfl
      rw [inferAt_of_none hget, Memo.get?_cons, if_neg (hc _ (t.drawsOn_self c)), hasked.1]

/-- What is remembered stays as it is. -/
theorem inferAt_keeps {path : List Nat} {s : Shape} :
    ∀ (n : Nat) (c : Cursor) (m : Memo), m.get? path = some s →
      (t.inferAt n c m).2.get? path = some s := by
  intro n
  induction n with
  | zero => intro c m hm; exact hm
  | succ n ih =>
    intro c m hm
    cases hget : m.get? c.unwrapped.path with
    | some s' => rw [inferAt_of_some hget]; exact hm
    | none =>
      have hasked := mapM_preserves (P := fun m₁ => m₁.get? path = some s) (Q := fun _ _ => True)
        (t.recipe c.unwrapped).asks (f := t.inferAt n)
        (fun e _ m₁ hm₁ => ⟨ih e m₁ hm₁, trivial⟩) m hm
      have hne : c.unwrapped.path ≠ path := by
        rintro rfl
        rw [hget] at hm
        cases hm
      rw [inferAt_of_none hget, Memo.get?_cons, if_neg hne, hasked.1]

/-- Memories that agree on what the expression draws on are not told apart. -/
theorem inferAt_congr {S : Set (List Nat)} :
    ∀ (n : Nat) (c : Cursor), (∀ d, t.DrawsOn c d → d.path ∈ S) →
      ∀ m m', (∀ path ∈ S, m.get? path = m'.get? path) →
        (t.inferAt n c m).1 = (t.inferAt n c m').1 ∧
          ∀ path ∈ S, (t.inferAt n c m).2.get? path = (t.inferAt n c m').2.get? path := by
  intro n
  induction n with
  | zero => intro c _ m m' hm; exact ⟨rfl, hm⟩
  | succ n ih =>
    intro c hc m m' hm
    have hroot := hm _ (hc _ (t.drawsOn_self c))
    cases hget : m.get? c.unwrapped.path with
    | some s =>
      rw [inferAt_of_some hget, inferAt_of_some (hroot ▸ hget)]
      exact ⟨rfl, hm⟩
    | none =>
      obtain ⟨hanswers, hmemory⟩ := mapM_congr_run
        (R := fun m₁ m₂ => ∀ path ∈ S, m₁.get? path = m₂.get? path)
        (t.recipe c.unwrapped).asks
        (fun e he m₁ m₂ h₁₂ => ih e (fun d hd => hc d (.of_asks he hd)) m₁ m₂ h₁₂) m m' hm
      rw [inferAt_of_none hget, inferAt_of_none (hroot ▸ hget), hanswers]
      refine ⟨rfl, fun path hpath => ?_⟩
      rw [Memo.get?_cons, Memo.get?_cons, hmemory path hpath]

/-! ## Expressions that are not cut off -/

/-- With `n` levels to go the expression is followed to its ends. -/
def settles (t : Typer) : Nat → Cursor → Bool
  | 0, _ => false
  | n + 1, c => (t.recipe c.unwrapped).asks.all (settles t n)

/-- The shape of an expression with `n` levels to go, nothing being remembered. -/
def plainAt (t : Typer) : Nat → Cursor → Shape
  | 0, _ => .unknown
  | n + 1, c => (t.recipe c.unwrapped).make ((t.recipe c.unwrapped).asks.map (plainAt t n))

theorem settles_succ :
    t.settles (n + 1) c = true ↔ ∀ e ∈ (t.recipe c.unwrapped).asks, t.settles n e = true :=
  List.all_eq_true

/-- Once the levels suffice, more of them make no difference. -/
theorem plainAt_of_settles (hn : t.settles n c = true) (hk : t.settles k c = true) :
    t.plainAt n c = t.plainAt k c := by
  induction n generalizing k c with
  | zero => cases hn
  | succ n ih =>
    cases k with
    | zero => cases hk
    | succ k =>
      have hasked : (t.recipe c.unwrapped).asks.map (t.plainAt n) =
          (t.recipe c.unwrapped).asks.map (t.plainAt k) :=
        List.map_congr_left fun e he => ih (settles_succ.1 hn e he) (settles_succ.1 hk e he)
      rw [plainAt, plainAt, hasked]

/-- The shape that an expression has if it is followed to its ends. -/
def HasShape (t : Typer) (c : Cursor) (s : Shape) : Prop :=
  ∃ n, t.settles n c = true ∧ t.plainAt n c = s

theorem hasShape_unwrapped {s : Shape} : t.HasShape c.unwrapped s ↔ t.HasShape c s := by
  have hsame : ∀ n, t.settles n c.unwrapped = t.settles n c ∧
      t.plainAt n c.unwrapped = t.plainAt n c := by
    intro n
    cases n with
    | zero => exact ⟨rfl, rfl⟩
    | succ n => simp only [settles, plainAt, Cursor.unwrapped_unwrapped, and_self]
  unfold HasShape
  simp only [hsame]

/-- What is remembered about the nodes is right. -/
def Sound (t : Typer) (nodes : Set Cursor) (m : Memo) : Prop :=
  ∀ d ∈ nodes, ∀ s, m.get? d.path = some s → t.HasShape d s

/-- **An expression that is not cut off has its own shape, and keeps the memory sound.** -/
theorem inferAt_settled {nodes : Set Cursor} (hpath : Set.InjOn Cursor.path nodes) :
    ∀ (n : Nat) (c : Cursor), (∀ d, t.DrawsOn c d → d ∈ nodes) → t.settles n c = true →
      ∀ m, t.Sound nodes m →
        t.Sound nodes (t.inferAt n c m).2 ∧ (t.inferAt n c m).1 = t.plainAt n c := by
  intro n
  induction n with
  | zero => intro c _ hsettles; cases hsettles
  | succ n ih =>
    intro c hc hsettles m hm
    cases hget : m.get? c.unwrapped.path with
    | some s =>
      obtain ⟨k, hk, rfl⟩ := hasShape_unwrapped.1 (hm _ (hc _ (t.drawsOn_self c)) s hget)
      rw [inferAt_of_some hget]
      exact ⟨hm, plainAt_of_settles hk hsettles⟩
    | none =>
      obtain ⟨hsound, hanswers⟩ := mapM_preserves (P := t.Sound nodes)
        (Q := fun e s => t.plainAt n e = s) (t.recipe c.unwrapped).asks
        (fun e he m₁ hm₁ =>
          (ih e (fun d hd => hc d (.of_asks he hd)) (settles_succ.1 hsettles e he) m₁ hm₁).imp id
            Eq.symm) m hm
      have hshapes : (t.recipe c.unwrapped).asks.map (t.plainAt n) =
          ((t.recipe c.unwrapped).asks.mapM (t.inferAt n) m).1 := by
        rw [← List.forall₂_eq_eq_eq]
        exact List.forall₂_map_left_iff.2 hanswers
      rw [inferAt_of_none hget, ← hshapes]
      refine ⟨fun d hd s hs => ?_, rfl⟩
      rw [Memo.get?_cons] at hs
      split at hs
      · rename_i heq
        cases hs
        rw [← hpath (hc _ (t.drawsOn_self c)) hd heq]
        exact hasShape_unwrapped.2 ⟨n + 1, hsettles, rfl⟩
      · exact hsound d hd s hs

/-! ## Nodes of the file -/

section
variable {K : Cursor → Prop}

/-- What a name is bound to belongs to the tree. -/
theorem shared_of_binding (hK : Cursor.Shared K) {name : String} {b : Binding} (hc : K c)
    (h : c.binding? name = some b) : K b.node := by
  obtain ⟨scope, hscope, hin⟩ := List.exists_of_findSome?_eq_some h
  exact hK.descends (hK.ancestor hc hscope) (Cursor.descends_node hin)

theorem mem_asks_ofNode {o : Option Cursor} {make : Shape → Shape} :
    e ∈ (Recipe.ofNode o make).asks ↔ o = some e :=
  Option.mem_toList

theorem shared_of_firstPart (hK : Cursor.Shared K) (hc : K c) (he : c.firstPart? = some e) : K e :=
  hK.part hc (List.mem_of_mem_head? he)

theorem shared_of_entryValue (hK : Cursor.Shared K) (hc : K c)
    (he : entryValue? c = some e) : K e := by
  unfold entryValue? at he
  split at he
  · split at he
    · exact hK.role hc he
    · cases he
  · cases he
    exact hc
  · exact shared_of_firstPart hK hc he
  · cases he

theorem shared_of_name (hK : Cursor.Shared K) (hc : K c)
    (he : e ∈ (t.nameRecipe c).asks) : K e := by
  unfold nameRecipe at he
  split at he
  · cases he
  · split at he
    · rename_i v hv
      split at he
      · cases he
      · exact hK.role (shared_of_binding hK hc hv) (mem_asks_ofNode.1 he)
    · cases he
    · cases he
    · cases he

theorem shared_of_binary (hK : Cursor.Shared K) (hc : K c)
    (he : e ∈ (binaryRecipe c).asks) : K e := by
  unfold binaryRecipe at he
  split at he
  · rename_i l r hl hr
    have hboth : e ∈ [l, r] → K e := by
      intro h
      rcases List.mem_pair.1 h with rfl | rfl
      · exact hK.role hc hl
      · exact hK.role hc hr
    split at he
    · cases he
    · cases he
    · exact hboth he
    · exact hboth he
    · cases mem_asks_ofNode.1 he
      exact hK.role hc hr
    · cases he
  · cases he

/-- An expression asks for nodes of its own file only. -/
theorem shared_of_asks (hK : Cursor.Shared K) (hc : K c)
    (he : e ∈ (t.recipe c).asks) : K e := by
  unfold recipe at he
  split at he
  · obtain ⟨entry, hentry, hvalue⟩ := List.mem_filterMap.1 he
    exact shared_of_entryValue hK (hK.part hc (List.mem_filter.1 hentry).1) hvalue
  · exact hK.part hc (List.mem_filter.1 he).1
  · cases he
  · cases he
  · cases he
  · cases he
  · cases he
  · cases he
  · cases he
  · exact shared_of_name hK hc he
  · exact shared_of_name hK hc he
  · exact shared_of_firstPart hK hc (mem_asks_ofNode.1 he)
  · split at he
    · cases he
    · exact shared_of_firstPart hK hc (mem_asks_ofNode.1 he)
  · exact shared_of_firstPart hK hc (mem_asks_ofNode.1 he)
  · cases he
  · cases he
  · obtain ⟨branch, hbranch, heq⟩ := List.mem_filterMap.1 he
    cases heq
    rcases List.mem_pair.1 hbranch with h | h
    · exact hK.role hc h.symm
    · exact hK.role hc h.symm
  · exact shared_of_binary hK hc he
  · cases he
  · split at he
    · rename_i object property hobject hproperty
      cases mem_asks_ofNode.1 he
      exact hK.role hc hobject
    · cases he
  · cases he

theorem shared_unwrapped (hK : Cursor.Shared K) (hc : K c) : K c.unwrapped :=
  hK.descends hc (Cursor.Contains.of_wraps (Cursor.wraps_unwrapped c)).descends

end

theorem DrawsOn.descends {root : Tree} (h : t.DrawsOn c d)
    (hc : (Cursor.ofTree root).Descends c) : (Cursor.ofTree root).Descends d := by
  have hK := Cursor.shared_descends root
  induction h with
  | refl => exact shared_unwrapped hK hc
  | tail _ hasks ih =>
    obtain ⟨e, he, rfl⟩ := hasks
    exact shared_unwrapped hK (shared_of_asks hK ih he)

/-! ## Questions -/

/-- What can be asked about an expression. -/
inductive Query where
  | shape (node : Cursor)
  | response (node : Cursor)

namespace Query

/-- The expression that is asked about. -/
def node : Query → Cursor
  | shape c => c
  | response c => c

/-- What is made of the expression's shape. -/
def finish : Query → Shape → Shape
  | shape _, s => s
  | response _, s => s.delivered

end Query

/-- The answer to a question, with the memory handed on. -/
def answer (t : Typer) : Query → Typing Shape
  | .shape c => t.infer c
  | .response c => t.inferResponse c

/-- The answers to questions that are asked one after another, nothing being remembered at first. -/
def answers (t : Typer) (qs : List Query) : List Shape := (qs.mapM t.answer []).1

/-- The answer to a question when nothing is remembered. -/
def answerAlone (t : Typer) (q : Query) : Shape := (t.answer q []).1

theorem answer_run (t : Typer) (q : Query) (m : Memo) :
    t.answer q m = (q.finish (t.infer q.node m).1, (t.infer q.node m).2) := by
  cases q <;> rfl

/-- Whichever is asked first, the other question is not disturbed: they are about the same node, or
draw on nothing in common, or neither is cut off. -/
def Undisturbed (t : Typer) (q q' : Query) : Prop :=
  q.node.unwrapped = q'.node.unwrapped ∨
    (∀ d, t.DrawsOn q.node d → ¬ t.DrawsOn q'.node d) ∨
    (t.settles maxDepth q.node = true ∧ t.settles maxDepth q'.node = true)

/-- What is remembered does not show in the shape of the expression: either that is remembered
itself, or all that is remembered about the nodes it draws on is right, and is nothing if the
expression is cut off. -/
def Ready (t : Typer) (m : Memo) (c : Cursor) : Prop :=
  m.get? c.unwrapped.path = some (t.infer c []).1 ∨
    ∀ d, t.DrawsOn c d → ∀ s, m.get? d.path = some s →
      t.settles maxDepth c = true ∧ t.HasShape d s

theorem ready_nil (t : Typer) (c : Cursor) : t.Ready [] c := by
  refine Or.inr fun d _ s hs => ?_
  cases hs

/-- The nodes that the expression draws on. -/
def drawn (t : Typer) (c : Cursor) : Set Cursor := { d | t.DrawsOn c d }

theorem injOn_path_drawn (hc : t.file.root.Descends c) : Set.InjOn Cursor.path (t.drawn c) := by
  intro d hd e he hpath
  exact (DrawsOn.descends hd hc).eq_of_path_eq (DrawsOn.descends he hc) hpath

theorem infer_of_ready (hc : t.file.root.Descends c) (h : t.Ready m c) :
    (t.infer c m).1 = (t.infer c []).1 := by
  rcases h with hself | hrest
  · have hhit : t.infer c m = ((t.infer c []).1, m) := inferAt_of_some hself
    rw [hhit]
  · by_cases hsettles : t.settles maxDepth c = true
    · have hplain := fun m' hm' => (inferAt_settled (injOn_path_drawn hc) maxDepth c
        (fun d hd => hd) hsettles m' hm').2
      have hnothing : t.Sound (t.drawn c) [] := by
        intro d _ s hs
        cases hs
      have hsound : t.Sound (t.drawn c) m := fun d hd s hs => (hrest d hd s hs).2
      exact (hplain m hsound).trans (hplain [] hnothing).symm
    · refine (inferAt_congr (S := Cursor.path '' t.drawn c) maxDepth c
        (fun d hd => ⟨d, hd, rfl⟩) m [] ?_).1
      rintro _ ⟨d, hd, rfl⟩
      rw [Memo.get?_nil, Option.eq_none_iff_forall_ne_some]
      intro s hs
      exact hsettles (hrest d hd s hs).1

theorem infer_eq (t : Typer) (c : Cursor) : t.infer c = t.inferAt (maxDepth - 1 + 1) c := rfl

theorem infer_eq_of_unwrapped (h : c.unwrapped = d.unwrapped) : t.infer c = t.infer d := by
  rw [infer_eq, infer_eq, inferAt, inferAt, h]

/-- After the first question its node is remembered with the answer. -/
theorem get?_infer (t : Typer) (c : Cursor) (m : Memo) :
    (t.infer c m).2.get? c.unwrapped.path = some (t.infer c m).1 := by
  rw [infer_eq]
  cases hget : m.get? c.unwrapped.path with
  | some s => rw [inferAt_of_some hget, hget]
  | none => rw [inferAt_of_none hget, Memo.get?_cons, if_pos rfl]

/-- A question leaves the memory ready for every other that it does not disturb. -/
theorem ready_after {q q' : Query} (hq : t.file.root.Descends q.node)
    (hq' : t.file.root.Descends q'.node) (hpair : t.Undisturbed q q') (h : t.Ready m q.node)
    (h' : t.Ready m q'.node) : t.Ready (t.infer q.node m).2 q'.node := by
  rcases h' with hself' | hrest'
  · exact Or.inl (inferAt_keeps _ _ _ hself')
  -- a node that the first question does not draw on is remembered as before
  have hframe : ∀ d, t.DrawsOn q'.node d → ¬ t.DrawsOn q.node d →
      (t.infer q.node m).2.get? d.path = m.get? d.path := by
    intro d hd hout
    refine inferAt_frame d.path _ _ (fun e he hpath => hout ?_) m
    rwa [← (DrawsOn.descends he hq).eq_of_path_eq (DrawsOn.descends hd hq') hpath]
  rcases hpair with hsame | hapart | ⟨hsettles, hsettles'⟩
  · left
    rw [← hsame, get?_infer, infer_of_ready hq h, infer_eq_of_unwrapped hsame]
  · right
    intro d hd s hs
    rw [hframe d hd fun hin => hapart d hin hd] at hs
    exact hrest' d hd s hs
  · right
    rcases h with hself | hrest
    · have hhit : t.infer q.node m = ((t.infer q.node []).1, m) := inferAt_of_some hself
      rw [hhit]
      exact hrest'
    · intro d hd s hs
      refine ⟨hsettles', ?_⟩
      by_cases hin : t.DrawsOn q.node d
      · have hsound := (inferAt_settled (injOn_path_drawn hq) maxDepth q.node (fun e he => he)
          hsettles m fun e he s hs => (hrest e he s hs).2).1
        exact hsound d hin s hs
      · rw [hframe d hd hin] at hs
        exact (hrest' d hd s hs).2

theorem answers_of_ready :
    ∀ (qs : List Query) (m : Memo), (∀ q ∈ qs, t.file.root.Descends q.node) →
      qs.Pairwise t.Undisturbed → (∀ q ∈ qs, t.Ready m q.node) →
        (qs.mapM t.answer m).1 = qs.map t.answerAlone := by
  intro qs
  induction qs with
  | nil => intro m _ _ _; rw [List.mapM_nil]; rfl
  | cons q qs ih =>
    intro m hfile hpairs hready
    obtain ⟨hfirst, hrest⟩ := List.pairwise_cons.1 hpairs
    have hq := hfile q List.mem_cons_self
    have hanswer : (t.answer q m).1 = t.answerAlone q := by
      rw [answerAlone, answer_run, answer_run, infer_of_ready hq (hready q List.mem_cons_self)]
    have hothers : ∀ q' ∈ qs, t.Ready (t.answer q m).2 q'.node := by
      intro q' hq'
      rw [answer_run]
      exact ready_after hq (hfile q' (List.mem_cons_of_mem _ hq')) (hfirst q' hq')
        (hready q List.mem_cons_self) (hready q' (List.mem_cons_of_mem _ hq'))
    have hanswers := ih (t.answer q m).2 (fun q' hq' => hfile q' (List.mem_cons_of_mem _ hq')) hrest
      hothers
    rw [List.map_cons, ← hanswer, ← hanswers, List.mapM_cons]
    rfl

/-- **Questions of which no two disturb each other are answered as if each were the only one.**
They may be about the same node, or about nodes that draw on nothing in common; where they do draw
on a common node, both have to be followed to their ends. -/
theorem answers_eq_alone (t : Typer) (qs : List Query)
    (hfile : ∀ q ∈ qs, t.file.root.Descends q.node) (hpairs : qs.Pairwise t.Undisturbed) :
    t.answers qs = qs.map t.answerAlone :=
  answers_of_ready qs [] hfile hpairs fun q _ => ready_nil t q.node

end Typer

/-! ## A question that is cut off -/

namespace CutOff

open RouteInventory.Tree (sketch)

/-- `[1]` behind `n` times `await`. -/
def awaited : Nat → Tree
  | 0 => sketch .array "" [sketch .number "" []]
  | n + 1 => sketch .awaitExpression "" [awaited n]

/-- A file that holds nothing else. -/
def file (n : Nat) : SourceFile :=
  ⟨⟨true, ["app", "a.ts"]⟩, "a.ts", awaited n, ⟨[], [], []⟩⟩

def typer (n : Nat) : Typer := ⟨.empty ⟨true, ["app"]⟩, file n⟩

/-- The node that stands behind the first `n` times `await`. -/
def behind (n : Nat) : Nat → Cursor
  | 0 => (file n).root
  | k + 1 => (behind n k).firstPart?.getD (file n).root

theorem descends_behind (n k : Nat) : (file n).root.Descends (behind n k) := by
  induction k with
  | zero => exact .refl
  | succ k ih =>
    rw [behind]
    cases hfirst : (behind n k).firstPart? with
    | none => exact .refl
    | some c => exact ih.part (List.mem_of_mem_head? hfirst)

/-- Seven levels of `await` are not too many: the array has its shape after the whole was asked for,
and the whole has its shape after the array. -/
theorem answers_behind_seven :
    ((typer 7).settles Typer.maxDepth (behind 7 0) = true ∧
      (typer 7).settles Typer.maxDepth (behind 7 7) = true) ∧
    (typer 7).answers [.response (behind 7 0), .shape (behind 7 7), .shape (behind 7 0)] =
      [.response (behind 7 0), .shape (behind 7 7), .shape (behind 7 0)].map
        (typer 7).answerAlone := by
  have hwhole : (typer 7).settles Typer.maxDepth (behind 7 0) = true := by decide
  have harray : (typer 7).settles Typer.maxDepth (behind 7 7) = true := by decide
  refine ⟨⟨hwhole, harray⟩, Typer.answers_eq_alone _ _ ?_ ?_⟩
  · intro q hq
    simp only [List.mem_cons, List.not_mem_nil, or_false] at hq
    rcases hq with rfl | rfl | rfl
    · exact descends_behind 7 0
    · exact descends_behind 7 7
    · exact descends_behind 7 0
  · simp only [List.pairwise_cons, List.mem_cons, List.not_mem_nil, or_false, forall_eq_or_imp,
      forall_eq, IsEmpty.forall_iff, implies_true, List.Pairwise.nil, and_true]
    exact ⟨⟨.inr (.inr ⟨hwhole, harray⟩), .inl rfl⟩, .inr (.inr ⟨harray, hwhole⟩)⟩

/-- With eight the whole is cut off at the number, and the array is remembered without it. -/
theorem answers_differ :
    (typer 8).answers [.shape (behind 8 0), .shape (behind 8 8)] ≠
      [.shape (behind 8 0), .shape (behind 8 8)].map (typer 8).answerAlone := by
  decide

end CutOff

end RouteInventory
