import RouteInventory.Proofs.ChainLogic

/-!
# Every rule of the grammar keeps the form

The rules that build a template, a call, a member, a pair of parentheses or a recorded declaration
are looked at one by one; for all others instance search follows the definition.  What stands in
parentheses is a single node, which is why expressions are also shown to be read as at most one, and
what a call or a member is put around begins where it does, which is why chains are followed from
the index where they begin.
-/

namespace RouteInventory

namespace Grammar

/-! ## Templates -/

/-- The pieces of a template. -/
def Pieces (hole : Kind) (ts : List Tree) : Prop :=
  AllFormed ts ∧ ∀ t ∈ ts, t.kind = .stringFragment ∨ t.kind = .escapeSequence ∨ t.kind = hole

section
variable {P : List Tree → Prop} {hole k : Kind} {inner : Rule}

theorem Pieces.append {ts us : List Tree} (hts : Pieces hole ts) (hus : Pieces hole us) :
    Pieces hole (ts ++ us) :=
  ⟨Additive.append hts.1 hus.1, List.forall_mem_append.2 ⟨hts.2, hus.2⟩⟩

theorem allFormed_pieceOf (src : Source) (k : Kind) (start stop : Nat) :
    AllFormed (pieceOf src k start stop) := by
  unfold pieceOf
  split
  · exact .singleton (Tree.admits_nil _) (Tree.level_nil _) Additive.nil
  · exact Additive.nil

theorem kind_of_mem_pieceOf {src : Source} {k : Kind} {start stop : Nat} {t : Tree}
    (ht : t ∈ pieceOf src k start stop) : t.kind = k := by
  unfold pieceOf at ht
  split at ht
  · rw [List.mem_singleton.1 ht]
    rfl
  · cases ht

theorem pieces_pieceOf (src : Source) {k : Kind} (start stop : Nat)
    (hk : k = .stringFragment ∨ k = .escapeSequence) : Pieces hole (pieceOf src k start stop) := by
  refine ⟨allFormed_pieceOf src k start stop, fun t ht => ?_⟩
  rw [kind_of_mem_pieceOf ht]
  exact hk.imp_right .inl

theorem pieces_templateRest [hin : Yields AllFormed inner] (hhole : hole.isRestricted = false)
    {table : Goal → Base (List Tree)} (htable : Respects table) {setting : Setting}
    (n start i : Nat) {s s' : State} {pieces : List Tree} {stop : Nat}
    (h : templateRest hole inner n start i table setting s = some ((pieces, stop), s')) :
    Pieces hole pieces := by
  induction n generalizing start i s pieces stop s' with
  | zero => cases h
  | succ n ih =>
    rw [templateRest] at h
    obtain ⟨src, s₁, -, h⟩ := bind_eq_some h
    have hplain : Pieces hole (pieceOf src .stringFragment start i) :=
      pieces_pieceOf src start i (.inl rfl)
    -- The template ends, or an escape, a hole or a plain character comes next.
    split at h
    · cases h
    · cases pure_eq_some h
      exact hplain
    · obtain ⟨⟨rest, last⟩, s₂, hrest, h⟩ := bind_eq_some h
      cases pure_eq_some h
      exact (hplain.append (pieces_pieceOf src i _ (.inr rfl))).append (ih _ _ hrest)
    · split at h
      · obtain ⟨_, s₂, -, h⟩ := bind_eq_some h
        obtain ⟨ts, s₃, hts, h⟩ := bind_eq_some h
        obtain ⟨stop', s₄, -, h⟩ := bind_eq_some h
        obtain ⟨c, s₅, -, h⟩ := bind_eq_some h
        split at h
        · obtain ⟨_, s₆, hfail, -⟩ := bind_eq_some h
          cases hfail
        · obtain ⟨⟨rest, last⟩, s₆, hrest, h⟩ := bind_eq_some h
          cases pure_eq_some h
          obtain ⟨hrest, hkinds⟩ := ih _ _ hrest
          have hhere : Tree.Formed
              (.node ⟨hole, none, src.span i (stop' + 1), src.slice i (stop' + 1)⟩ ts) :=
            .node (Tree.admits_of_not_restricted hhole _)
              (Tree.level_of_not_isLink (Kind.not_isLink_of_not_isRestricted hhole) _)
              (hin.reads htable hts)
          exact hplain.append ⟨List.forall_mem_cons.2 ⟨hhere, hrest⟩,
            List.forall_mem_cons.2 ⟨.inr (.inr rfl), hkinds⟩⟩
      · exact ih _ _ h
    · exact ih _ _ h

theorem yields_template [Yields AllFormed inner] (hhole : hole.isRestricted = false)
    (h : ∀ (hd : Head) (ts : List Tree), hd.kind = k → Pieces hole ts → P [.node hd ts]) :
    Yields P (template k hole inner) where
  reads ht hts := by
    obtain ⟨c, _, -, hts⟩ := bind_eq_some hts
    split at hts
    · obtain ⟨start, _, -, hts⟩ := bind_eq_some hts
      obtain ⟨src, _, -, hts⟩ := bind_eq_some hts
      obtain ⟨⟨pieces, stop⟩, _, hpieces, hts⟩ := bind_eq_some hts
      obtain ⟨_, _, -, hts⟩ := bind_eq_some hts
      have hshape := pieces_templateRest hhole ht _ _ _ hpieces
      exact (yields_wrap fun hd hk _ => h hd pieces hk hshape).reads ht hts
    · cases hts

instance [hlink : Agree k.isRestricted false] [hhole : Agree hole.isRestricted false]
    [Yields AllFormed inner] : Yields AllFormed (template k hole inner) :=
  yields_template hhole.eq fun _ ts hk hts => .singleton (hk ▸ Holds.holds)
    (Tree.level_of_not_isLink (hk ▸ Kind.not_isLink_of_not_isRestricted hlink.eq) ts) hts.1

instance : Yields AllFormed templateString := by
  refine yields_template rfl fun hd ts hk hts =>
    .singleton ?_ (Tree.level_of_not_isLink ?_ ts) hts.1
  · rw [hk]
    exact fun t ht => hts.2 t (List.mem_filter.1 ht).1
  · rw [hk]

instance : Yields AtMostOne templateString :=
  yields_template rfl fun _ _ _ _ => Nat.le_refl 1

end

/-! ## Calls -/

/-- What a call may take. -/
def Given (ts : List Tree) : Prop := ∀ t ∈ ts, t.kind = .arguments ∨ t.kind = .templateString

section
variable {r : Rule} {rs : List Rule} {k : Kind} {start stop : Nat} {acc : List Tree} {role : Role}

instance : Yields Given (node .arguments r) :=
  yields_node_of_kind fun _ _ hk => List.forall_mem_singleton.2 (.inl hk)

instance : Yields Given arguments := by
  unfold arguments
  infer_instance

instance : Yields Given templateString :=
  yields_template rfl fun _ _ hk _ => List.forall_mem_singleton.2 (.inr hk)

instance : Additive (Tree.Admits .callExpression) where
  nil := Tree.admits_nil _
  append hts hus := List.forall_mem_append.2 ⟨hts, hus⟩

instance : Yields (Tree.Admits .callExpression) (leaf k stop) :=
  yields_leaf fun _ _ hrole => List.forall_mem_singleton.2 fun h => by
    rw [show (Tree.node _ []).head.role = none from hrole] at h
    cases h

theorem admits_map_withRole (hrole : role ≠ .arguments) (ts : List Tree) :
    Tree.Admits .callExpression (ts.map (Tree.withRole role)) := by
  refine List.forall_mem_map.2 fun t _ h => absurd ?_ hrole
  cases t
  exact Option.some.inj h

theorem admits_field (hrole : role ≠ .arguments) :
    Yields (Tree.Admits .callExpression) (field role r) where
  reads _ hts := by
    obtain ⟨ts, _, -, hts⟩ := bind_eq_some hts
    exact pure_eq_some hts ▸ admits_map_withRole hrole ts

instance : Yields (Tree.Admits .callExpression) (field .function r) := admits_field (by decide)

instance : Yields (Tree.Admits .callExpression) (field .typeArguments r) :=
  admits_field (by decide)

instance [h : Yields Given r] : Yields (Tree.Admits .callExpression) (field .arguments r) where
  reads ht hts := by
    obtain ⟨ts, _, hread, hts⟩ := bind_eq_some hts
    rw [pure_eq_some hts]
    refine List.forall_mem_map.2 fun t hmem _ => ?_
    rw [Tree.kind_withRole]
    exact h.reads ht hread t hmem

/-- A call whose function is the first thing in it. -/
instance [hr : Yields AllFormed r] [hs : Starts r] [hrs : Yields AllFormed (seq rs)]
    [hcall : Yields (Tree.Admits .callExpression) (seq rs)] :
    Yields AllFormed (node .callExpression (seq (field .function r :: rs))) where
  reads ht h := by
    obtain ⟨start, s₁, hstart, h⟩ := bind_eq_some h
    cases hstart
    obtain ⟨us, s₂, hus, h⟩ := bind_eq_some h
    obtain ⟨fs, s₃, hfs, hus⟩ := bind_eq_some hus
    obtain ⟨acc, s₄, hacc, hfs⟩ := bind_eq_some hfs
    obtain ⟨ts, s₅, hts, hus⟩ := bind_eq_some hus
    cases hfs
    cases hus
    cases h
    refine (hs.starts ht hacc).link rfl (hr.reads ht hacc) (hrs.reads ht hts) ?_
    have hfunction : Role.function ≠ .arguments := by decide
    exact Additive.append (admits_map_withRole hfunction acc) (hcall.reads ht hts)

/-- A call of what was read before it. -/
instance [hr : Yields AllFormed r] [hcall : Yields (Tree.Admits .callExpression) r] :
    Prolongs start acc
      (r >>= fun ts => wrap .callExpression start (acc.map (Tree.withRole .function) ++ ts)) :=
  prolongs_link hr <| hcall.imp fun _ => Additive.append (admits_map_withRole (by decide) acc)

end

/-! ## Parentheses -/

/-- Nothing but tokens and comments. -/
def NoParts (ts : List Tree) : Prop := ts.filter Tree.isPart = []

/-- No parts but annotations. -/
def OnlyTypes (ts : List Tree) : Prop := ∀ t ∈ ts.filter Tree.isPart, t.kind = .typeClause

section
variable {r : Rule} {ts us : List Tree} {l l' : String} {role : Role}

theorem admits_of_atMostOne (hts : AtMostOne ts) (hus : OnlyTypes us) :
    Tree.Admits .parenthesizedExpression (ts ++ us) := by
  intro t ht
  rw [List.filter_append] at ht
  match ts, hts with
  | [], _ => exact hus t (List.mem_of_mem_tail ht)
  | [u], _ =>
    by_cases hu : u.isPart
    · simp only [List.filter_cons, hu, if_true, List.filter_nil, List.cons_append, List.nil_append,
        List.tail_cons] at ht
      exact hus t ht
    · simp only [List.filter_cons, hu, List.filter_nil] at ht
      exact hus t (List.mem_of_mem_tail ht)

instance : Yields NoParts (sym l) := by
  have hleaf : ∀ stop, Yields NoParts (leaf .token stop) := fun stop =>
    yields_leaf fun hd hk _ => by
      have hnot : (Tree.node hd []).isPart = false := by
        unfold Tree.isPart Tree.isNamed Tree.kind Tree.head
        rw [hk]
        rfl
      simp [NoParts, hnot]
  unfold sym
  infer_instance

instance [h : Yields (Tree.Admits .parenthesizedExpression) r] :
    Yields (Tree.Admits .parenthesizedExpression) (enclosed l r l') := by
  have hlast : Yields NoParts (seq [sym l']) := yields_seq_singleton inferInstance
  have hrest : Yields (Tree.Admits .parenthesizedExpression) (seq [withAuto false r, sym l']) := by
    refine yields_seq_cons (P := Tree.Admits .parenthesizedExpression) inferInstance hlast ?_
    intro ts us hts hus t ht
    rw [List.filter_append, show us.filter Tree.isPart = [] from hus, List.append_nil] at ht
    exact hts t ht
  refine yields_seq_cons (P := NoParts) inferInstance hrest ?_
  intro ts us hts hus t ht
  rw [List.filter_append, show ts.filter Tree.isPart = [] from hts, List.nil_append] at ht
  exact hus t ht

instance : Yields OnlyTypes typeClause :=
  yields_node_of_kind fun hd us hk t ht => by
    rw [List.mem_singleton.1 (List.mem_filter.1 ht).1]
    exact hk

instance : Additive OnlyTypes where
  nil := fun _ h => nomatch h
  append hts hus := by
    intro t ht
    rw [List.filter_append] at ht
    exact (List.mem_append.1 ht).elim (hts t) (hus t)

instance [h : Yields OnlyTypes r] : Yields OnlyTypes (field role r) where
  reads ht hts := by
    obtain ⟨ts, _, hread, hts⟩ := bind_eq_some hts
    rw [pure_eq_some hts]
    intro t hmem
    obtain ⟨hmem, hpart⟩ := List.mem_filter.1 hmem
    obtain ⟨u, hu, rfl⟩ := List.mem_map.1 hmem
    rw [Tree.isPart_withRole] at hpart
    rw [Tree.kind_withRole]
    exact h.reads ht hread u (List.mem_filter.2 ⟨hu, hpart⟩)

instance : Yields (Tree.Admits .parenthesizedExpression)
    (seq [sub .expressions, opt (field .type typeClause)]) :=
  yields_seq_cons (P := AtMostOne) (Q := OnlyTypes) inferInstance inferInstance
    fun _ _ => admits_of_atMostOne

instance : Yields (Tree.Admits .parenthesizedExpression) (sub .expressions) :=
  (inferInstance : Yields AtMostOne (sub .expressions)).imp fun ts hts => by
    simpa using admits_of_atMostOne hts (Additive.nil (P := OnlyTypes))

end

/-! ## Keywords and names -/

section
variable {r : Rule} {rs : List Rule} {k : Kind} {w : String} {role : Role} {m n stop : Nat}
  {table : Goal → Base (List Tree)} {setting : Setting} {s s' : State} {ts : List Tree}

theorem shows_leaf (hstop : s.pos < stop) (hsize : s.pos < setting.source.size)
    (h : leaf k stop table setting s = some (ts, s')) : Tree.Shows 1 ts := by
  cases h
  have htext : setting.source.slice s.pos stop ≠ "" :=
    Source.slice_ne_empty_iff.2 ⟨hstop, hsize⟩
  exact List.countP_pos_iff.2 ⟨_, List.mem_singleton_self _, bne_iff_ne.2 htext⟩

theorem hasAt_of_atKey (h : atKey w table setting s = some (true, s')) :
    setting.source.hasAt s.pos w.toList = true ∧ s' = s := by
  refine ⟨?_, Still.still h⟩
  obtain ⟨src, s₁, hread, h⟩ := bind_eq_some h
  cases hread
  obtain ⟨i, s₁, hi, h⟩ := bind_eq_some h
  cases hi
  split at h
  · assumption
  · cases h

theorem shows_key (hw : w.toList ≠ []) : Yields (Tree.Shows 1) (key w) where
  reads _ h := by
    obtain ⟨b, s₁, hb, h⟩ := bind_eq_some h
    split at h
    · rename_i htrue
      subst htrue
      obtain ⟨hat, hstill⟩ := hasAt_of_atKey hb
      rw [← hstill] at hat
      obtain ⟨i, s₂, hi, h⟩ := bind_eq_some h
      cases hi
      have hlength : 0 < w.length := List.length_pos_iff.2 hw
      exact shows_leaf (Nat.lt_add_of_pos_right hlength) (Source.lt_size_of_hasAt hw hat) h
    · cases h

instance : Yields (Tree.Shows 1) (anyName k) where
  reads {_ setting s _ _} _ h := by
    obtain ⟨src, s₁, hread, h⟩ := bind_eq_some h
    cases hread
    obtain ⟨i, s₁, hi, h⟩ := bind_eq_some h
    cases hi
    cases hend : setting.source.nameEnd? s.pos with
    | some j =>
      rw [hend] at h
      exact shows_leaf (Source.lt_of_nameEnd? hend) (Source.lt_size_of_nameEnd? hend) h
    | none =>
      rw [hend] at h
      cases h

theorem shows_identifierAs : Yields (Tree.Shows 1) (identifierAs k) := by
  unfold identifierAs
  refine yields_bind fun _ => ?_
  split <;> infer_instance

theorem shows_field (h : Yields (Tree.Shows n) r) : Yields (Tree.Shows n) (field role r) where
  reads ht hts := by
    obtain ⟨ts, _, hread, hts⟩ := bind_eq_some hts
    have htext (t : Tree) : (t.withRole role).text = t.text := by
      cases t
      rfl
    rw [pure_eq_some hts]
    unfold Tree.Shows
    rw [List.countP_map, List.countP_congr fun t _ => by rw [Function.comp_apply, htext]]
    exact h.reads ht hread

theorem shows_seq_cons (hr : Yields (Tree.Shows m) r) (hrs : Yields (Tree.Shows n) (seq rs)) :
    Yields (Tree.Shows (m + n)) (seq (r :: rs)) :=
  yields_seq_cons hr hrs fun _ _ => .append

theorem shows_nothing : Yields (Tree.Shows 0) r := ⟨fun _ _ => Tree.shows_zero _⟩

/-- What begins with a keyword. -/
theorem shows_seq_key (hw : w.toList ≠ []) (hrs : Yields (Tree.Shows n) (seq rs)) :
    Yields (Tree.Shows (1 + n)) (seq (key w :: rs)) :=
  shows_seq_cons (shows_key hw) hrs

/-- What begins with a name. -/
theorem shows_seq_name : Yields (Tree.Shows 1) (seq (field role (identifierAs k) :: rs)) :=
  shows_seq_cons (shows_field shows_identifierAs) shows_nothing

end

/-! ## Types -/

-- One instance stands for a rule and all the small rules inside it.
set_option synthInstance.maxSize 2000

section
variable {r r' : Rule} {k : Kind} {w : String}

instance : Yields AllFormed propertyName := by
  unfold propertyName computedName
  infer_instance

instance : Yields AllFormed (modifierAs k w) := by
  unfold modifierAs
  infer_instance

instance : Yields AllFormed (modifier w) := by
  unfold modifier
  infer_instance

instance : Yields AllFormed accessibility := by
  unfold accessibility
  infer_instance

instance : Yields AllFormed typeClause := by
  unfold typeClause
  infer_instance

instance : Yields AllFormed typeArguments := by
  unfold typeArguments
  infer_instance

instance : Yields AllFormed typeParameters := by
  unfold typeParameters typeParameter
  infer_instance

instance : Yields AllFormed typePredicate := by
  unfold typePredicate
  infer_instance

instance : Yields AllFormed assertion := by
  unfold assertion
  infer_instance

instance : Yields AllFormed signature := by
  unfold signature returnType
  infer_instance

instance : Yields AllFormed indexSignature := by
  unfold indexSignature mappedTypeClause indexTypeClause
  infer_instance

instance : Yields AllFormed memberEnd := by
  unfold memberEnd
  infer_instance

instance : Yields AllFormed objectType := by
  unfold objectType constructSignature memberSignature
  infer_instance

instance : Yields AllFormed importCall := by
  unfold importCall
  infer_instance

instance : Starts importCall := by
  unfold importCall
  infer_instance

instance [Yields AllFormed r] [Starts r] [Yields AllFormed r'] :
    Yields AllFormed (memberChain r r') := by
  unfold memberChain
  infer_instance

instance [Yields AllFormed r] [Starts r] [Yields AllFormed r'] : Starts (memberChain r r') := by
  unfold memberChain
  exact starts_chain inferInstance inferInstance inferInstance

instance : Yields AllFormed namedType := by
  unfold namedType
  infer_instance

instance : Yields AllFormed tupleMember := by
  unfold tupleMember
  infer_instance

instance : Yields AllFormed literalType := by
  unfold literalType
  infer_instance

instance : Yields AllFormed typeQuery := by
  unfold typeQuery
  infer_instance

instance : Yields AllFormed primaryType := by
  unfold primaryType importedType uniqueSymbol
  infer_instance

instance : Yields AllFormed bracketedType := by
  unfold bracketedType
  infer_instance

instance : Yields AllFormed operandType := by
  unfold operandType functionType constructorType inferType
  infer_instance

instance [Agree k.isRestricted false] [Yields AllFormed r] :
    Yields AllFormed (joinedType k w r) := by
  unfold joinedType
  infer_instance

instance : Yields AllFormed unionType := by
  unfold unionType intersectionType
  infer_instance

instance : Yields AllFormed typeRule := by
  unfold typeRule
  infer_instance

end

/-! ## Patterns -/

instance : Yields AllFormed initializer := by
  unfold initializer
  infer_instance

instance : Yields AllFormed patternWithDefault := by
  unfold patternWithDefault
  infer_instance

instance : Yields AllFormed restPattern := by
  unfold restPattern
  infer_instance

instance : Yields AllFormed objectPattern := by
  unfold objectPattern pairPattern shorthandPattern
  infer_instance

instance : Yields AllFormed arrayPattern := by
  unfold arrayPattern
  infer_instance

instance : Yields AllFormed pattern := by
  unfold pattern
  infer_instance

instance : Yields AllFormed parameters := by
  unfold parameters parameter parameterModifier parameterPattern
  infer_instance

instance : Yields AllFormed arguments := by
  unfold arguments
  infer_instance

instance : Yields AllFormed decoratorTarget := by
  unfold decoratorTarget
  infer_instance

instance : Yields AllFormed decorator := by
  unfold decorator
  infer_instance

/-! ## Expressions -/

section
variable {P : List Tree → Prop} {r : Rule} {k : Kind} {role : Role} {start level : Nat}
  {acc : List Tree}

instance : Yields AllFormed spread := by
  unfold spread
  infer_instance

instance : Yields AllFormed objectLiteral := by
  unfold objectLiteral pair shorthand objectMethod
  infer_instance

instance : Yields AllFormed arrowFunction := by
  unfold arrowFunction arrowBody arrowSignature
  infer_instance

instance : Yields AllFormed functionExpression := by
  unfold functionExpression
  infer_instance

instance : Yields AllFormed classRest := by
  unfold classRest classHeritage extendsClause implementsClause
  infer_instance

instance : Yields AllFormed classExpression := by
  unfold classExpression
  infer_instance

instance : Yields AllFormed parenthesized := by
  unfold parenthesized
  infer_instance

instance : Yields AllFormed bracketLiteral := by
  unfold bracketLiteral arrayLiteral destructuring
  infer_instance

instance : Yields AllFormed importValue := by
  unfold importValue
  infer_instance

instance : Yields AllFormed typeAssertion := by
  unfold typeAssertion
  infer_instance

instance : Yields AllFormed markup := by
  unfold markup
  infer_instance

instance : Yields AllFormed primary := by
  unfold primary keywordLiteral
  infer_instance

/-- A node over what was read before it, other than a call or a member. -/
instance [Holds AllFormed acc] [Yields AllFormed r] [Agree k.isRestricted false] :
    Yields AllFormed (extend k start role acc r) := by
  unfold extend
  infer_instance

instance [Yields AllFormed r] [Agree k.isRestricted false] :
    Prolongs start acc (extend k start role acc r) := by
  unfold extend
  infer_instance

instance [Yields AllFormed r] [Yields (Tree.Admits .callExpression) r] :
    Prolongs start acc (extend .callExpression start .function acc r) := by
  unfold extend
  infer_instance

instance [Yields AllFormed r] :
    Prolongs start acc (extend .memberExpression start .object acc r) := by
  unfold extend
  infer_instance

instance : Yields AllFormed memberName := by
  unfold memberName
  infer_instance

instance : Prolongs start acc (accessStep start acc) := by
  unfold accessStep subscript
  infer_instance

instance : Prolongs start acc (callStep start acc) := by
  unfold callStep
  infer_instance

instance : Prolongs start acc (optionalStep start acc) := by
  unfold optionalStep subscript
  infer_instance

instance : Starts functionExpression := by
  unfold functionExpression
  exact starts_pos inferInstance

instance : Starts primary := by
  unfold primary keywordLiteral templateString parenthesized bracketLiteral objectLiteral
    arrayLiteral destructuring classExpression importValue
  infer_instance

instance : Yields AllFormed newTarget := by
  unfold newTarget
  infer_instance

instance : Yields AllFormed newExpression := by
  unfold newExpression
  infer_instance

instance : Starts newExpression := by
  unfold newExpression
  infer_instance

instance : Yields AllFormed baseClass := by
  unfold baseClass
  infer_instance

instance : Prolongs start acc (operandSteps start acc) := by
  unfold operandSteps instantiationStep
  infer_instance

instance : Prolongs start acc (assignmentStep start acc) := by
  unfold assignmentStep
  infer_instance

instance : Starts arrowFunction := by
  unfold arrowFunction
  infer_instance

instance : Starts typeAssertion := by
  unfold typeAssertion hasMarkup
  infer_instance

instance : Yields AllFormed operand := by
  unfold operand unaryExpression unaryOperator updateExpression awaitExpression yieldExpression
  infer_instance

theorem yields_binaryStep (h : ∀ op l, Yields P (extend .binaryExpression start .left acc
    (seq [field .operator (operatorToken op), field .right (sub (.binaryAbove l))]))) :
    Yields P (binaryStep start level acc) := by
  unfold binaryStep
  refine yields_bind fun _ => ?_
  split
  · infer_instance
  · split <;> infer_instance

instance [Holds AllFormed acc] : Yields AllFormed (binaryStep start level acc) :=
  yields_binaryStep inferInstance

instance : Yields AllFormed (binaryAbove level) := by
  unfold binaryAbove
  infer_instance

instance [Holds AllFormed acc] : Yields AllFormed (assertionStep start acc) := by
  unfold assertionStep
  infer_instance

instance : Yields AllFormed awaited := by
  unfold awaited
  infer_instance

instance : Yields AllFormed operatorChain := by
  unfold operatorChain
  infer_instance

instance : Yields AllFormed expression := by
  unfold expression
  infer_instance

instance : Yields AllFormed expressions := by
  unfold expressions
  infer_instance

/-! ### One node at a time -/

instance : Yields AtMostOne (extend k start role acc r) := by
  unfold extend
  infer_instance

instance [Holds AtMostOne acc] : Yields AtMostOne (operandSteps start acc) := by
  unfold operandSteps accessStep callStep optionalStep instantiationStep
  infer_instance

instance [Holds AtMostOne acc] : Yields AtMostOne (assignmentStep start acc) := by
  unfold assignmentStep
  infer_instance

instance : Yields AtMostOne primary := by
  unfold primary keywordLiteral parenthesized bracketLiteral objectLiteral arrayLiteral
    destructuring functionExpression classExpression importValue
  infer_instance

instance : Yields AtMostOne operand := by
  unfold operand unaryExpression updateExpression awaitExpression yieldExpression arrowFunction
    typeAssertion newExpression markup
  infer_instance

instance : Yields AtMostOne (binaryStep start level acc) := yields_binaryStep inferInstance

instance [Holds AtMostOne acc] : Yields AtMostOne (assertionStep start acc) := by
  unfold assertionStep
  infer_instance

instance : Yields AtMostOne expression := by
  unfold expression operatorChain
  infer_instance

instance : Yields AtMostOne expressions := by
  unfold expressions
  infer_instance

end

/-! ## Markup -/

section
variable {src : Source} {k : Kind} {start stop : Nat} {ts us : List Tree}

instance : Holds AllFormed (pieceOf src k start stop) := ⟨allFormed_pieceOf src k start stop⟩

instance [hts : Holds AllFormed ts] [hus : Holds AllFormed us]
    [hk : Agree k.isRestricted false] : Holds AllFormed (nodeOver src k start stop ts :: us) := by
  have hlevel : Tree.Level (nodeOver src k start stop ts).head ts :=
    Tree.level_of_not_isLink (Kind.not_isLink_of_not_isRestricted hk.eq) ts
  exact ⟨List.forall_mem_cons.2 ⟨.node Holds.holds hlevel hts.holds, hus.holds⟩⟩

instance : Yields AllFormed namespaceName := by
  unfold namespaceName
  infer_instance

instance : Yields AllFormed elementName := by
  unfold elementName
  infer_instance

instance : Yields AllFormed bracedContent := by
  unfold bracedContent
  infer_instance

instance : Yields AllFormed tagContent := by
  unfold tagContent elementAttribute attributeValue bracedExpression
  infer_instance

instance : Yields AllFormed (bracedChild start) := by
  unfold bracedChild
  infer_instance

theorem elementContent_formed (n start i : Nat) : Yields AllFormed (elementContent n start i) := by
  induction n generalizing start i with
  | zero =>
    unfold elementContent
    infer_instance
  | succ n ih =>
    unfold elementContent
    refine yields_bind fun src => ?_
    dsimp only
    split <;> infer_instance

instance (n start i : Nat) : Yields AllFormed (elementContent n start i) :=
  elementContent_formed n start i

instance : Yields AllFormed closingTag := by
  unfold closingTag
  infer_instance

instance : Yields AllFormed element := by
  unfold element
  infer_instance

instance : Yields AtMostOne element := by
  unfold element
  infer_instance

end

/-! ## Statements -/

section
variable {k : Kind} {w : String} {role : Role}

instance {modifiers : List Tree} {hasBody : Bool} :
    Agree (methodKind modifiers hasBody).isRestricted false := by
  unfold methodKind
  infer_instance

instance : Yields AllFormed classMember := by
  unfold classMember memberModifier
  infer_instance

instance : Yields AllFormed classBody := by
  unfold classBody staticBlock
  infer_instance

instance : Yields AllFormed variableDeclaration := by
  unfold variableDeclaration variableDeclarator
  infer_instance

/-- A recorded declaration whose children the rule reads. -/
theorem formed_declaration {r : Rule} (hk : k.isRecorded = true) (hlink : k.isLink = false)
    (hr : Yields AllFormed r) (hshows : Yields (Tree.Shows 2) r) :
    Yields AllFormed (node k r) := by
  have hadmits : Yields (Tree.Admits k) r := hshows.imp fun _ => Tree.admits_of_shows hk
  have : Agree k.isLink false := ⟨hlink⟩
  infer_instance

instance : Yields AllFormed functionDeclaration where
  reads ht h := by
    obtain ⟨start, s₁, -, h⟩ := bind_eq_some h
    obtain ⟨ts, s₂, hts, h⟩ := bind_eq_some h
    obtain ⟨star, s₃, hstar, h⟩ := bind_eq_some h
    obtain ⟨us, s₄, hus, h⟩ := bind_eq_some h
    obtain ⟨b, s₅, -, h⟩ := bind_eq_some h
    have hkey : Yields (Tree.Shows 1) (seq [opt (key "async"), key "function"]) :=
      shows_seq_cons (m := 0) shows_nothing (shows_seq_key (by decide) shows_nothing)
    have hshows : Tree.Shows 2 (ts ++ star ++ us) :=
      ((hkey.reads ht hts).append (Tree.shows_zero star)).append (shows_seq_name.reads ht hus)
    have : Holds AllFormed ts := ⟨Yields.reads ht hts⟩
    have : Holds AllFormed star := ⟨Yields.reads ht hstar⟩
    have : Holds AllFormed us := ⟨Yields.reads ht hus⟩
    split at h
    · obtain ⟨body, s₆, hbody, h⟩ := bind_eq_some h
      have : Holds AllFormed body := ⟨Yields.reads ht hbody⟩
      -- A generator is not recorded.
      split at h
      · have : Holds (Tree.Admits .functionDeclaration) (ts ++ star ++ us ++ body) :=
          ⟨Tree.admits_of_shows rfl (hshows.append (Tree.shows_zero body))⟩
        exact Yields.reads ht h
      · exact Yields.reads ht h
    · exact Yields.reads ht h

instance {start : Nat} {decorators : List Tree} [Holds AllFormed decorators] :
    Yields AllFormed (classDeclarationFrom start decorators) where
  reads ht h := by
    obtain ⟨mark, s₁, hmark, h⟩ := bind_eq_some h
    obtain ⟨ts, s₂, hts, h⟩ := bind_eq_some h
    have hname : Tree.Shows 2 ts := (shows_seq_key (by decide) shows_seq_name).reads ht hts
    have hshows : Tree.Shows 2 (decorators ++ mark ++ ts) :=
      (Tree.shows_zero (decorators ++ mark)).append hname
    have : Holds AllFormed mark := ⟨Yields.reads ht hmark⟩
    have : Holds AllFormed ts := ⟨Yields.reads ht hts⟩
    split at h
    · have : Holds (Tree.Admits .classDeclaration) (decorators ++ mark ++ ts) :=
        ⟨Tree.admits_of_shows rfl hshows⟩
      exact Yields.reads ht h
    · have : Holds (Tree.Admits .abstractClassDeclaration) (decorators ++ mark ++ ts) :=
        ⟨Tree.admits_of_shows rfl hshows⟩
      exact Yields.reads ht h

instance : Yields AllFormed classDeclaration := by
  unfold classDeclaration
  infer_instance

instance : Yields AllFormed interfaceDeclaration := by
  unfold interfaceDeclaration interfaceBody extendsTypes
  exact formed_declaration rfl rfl inferInstance (shows_seq_key (by decide) shows_seq_name)

instance : Yields AllFormed typeAliasDeclaration := by
  unfold typeAliasDeclaration
  exact formed_declaration rfl rfl inferInstance (shows_seq_key (by decide) shows_seq_name)

instance : Yields AllFormed enumDeclaration := by
  unfold enumDeclaration enumMember
  refine formed_declaration rfl rfl inferInstance ?_
  exact shows_seq_cons (m := 0) shows_nothing (shows_seq_key (by decide) shows_seq_name)

instance : Yields AllFormed nestedName := by
  unfold nestedName
  infer_instance

instance : Yields AllFormed namespaceDeclaration := by
  unfold namespaceDeclaration moduleRest
  infer_instance

instance : Yields AllFormed moduleDeclaration := by
  unfold moduleDeclaration
  infer_instance

instance : Yields AllFormed declaration := by
  unfold declaration ambientDeclaration plainDeclaration importAlias
  infer_instance

instance : Yields AllFormed fromClause := by
  unfold fromClause
  infer_instance

instance : Yields AllFormed moduleName := by
  unfold moduleName
  infer_instance

instance : Yields AllFormed importClause := by
  unfold importClause namespaceImport namedImports importSpecifier
  infer_instance

instance : Yields AllFormed importAttribute := by
  unfold importAttribute
  infer_instance

instance : Yields AllFormed importStatement := by
  unfold importStatement importRequire
  infer_instance

instance : Yields AllFormed exportClause := by
  unfold exportClause exportSpecifier
  infer_instance

instance : Yields AllFormed exportStatement := by
  unfold exportStatement namespaceExport exportedDeclaration
  infer_instance

instance : Yields AllFormed block := by
  unfold block
  infer_instance

instance : Yields AllFormed ifStatement := by
  unfold ifStatement elseClause
  infer_instance

instance : Yields AllFormed forInStatement := by
  unfold forInStatement forTarget
  infer_instance

instance : Yields AllFormed forStatement := by
  unfold forStatement forPart
  infer_instance

instance : Yields AllFormed tryStatement := by
  unfold tryStatement catchClause
  infer_instance

instance : Yields AllFormed switchStatement := by
  unfold switchStatement switchCase
  infer_instance

instance [Agree k.isRestricted false] : Yields AllFormed (jump k w) := by
  unfold jump
  infer_instance

instance [Agree k.isRestricted false] : Yields AllFormed (leave k w) := by
  unfold leave
  infer_instance

instance : Yields AllFormed statement := by
  unfold statement whileStatement doStatement withStatement namespaceStatement labeledStatement
    expressionStatement
  infer_instance

end

end Grammar

end RouteInventory
