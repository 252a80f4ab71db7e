import Mathlib
import RouteInventory.Proofs.LayoutLogic

/-!
# Every rule of the grammar lays what it reads

The rules that place nodes or move by themselves are looked at one by one: templates, the members of
a class, whose decorators may stand outside the member, and the elements of markup.  For all others
instance search follows the definition.
-/

namespace RouteInventory

namespace Grammar

/-! ## Pieces of text -/

section
variable {src : Source} {s : State} {i j : Nat} {k : Kind} {ts : List Tree}

theorem Laid.pieceOf (hsrc : src.Ascends) (hs : s.Sound) (hi : s.pos ≤ i) (hij : i ≤ j) :
    Laid src (s.standing i) (s.standing j) (pieceOf src k i j) := by
  have honward := hs.standing_onward_standing hi hij
  unfold Grammar.pieceOf
  split
  · exact (Laid.nil src honward).node hsrc rfl rfl
  · exact Laid.nil src honward

/-- A node around a run, up to an index behind it. -/
theorem Laid.nodeOver {s' : State} (hsrc : src.Ascends) (h : Laid src s s' ts) (hj : s'.pos ≤ j) :
    Laid src s (s'.standing j) [nodeOver src k s.pos j ts] :=
  (h.before hsrc (h.onward.after.onward_standing hj)).node hsrc rfl rfl

end

/-! ## Templates -/

section
variable {hole k : Kind} {inner : Rule}

/-- What is read behind an opening mark. -/
theorem laid_opened [Lays inner] {table : Goal → Base (List Tree)} (ht : Spaced table)
    {setting : Setting} (hsrc : setting.source.Ascends) {s s₁ s₂ : State} (hs : s.Sound) {i j : Nat}
    (hi : s.pos ≤ i) (hij : i ≤ j) {u : Unit} (hopen : advance j table setting s = some (u, s₁))
    {ts : List Tree} (hts : withAuto false inner table setting s₁ = some (ts, s₂)) :
    Laid setting.source (s.standing i) s₂ ts := by
  have hbegin : (s.standing i).Onward s₁ :=
    (hs.standing_onward_standing hi hij).trans
      (standing_onward_advance hs (Nat.le_trans hi hij) hopen)
  have hwith : Lays (withAuto false inner) := inferInstance
  exact (hwith.lays ht ⟨hsrc, hbegin.after⟩ hts).after hsrc hbegin

theorem laid_templateRest [Lays inner] {table : Goal → Base (List Tree)}
    (ht : Spaced table) {setting : Setting} (hsrc : setting.source.Ascends) (n : Nat)
    {start i : Nat} (hi : start ≤ i) {s s' : State} (hs : s.Sound) (hstart : s.pos ≤ start)
    {pieces : List Tree} {stop : Nat}
    (h : templateRest hole inner n start i table setting s = some ((pieces, stop), s')) :
    Laid setting.source (s.standing start) (s'.standing stop) pieces ∧ s'.Sound ∧ s'.pos ≤ stop := by
  induction n generalizing start i s pieces stop s' with
  | zero => cases h
  | succ n ih =>
    rw [templateRest] at h
    obtain ⟨src, s₁, hread, h⟩ := bind_eq_some h
    cases hread
    have hpos : s.pos ≤ i := Nat.le_trans hstart hi
    have hplain : Laid setting.source (s.standing start) (s.standing i)
        (pieceOf setting.source .stringFragment start i) := .pieceOf hsrc hs hstart hi
    -- The template ends, or an escape, a hole or a plain character comes next.
    split at h
    · cases h
    · cases h
      have hclosed := hs.standing_onward_standing hpos (Nat.le_succ i)
      exact ⟨hplain.before hsrc hclosed, hs, Nat.le_succ_of_le hpos⟩
    · obtain ⟨⟨rest, last⟩, s₂, hrest, h⟩ := bind_eq_some h
      cases h
      have hescape := Source.le_escapeEnd setting.source i
      obtain ⟨hrest, hs'⟩ := ih (Nat.le_refl _) hs (Nat.le_trans hpos hescape) hrest
      exact ⟨(hplain.append hsrc (.pieceOf hsrc hs hpos hescape)).append hsrc hrest, hs'⟩
    · split at h
      · obtain ⟨_, s₂, hopen, h⟩ := bind_eq_some h
        obtain ⟨ts, s₃, hts, h⟩ := bind_eq_some h
        obtain ⟨stop', s₄, hpos', h⟩ := bind_eq_some h
        cases hpos'
        obtain ⟨c, s₅, hpeek, h⟩ := bind_eq_some h
        cases hpeek
        split at h
        · obtain ⟨_, s₆, hfail, -⟩ := bind_eq_some h
          cases hfail
        · obtain ⟨⟨rest, last⟩, s₆, hrest, h⟩ := bind_eq_some h
          cases h
          have hinner : Laid setting.source (s.standing i) s₃ ts :=
            laid_opened ht hsrc hs hpos (Nat.le_add_right i 2) hopen hts
          have hhole : Laid setting.source (s.standing i) (s₃.standing (s₃.pos + 1))
              [nodeOver setting.source hole i (s₃.pos + 1) ts] :=
            hinner.nodeOver hsrc (Nat.le_succ s₃.pos)
          obtain ⟨hrest, hs'⟩ :=
            ih (Nat.le_refl _) hinner.onward.after (Nat.le_succ s₃.pos) hrest
          exact ⟨hplain.append hsrc (hhole.append hsrc hrest), hs'⟩
      · exact ih (Nat.le_succ_of_le hi) hs hstart h
    · exact ih (Nat.le_succ_of_le hi) hs hstart h

instance [Lays inner] : Lays (template k hole inner) where
  lays {table setting s ts s'} ht hs h := by
    obtain ⟨c, s₁, hc, h⟩ := bind_eq_some h
    cases hc
    split at h
    · obtain ⟨start, s₁, hstart, h⟩ := bind_eq_some h
      cases hstart
      obtain ⟨src, s₂, hread, h⟩ := bind_eq_some h
      cases hread
      obtain ⟨⟨pieces, stop⟩, s₃, hpieces, h⟩ := bind_eq_some h
      obtain ⟨_, s₄, hclose, h⟩ := bind_eq_some h
      obtain ⟨hlaid, hs₃, hstop⟩ :=
        laid_templateRest ht hs.ascends _ (Nat.le_refl _) hs.sound (Nat.le_succ s.pos) hpieces
      have hall : Laid setting.source s s₄ pieces :=
        (hlaid.after hs.ascends (hs.sound.onward_standing (Nat.le_succ s.pos))).before
          hs.ascends (standing_onward_advance hs₃ hstop hclose)
      have hwrap : Continues s.pos pieces (wrap k s.pos pieces) := inferInstance
      exact hwrap.continues ht hs.ascends rfl hall h
    · cases h

end

/-! ## Types -/

-- One instance stands for a rule and all the small rules inside it.
set_option synthInstance.maxSize 2000

section
variable {r r' : Rule} {k : Kind} {w : String}

instance : Still propertyAhead := by
  unfold propertyAhead
  infer_instance

instance : Still atParameters := by
  unfold atParameters
  infer_instance

instance : Lays propertyName := by
  unfold propertyName computedName
  infer_instance

instance : Lays (modifierAs k w) := by
  unfold modifierAs
  infer_instance

instance : Lays (modifier w) := by
  unfold modifier
  infer_instance

instance : Lays accessibility := by
  unfold accessibility
  infer_instance

instance : Lays typeClause := by
  unfold typeClause
  infer_instance

instance : Lays typeArguments := by
  unfold typeArguments
  infer_instance

instance : Lays typeParameters := by
  unfold typeParameters typeParameter
  infer_instance

instance : Lays typePredicate := by
  unfold typePredicate
  infer_instance

instance : Lays assertion := by
  unfold assertion
  infer_instance

instance : Lays signature := by
  unfold signature returnType
  infer_instance

instance : Lays indexSignature := by
  unfold indexSignature mappedTypeClause indexTypeClause
  infer_instance

instance : Lays memberEnd := by
  unfold memberEnd
  infer_instance

instance : Lays memberSignature := by
  unfold memberSignature
  infer_instance

instance : Lays objectType := by
  unfold objectType constructSignature
  infer_instance

instance : Lays importCall := by
  unfold importCall
  infer_instance

instance [Lays r] [Lays r'] : Lays (memberChain r r') := by
  unfold memberChain
  infer_instance

instance : Lays namedType := by
  unfold namedType
  infer_instance

instance : Lays tupleMember := by
  unfold tupleMember
  infer_instance

instance : Lays literalType := by
  unfold literalType
  infer_instance

instance : Lays typeQuery := by
  unfold typeQuery
  infer_instance

instance : Lays primaryType := by
  unfold primaryType importedType uniqueSymbol
  infer_instance

instance : Lays bracketedType := by
  unfold bracketedType
  infer_instance

instance : Lays operandType := by
  unfold operandType functionType constructorType inferType
  infer_instance

instance [Lays r] : Lays (joinedType k w r) := by
  unfold joinedType
  infer_instance

instance : Lays unionType := by
  unfold unionType intersectionType
  infer_instance

instance : Lays typeRule := by
  unfold typeRule
  infer_instance

end

/-! ## Patterns -/

instance : Still parameterAhead := by
  unfold parameterAhead
  infer_instance

instance : Lays initializer := by
  unfold initializer
  infer_instance

instance : Lays patternWithDefault := by
  unfold patternWithDefault
  infer_instance

instance : Lays restPattern := by
  unfold restPattern
  infer_instance

instance : Lays shorthandPattern := by
  unfold shorthandPattern
  infer_instance

instance : Lays objectPattern := by
  unfold objectPattern pairPattern
  infer_instance

instance : Lays arrayPattern := by
  unfold arrayPattern
  infer_instance

instance : Lays pattern := by
  unfold pattern
  infer_instance

instance : Lays parameter := by
  unfold parameter parameterModifier parameterPattern
  infer_instance

instance : Lays parameters := by
  unfold parameters
  infer_instance

instance : Lays arguments := by
  unfold arguments
  infer_instance

instance : Lays decoratorTarget := by
  unfold decoratorTarget
  infer_instance

instance : Lays decorator := by
  unfold decorator
  infer_instance

/-! ## Expressions -/

section
variable {r : Rule} {k : Kind} {role : Role} {start level : Nat} {us acc : List Tree}

instance : Still hasMarkup := by
  unfold hasMarkup
  infer_instance

instance : Still binaryOperator? := by
  unfold binaryOperator?
  infer_instance

instance : Lays spread := by
  unfold spread
  infer_instance

instance : Lays templateString := by
  unfold templateString
  infer_instance

instance : Lays shorthand := by
  unfold shorthand
  infer_instance

instance : Lays objectLiteral := by
  unfold objectLiteral pair objectMethod
  infer_instance

instance : Lays arrowFunction := by
  unfold arrowFunction arrowBody arrowSignature
  infer_instance

instance : Lays functionExpression := by
  unfold functionExpression
  infer_instance

instance : Lays classRest := by
  unfold classRest classHeritage extendsClause implementsClause
  infer_instance

instance : Lays classExpression := by
  unfold classExpression
  infer_instance

instance : Lays parenthesized := by
  unfold parenthesized
  infer_instance

instance : Lays bracketLiteral := by
  unfold bracketLiteral arrayLiteral destructuring
  infer_instance

instance : Lays importValue := by
  unfold importValue
  infer_instance

instance : Lays typeAssertion := by
  unfold typeAssertion
  infer_instance

/-- Behind an element only a gap is passed. -/
instance : Lays markup where
  lays {table setting s ts s'} ht hs h := by
    obtain ⟨b, s₁, hb, h⟩ := bind_eq_some h
    cases hb
    split at h
    · obtain ⟨us, s₂, hus, h⟩ := bind_eq_some h
      obtain ⟨i, s₃, hi, h⟩ := bind_eq_some h
      cases hi
      obtain ⟨_, s₄, hgap, h⟩ := bind_eq_some h
      cases h
      have helement := ht.laid hs hus
      exact helement.before hs.ascends
        (onward_advance helement.onward.after (Nat.le_refl _) hgap)
    · cases h

instance : Lays primary := by
  unfold primary keywordLiteral
  infer_instance

instance [Within us acc] [Lays r] : Continues start acc (extend k start role us r) := by
  unfold extend
  infer_instance

instance : Lays memberName := by
  unfold memberName
  infer_instance

instance : Lays subscript := by
  unfold subscript
  infer_instance

instance [Within us acc] : Continues start acc (accessStep start us) := by
  unfold accessStep
  infer_instance

instance [Within us acc] : Continues start acc (callStep start us) := by
  unfold callStep
  infer_instance

instance [Within us acc] : Continues start acc (optionalStep start us) := by
  unfold optionalStep
  infer_instance

instance [Within us acc] : Continues start acc (instantiationStep start us) := by
  unfold instantiationStep
  infer_instance

instance : Lays newExpression := by
  unfold newExpression newTarget
  infer_instance

instance : Lays baseClass := by
  unfold baseClass
  infer_instance

instance [Within us acc] : Continues start acc (operandSteps start us) := by
  unfold operandSteps
  infer_instance

instance [Within us acc] : Continues start acc (assignmentStep start us) := by
  unfold assignmentStep
  infer_instance

instance : Lays operand := by
  unfold operand unaryExpression unaryOperator updateExpression awaitExpression yieldExpression
  infer_instance

instance [Within us acc] : Continues start acc (binaryStep start level us) := by
  unfold binaryStep
  refine continues_bind inferInstance fun _ => ?_
  split
  · infer_instance
  · split <;> infer_instance

instance : Lays (binaryAbove level) := by
  unfold binaryAbove
  infer_instance

instance [Within us acc] : Continues start acc (assertionStep start us) := by
  unfold assertionStep
  infer_instance

instance : Lays awaited := by
  unfold awaited
  infer_instance

instance : Lays operatorChain := by
  unfold operatorChain
  infer_instance

instance : Lays expression := by
  unfold expression
  infer_instance

instance : Lays expressions := by
  unfold expressions
  infer_instance

end

/-! ## Markup -/

section
variable {table : Goal → Base (List Tree)} {setting : Setting} {s s' : State} {i j : Nat}
  {ts : List Tree}

theorem close_eq_some {c : Char} (h : close c table setting s = some (j, s')) :
    j = s.pos + 1 ∧ s = s' := by
  obtain ⟨c', s₁, hc, h⟩ := bind_eq_some h
  cases hc
  split at h
  · cases h
    exact ⟨rfl, rfl⟩
  · cases h

/-- Reading stands at the index, as far as the layout is concerned. -/
theorem standing_onward_standAt {u : Unit} (hs : s.Sound) (hi : s.pos ≤ i)
    (h : standAt i table setting s = some (u, s')) :
    (s.standing i).Onward s' ∧ s'.last = s'.pos := by
  cases h
  exact ⟨.refl (hs.standing hi), rfl⟩

/-- A node around what was read since its beginning, up to the character that closes it. -/
theorem laid_closed {c : Char} {k : Kind} {s₀ : State} {us : List Tree}
    (hsrc : setting.source.Ascends) (hus : Laid setting.source s₀ s us)
    (h : (close c >>= fun stop => standAt stop >>= fun _ => source >>= fun src =>
      pure [nodeOver src k s₀.pos stop us]) table setting s = some (ts, s')) :
    Laid setting.source s₀ s' ts ∧ s'.last = s'.pos := by
  obtain ⟨stop, s₁, hclose, h⟩ := bind_eq_some h
  obtain ⟨rfl, rfl⟩ := close_eq_some hclose
  obtain ⟨_, s₂, hstand, h⟩ := bind_eq_some h
  obtain ⟨src, s₃, hread, h⟩ := bind_eq_some h
  cases hread
  cases h
  obtain ⟨honward, hlast⟩ := standing_onward_standAt hus.onward.after (Nat.le_succ _) hstand
  exact ⟨(hus.nodeOver hsrc (Nat.le_succ _)).before hsrc honward, hlast⟩

instance : Lays namespaceName := by
  unfold namespaceName
  infer_instance

instance : Lays elementName := by
  unfold elementName
  infer_instance

instance : Lays bracedContent := by
  unfold bracedContent
  infer_instance

instance : Lays tagContent := by
  unfold tagContent elementAttribute attributeValue bracedExpression
  infer_instance

theorem laid_bracedChild (ht : Spaced table) (hsrc : setting.source.Ascends) (hs : s.Sound)
    (hi : s.pos ≤ i) (h : bracedChild i table setting s = some (ts, s')) :
    Laid setting.source (s.standing i) s' ts := by
  obtain ⟨_, s₁, hopen, h⟩ := bind_eq_some h
  obtain ⟨us, s₂, hus, h⟩ := bind_eq_some h
  have hinner : Laid setting.source (s.standing i) s₂ us :=
    laid_opened ht hsrc hs hi (Nat.le_succ i) hopen hus
  exact (laid_closed hsrc hinner h).1

/-- What lies between tags begins where the text before it began. -/
theorem laid_elementContent (ht : Spaced table) (hsrc : setting.source.Ascends) (n : Nat)
    {start i : Nat} (hi : start ≤ i) (hs : s.Sound) (hstart : s.pos ≤ start)
    (h : elementContent n start i table setting s = some (ts, s')) :
    Laid setting.source (s.standing start) s' ts := by
  induction n generalizing start i s ts s' with
  | zero => cases h
  | succ n ih =>
    rw [elementContent] at h
    obtain ⟨src, s₁, hread, h⟩ := bind_eq_some h
    cases hread
    have hpos : s.pos ≤ i := Nat.le_trans hstart hi
    have hplain : Laid setting.source (s.standing start) (s.standing i)
        (pieceOf setting.source .jsxText start i) := .pieceOf hsrc hs hstart hi
    -- What was read up to some state is followed by what lies behind it.
    have hfollowed {us rest : List Tree} {s₃ s₄ : State}
        (hus : Laid setting.source (s.standing start) s₃ us)
        (hrest : elementContent n s₃.pos s₃.pos table setting s₃ = some (rest, s₄)) :
        Laid setting.source (s.standing start) s₄ (us ++ rest) := by
      have hs₃ := hus.onward.after
      have hstand := hs₃.onward_standing (Nat.le_refl s₃.pos)
      exact hus.append hsrc ((ih (Nat.le_refl _) hs₃ (Nat.le_refl _) hrest).after hsrc hstand)
    -- A tag or braces come next, or one more character of text.
    split at h
    · obtain ⟨_, s₂, hstand, h⟩ := bind_eq_some h
      have htext := hplain.before hsrc (standing_onward_standAt hs hpos hstand).1
      split at h
      · cases h
        exact htext
      · obtain ⟨us, s₃, hus, h⟩ := bind_eq_some h
        obtain ⟨stop, s₄, hstop, h⟩ := bind_eq_some h
        cases hstop
        obtain ⟨rest, s₅, hrest, h⟩ := bind_eq_some h
        cases h
        exact hfollowed (htext.append hsrc (ht.laid (htext.ready hsrc) hus)) hrest
    · obtain ⟨us, s₃, hus, h⟩ := bind_eq_some h
      obtain ⟨stop, s₄, hstop, h⟩ := bind_eq_some h
      cases hstop
      obtain ⟨rest, s₅, hrest, h⟩ := bind_eq_some h
      cases h
      exact hfollowed (hplain.append hsrc (laid_bracedChild ht hsrc hs hpos hus)) hrest
    · split at h
      · cases h
      · exact ih (Nat.le_succ_of_le hi) hs hstart h
    · cases h

theorem laid_closingTag (ht : Spaced table) (hs : Ready setting.source s)
    (h : closingTag table setting s = some (ts, s')) :
    Laid setting.source s s' ts ∧ s'.last = s'.pos := by
  obtain ⟨start, s₁, hstart, h⟩ := bind_eq_some h
  cases hstart
  obtain ⟨us, s₂, hus, h⟩ := bind_eq_some h
  have hlays : Lays (seq [sym "<", sym "/", opt (field .name elementName)]) := inferInstance
  exact laid_closed hs.ascends (hlays.lays ht hs hus) h

instance : Lays element where
  lays {table setting s ts s'} ht hs h := by
    have hsrc := hs.ascends
    obtain ⟨src, s₁, hread, h⟩ := bind_eq_some h
    cases hread
    obtain ⟨start, s₁, hstart, h⟩ := bind_eq_some h
    cases hstart
    obtain ⟨angle, s₁, hangle, h⟩ := bind_eq_some h
    obtain ⟨content, s₂, hcontent, h⟩ := bind_eq_some h
    obtain ⟨c, s₃, hpeek, h⟩ := bind_eq_some h
    cases hpeek
    have hopen : Laid setting.source s s₁ angle := Lays.lays ht hs hangle
    have hcontent : Laid setting.source s₁ s₂ content :=
      (inferInstance : Lays (opt tagContent)).lays ht (hopen.ready hsrc) hcontent
    have htag : Laid setting.source s s₂ (angle ++ content) := hopen.append hsrc hcontent
    -- The element closes itself, or a second tag closes it.
    split at h
    · obtain ⟨slash, s₃, hslash, h⟩ := bind_eq_some h
      obtain ⟨stop, s₄, hclose, h⟩ := bind_eq_some h
      obtain ⟨rfl, rfl⟩ := close_eq_some hclose
      obtain ⟨_, s₅, hstand, h⟩ := bind_eq_some h
      split at h
      · obtain ⟨_, _, hfail, -⟩ := bind_eq_some h
        cases hfail
      · cases h
        have hall := htag.append hsrc (Lays.lays ht (htag.ready hsrc) hslash)
        exact (hall.nodeOver hsrc (Nat.le_succ _)).before hsrc
          (standing_onward_standAt hall.onward.after (Nat.le_succ _) hstand).1
    · obtain ⟨stop, s₃, hclose, h⟩ := bind_eq_some h
      obtain ⟨rfl, rfl⟩ := close_eq_some hclose
      obtain ⟨inside, s₄, hinside, h⟩ := bind_eq_some h
      obtain ⟨closed, s₅, hclosed, h⟩ := bind_eq_some h
      obtain ⟨stop, s₆, hstop, h⟩ := bind_eq_some h
      cases hstop
      cases h
      have hopened : Laid setting.source s (s₂.standing (s₂.pos + 1))
          [nodeOver setting.source .jsxOpeningElement s.pos (s₂.pos + 1) (angle ++ content)] :=
        htag.nodeOver hsrc (Nat.le_succ _)
      have hinner := hopened.append hsrc
        (laid_elementContent ht hsrc _ (Nat.le_refl _) htag.onward.after (Nat.le_succ _) hinside)
      obtain ⟨hclosing, hlast⟩ := laid_closingTag ht (hinner.ready hsrc) hclosed
      exact (hinner.append hsrc hclosing).node hsrc (hlast ▸ rfl) (hlast ▸ rfl)

end

/-! ## Statements -/

section
variable {k : Kind} {w : String} {role : Role}

instance : Lays memberModifier := by
  unfold memberModifier
  infer_instance

/-- A method stands behind its decorators and before the mark that ends it. -/
theorem laid_method {table : Goal → Base (List Tree)} {setting : Setting} {s₀ s₁ s s' : State}
    {decorators us ts : List Tree} {r : Rule} [hr : Lays r] (ht : Spaced table)
    (hsrc : setting.source.Ascends) (hbefore : Laid setting.source s₀ s₁ decorators)
    (hus : Laid setting.source s₁ s us)
    (h : (wrap k s₁.pos us >>= fun m => r >>= fun stop => pure (decorators ++ m ++ stop))
      table setting s = some (ts, s')) : Laid setting.source s₀ s' ts := by
  obtain ⟨m, s₂, hm, h⟩ := bind_eq_some h
  obtain ⟨stop, s₃, hstop, h⟩ := bind_eq_some h
  cases h
  have hwrap : Continues s₁.pos us (wrap k s₁.pos us) := inferInstance
  have hmethod := hbefore.append hsrc (hwrap.continues ht hsrc rfl hus hm)
  exact hmethod.append hsrc (hr.lays ht (hmethod.ready hsrc) hstop)

instance : Lays classMember where
  lays {table setting s ts s'} ht hs h := by
    have hsrc := hs.ascends
    obtain ⟨start, s₁, hstart, h⟩ := bind_eq_some h
    cases hstart
    obtain ⟨decorators, s₁, hdecorators, h⟩ := bind_eq_some h
    obtain ⟨memberStart, s₂, hmember, h⟩ := bind_eq_some h
    cases hmember
    have hbefore : Laid setting.source s s₁ decorators :=
      (inferInstance : Lays (many (sub .decorator))).lays ht hs hdecorators
    have hs₁ := hbefore.ready hsrc
    rcases orElse_eq_some h with h | h
    · obtain ⟨ds, s₂, hds, h⟩ := bind_eq_some h
      cases hds
      obtain ⟨us, s₃, hus, h⟩ := bind_eq_some h
      cases h
      have hlays : Lays (seq [seq [opt (modifier "static"), indexSignature, memberEnd]]) :=
        inferInstance
      exact hbefore.append hsrc (hlays.lays ht hs₁ hus)
    · obtain ⟨modifiers, s₂, hmodifiers, h⟩ := bind_eq_some h
      obtain ⟨us, s₃, hus, h⟩ := bind_eq_some h
      obtain ⟨b, s₄, hb, h⟩ := bind_eq_some h
      have hname : Lays (seq [opt (choice [modifier "get", modifier "set", sym "*"]),
          field .name propertyName, opt (choice [sym "?", sym "!"])]) := inferInstance
      have hmarked : Laid setting.source s₁ s₂ modifiers :=
        (inferInstance : Lays (many memberModifier)).lays ht hs₁ hmodifiers
      have hown : Laid setting.source s₁ s₃ (modifiers ++ us) :=
        hmarked.append hsrc (hname.lays ht (hmarked.ready hsrc) hus)
      cases Still.still hb
      split at h
      · obtain ⟨vs, s₅, hvs, h⟩ := bind_eq_some h
        obtain ⟨b', s₆, hb', h⟩ := bind_eq_some h
        have hsigned := hown.append hsrc (Lays.lays ht (hown.ready hsrc) hvs)
        cases Still.still hb'
        split at h
        · obtain ⟨body, s₇, hbody, h⟩ := bind_eq_some h
          have hwhole := hsigned.append hsrc (Lays.lays ht (hsigned.ready hsrc) hbody)
          exact laid_method ht hsrc hbefore hwhole h
        · exact laid_method ht hsrc hbefore hsigned h
      · -- A field holds its decorators.
        have hfield : Continues s.pos (decorators ++ (modifiers ++ us))
            (seq [opt (field .type typeClause), opt initializer] >>= fun vs =>
              wrap .publicFieldDefinition s.pos (decorators ++ modifiers ++ us ++ vs) >>= fun f =>
                memberEnd >>= fun stop => pure (f ++ stop)) := by
          rw [← List.append_assoc]
          infer_instance
        exact hfield.continues ht hsrc rfl (hbefore.append hsrc hown) h

instance : Lays classBody := by
  unfold classBody staticBlock
  infer_instance

instance : Lays variableDeclaration := by
  unfold variableDeclaration variableDeclarator
  infer_instance

instance : Lays functionDeclaration := by
  unfold functionDeclaration
  infer_instance

instance : Lays classDeclaration := by
  unfold classDeclaration classDeclarationFrom
  infer_instance

instance : Lays interfaceDeclaration := by
  unfold interfaceDeclaration interfaceBody extendsTypes
  infer_instance

instance : Lays typeAliasDeclaration := by
  unfold typeAliasDeclaration
  infer_instance

instance : Lays enumDeclaration := by
  unfold enumDeclaration enumMember
  infer_instance

instance : Lays nestedName := by
  unfold nestedName
  infer_instance

instance : Lays namespaceDeclaration := by
  unfold namespaceDeclaration moduleRest
  infer_instance

instance : Lays moduleDeclaration := by
  unfold moduleDeclaration
  infer_instance

instance : Lays declaration := by
  unfold declaration ambientDeclaration plainDeclaration importAlias
  infer_instance

instance : Lays fromClause := by
  unfold fromClause
  infer_instance

instance : Lays moduleName := by
  unfold moduleName
  infer_instance

instance : Lays importClause := by
  unfold importClause namespaceImport namedImports importSpecifier
  infer_instance

instance : Lays importAttribute := by
  unfold importAttribute
  infer_instance

instance : Lays importStatement := by
  unfold importStatement importRequire
  infer_instance

instance : Lays exportClause := by
  unfold exportClause exportSpecifier
  infer_instance

instance : Lays exportStatement := by
  unfold exportStatement namespaceExport exportedDeclaration
  infer_instance

instance : Lays block := by
  unfold block
  infer_instance

instance : Lays ifStatement := by
  unfold ifStatement elseClause
  infer_instance

instance : Lays forInStatement := by
  unfold forInStatement forTarget
  infer_instance

instance : Lays forStatement := by
  unfold forStatement forPart
  infer_instance

instance : Lays tryStatement := by
  unfold tryStatement catchClause
  infer_instance

instance : Lays switchStatement := by
  unfold switchStatement switchCase
  infer_instance

instance : Lays (jump k w) := by
  unfold jump
  infer_instance

instance : Lays (leave k w) := by
  unfold leave
  infer_instance

instance : Lays statement := by
  unfold statement whileStatement doStatement withStatement namespaceStatement labeledStatement
    expressionStatement
  infer_instance

end

end Grammar

end RouteInventory
