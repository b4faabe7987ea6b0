import Cohort.Proofs.Grammar.Evaluation
import Cohort.Predicate.Grammar.Expression

/-!
# What rules return

A property holds of all that a rule returns if it holds wherever the rule ends, so that it can be followed through the
steps of a rule without its tokens. Every path that the grammar reads has two names or more: a name without a period
after it is read as a name.
-/

namespace Cohort

open Sql (Token Symbol)

namespace Phrase

mutual

/-- Every path in the phrase has at least two names. -/
def HasLongPaths : Phrase → Prop
  | .name _ => True
  | .path names => 2 ≤ names.length
  | .null => True
  | .boolean _ => True
  | .string _ => True
  | .number _ _ => True
  | .nested p => p.HasLongPaths
  | .binary l _ r => l.HasLongPaths ∧ r.HasLongPaths
  | .not p => p.HasLongPaths
  | .minus p => p.HasLongPaths
  | .isNull p => p.HasLongPaths
  | .isNotNull p => p.HasLongPaths
  | .inList p items _ => p.HasLongPaths ∧ HaveLongPaths items
  | .like p pattern _ _ => p.HasLongPaths ∧ pattern.HasLongPaths
  | .between p low high _ => p.HasLongPaths ∧ low.HasLongPaths ∧ high.HasLongPaths
  | .other _ => True

def HaveLongPaths : List Phrase → Prop
  | [] => True
  | p :: ps => p.HasLongPaths ∧ HaveLongPaths ps

end

theorem haveLongPaths_iff {ps : List Phrase} : HaveLongPaths ps ↔ ∀ p ∈ ps, p.HasLongPaths := by
  induction ps with
  | nil => simp [HaveLongPaths]
  | cons p ps ih => simp [HaveLongPaths, ih]

end Phrase

namespace Rule

variable {α β : Type}

/-- Whatever the rule returns has the property. -/
def Returns (P : α → Prop) (r : Rule α) : Prop := ∀ ts a rest, r ts = .ok (a, rest) → P a

section

variable {P : β → Prop} {Q : α → Prop} {r : Rule α} {k : α → Rule β}

theorem returns_pure {b : β} (h : P b) : Returns P (pure b) := by
  intro ts a rest heq
  cases heq
  exact h

theorem returns_refuse : Returns P refuse := by
  intro ts a rest heq
  cases heq

theorem Returns.bind (h : Returns Q r) (hk : ∀ a, Q a → Returns P (k a)) : Returns P (r >>= k) := by
  intro ts b rest heq
  obtain ⟨a, later, ha, hb⟩ := bind_eq_ok_iff.1 heq
  exact hk a (h ts a later ha) later b rest hb

/-- What comes first does not matter if every continuation returns the like. -/
theorem Returns.after (hk : ∀ a, Returns P (k a)) : Returns P (r >>= k) :=
  Returns.bind (Q := fun _ => True) (fun _ _ _ _ => trivial) fun a _ => hk a

theorem Returns.mono {P' : β → Prop} {r : Rule β} (h : Returns P r) (hP : ∀ b, P b → P' b) : Returns P' r :=
  fun ts b rest heq => hP b (h ts b rest heq)

theorem Returns.attempt (h : Returns Q r) : Returns (fun found => ∀ a, found = some a → Q a) (attempt r) := by
  intro ts found rest heq a ha
  unfold Rule.attempt at heq
  cases hr : r ts with
  | error fault =>
    rw [hr] at heq
    cases heq
    cases ha
  | ok out =>
    rw [hr] at heq
    cases heq
    cases ha
    exact h ts out.1 out.2 hr

theorem returns_commaListWithin (h : Returns Q r) (limit : Nat) :
    Returns (fun items => ∀ a ∈ items, Q a) (commaListWithin r limit) := by
  induction limit with
  | zero => exact returns_refuse
  | succ limit ih =>
    refine h.bind fun a ha => Returns.after fun more => ?_
    split
    · exact ih.bind fun items hitems => returns_pure (List.forall_mem_cons.2 ⟨ha, hitems⟩)
    · exact returns_pure (List.forall_mem_singleton.2 ha)

theorem returns_commaList (h : Returns Q r) : Returns (fun items => ∀ a ∈ items, Q a) (commaList r) :=
  fun ts => returns_commaListWithin h (ts.length + 1) ts

theorem Returns.parenthesized (h : Returns Q r) : Returns Q (parenthesized r) := by
  unfold Rule.parenthesized
  apply Returns.after
  intro _
  refine h.bind fun a ha => Returns.after fun _ => ?_
  exact returns_pure ha

end

variable {i : Inner}

def IsOther (p : Phrase) : Prop := ∃ text, p = .other text

theorem isOther_other (text : String) : IsOther (.other text) := ⟨text, rfl⟩

/-- The rules for calls and for the forms with words of their own. -/
inductive IsForm (i : Inner) : Rule Phrase → Prop
  | call (function : String) : IsForm i (call i function)
  | timeFunction (function : String) : IsForm i (timeFunction i function)
  | spanRest : IsForm i (spanRest i)
  | caseRest : IsForm i (caseRest i)
  | castRest (word : String) : IsForm i (castRest i word)
  | convertRest : IsForm i (convertRest i)
  | existsRest (negated : Bool) : IsForm i (existsRest i negated)
  | extractRest : IsForm i (extractRest i)
  | roundRest (word : String) : IsForm i (roundRest i word)
  | substringRest : IsForm i (substringRest i)
  | overlayRest : IsForm i (overlayRest i)
  | trimRest : IsForm i (trimRest i)
  | arrayRest (word : String) : IsForm i (arrayRest i word)
  | matchRest : IsForm i matchRest
  | recordRest : IsForm i (recordRest i)
  | dictionaryRest : IsForm i (dictionaryRest i)

/-- A call of a function and the like is kept as its text. -/
theorem IsForm.returns {r : Rule Phrase} (h : IsForm i r) : Returns IsOther r := by
  cases h
  case' call => unfold Rule.call
  case' timeFunction => unfold Rule.timeFunction
  case' spanRest => unfold Rule.spanRest
  case' caseRest => unfold Rule.caseRest
  case' castRest => unfold Rule.castRest
  case' convertRest => unfold Rule.convertRest
  case' existsRest => unfold Rule.existsRest
  case' extractRest => unfold Rule.extractRest
  case' roundRest => unfold Rule.roundRest
  case' substringRest => unfold Rule.substringRest
  case' overlayRest => unfold Rule.overlayRest
  case' trimRest => unfold Rule.trimRest
  case' arrayRest => unfold Rule.arrayRest
  case' matchRest => unfold Rule.matchRest
  case' recordRest => unfold Rule.recordRest
  case' dictionaryRest => unfold Rule.dictionaryRest
  -- Wherever such a rule ends, it returns a text or refuses; the steps before that do not matter.
  all_goals repeat' first
    | exact returns_pure (isOther_other _)
    | exact returns_refuse
    | with_reducible apply Returns.parenthesized
    | (with_reducible apply Returns.after; intro _; try dsimp only)
    | split

theorem returns_positionRest (word : String) : Returns IsOther (positionRest i word) := by
  unfold positionRest
  have hposition : Returns IsOther (parenthesized do
      let p ← i.operation comparisonStrength
      expectKeyword "IN"
      return .other ("POSITION(" ++ p.text ++ " IN " ++ (← i.expression).text ++ ")")) := by
    apply Returns.parenthesized
    exact Returns.after fun _ => Returns.after fun _ => Returns.after fun _ => returns_pure (isOther_other _)
  refine hposition.attempt.bind fun found hfound => ?_
  cases found with
  | some p => exact returns_pure (hfound p rfl)
  | none => exact (IsForm.call word).returns

theorem returns_placeholderRest (sign : String) : Returns IsOther (placeholderRest sign) := by
  unfold placeholderRest
  apply Returns.after
  intro t
  split
  · exact returns_pure (isOther_other _)
  · exact returns_pure (isOther_other _)
  · exact returns_refuse

/-! ## Phrases with long paths -/

open Phrase (HasLongPaths HaveLongPaths)

theorem Returns.hasLongPaths {r : Rule Phrase} (h : Returns IsOther r) : Returns HasLongPaths r := by
  refine h.mono fun p hp => ?_
  obtain ⟨text, rfl⟩ := hp
  exact trivial

theorem returns_other (text : String) : Returns HasLongPaths (pure (.other text)) := returns_pure trivial

theorem IsForm.hasLongPaths {r : Rule Phrase} (h : IsForm i r) : Returns HasLongPaths r := h.returns.hasLongPaths

/-- The rules that hold further inside return phrases with long paths only. -/
structure ReturnsLongPaths (i : Inner) : Prop where
  expression : Returns HasLongPaths i.expression
  operation : ∀ floor, Returns HasLongPaths (i.operation floor)

theorem returns_typedString : Returns HasLongPaths (typedString i) := by
  unfold typedString
  apply Returns.after
  intro t
  split
  · exact Returns.after fun _ => returns_other _
  · exact IsForm.spanRest.hasLongPaths
  · exact returns_refuse

theorem returns_constantFrom (t : Token) : Returns HasLongPaths (constantFrom t) := by
  unfold constantFrom
  repeat' first
    | exact returns_pure trivial
    | exact returns_refuse
    | exact (returns_placeholderRest _).hasLongPaths
    | split

/-- A period is followed by one name at least. -/
theorem moreNames_ne_nil {ts rest : List Token} {names : List WrittenName} {limit : Nat}
    (h : moreNames (limit + 1) (.symbol .period :: ts) = .ok (names, rest)) : names ≠ [] := by
  unfold moreNames at h
  rw [bind_of_eq_ok (takeSymbol_of_head ..)] at h
  obtain ⟨n, later, -, h⟩ := bind_eq_ok_iff.1 h
  obtain ⟨ns, last, -, h⟩ := bind_eq_ok_iff.1 h
  cases h
  exact List.cons_ne_nil _ _

theorem returns_nameRest (n : WrittenName) : Returns HasLongPaths (nameRest i n) := by
  unfold nameRest
  intro ts p rest h
  rw [bind_of_eq_ok (rfl : peek ts = .ok (ts.head?, ts))] at h
  generalize hhead : ts.head? = head at h
  dsimp only at h
  split at h
  · obtain ⟨later, rfl⟩ := List.head?_eq_some_iff.1 hhead
    rw [bind_of_eq_ok (get_eq_ok _)] at h
    obtain ⟨names, later', hnames, h⟩ := bind_eq_ok_iff.1 h
    have hne := List.length_pos_iff.2 (moreNames_ne_nil hnames)
    refine Returns.after (fun called => ?_) later' p rest h
    split
    · exact (IsForm.call _).hasLongPaths
    · exact returns_pure (Nat.succ_le_succ hne)
  · exact (IsForm.call _).hasLongPaths ts p rest h
  · revert h
    refine fun h => (?_ : Returns HasLongPaths _) ts p rest h
    split
    · exact Returns.after fun _ => returns_other _
    · exact returns_pure trivial
  · revert h
    refine fun h => (?_ : Returns HasLongPaths _) ts p rest h
    split
    · exact Returns.after fun _ => returns_other _
    · exact returns_pure trivial
  · exact returns_pure (P := HasLongPaths) (b := .name n) trivial ts p rest h

section

variable (hi : ReturnsLongPaths i)

include hi

theorem returns_notRest : Returns HasLongPaths (notRest i) := by
  unfold notRest
  apply Returns.after
  intro isExists
  split
  · exact (IsForm.existsRest true).hasLongPaths
  · exact (hi.operation _).bind fun p hp => returns_pure hp

theorem returns_wordRest (text : String) : Returns HasLongPaths (wordRest i text) := by
  unfold wordRest
  dsimp only
  split
  all_goals with_reducible first
    | exact returns_notRest hi
    | exact (IsForm.timeFunction text).hasLongPaths
    | exact IsForm.caseRest.hasLongPaths
    | exact IsForm.convertRest.hasLongPaths
    | exact (IsForm.castRest _).hasLongPaths
    | exact (IsForm.existsRest false).hasLongPaths
    | exact IsForm.extractRest.hasLongPaths
    | exact (IsForm.roundRest _).hasLongPaths
    | exact IsForm.substringRest.hasLongPaths
    | exact IsForm.overlayRest.hasLongPaths
    | exact IsForm.trimRest.hasLongPaths
    | exact IsForm.spanRest.hasLongPaths
    | exact (IsForm.matchRest (i := i)).hasLongPaths
    | exact IsForm.recordRest.hasLongPaths
    | exact returns_nameRest _
    | apply returns_pure
    | skip
  all_goals try exact trivial
  · apply Returns.after
    intro isCall
    split
    · exact (returns_positionRest text).hasLongPaths
    · exact returns_nameRest _
  · apply Returns.after
    intro isArray
    split
    · exact (IsForm.arrayRest _).hasLongPaths
    · apply Returns.after
      intro isCall
      split
      · exact Returns.after fun _ => returns_other _
      · exact returns_nameRest _

theorem returns_bracketRest : Returns HasLongPaths (bracketRest i) := by
  unfold bracketRest
  apply Returns.after
  intro isSelect
  apply Returns.after
  intro isWith
  split
  case' isTrue =>
    apply Returns.after
    intro text
    refine (returns_other _).bind fun p hp => ?_
  case' isFalse =>
    refine (returns_commaList hi.expression).bind fun ps hps => ?_
    split
    case' h_1 =>
      have hinside := List.forall_mem_singleton.1 hps
      refine (returns_pure (P := HasLongPaths) (b := Phrase.nested _) hinside).bind fun p hp => ?_
    case' h_2 => refine (returns_other _).bind fun p hp => ?_
  -- Whatever stood in the parentheses, a field of it is kept as text.
  all_goals
    apply Returns.after
    intro _
    apply Returns.after
    intro isField
    split
    · apply Returns.after
      intro t
      split
      · exact returns_other _
      · exact returns_refuse
    · exact returns_pure hp

theorem returns_bareOperand : Returns HasLongPaths (bareOperand i) := by
  unfold bareOperand
  apply Returns.after
  intro t
  split
  · exact returns_wordRest hi _
  · exact returns_nameRest _
  · exact (hi.operation _).bind fun p hp => returns_pure hp
  · exact Returns.after fun _ => returns_other _
  · exact returns_bracketRest hi
  · exact (IsForm.arrayRest _).hasLongPaths
  · exact IsForm.dictionaryRest.hasLongPaths
  · exact returns_constantFrom _

theorem returns_operand : Returns HasLongPaths (operand i) := by
  unfold operand
  refine returns_typedString.attempt.bind fun found hfound => ?_
  cases found with
  | some p => exact returns_pure (hfound p rfl)
  | none =>
    refine (returns_bareOperand hi).bind fun p hp => Returns.after fun collated => ?_
    split
    · exact Returns.after fun _ => returns_other _
    · exact returns_pure hp

variable {left : Phrase} (hleft : left.HasLongPaths)

include hleft

theorem returns_infixRest (op : Connective) (s : Nat) : Returns HasLongPaths (infixRest i left op s) := by
  unfold infixRest
  apply Returns.after
  intro quantifier
  split
  · apply Returns.after
    intro right
    split
    · exact returns_other _
    · exact returns_refuse
  · exact (hi.operation s).bind fun right hright => returns_pure ⟨hleft, hright⟩

omit hi in
theorem returns_isRest : Returns HasLongPaths (isRest i left) := by
  unfold isRest
  repeat' first
    | exact returns_other _
    | exact returns_refuse
    | exact returns_pure hleft
    | (with_reducible apply Returns.after; intro _; try dsimp only)
    | split

theorem returns_inRest (negated : Bool) : Returns HasLongPaths (inRest i left negated) := by
  unfold inRest
  have hlist : Returns HasLongPaths (do return .inList left (← commaList i.expression) negated) :=
    (returns_commaList hi.expression).bind fun items hitems =>
      returns_pure ⟨hleft, Phrase.haveLongPaths_iff.2 hitems⟩
  apply Returns.after
  intro isUnnest
  split
  · exact Returns.after fun _ => returns_other _
  · apply Returns.parenthesized
    apply Returns.after
    intro isSelect
    apply Returns.after
    intro isWith
    split
    · exact Returns.after fun _ => returns_other _
    · exact hlist

theorem returns_betweenRest (negated : Bool) : Returns HasLongPaths (betweenRest i left negated) :=
  (hi.operation _).bind fun _ hlow => Returns.after fun _ =>
    (hi.operation _).bind fun _ hhigh => returns_pure ⟨hleft, hlow, hhigh⟩

theorem returns_likeRest (negated : Bool) : Returns HasLongPaths (likeRest i left negated) :=
  (hi.operation _).bind fun _ hpattern => Returns.after fun _ => returns_pure ⟨hleft, hpattern⟩

omit hi hleft in
theorem returns_patternRest (front : String) : Returns HasLongPaths (patternRest i front) :=
  Returns.after fun _ => Returns.after fun _ => returns_other _

theorem returns_testRest (t : Token) : Returns HasLongPaths (testRest i left t) := by
  unfold testRest
  dsimp only
  repeat' first
    | with_reducible exact returns_inRest hi hleft _
    | with_reducible exact returns_betweenRest hi hleft _
    | with_reducible exact returns_likeRest hi hleft _
    | with_reducible exact returns_patternRest _
    | with_reducible exact returns_other _
    | with_reducible exact returns_refuse
    | (with_reducible apply Returns.after; intro _; try dsimp only)
    | split

theorem returns_extend (s : Nat) : Returns HasLongPaths (extend i left s) := by
  unfold extend
  apply Returns.after
  intro t
  split
  · exact returns_infixRest hi hleft _ s
  · split
    · exact Returns.after fun _ => returns_other _
    · exact returns_other _
    · exact Returns.after fun _ => returns_other _
    · exact returns_refuse
    · split
      · exact returns_isRest hleft
      split
      · exact Returns.after fun _ => Returns.after fun _ => returns_other _
      split
      · exact Returns.after fun _ => returns_infixRest hi hleft _ s
      · exact returns_testRest hi hleft _

omit hleft in
theorem returns_climbBy (measure : List Token → Nat) (floor limit : Nat) {left : Phrase}
    (hleft : left.HasLongPaths) : Returns HasLongPaths (climbBy measure i floor limit left) := by
  induction limit generalizing left with
  | zero => exact returns_pure hleft
  | succ limit ih =>
    unfold climbBy
    apply Returns.after
    intro ts
    dsimp only
    split
    · exact (returns_extend hi hleft _).bind fun p hp => ih hp
    · exact returns_pure hleft

omit hleft in
theorem returns_operation (floor : Nat) : Returns HasLongPaths (operation i (operand i) floor) :=
  (returns_operand hi).bind fun _ hp => Returns.after fun _ => returns_climbBy hi _ _ _ hp

end

theorem returnsLongPaths_inner (fuel levels : Nat) : ReturnsLongPaths (inner fuel levels) := by
  induction fuel generalizing levels with
  | zero => exact ⟨returns_refuse, fun _ => returns_refuse⟩
  | succ fuel ih =>
    refine ⟨?_, fun floor => returns_operation (ih levels) floor⟩
    cases levels with
    | zero =>
      intro ts p rest h
      cases h
    | succ below => exact returns_operation (ih below) 0

theorem returns_phrase : Returns HasLongPaths phrase :=
  fun ts => (returnsLongPaths_inner (ts.length + 2) maxNesting).expression ts

end Rule

end Cohort
