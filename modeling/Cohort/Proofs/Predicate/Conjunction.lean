import Cohort.Proofs.Event.Selection
import Cohort.Proofs.Predicate.RoundTrip

/-!
# Conditions read back

The conditions of a selection are written one after the other, with a word between two of them and brackets around
those that it would cut apart. Read as one text, they are the conditions joined from the left, each of them whole.
-/

namespace Cohort

open Outcome
open Rule (Reads Climbs Closes)
open Sql (BuiltIn Term Token Script Select Query bracketed conjuncts enclosed operatorRank scripts spaced)
open Sql.Script (join)

namespace Sql

/-- The conditions as they stand after their word in the text of a selection. -/
def conjunction (ts : List Term) : Script := join (spaced ["AND"]) (conjuncts ts)

theorem tokenize_conjunction (ts : List Term) :
    tokenize (conjunction ts).text.toList = .ok (conjunction ts).tokens := by
  have hclear : Script.Clear (conjunction ts) := Script.clear_join_spaced ["AND"] (by decide) (clear_conjuncts ts)
  rw [Script.text, String.toList_ofList]
  exact Script.tokenize_chars (hclear [] (boundary_nil _))

namespace Select

/-- The selection without what is written from its conditions on. -/
def untilConditions (s : Select) : Select :=
  { s with conditions := [], groups := [], groupConditions := [], order := [], limit := none, offset := none }

/-- The selection without what is written from its conditions on groups on. -/
def untilGroupConditions (s : Select) : Select :=
  { s with groupConditions := [], order := [], limit := none, offset := none }

/-- What is written after the conditions on groups. -/
def afterGroupConditions (s : Select) : Script :=
  script.clauseOf ["ORDER", "BY"] Script.commaBlank (sortScripts s.order) ++ script.numberOf ["LIMIT"] s.limit ++
    script.numberOf ["OFFSET"] s.offset

/-- What is written after the conditions. -/
def afterConditions (s : Select) : Script :=
  script.clauseOf ["GROUP", "BY"] Script.commaBlank (scripts s.groups) ++
    script.clauseOf ["HAVING"] (spaced ["AND"]) (conjuncts s.groupConditions) ++ s.afterGroupConditions

theorem script_eq_append (s : Select) :
    s.script =
      s.untilConditions.script ++ script.clauseOf ["WHERE"] (spaced ["AND"]) (conjuncts s.conditions) ++
        s.afterConditions := by
  obtain ⟨distinct, projection, source, joins, conditions, groups, groupConditions, order, limit, offset⟩ := s
  unfold untilConditions afterConditions afterGroupConditions
  rw [script, script]
  simp [script.clauseOf, script.numberOf, conjuncts, scripts, sortScripts]

theorem clauseOf_conjuncts (words : List String) {ts : List Term} (h : ts ≠ []) :
    script.clauseOf words (spaced ["AND"]) (conjuncts ts) = spaced words ++ conjunction ts := by
  match ts, h with
  | _ :: _, _ => rfl

/-- The conditions are written after their word, between what is written before it and what is written later. -/
theorem text_eq_of_conditions {s : Select} (h : s.conditions ≠ []) :
    (Query.select s).text =
      (Query.select s.untilConditions).text ++ " WHERE " ++ (conjunction s.conditions).text ++
        s.afterConditions.text := by
  have hword : (spaced ["WHERE"]).text = " WHERE " := by decide
  rw [Query.text, Query.script, script_eq_append, clauseOf_conjuncts ["WHERE"] h]
  simp only [Script.text_append, hword, String.append_assoc]
  rfl

/-- So are the conditions on groups. -/
theorem text_eq_of_groupConditions {s : Select} (h : s.groupConditions ≠ []) :
    (Query.select s).text =
      (Query.select s.untilGroupConditions).text ++ " HAVING " ++ (conjunction s.groupConditions).text ++
        s.afterGroupConditions.text := by
  have hword : (spaced ["HAVING"]).text = " HAVING " := by decide
  have hgroups : s.untilGroupConditions.afterConditions =
      script.clauseOf ["GROUP", "BY"] Script.commaBlank (scripts s.groups) := by
    simp [afterConditions, afterGroupConditions, untilGroupConditions, script.clauseOf, script.numberOf, conjuncts,
      sortScripts]
  have hfront : s.untilGroupConditions.script =
      s.untilConditions.script ++ script.clauseOf ["WHERE"] (spaced ["AND"]) (conjuncts s.conditions) ++
        script.clauseOf ["GROUP", "BY"] Script.commaBlank (scripts s.groups) := by
    rw [script_eq_append, hgroups]
    rfl
  rw [Query.text, Query.script, script_eq_append, afterConditions, clauseOf_conjuncts ["HAVING"] h,
    ← List.append_assoc, ← List.append_assoc, ← hfront]
  simp only [Script.text_append, hword, String.append_assoc]
  rfl

theorem text_eq_of_only_conditions {ts : List Term} (h : ts ≠ []) :
    (Query.select { empty with conditions := ts }).text = "SELECT * WHERE " ++ (conjunction ts).text := by
  have hfront : (Query.select empty).text ++ " WHERE " = "SELECT * WHERE " := by decide +kernel
  have hback : empty.afterConditions.text = "" := by decide +kernel
  calc
    (Query.select { empty with conditions := ts }).text =
        (Query.select empty).text ++ " WHERE " ++ (conjunction ts).text ++ empty.afterConditions.text :=
      text_eq_of_conditions h
    _ = "SELECT * WHERE " ++ (conjunction ts).text := by rw [hfront, hback, String.append_empty]

end Select

end Sql

namespace Predicate

/-- The predicates joined one after the other. -/
def conjunction (p : Predicate) (ps : List Predicate) : Predicate := ps.foldl (fun q r => .binary q .and r) p

theorem leftward_conjunction (p : Predicate) (ps : List Predicate) :
    (conjunction p ps).leftward = ps.foldl (fun q r => after .and q r.leftward) p.leftward := by
  induction ps generalizing p with
  | nil => rfl
  | cons r ps ih => exact ih _

/-- The tokens of conditions that others stand before. -/
def laterTokens : List Predicate → List Token
  | [] => []
  | p :: ps => .plain "AND" :: bracketed (p.isLoose (operatorRank .and) false) p.tokens ++ laterTokens ps

def laterDepth : List Predicate → Nat
  | [] => 0
  | p :: ps => max (enclosedDepth (p.isLoose (operatorRank .and) false) p.depth) (laterDepth ps)

variable {ps : List Predicate} {ts : List Term}

theorem leftBracket_not_mem_laterTokens (hts : List.Forall₂ (fun p t => Term.ofPredicate p = .ok t) ps ts) :
    Token.symbol .leftBracket ∉ laterTokens ps := by
  induction hts with
  | nil => exact List.not_mem_nil
  | @cons p t ps ts ht _ ih =>
    intro hmem
    rcases List.mem_append.1 hmem with hmem | hmem
    · rcases List.mem_cons.1 hmem with heq | hmem
      · cases heq
      · exact leftBracket_not_mem_bracketed (leftBracket_not_mem_tokens ht) _ hmem
    · exact ih hmem

theorem closes_laterTokens (hts : List.Forall₂ (fun p t => Term.ofPredicate p = .ok t) ps ts) {rest : List Token}
    (hrest : Closes Rule.andStrength rest) : Closes Rule.andStrength (laterTokens ps ++ rest) := by
  have hflat := leftBracket_not_mem_laterTokens hts
  cases ps with
  | nil => exact hrest
  | cons p ps => exact closes_operator .and (fun hmem => hflat (List.mem_cons_of_mem _ hmem)) (Nat.le_refl _) hrest.flat

/-- After a phrase for what stands before, further conditions are taken to a phrase for all, joined from the left. -/
theorem exists_climbs_later (hts : List.Forall₂ (fun p t => Term.ofPredicate p = .ok t) ps ts)
    (hreadable : ∀ p ∈ ps, p.IsReadable) {φ : Phrase} {before : Predicate} (hφ : StandsFor φ before) :
    ∃ ψ, StandsFor ψ (ps.foldl (fun q r => after .and q r.leftward) before) ∧
      Climbs (laterTokens ps) (laterDepth ps) Rule.andStrength Rule.andStrength φ ψ := by
  induction hts generalizing φ before with
  | nil => exact ⟨φ, hφ, fun _ _ _ limit _ _ _ _ _ hlimit => ⟨limit, hlimit, rfl⟩⟩
  | @cons p t ps ts ht hlater ih =>
    obtain ⟨hp, hps⟩ := List.forall_mem_cons.1 hreadable
    obtain ⟨χ, hχ, hclimbs⟩ := (isRead_and_isJoined ht hp).2 .and rfl φ before hφ
    obtain ⟨ψ, hψ, hclimbsLater⟩ := ih hps hχ
    exact ⟨ψ, hψ, hclimbs.trans hclimbsLater fun rest hrest => closes_laterTokens hlater hrest⟩

/-! ## Conditions read as one text -/

theorem tokens_conjunction (hts : List.Forall₂ (fun p t => Term.ofPredicate p = .ok t) ps ts) (t : Term) :
    (Sql.conjunction (t :: ts)).tokens =
      bracketed (t.isLoose (operatorRank .and) false) t.script.tokens ++ laterTokens ps := by
  induction hts generalizing t with
  | nil =>
    rw [laterTokens, List.append_nil]
    exact Sql.tokens_enclosed ..
  | @cons p next ps ts hnext _ ih =>
    have hconjunction : Sql.conjunction (t :: next :: ts) =
        enclosed (t.isLoose (operatorRank .and) false) t.script ++ spaced ["AND"] ++ Sql.conjunction (next :: ts) := rfl
    rw [hconjunction, Script.tokens_append, Script.tokens_append, ih, Sql.tokens_enclosed, Script.tokens_spaced,
      tokens_script_of_ofPredicate hnext, isLoose_of_rank_eq (rank_of_ofPredicate hnext), List.append_assoc]
    rfl

/-- If the first condition is read, all of them are read as one predicate, joined from the left. -/
theorem read_conjunction_of_reads {t : Term} {φ : Phrase} {before : Predicate} {n : Nat}
    (hread : Reads (bracketed (t.isLoose (operatorRank .and) false) t.script.tokens) n Rule.andStrength Rule.andStrength
      φ) (hφ : StandsFor φ before) (hn : n < Rule.maxNesting)
    (hts : List.Forall₂ (fun p t => Term.ofPredicate p = .ok t) ps ts) (hreadable : ∀ p ∈ ps, p.IsReadable)
    (hlater : laterDepth ps < Rule.maxNesting) :
    Predicate.read (Sql.conjunction (t :: ts)).text =
      .ok (ps.foldl (fun q r => after .and q r.leftward) before) := by
  obtain ⟨ψ, hψ, hclimbs⟩ := exists_climbs_later hts hreadable hφ
  have hreadAll := hread.climbs hclimbs fun rest hrest => closes_laterTokens hts hrest
  rw [← tokens_conjunction hts] at hreadAll
  have hphrase := hreadAll.phrase_eq_ok (Nat.max_lt.2 ⟨hn, hlater⟩) (by decide)
  have hreadPhrase : readPhrase (Sql.conjunction (t :: ts)).text = .ok ψ := by
    refine bind_eq_ok_iff.2 ⟨_, mapError_eq_ok_iff.2 (Sql.tokenize_conjunction _), ?_⟩
    rw [hphrase]
  unfold Predicate.read
  rw [hreadPhrase]
  exact hψ

end Predicate

/-- The brackets of a condition are no more than can be read, with those around it if it is a choice. -/
def Sql.Term.IsShallow (t : Term) : Prop :=
  Predicate.nesting t.script.tokens ≤ 49 ∧ ∀ l r, t = .binary l .or r → Predicate.nesting t.script.tokens ≤ 48

/-- Only choices are put into brackets among conditions. -/
theorem Sql.Term.exists_or_of_isLoose {t : Term} (h : t.isLoose (operatorRank .and) false = true) :
    ∃ l r, t = .binary l .or r := by
  cases t with
  | binary l op r =>
    cases op with
    | or => exact ⟨l, r, rfl⟩
    | _ => cases h
  | _ => cases h

namespace Predicate

theorem enclosedDepth_lt {p : Predicate} {t : Term} (ht : Term.ofPredicate p = .ok t) (hshallow : t.IsShallow) :
    enclosedDepth (p.isLoose (operatorRank .and) false) p.depth < Rule.maxNesting := by
  obtain ⟨hdepth, hchoice⟩ := hshallow
  rw [tokens_script_of_ofPredicate ht, nesting_tokens] at hdepth hchoice
  unfold enclosedDepth Rule.maxNesting
  split
  · rename_i hloose
    rw [← isLoose_of_rank_eq (rank_of_ofPredicate ht)] at hloose
    obtain ⟨l, r, heq⟩ := Term.exists_or_of_isLoose hloose
    have hle := hchoice l r heq
    omega
  · omega

theorem isShallow_of_depth_le {p : Predicate} {t : Term} (ht : Term.ofPredicate p = .ok t) (hdepth : p.depth ≤ 48) :
    t.IsShallow := by
  unfold Sql.Term.IsShallow
  rw [tokens_script_of_ofPredicate ht, nesting_tokens]
  exact ⟨Nat.le_succ_of_le hdepth, fun _ _ _ => hdepth⟩

theorem laterDepth_lt (hts : List.Forall₂ (fun p t => Term.ofPredicate p = .ok t) ps ts)
    (hshallow : ∀ t ∈ ts, t.IsShallow) : laterDepth ps < Rule.maxNesting := by
  induction hts with
  | nil => exact Nat.zero_lt_succ _
  | @cons p t ps ts ht _ ih =>
    obtain ⟨hfirst, hlater⟩ := List.forall_mem_cons.1 hshallow
    exact Nat.max_lt.2 ⟨enclosedDepth_lt ht hfirst, ih hlater⟩

/-- All conditions stand for predicates. -/
theorem read_conjunction {p : Predicate} {ps : List Predicate} {ts : List Term}
    (hts : List.Forall₂ (fun p t => Term.ofPredicate p = .ok t) (p :: ps) ts) (hreadable : ∀ q ∈ p :: ps, q.IsReadable)
    (hshallow : ∀ t ∈ ts, t.IsShallow) :
    Predicate.read (Sql.conjunction ts).text = .ok (conjunction p ps).leftward := by
  cases hts with
  | @cons _ t _ ts ht hlater =>
    obtain ⟨hp, hps⟩ := List.forall_mem_cons.1 hreadable
    obtain ⟨hfirst, hshallowLater⟩ := List.forall_mem_cons.1 hshallow
    obtain ⟨φ, hφ, hread⟩ := (isRead_and_isJoined ht hp).1.operand' ht (operatorRank .and) false
    rw [← tokens_script_of_ofPredicate ht, ← isLoose_of_rank_eq (rank_of_ofPredicate ht)] at hread
    have hdepth := enclosedDepth_lt ht hfirst
    rw [← isLoose_of_rank_eq (rank_of_ofPredicate ht)] at hdepth
    rw [leftward_conjunction]
    refine read_conjunction_of_reads ?_ hφ hdepth hlater hps (laterDepth_lt hlater hshallowLater)
    exact hread.mono (Nat.le_refl _) (Nat.le_of_ble_eq_true rfl) (Nat.le_of_ble_eq_true rfl)

end Predicate

namespace EventFilter

/-- The condition that events have a user, as a predicate. -/
def hasUser : Predicate := .isNotNull (.column [BuiltIn.collection.text, userField])

theorem exists_reads_hasUser :
    ∃ φ, Predicate.StandsFor φ hasUser ∧
      Reads (Term.isNotNull (eventColumn .user)).script.tokens 0 Rule.isStrength Rule.productStrength φ := by
  have hcolumn : Reads [.plain BuiltIn.collection.text, .symbol .period, .plain BuiltIn.user.text] 0 Rule.isStrength
      Rule.productStrength (.path [⟨BuiltIn.collection.text, none⟩, ⟨BuiltIn.user.text, none⟩]) := by
    refine Rule.reads_of_bareOperand ⟨_, _, rfl, .inr (by decide)⟩ (by decide) ?_
    exact fun _ _ rest _ _ hrest => Rule.bareOperand_eventColumn .user hrest.follows
  refine ⟨_, ?_, hcolumn.climbs Rule.climbs_isNotNull fun rest hrest => ?_⟩
  · exact Predicate.standsFor_isNotNull_iff.2 ⟨_, rfl, rfl⟩
  · exact Predicate.closes_append_of_follower (.word "IS" (by decide)) (by simp [Token.plain])
      (fun rest => Nat.le_of_ble_eq_true rfl) hrest.flat

/-- The conditions of an event filter without a timeframe are that events have a user, and its predicate. -/
theorem read_conditions_of_query {mapping : Bool} {c : Catalog} {project : String} {f : EventFilter} {s : Select}
    {p : Predicate} {t : Term} (h : f.query mapping c project = .ok s) (hfilter : f.filter = some p)
    (hnone : f.timeframe = none) (ht : Term.ofPredicate p = .ok t) (hreadable : p.IsReadable) (hshallow : t.IsShallow) :
    Predicate.read (Sql.conjunction s.conditions).text = .ok (Predicate.binary hasUser .and p).leftward := by
  obtain ⟨hcollection, filters, bounds, hfilters, -, rfl⟩ := query_eq_ok h
  have hconditions : (f.selection (f.isMapped mapping c project) [.checked f.collection hcollection] filters
      bounds.flatten).conditions = .isNotNull (eventColumn .user) :: filters := by
    unfold selection
    rw [hnone]
    exact congrArg _ (List.append_nil _)
  rw [hfilter] at hfilters
  obtain ⟨φ, hφ, hread⟩ := exists_reads_hasUser
  rw [hconditions]
  have hterms : ∀ u ∈ filters, u.IsShallow := by
    cases hfilters with
    | cons hu hnil =>
      cases hnil
      obtain rfl : t = _ := Except.ok.inj (ht.symm.trans hu)
      exact List.forall_mem_singleton.2 hshallow
  refine Predicate.read_conjunction_of_reads ?_ hφ (Nat.zero_lt_succ _) hfilters
    (List.forall_mem_singleton.2 hreadable) (Predicate.laterDepth_lt hfilters hterms)
  exact hread.mono (Nat.le_refl _) (Nat.le_of_ble_eq_true rfl) (Nat.le_of_ble_eq_true rfl)

end EventFilter

namespace Predicate

/-- The conditions that a selection is written with, each with no more than 49 brackets inside each other, and those
that are choices with one less, read back as the conditions joined from the left; so do conditions on groups. The
conditions of an event filter without a timeframe read back as its predicate beside the condition that there is a
user. -/
theorem read_text_conditions {p : Predicate} {ps : List Predicate} {ts : List Term}
    (hts : List.Forall₂ (fun p t => Term.ofPredicate p = .ok t) (p :: ps) ts) (hreadable : ∀ q ∈ p :: ps, q.IsReadable)
    (hshallow : ∀ t ∈ ts, t.IsShallow) :
    (∀ s : Select, s.conditions = ts →
      ∃ text, (Query.select s).text =
        (Query.select s.untilConditions).text ++ " WHERE " ++ text ++ s.afterConditions.text ∧
          Predicate.read text = .ok (conjunction p ps).leftward) ∧
      (∀ s : Select, s.groupConditions = ts →
        ∃ text, (Query.select s).text =
          (Query.select s.untilGroupConditions).text ++ " HAVING " ++ text ++ s.afterGroupConditions.text ∧
            Predicate.read text = .ok (conjunction p ps).leftward) ∧
        ∀ mapping c project f s, EventFilter.query mapping c project f = .ok s → f.filter = some p →
          f.timeframe = none → ∃ text, (Query.select s).text =
            (Query.select s.untilConditions).text ++ " WHERE " ++ text ++ s.afterConditions.text ∧
              Predicate.read text = .ok (Predicate.binary EventFilter.hasUser .and p).leftward := by
  have hne : ts ≠ [] := by
    rintro rfl
    cases hts
  refine ⟨fun s hs => ?_, fun s hs => ?_, fun mapping c project f s h hfilter hnone => ?_⟩
  · have htext := Select.text_eq_of_conditions (s := s) (hs.symm ▸ hne)
    rw [hs] at htext
    exact ⟨_, htext, read_conjunction hts hreadable hshallow⟩
  · have htext := Select.text_eq_of_groupConditions (s := s) (hs.symm ▸ hne)
    rw [hs] at htext
    exact ⟨_, htext, read_conjunction hts hreadable hshallow⟩
  · cases hts with
    | cons ht hlater =>
      have hread := EventFilter.read_conditions_of_query h hfilter hnone ht (hreadable p List.mem_cons_self)
        (hshallow _ List.mem_cons_self)
      have hconditions : s.conditions ≠ [] := by
        obtain ⟨hcollection, filters, bounds, -, -, rfl⟩ := EventFilter.query_eq_ok h
        exact List.cons_ne_nil _ _
      exact ⟨_, Select.text_eq_of_conditions hconditions, hread⟩

/-- Many, or unknown. -/
def manyOrUnknown : Predicate :=
  .binary (.binary (.column ["pieces"]) .gt (.literal (.integer 100))) .or (.isNull (.column ["pieces"]))

/-- From one to two dozens. -/
def dozens : Predicate := .between (.column ["pieces"]) (.literal (.integer 12)) (.literal (.integer 24)) false

theorem read_text_conditions_manyOrUnknown :
    ∃ ts, List.Forall₂ (fun p t => Term.ofPredicate p = .ok t) [manyOrUnknown, dozens] ts ∧
      (∀ q ∈ [manyOrUnknown, dozens], q.IsReadable) ∧ (∀ t ∈ ts, t.IsShallow) ∧
        (∃ s text, s.conditions = ts ∧
          (Query.select s).text = (Query.select s.untilConditions).text ++ " WHERE " ++ text ++ s.afterConditions.text ∧
            Predicate.read text = .ok (.binary manyOrUnknown .and dozens)) ∧
        ∃ s text, EventFilter.query true .empty "shop" ⟨"purchases", some manyOrUnknown, none, none⟩ = .ok s ∧
          (Query.select s).text = (Query.select s.untilConditions).text ++ " WHERE " ++ text ++ s.afterConditions.text ∧
            Predicate.read text = .ok (.binary EventFilter.hasUser .and manyOrUnknown) := by
  obtain ⟨t, ht⟩ : ∃ t, Term.ofPredicate manyOrUnknown = .ok t := ⟨_, rfl⟩
  obtain ⟨u, hu⟩ : ∃ u, Term.ofPredicate dozens = .ok u := ⟨_, rfl⟩
  obtain ⟨s, hs⟩ : ∃ s, EventFilter.query true .empty "shop" ⟨"purchases", some manyOrUnknown, none, none⟩ = .ok s :=
    ⟨_, rfl⟩
  have hreadable : ∀ q ∈ [manyOrUnknown, dozens], q.IsReadable :=
    List.forall_mem_cons.2 ⟨⟨⟨trivial, by decide, by decide⟩, trivial⟩,
      List.forall_mem_singleton.2 ⟨trivial, ⟨by decide, by decide⟩, by decide, by decide⟩⟩
  have hshallow : ∀ t' ∈ [t, u], t'.IsShallow :=
    List.forall_mem_cons.2 ⟨isShallow_of_depth_le ht (by decide),
      List.forall_mem_singleton.2 (isShallow_of_depth_le hu (by decide))⟩
  have hts : List.Forall₂ (fun p t => Term.ofPredicate p = .ok t) [manyOrUnknown, dozens] [t, u] :=
    .cons ht (.cons hu .nil)
  obtain ⟨hconditions, -, hquery⟩ := read_text_conditions hts hreadable hshallow
  obtain ⟨text, htext, hread⟩ := hconditions { Select.empty with conditions := [t, u] } rfl
  obtain ⟨text', htext', hread'⟩ := hquery true .empty "shop" _ s hs rfl rfl
  exact ⟨[t, u], hts, hreadable, hshallow, ⟨_, text, rfl, htext, hread⟩, s, text', hs, htext', hread'⟩

/-- A choice within a choice, that many times. -/
def alternation : Nat → Predicate
  | 0 => .column ["a"]
  | n + 1 => .binary (.column ["a"]) .or (.not (alternation n))

theorem exists_ofPredicate_alternation (n : Nat) : ∃ t, Term.ofPredicate (alternation n) = .ok t := by
  induction n with
  | zero => exact ⟨_, rfl⟩
  | succ n ih =>
    obtain ⟨t, ht⟩ := ih
    obtain ⟨a, ha⟩ : ∃ a, Term.ofPredicate (.column ["a"]) = .ok a := ⟨_, rfl⟩
    have hnot : Term.ofPredicate (.not (alternation n)) = .ok (.not t) := bind_eq_ok_iff.2 ⟨t, ht, rfl⟩
    exact ⟨.binary a .or (.not t), bind_eq_ok_iff.2 ⟨a, ha, bind_eq_ok_iff.2 ⟨_, hnot, rfl⟩⟩⟩

theorem isReadable_alternation (n : Nat) : (alternation n).IsReadable := by
  induction n with
  | zero => trivial
  | succ n ih => exact ⟨trivial, ih⟩

/-- A choice with 49 brackets inside each other cannot be read as a condition, as there are brackets around it. -/
theorem not_read_alternation :
    ∃ t, Term.ofPredicate (alternation 50) = .ok t ∧ (alternation 50).IsReadable ∧ nesting t.script.tokens = 49 ∧
      ∃ text, (Query.select { Select.empty with conditions := [t] }).text = "SELECT * WHERE " ++ text ∧
        ∀ p, Predicate.read text ≠ .ok p := by
  obtain ⟨t, ht⟩ := exists_ofPredicate_alternation 50
  refine ⟨t, ht, isReadable_alternation 50, ?_, _, Select.text_eq_of_only_conditions (List.cons_ne_nil _ _), ?_⟩
  · rw [tokens_script_of_ofPredicate ht, nesting_tokens]
    decide +kernel
  · have htokens : (Sql.conjunction [t]).tokens = bracketed true (alternation 50).tokens := by
      have hloose : (alternation 50).isLoose (operatorRank .and) false = true := rfl
      rw [tokens_conjunction .nil, tokens_script_of_ofPredicate ht, isLoose_of_rank_eq (rank_of_ofPredicate ht), hloose,
        laterTokens, List.append_nil]
    have hphrase : (Rule.phrase (bracketed true (alternation 50).tokens)).isOk = false := by decide +kernel
    intro p hread
    obtain ⟨φ, hφ, -⟩ := bind_eq_ok_iff.1 hread
    obtain ⟨tokens, htokenize, hφ⟩ := bind_eq_ok_iff.1 hφ
    obtain rfl : (Sql.conjunction [t]).tokens = tokens :=
      Except.ok.inj ((Sql.tokenize_conjunction [t]).symm.trans (mapError_eq_ok_iff.1 htokenize))
    rw [htokens] at hφ
    cases h : Rule.phrase (bracketed true (alternation 50).tokens) with
    | error fault =>
      rw [h] at hφ
      cases hφ
    | ok result =>
      rw [h] at hphrase
      cases hphrase

end Predicate

end Cohort
