import Cohort.Proofs.Enrichment.Agent
import Cohort.Proofs.Property.Conformance

/-!
# Failing enrichment

Enrichment stops at the first mapper that fails, and takes nothing back. The event is then what the mappers before
that one have made of it, together with what the failing mapper itself has written before the write that was refused.
Of the properties that a user agent stands for, those before the refused one have been written. So the event is as it
was only if the user agent itself has been refused.
-/

namespace Cohort

open Outcome

namespace Properties

variable {e e' : Properties} {error : EventError} {ws : List (String × PropertyValue)}

/-- Properties are written up to the first one that is refused. -/
theorem run_putAll_eq_error_iff :
    (putAll ws).run e = (.error error, e') ↔
      ∃ taken name v rest, ws = taken ++ (name, v) :: rest ∧ (∀ w ∈ taken, e.Conforms w.1 w.2) ∧
        e.conflict? name v = some error ∧ e' = e.written taken := by
  induction ws generalizing e with
  | nil =>
    refine iff_of_false (fun h => nomatch h) ?_
    rintro ⟨taken, name, v, rest, hws, -⟩
    exact List.append_ne_nil_of_right_ne_nil taken (List.cons_ne_nil _ _) hws.symm
  | cons w ws ih =>
    obtain ⟨first, u⟩ := w
    rw [putAll]
    cases hconflict : e.conflict? first u with
    | some found =>
      have hput : (put first u).run e = (.error found, e) := by rw [run_put, hconflict]
      rw [run_bind_of_error hput]
      constructor
      · rintro ⟨⟩
        exact ⟨[], first, u, ws, rfl, List.forall_mem_nil _, hconflict, rfl⟩
      · rintro ⟨taken, name, v, rest, hws, htaken, hrefused, rfl⟩
        -- nothing can have been written before the first property
        cases taken with
        | nil =>
          cases hws
          rw [hconflict] at hrefused
          cases hrefused
          rfl
        | cons x taken =>
          cases hws
          have hconforms := conflict?_eq_none_iff.2 (htaken _ List.mem_cons_self)
          rw [hconflict] at hconforms
          cases hconforms
    | none =>
      have hput := run_put_of_conforms (conflict?_eq_none_iff.1 hconflict)
      rw [run_bind_of_ok hput, ih]
      constructor
      · rintro ⟨taken, name, v, rest, rfl, htaken, hrefused, rfl⟩
        refine ⟨(first, u) :: taken, name, v, rest, rfl, ?_, hrefused, rfl⟩
        exact List.forall_mem_cons.2 ⟨conflict?_eq_none_iff.1 hconflict, htaken⟩
      · rintro ⟨taken, name, v, rest, hws, htaken, hrefused, rfl⟩
        cases taken with
        | nil =>
          cases hws
          rw [hconflict] at hrefused
          cases hrefused
        | cons x taken =>
          cases hws
          exact ⟨taken, name, v, rest, rfl, (List.forall_mem_cons.1 htaken).2, hrefused, rfl⟩

end Properties

namespace Pipeline

variable {p q : Pipeline} {m : Mapper} {e e₁ e' : Properties} {error : EventError}

theorem run_enrich_cons_of_ok (h : m.enrich.run e = (.ok (), e₁)) : (enrich (m :: p)).run e = p.enrich.run e₁ :=
  run_bind_of_ok h _

theorem run_enrich_cons_of_error (h : m.enrich.run e = (.error error, e')) :
    (enrich (m :: p)).run e = (.error error, e') :=
  run_bind_of_error h _

/-- A pipeline fails just if one of its mappers does, on what those before it have made of the event. -/
theorem run_enrich_eq_error_iff :
    (enrich p).run e = (.error error, e') ↔
      ∃ before m after e₁, p = before ++ m :: after ∧ (enrich before).run e = (.ok (), e₁) ∧
        m.enrich.run e₁ = (.error error, e') := by
  induction p generalizing e with
  | nil =>
    refine iff_of_false (fun h => nomatch h) ?_
    rintro ⟨before, m, after, e₁, hp, -⟩
    exact List.append_ne_nil_of_right_ne_nil before (List.cons_ne_nil _ _) hp.symm
  | cons first p ih =>
    rcases hfirst : first.enrich.run e with ⟨result, e₂⟩
    cases result with
    | error found =>
      rw [run_enrich_cons_of_error hfirst]
      constructor
      · rintro ⟨⟩
        exact ⟨[], first, p, e, rfl, rfl, hfirst⟩
      · rintro ⟨before, m, after, e₁, hp, hbefore, hm⟩
        -- the mapper that fails cannot come after one that has failed
        cases before with
        | nil =>
          cases hp
          cases hbefore
          exact hfirst.symm.trans hm
        | cons x before =>
          cases hp
          rw [run_enrich_cons_of_error hfirst] at hbefore
          cases hbefore
    | ok _ =>
      rw [run_enrich_cons_of_ok hfirst, ih]
      constructor
      · rintro ⟨before, m, after, e₁, rfl, hbefore, hm⟩
        exact ⟨first :: before, m, after, e₁, rfl, (run_enrich_cons_of_ok hfirst).trans hbefore, hm⟩
      · rintro ⟨before, m, after, e₁, hp, hbefore, hm⟩
        cases before with
        | nil =>
          cases hp
          cases hbefore
          rw [hfirst] at hm
          cases hm
        | cons x before =>
          cases hp
          rw [run_enrich_cons_of_ok hfirst] at hbefore
          exact ⟨before, m, after, e₁, rfl, hbefore, hm⟩

end Pipeline

namespace AgentDatabase

open Properties

variable {d : AgentDatabase} {e e' : Properties} {error : EventError}

/-- An event without a user agent gets the properties before the first one that its declarations refuse. -/
theorem run_enrich_eq_error_iff :
    d.enrich.run e = (.error error, e') ↔
      hasAgent e = false ∧ ∃ taken name v rest, d.resolve "" = taken ++ (name, v) :: rest ∧
        (∀ w ∈ taken, e.Conforms w.1 w.2) ∧ e.conflict? name v = some error ∧ e' = e.written taken := by
  rw [run_enrich]
  split
  · rename_i hagent
    exact iff_of_false (fun h => nomatch h) fun h => absurd (hagent.symm.trans h.1) (by decide)
  · rename_i hagent
    rw [run_putAll_eq_error_iff, and_iff_right (Bool.eq_false_iff.2 hagent)]

/-- The browser of an event without a user agent. -/
def defaultBrowser (d : AgentDatabase) : PropertyValue := .text (AgentRule.resolve d.browsers "").family

/-- The browser is written first, and nothing is written over it. -/
theorem exists_resolve_eq_cons (d : AgentDatabase) :
    ∃ later, d.resolve "" = (agentField, d.defaultBrowser) :: later ∧ agentField ∉ later.map Prod.fst := by
  refine ⟨(d.resolve "").tail, rfl, ?_⟩
  rw [List.map_tail, resolve_names]
  decide

/-- An event that has got any of the properties has a user agent. -/
theorem hasAgent_written {taken rest : List (String × PropertyValue)} (h : d.resolve "" = taken ++ rest)
    (htaken : taken ≠ []) : hasAgent (e.written taken) = true := by
  obtain ⟨later, hresolve, hlater⟩ := d.exists_resolve_eq_cons
  cases taken with
  | nil => exact absurd rfl htaken
  | cons w taken =>
    rw [hresolve] at h
    cases h
    have hagain : agentField ∉ taken.map Prod.fst := by
      intro hmem
      obtain ⟨x, hx, hname⟩ := List.mem_map.1 hmem
      exact hlater (List.mem_map.2 ⟨x, List.mem_append_left rest hx, hname⟩)
    unfold hasAgent
    rw [written_cons, get?_written_of_not_mem hagain, Keyed.get?_insert_self]
    rfl

/-- An event whose enrichment fails is as it was just if the browser has been refused. Otherwise it has got a user
agent, and enriching it once more does nothing. -/
theorem enrich_error_eq_self_iff (h : d.enrich.run e = (.error error, e')) :
    (e' = e ↔ ¬e.Conforms agentField d.defaultBrowser) ∧ (e' ≠ e → d.enrich.run e' = (.ok (), e')) := by
  obtain ⟨hagent, taken, name, v, rest, hresolve, htaken, hrefused, rfl⟩ := run_enrich_eq_error_iff.1 h
  obtain ⟨later, hfirst, -⟩ := d.exists_resolve_eq_cons
  cases taken with
  | nil =>
    rw [hfirst] at hresolve
    cases hresolve
    have hconforms : ¬e.Conforms agentField d.defaultBrowser := by
      rw [← conflict?_eq_none_iff, hrefused]
      exact Option.some_ne_none _
    exact ⟨iff_of_true rfl hconforms, fun hne => absurd rfl hne⟩
  | cons w taken =>
    have hwritten : hasAgent (e.written (w :: taken)) = true := hasAgent_written hresolve (List.cons_ne_nil _ _)
    have hne : e.written (w :: taken) ≠ e := by
      intro heq
      rw [heq, hagent] at hwritten
      cases hwritten
    rw [hfirst] at hresolve
    cases hresolve
    refine ⟨iff_of_false hne fun hrefuses => hrefuses (htaken _ List.mem_cons_self), fun _ => ?_⟩
    rw [run_enrich, if_pos hwritten]

end AgentDatabase

/-- A pipeline fails just if one of its mappers does, and the event is then as that mapper leaves what those before it
have made of it. Enrichment by user agent fails just if a property that it writes is refused, and leaves the event
with those before that one. So it leaves the event as it was just if the first one is refused; otherwise the event has
a user agent, and enriching it once more does nothing. -/
theorem Pipeline.enrich_eq_error_iff (p : Pipeline) (e e' : Properties) (error : EventError) :
    ((enrich p).run e = (.error error, e') ↔
      ∃ before m after e₁, p = before ++ m :: after ∧ (enrich before).run e = (.ok (), e₁) ∧
        m.enrich.run e₁ = (.error error, e')) ∧
    ∀ d : AgentDatabase,
      (d.mapper.enrich.run e = (.error error, e') ↔
        AgentDatabase.hasAgent e = false ∧ ∃ taken name v rest, d.resolve "" = taken ++ (name, v) :: rest ∧
          (∀ w ∈ taken, e.Conforms w.1 w.2) ∧ e.conflict? name v = some error ∧ e' = e.written taken) ∧
      (d.mapper.enrich.run e = (.error error, e') →
        (e' = e ↔ ¬e.Conforms AgentDatabase.agentField d.defaultBrowser) ∧
        (e' ≠ e → d.mapper.enrich.run e' = (.ok (), e'))) :=
  ⟨run_enrich_eq_error_iff, fun _ =>
    ⟨AgentDatabase.run_enrich_eq_error_iff, AgentDatabase.enrich_error_eq_self_iff⟩⟩

/-- An event in which systems are numbers has got a browser by the time that its system is refused. -/
theorem Pipeline.enrich_error_ne_self :
    let p : Pipeline := [AgentDatabase.mapper ⟨[], [], []⟩]
    let e := Properties.ofSchema [⟨"os", .long, true⟩]
    ((enrich p).run e).1 = .error (.typeMismatch "os" .long "STRING") ∧
      ((enrich p).run e).2.values.get? "user_agent" = some (.text "Other") ∧ ((enrich p).run e).2 ≠ e := by
  intro p e
  have hbrowser : ((enrich p).run e).2.values.get? "user_agent" = some (.text "Other") := by decide
  refine ⟨rfl, hbrowser, fun heq => ?_⟩
  rw [heq] at hbrowser
  cases hbrowser

end Cohort
