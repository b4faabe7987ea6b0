import Cohort.Proofs.Enrichment.Failure

/-!
# Enriching an event twice

What an event gets for want of a user agent comes with a user agent, since a browser always has a name. So enrichment
finds nothing to do on an event that it has enriched. It leaves alone what an event with a user agent has, and in other
events all properties but those that a user agent stands for.
-/

namespace Cohort.AgentDatabase

open Properties

variable {d : AgentDatabase} {e e' : Properties}

theorem hasAgent_iff : hasAgent e = true ↔ ∃ v, e.values.get? agentField = some v ∧ v ≠ .null := by
  unfold hasAgent PropertyValue.isNull
  cases e.values.get? agentField with
  | none => simp
  | some v => simp

theorem nodup_names_resolve (d : AgentDatabase) (agent : String) : ((d.resolve agent).map Prod.fst).Nodup := by
  rw [resolve_names]
  decide

theorem hasAgent_of_enrich (h : d.enrich.run e = (.ok (), e')) : hasAgent e' = true := by
  obtain ⟨hagent, rfl⟩ | ⟨-, rfl⟩ := enrich_cases h
  · exact hagent
  · exact hasAgent_written (List.append_nil _).symm (List.cons_ne_nil _ _)

/-- Whatever the database is, whatever is declared and whatever the event has: if it can be enriched, it can be
enriched again without a change. Its declarations are as before, and so are all properties but the five that a user
agent stands for. All of them are as before if the event has had a user agent that is not null, and if not, the five
have just the values that an empty user agent stands for. -/
theorem enrich_enriched (d : AgentDatabase) {e e' : Properties} (h : d.mapper.enrich.run e = (.ok (), e')) :
    let own := [agentField, "user_agent_version", "os", "os_version", "device_family"]
    let hadAgent := ∃ v, e.values.get? agentField = some v ∧ v ≠ .null
    d.mapper.enrich.run e' = (.ok (), e') ∧ e'.schema = e.schema ∧
      (∀ name ∉ own, e'.values.get? name = e.values.get? name) ∧
      (hadAgent → e' = e) ∧
      (¬hadAgent → (d.resolve "").map Prod.fst = own ∧
        ∀ name v, (name, v) ∈ d.resolve "" → e'.values.get? name = some v) := by
  intro own hadAgent
  have hagain : d.enrich.run e' = (.ok (), e') := by rw [run_enrich, if_pos (hasAgent_of_enrich h)]
  obtain ⟨hagent, rfl⟩ | ⟨hagent, rfl⟩ := enrich_cases h
  · have hhad : hadAgent := hasAgent_iff.1 hagent
    exact ⟨hagain, rfl, fun _ _ => rfl, fun _ => rfl, fun hnot => absurd hhad hnot⟩
  · have hnot : ¬hadAgent := fun hhad => Bool.eq_false_iff.1 hagent (hasAgent_iff.2 hhad)
    have hnames : (d.resolve "").map Prod.fst = own := d.resolve_names ""
    refine ⟨hagain, rfl, fun name hname => ?_, fun hhad => absurd hhad hnot, fun _ => ⟨hnames, fun name v hmem => ?_⟩⟩
    · rw [← hnames] at hname
      exact get?_written_of_not_mem hname
    · exact get?_written_of_mem (d.nodup_names_resolve "") hmem

/-- What has no user agent is taken for a robot. -/
def robots : AgentDatabase := ⟨[⟨.empty, .fixed "Robot", .fixed "2", .fixed "1"⟩], [], []⟩

/-- A purchase on some system, whose user agent is null. -/
def anonymousPurchase : Properties :=
  ⟨.ofList [("user_agent", ⟨"user_agent", .string, true⟩), ("price", ⟨"price", .long, false⟩)],
    .ofList [("user_agent", .null), ("price", .integer 3), ("os", .text "Linux")]⟩

/-- It keeps its price, and gets the version of the robot and another system. -/
theorem enrich_enriched_purchase :
    let enrich := robots.mapper.enrich.run
    let e' := (enrich anonymousPurchase).2
    enrich anonymousPurchase = (.ok (), e') ∧ enrich e' = (.ok (), e') ∧
      e'.values.get? "price" = anonymousPurchase.values.get? "price" ∧
      e'.values.get? "user_agent_version" = some (.text "1 / 2") ∧
      e'.values.get? "os" = some (.text "Other") ∧ e'.values.get? "os_version" = some .null := by
  intro enrich e'
  have hok : enrich anonymousPurchase = (.ok (), e') := Prod.ext (by decide) rfl
  obtain ⟨hagain, -, hothers, -, hfive⟩ := enrich_enriched robots hok
  have hnull : ¬∃ v, anonymousPurchase.values.get? agentField = some v ∧ v ≠ .null := by
    rw [← hasAgent_iff]
    decide
  obtain ⟨-, hvalues⟩ := hfive hnull
  exact ⟨hok, hagain, hothers "price" (by decide), hvalues _ _ (by decide), hvalues _ _ (by decide),
    hvalues _ _ (by decide)⟩

end Cohort.AgentDatabase
