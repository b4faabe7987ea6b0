import Cohort.Agent.Mapper
import Cohort.Proofs.Enrichment.Dependency
import Cohort.Proofs.Enrichment.Writing

/-!
# What enrichment by user agent declares

An event without a user agent gets one, and four more properties. They are declared as fields of the collections that
have a field for user agents, and this field itself is never declared. So an event whose properties are all fields of
its collection stays such an event if the collection has that field, and if not it gets properties that are none.
-/

namespace Cohort.AgentDatabase

variable {d : AgentDatabase} {e e' : Properties} {existing : List Field}

theorem run_enrich (d : AgentDatabase) (e : Properties) :
    d.enrich.run e = if hasAgent e then (.ok (), e) else (Properties.putAll (d.resolve "")).run e := by
  change (ite (hasAgent e = true) _ _ : PropertiesM Unit) e = _
  split
  · rfl
  · rfl

theorem hasAgent_of_not_mem_keys (h : agentField ∉ e.values.keys) : hasAgent e = false := by
  unfold hasAgent
  cases hvalue : e.values.get? agentField with
  | none => rfl
  | some v => exact absurd ((Keyed.mem_keys_iff _).2 ⟨v, hvalue⟩) h

/-- What is written are the user agent and the declared fields. -/
theorem mem_names_resolve_iff {agent name : String} :
    name ∈ (d.resolve agent).map Prod.fst ↔ name = agentField ∨ name ∈ fields.map (·.name) := by
  rw [resolve_names]
  simp only [fields, List.map_cons, List.map_nil, List.mem_cons, List.not_mem_nil, or_false]
  grind

/-- Enrichment that succeeds leaves the event as it is, or writes all that an empty user agent stands for. -/
theorem enrich_cases (h : d.enrich.run e = (.ok (), e')) :
    (hasAgent e = true ∧ e' = e) ∨ (hasAgent e = false ∧ e' = e.written (d.resolve "")) := by
  rw [run_enrich] at h
  split at h
  · rename_i hagent
    cases h
    exact .inl ⟨hagent, rfl⟩
  · rename_i hagent
    exact .inr ⟨Bool.eq_false_iff.2 hagent, Properties.eq_written_of_putAll h⟩

/-- An event has the properties afterwards that it had before, and others only if it had no user agent. -/
theorem mem_keys_of_enrich (h : d.enrich.run e = (.ok (), e')) {name : String} :
    name ∈ e'.values.keys ↔
      name ∈ e.values.keys ∨ hasAgent e = false ∧ (name = agentField ∨ name ∈ fields.map (·.name)) := by
  obtain ⟨hagent, rfl⟩ | ⟨hagent, rfl⟩ := enrich_cases h
  · simp [hagent]
  · rw [Properties.mem_keys_written, mem_names_resolve_iff, and_iff_right hagent]

/-- What the enrichment declares. -/
def dependency (d : AgentDatabase) : Dependency := Pipeline.dependency [d.mapper]

theorem dependentOn_dependency (d : AgentDatabase) (source : String) :
    d.dependency.dependentOn source = if source = agentField then fields else [] := by
  change ((Keyed.empty.insert agentField fields).get? source).getD [] = _
  rw [Keyed.get?_insert]
  split
  · rfl
  · rfl

theorem mem_needed_dependency_iff {f : Field} :
    f ∈ d.dependency.needed existing ↔ agentField ∈ existing.map (·.name) ∧ f ∈ fields := by
  rw [Dependency.mem_needed_iff, or_iff_right (show f ∉ d.dependency.constant from List.not_mem_nil)]
  simp only [dependentOn_dependency]
  constructor
  · rintro ⟨source, hsource, hf⟩
    split at hf
    · rename_i hagent
      exact ⟨hagent ▸ hsource, hf⟩
    · cases hf
  · rintro ⟨hagent, hf⟩
    exact ⟨agentField, hagent, by rwa [if_pos rfl]⟩

theorem missing_dependency_of_not_mem (h : agentField ∉ existing.map (·.name)) : d.dependency.missing existing = [] :=
  Dependency.missing_eq_nil_iff.2 fun _ hf => absurd (mem_needed_dependency_iff.1 hf).1 h

theorem isWellNamed_dependency (d : AgentDatabase) : d.dependency.IsWellNamed := by
  change ∀ declared ∈ [[], fields], ∀ f ∈ declared, isName f.name = true
  decide

/-- The fields of a collection that is there can always be added. -/
theorem exists_applied (d : AgentDatabase) {c : Catalog} {p q : String} (hc : c.IsWellNamed)
    (h : (c.collectionsOf p).get? q = some existing) :
    ∃ c', (Pipeline.applyDependency d.dependency p q).run c = (.ok (existing ++ d.dependency.missing existing), c') ∧
      c'.fieldsOf p q = existing ++ d.dependency.missing existing := by
  have hexisting : c.fieldsOf p q = existing := by rw [Catalog.fieldsOf, h]; rfl
  obtain ⟨hp, hq⟩ := hc.isName_of_get? h
  obtain ⟨c', hrun, hfields, -⟩ := Pipeline.exists_run_of_isName d.isWellNamed_dependency hp hq c
  rw [hexisting] at hrun hfields
  exact ⟨c', hrun, hfields⟩

/-- An event of a collection is enriched with properties that are fields of the collection if and only if the
collection has a field for user agents. -/
theorem isCoveredBy_enriched_iff (he : e.IsCoveredBy existing) (h : d.enrich.run e = (.ok (), e')) :
    e'.IsCoveredBy (existing ++ d.dependency.missing existing) ↔ agentField ∈ existing.map (·.name) := by
  constructor
  · intro hcovered
    by_contra hmissing
    -- nothing is added to the collection, and the event cannot have had a user agent
    have hagent : hasAgent e = false := hasAgent_of_not_mem_keys fun hmem => hmissing (he agentField hmem)
    rw [missing_dependency_of_not_mem hmissing, List.append_nil] at hcovered
    exact hmissing (hcovered agentField ((mem_keys_of_enrich h).2 (.inr ⟨hagent, .inl rfl⟩)))
  · intro hagent name hname
    have hthere : ∀ n ∈ existing.map (·.name), n ∈ (existing ++ d.dependency.missing existing).map (·.name) := by
      intro n hn
      rw [List.map_append]
      exact List.mem_append_left _ hn
    rcases (mem_keys_of_enrich h).1 hname with hbefore | ⟨-, rfl | hdeclared⟩
    · exact hthere name (he name hbefore)
    · exact hthere agentField hagent
    · obtain ⟨f, hf, rfl⟩ := List.mem_map.1 hdeclared
      exact Dependency.mem_names_of_mem_needed (mem_needed_dependency_iff.2 ⟨hagent, hf⟩)

/-- Whatever the database is and whatever changes have been made, the declared fields can be added to every collection
that is there. If an event whose properties have been fields of the collection is enriched, there is then a field for
each of its properties if and only if the collection has had one for user agents before. -/
theorem enriched_covered_iff (d : AgentDatabase) (history : List Change) {p q : String} {existing : List Field}
    (hq : ((Catalog.empty.changedAll history).collectionsOf p).get? q = some existing) {e : Properties}
    (he : e.IsCoveredBy existing) :
    let m : Pipeline := [d.mapper]
    let applied := (Pipeline.applyDependency m.dependency p q).run (Catalog.empty.changedAll history)
    let enriched := m.enrich.run e
    applied.1 = .ok (applied.2.fieldsOf p q) ∧
      (enriched.1 = .ok () →
        (enriched.2.IsCoveredBy (applied.2.fieldsOf p q) ↔ agentField ∈ existing.map (·.name))) := by
  intro m applied enriched
  obtain ⟨c', hrun, hfields⟩ := d.exists_applied (Catalog.isWellNamed_changedAll_empty history) hq
  have happlied : applied = (.ok (existing ++ m.dependency.missing existing), c') := hrun
  rw [happlied]
  dsimp only
  rw [hfields]
  refine ⟨rfl, fun hok => ?_⟩
  have henriched : d.enrich.run e = (.ok (), enriched.2) := by
    rw [← hok]
    exact congrArg (fun act => act.run e) (Pipeline.enrich_singleton d.mapper).symm
  exact isCoveredBy_enriched_iff he henriched

/-- An event with a price. -/
def purchase : Properties := ⟨.empty, .ofList [("price", .integer 3)]⟩

/-- What is bought on a page is covered, with the user agent, by a collection that has fields for both. -/
theorem enriched_covered_visits :
    let existing : List Field := [⟨"price", .long, true⟩, ⟨agentField, .string, true⟩]
    let c := Catalog.empty.changedAll [.create "shop" "visits" existing]
    let m : Pipeline := [mapper ⟨[], [], []⟩]
    (c.collectionsOf "shop").get? "visits" = some existing ∧ purchase.IsCoveredBy existing ∧
      (m.enrich.run purchase).1 = .ok () ∧
      (m.enrich.run purchase).2.IsCoveredBy
        (((Pipeline.applyDependency m.dependency "shop" "visits").run c).2.fieldsOf "shop" "visits") := by
  intro existing c m
  have hq : (c.collectionsOf "shop").get? "visits" = some existing := by decide
  have he : purchase.IsCoveredBy existing := by decide
  have hok : (m.enrich.run purchase).1 = .ok () := rfl
  have hcovered := ((enriched_covered_iff ⟨[], [], []⟩ [.create "shop" "visits" existing] hq he).2 hok).2 (by decide)
  exact ⟨hq, he, hok, hcovered⟩

/-- Purchases have no fields for a user agent, and do not get any, but every event gets one. -/
theorem not_enriched_covered_purchases :
    let existing : List Field := [⟨"price", .long, true⟩]
    let c := Catalog.empty.changedAll [.create "shop" "purchases" existing]
    let m : Pipeline := [mapper ⟨[], [], []⟩]
    (c.collectionsOf "shop").get? "purchases" = some existing ∧ purchase.IsCoveredBy existing ∧
      (m.enrich.run purchase).1 = .ok () ∧
      ¬(m.enrich.run purchase).2.IsCoveredBy
        (((Pipeline.applyDependency m.dependency "shop" "purchases").run c).2.fieldsOf "shop" "purchases") := by
  refine ⟨?_, ?_, rfl, ?_⟩
  all_goals decide

end Cohort.AgentDatabase
