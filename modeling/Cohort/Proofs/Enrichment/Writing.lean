import Cohort.Enrichment.Pipeline
import Cohort.Proofs.Outcome

/-!
# Writing properties

A property is written if its declaration admits the value. Properties that are written one after the other are added
to those that an event has, up to the first one that is refused.
-/

namespace Cohort

open Outcome

namespace Properties

variable {e e' : Properties} {fields : List Field} {ws : List (String × PropertyValue)}

theorem run_put (name : String) (v : PropertyValue) (e : Properties) :
    (put name v).run e =
      match e.conflict? name v with
      | some error => (.error error, e)
      | none => (.ok (), { e with values := e.values.insert name v }) := by
  change (match e.conflict? name v with
    | some error => throw error
    | none => modify fun p => { p with values := p.values.insert name v } : PropertiesM Unit) e = _
  cases e.conflict? name v with
  | some error => rfl
  | none => rfl

/-- The event with some properties written over those that it has, whatever is declared. -/
def written (e : Properties) (ws : List (String × PropertyValue)) : Properties :=
  { e with values := ws.foldl (fun values w => values.insert w.1 w.2) e.values }

theorem written_cons (e : Properties) (w : String × PropertyValue) (ws : List (String × PropertyValue)) :
    e.written (w :: ws) = ({ e with values := e.values.insert w.1 w.2 } : Properties).written ws := rfl

theorem get?_written_of_not_mem {name : String} (h : name ∉ ws.map Prod.fst) :
    (e.written ws).values.get? name = e.values.get? name := by
  induction ws generalizing e with
  | nil => rfl
  | cons w ws ih =>
    rw [List.map_cons, List.mem_cons, not_or] at h
    rw [written_cons, ih h.2, Keyed.get?_insert_of_ne _ _ h.1]

/-- A property that is written once has the value that is written. -/
theorem get?_written_of_mem (hnames : (ws.map Prod.fst).Nodup) {name : String} {v : PropertyValue}
    (h : (name, v) ∈ ws) : (e.written ws).values.get? name = some v := by
  induction ws generalizing e with
  | nil => cases h
  | cons w ws ih =>
    obtain ⟨hfirst, hrest⟩ := List.nodup_cons.1 hnames
    rw [written_cons]
    rcases List.mem_cons.1 h with rfl | hlater
    · rw [get?_written_of_not_mem hfirst, Keyed.get?_insert_self]
    · exact ih hrest hlater

/-- What is written is there, with what has been there before. -/
theorem mem_keys_written {name : String} :
    name ∈ (e.written ws).values.keys ↔ name ∈ e.values.keys ∨ name ∈ ws.map Prod.fst := by
  induction ws generalizing e with
  | nil => exact (or_iff_left List.not_mem_nil).symm
  | cons w ws ih => rw [written_cons, ih, Keyed.mem_keys_insert, List.map_cons, List.mem_cons, or_left_comm, or_assoc]

/-- Properties that none of the declarations refuses are all written. -/
theorem eq_written_of_putAll (h : (putAll ws).run e = (.ok (), e')) : e' = e.written ws := by
  induction ws generalizing e with
  | nil =>
    cases h
    rfl
  | cons w ws ih =>
    obtain ⟨first, v⟩ := w
    rw [putAll] at h
    have hput := run_put first v e
    -- the first property is refused, or the others are written to the event that has it
    split at hput
    · rw [run_bind_of_error hput] at h
      cases h
    · rw [run_bind_of_ok hput] at h
      exact ih h

/-- There is a field for every property of the event. -/
def IsCoveredBy (e : Properties) (fields : List Field) : Prop := ∀ name ∈ e.values.keys, name ∈ fields.map (·.name)

instance : Decidable (e.IsCoveredBy fields) :=
  inferInstanceAs (Decidable (∀ name ∈ e.values.keys, name ∈ fields.map (·.name)))

end Properties

theorem Pipeline.enrich_singleton (m : Mapper) : enrich [m] = m.enrich := by
  unfold enrich
  exact bind_pure_unit

end Cohort
