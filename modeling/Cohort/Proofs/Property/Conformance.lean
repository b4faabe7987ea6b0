import Cohort.Proofs.Enrichment.Writing

/-!
# Values that conform to their declarations

The properties of an event change by writing, removing and declaring. A property is written if and only if its
declaration admits the value. Values that are there already are not checked again when their property is declared
anew. So a value may come to be at odds with its declaration, but only if the property has been declared since it was
written.
-/

namespace Cohort.Properties

variable {e : Properties} {name : String} {v : PropertyValue}

/-- The property is not declared, or its declaration admits the value. -/
def Conforms (e : Properties) (name : String) (v : PropertyValue) : Prop :=
  e.schema.get? name = none ∨
    ∃ f, e.schema.get? name = some f ∧ (v = .null ∧ f.nullable = true ∨ v.fits f.type = true)

theorem conflict?_eq_none_iff : e.conflict? name v = none ↔ e.Conforms name v := by
  have hnull (t : FieldType) : PropertyValue.null.fits t = false := by cases t <;> rfl
  unfold conflict? Conforms PropertyValue.isNull
  cases e.schema.get? name with
  | none => simp
  | some f => by_cases h : v = .null <;> grind

instance : Decidable (e.Conforms name v) :=
  decidable_of_iff ((e.conflict? name v).isNone = true) (Option.isNone_iff_eq_none.trans conflict?_eq_none_iff)

/-- Only the declarations matter. -/
theorem Conforms.of_schema_eq {e' : Properties} (h : e.Conforms name v)
    (hschema : e'.schema.get? name = e.schema.get? name) : e'.Conforms name v := by
  unfold Conforms
  rw [hschema]
  exact h

theorem run_put_of_conforms (h : e.Conforms name v) :
    (put name v).run e = (.ok (), { e with values := e.values.insert name v }) := by
  rw [run_put, conflict?_eq_none_iff.2 h]

theorem run_put_of_not_conforms (h : ¬e.Conforms name v) : ∃ error, (put name v).run e = (.error error, e) := by
  rw [run_put]
  cases hconflict : e.conflict? name v with
  | none => exact absurd (conflict?_eq_none_iff.1 hconflict) h
  | some error => exact ⟨error, rfl⟩

/-- A property is written just if the value conforms. -/
theorem run_put_eq_ok_iff : ((put name v).run e).1 = .ok () ↔ e.Conforms name v := by
  constructor
  · intro hok
    by_cases h : e.Conforms name v
    · exact h
    · obtain ⟨error, hrun⟩ := run_put_of_not_conforms h
      rw [hrun] at hok
      cases hok
  · intro h
    rw [run_put_of_conforms h]

/-- What can be done to properties. -/
inductive Edit
  | put (name : String) (v : PropertyValue)
  | remove (name : String)
  | declare (f : Field)

/-- The properties after an edit, which may have been refused. -/
def edited (e : Properties) : Edit → Properties
  | .put name v => ((put name v).run e).2
  | .remove name => e.remove name
  | .declare f => e.declare f

/-- The properties after some edits, one after the other. -/
def editedAll (e : Properties) (edits : List Edit) : Properties := edits.foldl edited e

theorem edited_put_of_conforms (h : e.Conforms name v) :
    e.edited (.put name v) = { e with values := e.values.insert name v } :=
  congrArg Prod.snd (run_put_of_conforms h)

theorem edited_put_of_not_conforms (h : ¬e.Conforms name v) : e.edited (.put name v) = e := by
  obtain ⟨error, hrun⟩ := run_put_of_not_conforms h
  exact congrArg Prod.snd hrun

/-- The property has no value, or one that conforms. -/
def IsSettled (e : Properties) (name : String) : Prop := ∀ v, e.values.get? name = some v → e.Conforms name v

theorem isSettled_edited_put (h : e.Conforms name v) : (e.edited (.put name v)).IsSettled name := by
  intro w hw
  rw [edited_put_of_conforms h] at hw ⊢
  rw [Keyed.get?_insert_self] at hw
  cases hw
  exact h

/-- Only a declaration of the property itself can unsettle it. -/
theorem IsSettled.edited (h : e.IsSettled name) {a : Edit} (ha : ∀ f, a = .declare f → f.name ≠ name) :
    (e.edited a).IsSettled name := by
  cases a with
  | put other w =>
    by_cases hw : e.Conforms other w
    · by_cases hname : name = other
      · subst hname
        exact isSettled_edited_put hw
      · intro v hv
        rw [edited_put_of_conforms hw] at hv ⊢
        exact h v ((Keyed.get?_insert_of_ne _ _ hname).symm.trans hv)
    · rw [edited_put_of_not_conforms hw]
      exact h
  | remove other =>
    intro v hv
    have hthere : e.values.get? name = some v := by
      rw [show (e.edited (.remove other)).values = e.values.erase other from rfl, Keyed.get?_erase] at hv
      split at hv
      · cases hv
      · exact hv
    exact h v hthere
  | declare f =>
    intro v hv
    have hother : name ≠ f.name := fun hname => ha f rfl hname.symm
    exact (h v hv).of_schema_eq (Keyed.get?_insert_of_ne _ _ hother)

theorem IsSettled.editedAll (h : e.IsSettled name) {edits : List Edit}
    (hedits : ∀ f, .declare f ∈ edits → f.name ≠ name) : (e.editedAll edits).IsSettled name := by
  induction edits generalizing e with
  | nil => exact h
  | cons a edits ih =>
    apply ih
    · apply h.edited
      rintro f rfl
      exact hedits f List.mem_cons_self
    · intro f hf
      exact hedits f (List.mem_cons_of_mem a hf)

/-- The property has been written since it was last declared. -/
def IsWrittenLast (e : Properties) (edits : List Edit) (name : String) : Prop :=
  ∃ before v after, edits = before ++ .put name v :: after ∧
    ((put name v).run (e.editedAll before)).1 = .ok () ∧ ∀ f, .declare f ∈ after → f.name ≠ name

theorem isSettled_of_isWrittenLast {edits : List Edit} (h : e.IsWrittenLast edits name) :
    (e.editedAll edits).IsSettled name := by
  obtain ⟨before, v, after, rfl, hok, hafter⟩ := h
  have hwritten := isSettled_edited_put (run_put_eq_ok_iff.1 hok)
  rw [Properties.editedAll, List.foldl_append, List.foldl_cons]
  exact hwritten.editedAll hafter

/-- Whatever has been declared, written and removed before: a write that is refused changes nothing, one that succeeds
changes its own property only, and it succeeds just if the value conforms to the declarations. Every value that has
been written since its property was last declared, or whose property is not declared, conforms to them. -/
theorem edited_conforms (fields : List Field) (edits : List Edit) (name : String) (v : PropertyValue) :
    let e := (ofSchema fields).editedAll edits
    let written := (put name v).run e
    (∀ error, written.1 = .error error → written.2 = e) ∧
      (written.1 = .ok () →
        written.2.schema = e.schema ∧ written.2.values.get? name = some v ∧
          ∀ other, other ≠ name → written.2.values.get? other = e.values.get? other) ∧
      (written.1 = .ok () ↔ e.Conforms name v) ∧
      (e.values.get? name = some v → (ofSchema fields).IsWrittenLast edits name ∨ e.schema.get? name = none →
        e.Conforms name v) := by
  intro e written
  refine ⟨?_, ?_, run_put_eq_ok_iff, ?_⟩
  · intro error herror
    apply edited_put_of_not_conforms
    intro h
    have hok : written.1 = .ok () := run_put_eq_ok_iff.2 h
    rw [hok] at herror
    cases herror
  · intro hok
    have hwritten : written.2 = { e with values := e.values.insert name v } :=
      edited_put_of_conforms (run_put_eq_ok_iff.1 hok)
    rw [hwritten]
    exact ⟨rfl, Keyed.get?_insert_self _ _ _, fun other hother => Keyed.get?_insert_of_ne _ _ hother⟩
  · rintro hv (hlast | hundeclared)
    · exact isSettled_of_isWrittenLast hlast v hv
    · exact .inl hundeclared

/-- A count that is text once counts are declared as text, and a page that has been a number before pages are. -/
def pageEdits : List Edit :=
  [.put "count" (.integer 3), .put "page" (.integer 1), .declare ⟨"count", .string, false⟩, .put "count" .null,
    .put "count" (.text "three"), .declare ⟨"page", .string, true⟩]

/-- The count has been written since it was declared and conforms; the page has not, and is at odds with what is
declared. -/
theorem edited_conforms_pageEdits :
    let fields : List Field := [⟨"count", .long, true⟩]
    let e := (ofSchema fields).editedAll pageEdits
    e.values.get? "count" = some (.text "three") ∧ (ofSchema fields).IsWrittenLast pageEdits "count" ∧
      e.Conforms "count" (.text "three") ∧
      e.values.get? "page" = some (.integer 1) ∧ ¬e.Conforms "page" (.integer 1) := by
  intro fields e
  have hvalue : e.values.get? "count" = some (.text "three") := by decide
  have hlast : (ofSchema fields).IsWrittenLast pageEdits "count" := by
    refine ⟨pageEdits.take 4, .text "three", pageEdits.drop 5, rfl, run_put_eq_ok_iff.2 (by decide), ?_⟩
    intro f hf
    obtain rfl : f = ⟨"page", .string, true⟩ := by simpa [pageEdits] using hf
    decide
  have hconforms := (edited_conforms fields pageEdits "count" (.text "three")).2.2.2 hvalue (.inl hlast)
  exact ⟨hvalue, hlast, hconforms, by decide, by decide⟩

end Cohort.Properties
