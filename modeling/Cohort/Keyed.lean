/-!
# Values under keys

A finite map from text to values, kept in the order of its keys. A later value for a key replaces the earlier one;
two maps with the same value under each key are equal.
-/

namespace Cohort

variable {α : Type}

/-- Keys that grow strictly. -/
def Ascending (entries : List (String × α)) : Prop := entries.Pairwise fun a b => a.1 < b.1

namespace Entries

/-- Puts a value in its place, over the one that its key had. -/
def insert (key : String) (value : α) : List (String × α) → List (String × α)
  | [] => [(key, value)]
  | (k, v) :: rest =>
    if key < k then (key, value) :: (k, v) :: rest
    else if key = k then (key, value) :: rest
    else (k, v) :: insert key value rest

theorem mem_insert {key : String} {value : α} {entries : List (String × α)} {e : String × α}
    (h : e ∈ insert key value entries) : e = (key, value) ∨ e ∈ entries := by
  induction entries with
  | nil => simpa [insert] using h
  | cons x rest ih =>
    obtain ⟨k, v⟩ := x
    simp only [insert] at h
    split at h
    · simpa using h
    · split at h <;> grind

theorem ascending_insert {entries : List (String × α)} (key : String) (value : α) (h : Ascending entries) :
    Ascending (insert key value entries) := by
  induction entries with
  | nil => simp [insert, Ascending]
  | cons x rest ih =>
    obtain ⟨k, v⟩ := x
    obtain ⟨below, rest_ascending⟩ := List.pairwise_cons.1 h
    simp only [insert]
    split
    · rename_i before
      refine List.pairwise_cons.2 ⟨fun e he => ?_, h⟩
      rcases List.mem_cons.1 he with rfl | he
      · exact before
      · exact String.lt_trans before (below e he)
    · split
      · rename_i eq
        exact List.pairwise_cons.2 ⟨fun e he => eq ▸ below e he, rest_ascending⟩
      · refine List.pairwise_cons.2 ⟨fun e he => ?_, ih rest_ascending⟩
        rcases mem_insert he with rfl | he
        · grind
        · exact below e he

theorem lookup_insert (key : String) (value : α) (entries : List (String × α)) (k : String) :
    (insert key value entries).lookup k = if k = key then some value else entries.lookup k := by
  induction entries with
  | nil => grind [insert]
  | cons x rest ih =>
    obtain ⟨k', v⟩ := x
    simp only [insert]
    split <;> grind

/-- A key below all others has no value. -/
theorem lookup_eq_none {entries : List (String × α)} {key : String} (h : ∀ e ∈ entries, key < e.1) :
    entries.lookup key = none := by
  induction entries with
  | nil => rfl
  | cons x rest ih =>
    have := h x List.mem_cons_self
    have := ih fun e he => h e (List.mem_cons_of_mem _ he)
    grind

theorem lookup_filter (key : String) (entries : List (String × α)) (k : String) :
    (entries.filter (·.1 ≠ key)).lookup k = if k = key then none else entries.lookup k := by
  induction entries with
  | nil => simp
  | cons x rest ih =>
    obtain ⟨k', v⟩ := x
    grind

theorem lookup_map {β : Type} (f : α → β) (entries : List (String × α)) (key : String) :
    (entries.map fun e => (e.1, f e.2)).lookup key = (entries.lookup key).map f := by
  induction entries with
  | nil => rfl
  | cons e entries ih =>
    obtain ⟨k, v⟩ := e
    rw [List.map_cons, List.lookup_cons, List.lookup_cons, ih]
    cases key == k <;> rfl

/-- In ascending entries, a key has the value of its only entry. -/
theorem lookup_eq_some_iff {entries : List (String × α)} (h : Ascending entries) {key : String} {value : α} :
    entries.lookup key = some value ↔ (key, value) ∈ entries := by
  induction entries with
  | nil => simp
  | cons x rest ih =>
    obtain ⟨k, v⟩ := x
    obtain ⟨below, rest_ascending⟩ := List.pairwise_cons.1 h
    by_cases e : key = k
    · subst e
      have single : (key, value) ∉ rest := fun he => String.lt_irrefl key (below _ he)
      rw [List.lookup_cons_self, List.mem_cons, or_iff_left single, Option.some.injEq, Prod.mk.injEq]
      exact ⟨fun hv => ⟨rfl, hv.symm⟩, fun hv => hv.2.symm⟩
    · have other : (key, value) ≠ (k, v) := fun he => e (congrArg Prod.fst he)
      rw [List.mem_cons, or_iff_right other, ← ih rest_ascending]
      grind

theorem eq_of_lookup {as bs : List (String × α)} (ha : Ascending as) (hb : Ascending bs)
    (h : ∀ key, as.lookup key = bs.lookup key) : as = bs := by
  induction as generalizing bs with
  | nil =>
    cases bs with
    | nil => rfl
    | cons b bs =>
      have := h b.1
      grind
  | cons a as ih =>
    cases bs with
    | nil =>
      have := h a.1
      grind
    | cons b bs =>
      obtain ⟨below_a, ascending_a⟩ := List.pairwise_cons.1 ha
      obtain ⟨below_b, ascending_b⟩ := List.pairwise_cons.1 hb
      have ka := h a.1
      have kb := h b.1
      obtain ⟨ka', va⟩ := a
      obtain ⟨kb', vb⟩ := b
      have same : ka' = kb' := by
        by_cases lt : ka' < kb'
        · have := @lookup_eq_none _ ((kb', vb) :: bs) ka' (by grind)
          grind
        · by_cases gt : kb' < ka'
          · have := @lookup_eq_none _ ((ka', va) :: as) kb' (by grind)
            grind
          · grind
      subst same
      have value : va = vb := by grind
      subst value
      congr 1
      refine ih ascending_a ascending_b fun key => ?_
      by_cases e : key = ka'
      · subst e
        rw [lookup_eq_none below_a, lookup_eq_none below_b]
      · have := h key
        grind

end Entries

/-- Entries whose keys grow strictly. -/
structure Keyed (α : Type) where
  entries : List (String × α)
  ascending : Ascending entries

namespace Keyed

instance [DecidableEq α] : DecidableEq (Keyed α) := fun a b =>
  decidable_of_iff (a.entries = b.entries) ⟨fun h => by cases a; cases b; simpa using h, fun h => h ▸ rfl⟩

instance [Repr α] : Repr (Keyed α) := ⟨fun m => reprPrec m.entries⟩

def empty : Keyed α := ⟨[], List.Pairwise.nil⟩

instance : Inhabited (Keyed α) := ⟨empty⟩

def get? (m : Keyed α) (key : String) : Option α := m.entries.lookup key

def contains (m : Keyed α) (key : String) : Bool := (m.get? key).isSome

def insert (m : Keyed α) (key : String) (value : α) : Keyed α :=
  ⟨Entries.insert key value m.entries, Entries.ascending_insert key value m.ascending⟩

def ofList (entries : List (String × α)) : Keyed α := entries.foldl (fun m e => m.insert e.1 e.2) empty

def keys (m : Keyed α) : List String := m.entries.map Prod.fst

def values (m : Keyed α) : List α := m.entries.map Prod.snd

/-- The map without the key. -/
def erase (m : Keyed α) (key : String) : Keyed α :=
  ⟨m.entries.filter (·.1 ≠ key), m.ascending.filter _⟩

/-- The map with every value changed in the same way. -/
def map {β : Type} (f : α → β) (m : Keyed α) : Keyed β :=
  ⟨m.entries.map fun e => (e.1, f e.2), by simpa [Ascending, List.pairwise_map] using m.ascending⟩

@[simp] theorem get?_empty (key : String) : (empty : Keyed α).get? key = none := rfl

theorem get?_insert (m : Keyed α) (key k : String) (value : α) :
    (m.insert key value).get? k = if k = key then some value else m.get? k :=
  Entries.lookup_insert key value m.entries k

@[simp] theorem get?_insert_self (m : Keyed α) (key : String) (value : α) :
    (m.insert key value).get? key = some value := by simp [get?_insert]

theorem get?_insert_of_ne (m : Keyed α) {key k : String} (value : α) (h : k ≠ key) :
    (m.insert key value).get? k = m.get? k := by simp [get?_insert, h]

theorem get?_erase (m : Keyed α) (key k : String) :
    (m.erase key).get? k = if k = key then none else m.get? k :=
  Entries.lookup_filter key m.entries k

theorem get?_map {β : Type} (f : α → β) (m : Keyed α) (key : String) : (m.map f).get? key = (m.get? key).map f :=
  Entries.lookup_map f m.entries key

theorem mem_entries_iff (m : Keyed α) {key : String} {value : α} :
    (key, value) ∈ m.entries ↔ m.get? key = some value :=
  (Entries.lookup_eq_some_iff m.ascending).symm

theorem mem_keys_iff (m : Keyed α) {key : String} : key ∈ m.keys ↔ ∃ value, m.get? key = some value := by
  simp [keys, ← mem_entries_iff]

theorem mem_values_iff (m : Keyed α) {value : α} : value ∈ m.values ↔ ∃ key, m.get? key = some value := by
  simp [values, ← mem_entries_iff]

/-- Values that tell their keys are in the order of these. -/
theorem pairwise_values {m : Keyed α} {keyOf : α → String}
    (h : ∀ key value, m.get? key = some value → keyOf value = key) :
    m.values.Pairwise fun v w => keyOf v < keyOf w := by
  refine List.pairwise_map.2 (m.ascending.imp_of_mem fun {a b} ha hb hlt => ?_)
  rw [h a.1 a.2 (m.mem_entries_iff.1 ha), h b.1 b.2 (m.mem_entries_iff.1 hb)]
  exact hlt

theorem contains_eq_false_iff (m : Keyed α) {key : String} : m.contains key = false ↔ m.get? key = none := by
  simp [contains]

theorem mem_keys_insert (m : Keyed α) (key : String) (value : α) {k : String} :
    k ∈ (m.insert key value).keys ↔ k = key ∨ k ∈ m.keys := by
  rw [mem_keys_iff, mem_keys_iff, get?_insert]
  split
  · rename_i h
    exact iff_of_true ⟨value, rfl⟩ (.inl h)
  · rename_i h
    rw [or_iff_right h]

/-- Maps with the same value under each key are equal. -/
@[ext] theorem ext {m n : Keyed α} (h : ∀ key, m.get? key = n.get? key) : m = n := by
  have := Entries.eq_of_lookup m.ascending n.ascending h
  cases m
  cases n
  simpa using this

/-- A value that is there already can be put again. -/
theorem insert_of_get? {m : Keyed α} {key : String} {value : α} (h : m.get? key = some value) :
    m.insert key value = m := by
  ext k : 1
  rw [get?_insert]
  split
  · subst k
    exact h.symm
  · rfl

/-- Of two values that are put under a key the later one stays. -/
theorem insert_insert (m : Keyed α) (key : String) (value later : α) :
    (m.insert key value).insert key later = m.insert key later := by
  ext k : 1
  simp only [get?_insert]
  split
  · rfl
  · rfl

end Keyed

end Cohort
