import Cohort.Json.Decode

/-!
# Arrangements of members

The members of an object may be put into another order at every level: a value that has been stored has its members
sorted. What a decoder finds in a record, or in a variant, does not depend on the order.
-/

namespace Cohort

namespace Entries

variable {α β : Type} {es : List (String × α)}

/-- No two entries have the same key. -/
def Distinct (es : List (String × α)) : Prop := (es.map Prod.fst).Nodup

theorem Distinct.nodup (h : Distinct es) : es.Nodup :=
  (List.pairwise_map.1 h).imp fun hne heq => hne (congrArg Prod.fst heq)

theorem Distinct.of_perm {es' : List (String × α)} (h : Distinct es) (hperm : es'.Perm es) : Distinct es' :=
  (hperm.map Prod.fst).nodup_iff.2 h

theorem Distinct.map (h : Distinct es) (f : α → β) : Distinct (es.map fun e => (e.1, f e.2)) := by
  unfold Distinct
  rw [List.map_map]
  exact h

theorem distinct_of_ascending (h : Ascending es) : Distinct es :=
  List.pairwise_map.2 (h.imp fun hlt => String.ne_of_lt hlt)

theorem lookup_eq_some_iff_of_distinct (h : Distinct es) {key : String} {value : α} :
    es.lookup key = some value ↔ (key, value) ∈ es := by
  induction es with
  | nil => simp
  | cons e es ih =>
    obtain ⟨k, v⟩ := e
    obtain ⟨hnew, hrest⟩ := List.nodup_cons.1 h
    by_cases hkey : key = k
    · subst hkey
      have hsingle : (key, value) ∉ es := fun hmem => hnew (List.mem_map.2 ⟨_, hmem, rfl⟩)
      rw [List.lookup_cons_self, List.mem_cons, or_iff_left hsingle, Option.some.injEq, Prod.mk.injEq]
      exact ⟨fun hv => ⟨rfl, hv.symm⟩, fun hv => hv.2.symm⟩
    · have hother : (key, value) ≠ (k, v) := fun heq => hkey (congrArg Prod.fst heq)
      rw [List.mem_cons, or_iff_right hother, ← ih hrest, List.lookup_cons, beq_false_of_ne hkey]

/-- The value of a key does not depend on the order of the entries. -/
theorem lookup_eq_of_perm {es' : List (String × α)} (h : Distinct es) (hperm : es'.Perm es) (key : String) :
    es'.lookup key = es.lookup key := by
  apply Option.ext
  intro value
  rw [lookup_eq_some_iff_of_distinct (h.of_perm hperm), lookup_eq_some_iff_of_distinct h, hperm.mem_iff]

theorem map_find?_eq_lookup (es : List (String × α)) (key : String) :
    (es.find? (·.1 == key)).map (·.2) = es.lookup key := by
  induction es with
  | nil => rfl
  | cons e es ih =>
    obtain ⟨k, v⟩ := e
    rw [List.find?_cons, List.lookup_cons, ← ih, BEq.comm]
    cases key == k <;> rfl

/-- No name occurs twice. -/
theorem length_filter_le (h : Distinct es) (key : String) : (es.filter (·.1 == key)).length ≤ 1 := by
  have hcount := List.nodup_iff_count.1 h key
  rwa [List.count_eq_countP, List.countP_map, List.countP_eq_length_filter] at hcount

end Entries

namespace Keyed

variable {α : Type} {es : List (String × α)}

open Entries (Distinct)

theorem get?_foldl_insert (h : Distinct es) (m : Keyed α) (key : String) :
    (es.foldl (fun m e => m.insert e.1 e.2) m).get? key = (es.lookup key).or (m.get? key) := by
  induction es generalizing m with
  | nil => rfl
  | cons e es ih =>
    obtain ⟨k, v⟩ := e
    obtain ⟨hnew, hrest⟩ := List.nodup_cons.1 h
    rw [List.foldl_cons, ih hrest, get?_insert, List.lookup_cons]
    by_cases hkey : key = k
    · subst hkey
      have habsent : es.lookup key = none := by
        rw [List.lookup_eq_none_iff]
        exact fun e hmem => bne_iff_ne.2 fun heq => hnew (List.mem_map.2 ⟨e, hmem, heq.symm⟩)
      rw [habsent, if_pos rfl, beq_self_eq_true]
      rfl
    · rw [if_neg hkey, beq_false_of_ne hkey]

theorem get?_ofList (h : Distinct es) (key : String) : (ofList es).get? key = es.lookup key := by
  rw [ofList, get?_foldl_insert h, get?_empty, Option.or_none]

/-- A map keeps the entries of a list with distinct keys, in the order of the keys. -/
theorem entries_ofList_perm (h : Distinct es) : (ofList es).entries.Perm es := by
  rw [List.perm_ext_iff_of_nodup (Entries.distinct_of_ascending (ofList es).ascending).nodup h.nodup]
  rintro ⟨key, value⟩
  rw [mem_entries_iff, get?_ofList h, Entries.lookup_eq_some_iff_of_distinct h]

/-- The entries of a map make up the map, in any order. -/
theorem ofList_of_perm {m : Keyed α} (h : es.Perm m.entries) : ofList es = m := by
  have hdistinct := Entries.distinct_of_ascending m.ascending
  ext key : 1
  rw [get?_ofList (hdistinct.of_perm h), Entries.lookup_eq_of_perm hdistinct h]
  rfl

end Keyed

namespace Json

open Entries (Distinct)

/-! ## Arrangements -/

/-- It changes nothing but the order of members, at every level, and leaves values as they are that are sorted. -/
structure Arranges (f : Json → Json) : Prop where
  scalar {j : Json} (h : j.depth = 0) : f j = j
  array (items : List Json) : f (.array items) = .array (items.map f)
  object {members : List (String × Json)} (h : Distinct members) :
    ∃ others, f (.object members) = .object others ∧ others.Perm (members.map fun m => (m.1, f m.2))
  canonical {j : Json} (h : j.canonical = j) : (f j).canonical = j

theorem canonicalItems_eq_map (items : List Json) : canonical.canonicalItems items = items.map canonical := by
  induction items with
  | nil => rfl
  | cons j items ih => rw [canonical.canonicalItems, ih, List.map_cons]

theorem canonicalMembers_eq_map (members : List (String × Json)) :
    canonical.canonicalMembers members = members.map fun m => (m.1, m.2.canonical) := by
  induction members with
  | nil => rfl
  | cons m members ih =>
    obtain ⟨n, j⟩ := m
    rw [canonical.canonicalMembers, ih, List.map_cons]

/-- Members may stay as they were written. -/
theorem arranges_id : Arranges id where
  scalar _ := rfl
  array items := by rw [List.map_id, id]
  object _ := ⟨_, rfl, by simp⟩
  canonical h := h

/-- Members may be sorted. -/
theorem arranges_canonical : Arranges canonical where
  scalar {j} h := by
    cases j with
    | array => cases h
    | object => cases h
    | _ => rfl
  array items := by rw [canonical, canonicalItems_eq_map]
  object {members} h := by
    refine ⟨_, rfl, ?_⟩
    rw [canonicalMembers_eq_map]
    exact Keyed.entries_ofList_perm (h.map canonical)
  canonical h := by rw [h, h]

theorem depth_lt_of_mem_items {items : List Json} {j : Json} (h : j ∈ items) : j.depth < (array items).depth := by
  have hle : j.depth ≤ depth.depthItems items := by
    induction items with
    | nil => cases h
    | cons i items ih =>
      rw [depth.depthItems]
      rcases List.mem_cons.1 h with rfl | hrest
      · exact Nat.le_max_left _ _
      · exact Nat.le_trans (ih hrest) (Nat.le_max_right _ _)
  exact Nat.lt_succ_of_le hle

theorem depth_lt_of_mem_members {members : List (String × Json)} {n : String} {j : Json} (h : (n, j) ∈ members) :
    j.depth < (object members).depth := by
  have hle : j.depth ≤ depth.depthMembers members := by
    induction members with
    | nil => cases h
    | cons m members ih =>
      obtain ⟨k, i⟩ := m
      rw [depth.depthMembers]
      rcases List.mem_cons.1 h with heq | hrest
      · cases heq
        exact Nat.le_max_left _ _
      · exact Nat.le_trans (ih hrest) (Nat.le_max_right _ _)
  exact Nat.lt_succ_of_le hle

namespace Arranges

variable {f : Json → Json} {α : Type}

/-- A single member has only one order. -/
theorem variant (hf : Arranges f) (name : String) (j : Json) : f (.object [(name, j)]) = .object [(name, f j)] := by
  obtain ⟨others, hobject, hperm⟩ := hf.object (show Distinct [(name, j)] from List.pairwise_singleton _ _)
  rw [hobject, List.perm_singleton.1 hperm]

theorem depth_lt_of_lookup (hf : Arranges f) {members : List (String × Json)} (h : Distinct members) {n : String}
    {j : Json} (hj : members.lookup n = some j) : (f j).depth < (f (.object members)).depth := by
  obtain ⟨others, hobject, hperm⟩ := hf.object h
  have hmem := (Entries.lookup_eq_some_iff_of_distinct h).1 hj
  rw [hobject]
  exact depth_lt_of_mem_members (hperm.mem_iff.2 (List.mem_map.2 ⟨(n, j), hmem, rfl⟩))

theorem depth_lt_of_item (hf : Arranges f) {items : List Json} {j : Json} (h : j ∈ items) :
    (f j).depth < (f (.array items)).depth := by
  rw [hf.array]
  exact depth_lt_of_mem_items (List.mem_map_of_mem h)

theorem asString?_string (hf : Arranges f) (s : String) : (f (.string s)).asString? = some s := by
  rw [hf.scalar rfl]
  rfl

theorem asBool?_bool (hf : Arranges f) (b : Bool) : (f (.bool b)).asBool? = some b := by
  rw [hf.scalar rfl]
  rfl

theorem asIntIn?_int (hf : Arranges f) {low high i : Int} (h : low ≤ i ∧ i ≤ high) :
    asIntIn? low high (f (.int i)) = some i := by
  rw [hf.scalar rfl]
  exact if_pos h

theorem asInt64?_int (hf : Arranges f) {i : Int} (h : minInt64 ≤ i ∧ i ≤ maxInt64) :
    asInt64? (f (.int i)) = some i :=
  hf.asIntIn?_int h

theorem asNat64?_int (hf : Arranges f) {n : Nat} (h : n < word64) : asNat64? (f (.int n)) = some n := by
  have hrange : (0 : Int) ≤ n ∧ (n : Int) ≤ word64 - 1 := by omega
  rw [asNat64?, hf.asIntIn?_int hrange, Option.map_some, Int.toNat_natCast]

/-- A decoder that refuses null finds out about values that are missing. -/
theorem asOption?_ofOption (hf : Arranges f) {encode : α → Json} {decode : Json → Option α}
    (hnull : decode .null = none) {o : Option α} (h : ∀ a, o = some a → decode (f (encode a)) = some a) :
    asOption? decode (f (ofOption encode o)) = some o := by
  cases o with
  | none =>
    rw [ofOption, hf.scalar rfl]
    rfl
  | some a =>
    have hdecode := h a rfl
    rw [ofOption]
    unfold asOption?
    split
    · rename_i heq
      rw [heq, hnull] at hdecode
      cases hdecode
    · rw [hdecode]
      rfl

theorem asList?_ofList (hf : Arranges f) {encode : α → Json} {decode : Json → Option α} {as : List α}
    (h : ∀ a ∈ as, decode (f (encode a)) = some a) : asList? decode (f (ofList encode as)) = some as := by
  rw [ofList, hf.array, List.map_map]
  change (as.map (f ∘ encode)).mapM decode = some as
  induction as with
  | nil => rfl
  | cons a as ih =>
    obtain ⟨ha, has⟩ := List.forall_mem_cons.1 h
    rw [List.map_cons, List.mapM_cons, ih has, Function.comp_apply, ha]
    rfl

/-- Values that are sorted keep their form among others. -/
theorem asList?_canonical (hf : Arranges f) {items : List Json} (h : ∀ j ∈ items, j.canonical = j) :
    asList? (fun j => some j.canonical) (f (.array items)) = some items := by
  have hitems : asList? (fun j => some j.canonical) (f (ofList id items)) = some items :=
    hf.asList?_ofList fun j hj => congrArg some (hf.canonical (h j hj))
  rwa [ofList, List.map_id] at hitems

theorem asMap?_canonical (hf : Arranges f) {m : Keyed Json} (h : ∀ j ∈ m.values, j.canonical = j) :
    asMap? (fun j => some j.canonical) (f (.object m.entries)) = some m := by
  obtain ⟨others, hobject, hperm⟩ := hf.object (Entries.distinct_of_ascending m.ascending)
  have hsame : (m.entries.map fun e => (e.1, f e.2)).map (fun e => (e.1, e.2.canonical)) = m.entries := by
    rw [List.map_map]
    refine (List.map_congr_left fun e he => ?_).trans (List.map_id _)
    exact Prod.ext rfl (hf.canonical (h e.2 (List.mem_map_of_mem he)))
  have hothers : (others.map fun e => (e.1, e.2.canonical)).Perm m.entries := by
    have hmap := hperm.map fun e => (e.1, e.2.canonical)
    rwa [hsame] at hmap
  have hdecode : others.mapM (fun e => (some e.2.canonical).map (e.1, ·)) =
      some (others.map fun e => (e.1, e.2.canonical)) := List.mapM_pure
  rw [hobject, asMap?, hdecode, Option.map_some, Keyed.ofList_of_perm hothers]

/-- The parts of a record are found by name, wherever they stand. -/
theorem exists_record (hf : Arranges f) (names : List String) {j : Json} {members : List (String × Json)}
    (hj : j = .object members) (hnames : members.map Prod.fst = names) (hnodup : names.Nodup) :
    ∃ others, f j = .object others ∧ (Json.object others).asRecord? names = some (.named others) ∧
      (∀ m ∈ others, m.1 ∈ names) ∧
        ∀ place name {j}, members.lookup name = some j → (Record.named others).find? place name = some (f j) := by
  subst hj
  have h : Distinct members := by rwa [Distinct, hnames]
  obtain ⟨others, hobject, hperm⟩ := hf.object h
  have hdistinct : Distinct others := (h.map f).of_perm hperm
  refine ⟨others, hobject, ?_, fun m hm => ?_, fun place name j hj => ?_⟩
  · exact if_pos (List.all_eq_true.2 fun n _ => decide_eq_true (Entries.length_filter_le hdistinct n))
  · obtain ⟨m, hmem, rfl⟩ := List.mem_map.1 (hperm.mem_iff.1 hm)
    rw [← hnames]
    exact List.mem_map.2 ⟨m, hmem, rfl⟩
  · calc
      (Record.named others).find? place name = others.lookup name := Entries.map_find?_eq_lookup others name
      _ = (members.map fun m => (m.1, f m.2)).lookup name := Entries.lookup_eq_of_perm (h.map f) hperm name
      _ = (members.lookup name).map f := Entries.lookup_map f members name
      _ = some (f j) := by rw [hj, Option.map_some]

end Arranges

namespace Record

variable {α : Type} {r : Record} {place : Nat} {name : String} {j : Json}

theorem required_of_find? (h : r.find? place name = some j) (decode : Json → Option α) :
    r.required place name decode = decode j := by
  rw [required, h]
  rfl

theorem optional_of_find? (h : r.find? place name = some j) (decode : Json → Option α) :
    r.optional place name decode = asOption? decode j := by
  unfold optional
  rw [h]

theorem defaulted_of_find? (h : r.find? place name = some j) (value : α) (decode : Json → Option α) :
    r.defaulted place name value decode = decode j := by
  rw [defaulted, h]

end Record

/-- A value is decoded from what it is encoded as, with the members as they are written and with the members
sorted. -/
def RoundTrips {α : Type} (encode : α → Json) (decode : Json → Option α) (a : α) : Prop :=
  decode (encode a) = some a ∧ decode (encode a).canonical = some a

theorem roundTrips_of_arranges {α : Type} {encode : α → Json} {decode : Json → Option α} {a : α}
    (h : ∀ {f : Json → Json}, Arranges f → decode (f (encode a)) = some a) : RoundTrips encode decode a :=
  ⟨h arranges_id, h arranges_canonical⟩

end Json

end Cohort
