import Cohort.Predicate.Encoding
import Cohort.Proofs.Encoding.Arrangement
import Cohort.Proofs.Predicate.Leftward

/-!
# Predicates from their JSON

A predicate is decoded from the value that it is encoded as, whatever the order of the members. Each level of the
predicate takes up a level of the value, so that the depth of the value bounds the levels to decode.
-/

namespace Cohort

open Json (Arranges)

variable {f : Json → Json}

namespace Literal

/-- Whole numbers have 64 bits with a sign, and other numbers are finite. -/
def IsRepresentable : Literal → Prop
  | .integer i => minInt64 ≤ i ∧ i ≤ maxInt64
  | .decimal x => x.isFinite = true
  | _ => True

theorem ofJson?_toJson (hf : Arranges f) {v : Literal} (h : v.IsRepresentable) : ofJson? (f v.toJson) = some v := by
  cases v with
  | null =>
    rw [toJson, hf.scalar rfl]
    rfl
  | boolean b =>
    rw [toJson, hf.variant]
    exact congrArg (Option.map Literal.boolean) (hf.asBool?_bool b)
  | integer i =>
    rw [toJson, hf.variant]
    exact congrArg (Option.map Literal.integer) (hf.asInt64?_int h)
  | decimal x =>
    rw [toJson, hf.variant, hf.scalar rfl]
    rfl
  | string s =>
    rw [toJson, hf.variant]
    exact congrArg (Option.map Literal.string) (hf.asString?_string s)

end Literal

namespace Predicate

mutual

/-- All constants are representable. -/
def IsRepresentable : Predicate → Prop
  | .column _ => True
  | .literal v => v.IsRepresentable
  | .binary l _ r => l.IsRepresentable ∧ r.IsRepresentable
  | .not p => p.IsRepresentable
  | .isNull p => p.IsRepresentable
  | .isNotNull p => p.IsRepresentable
  | .inList p items _ => p.IsRepresentable ∧ AreRepresentable items
  | .like p pattern _ => p.IsRepresentable ∧ pattern.IsRepresentable
  | .between p low high _ => p.IsRepresentable ∧ low.IsRepresentable ∧ high.IsRepresentable

def AreRepresentable : List Predicate → Prop
  | [] => True
  | p :: ps => p.IsRepresentable ∧ AreRepresentable ps

end

theorem areRepresentable_iff {ps : List Predicate} : AreRepresentable ps ↔ ∀ p ∈ ps, p.IsRepresentable := by
  induction ps with
  | nil => simp [AreRepresentable]
  | cons p ps ih => simp [AreRepresentable, ih]

theorem itemsToJson_eq_map (ps : List Predicate) : toJson.itemsToJson ps = ps.map toJson := by
  induction ps with
  | nil => rfl
  | cons p ps ih => rw [toJson.itemsToJson, ih, List.map_cons]

/-- The form of a predicate takes up a level. -/
theorem exists_eq_succ_of_depth_lt (hf : Arranges f) {name : String} {j : Json} {limit : Nat}
    (h : (f (.object [(name, j)])).depth < limit) : ∃ below, limit = below + 1 ∧ (f j).depth < below := by
  rw [hf.variant, Json.depth, Json.depth.depthMembers, Json.depth.depthMembers, Nat.max_zero] at h
  exact ⟨limit - 1, by omega, by omega⟩

/-- The parts of a form are found by name, and take up fewer levels. -/
theorem exists_parts (hf : Arranges f) (lists : Bool) (names : List String) (members : List (String × Json))
    (hnames : members.map Prod.fst = names) (hnodup : names.Nodup) {limit : Nat}
    (hlimit : (f (.object members)).depth < limit) :
    ∃ r, parts? lists names (f (.object members)) = some r ∧ ∀ place name {j}, members.lookup name = some j →
      r.find? place name = some (f j) ∧ (f j).depth < limit := by
  obtain ⟨others, hobject, hrecord, -, hfind⟩ := hf.exists_record names rfl hnames hnodup
  refine ⟨.named others, ?_, fun place name j hj => ⟨hfind place name hj, ?_⟩⟩
  · rw [hobject]
    exact hrecord
  · have hdistinct : Entries.Distinct members := by rwa [Entries.Distinct, hnames]
    exact Nat.lt_trans (hf.depth_lt_of_lookup hdistinct hj) hlimit

open Json.Record (required_of_find?)

theorem ofJsonWithin_toJson (hf : Arranges f) (lists : Bool) {p : Predicate} (h : p.IsRepresentable) {limit : Nat}
    (hlimit : (f p.toJson).depth < limit) : ofJsonWithin lists limit (f p.toJson) = some p := by
  have hnegated := hf.asBool?_bool
  induction p using induct generalizing limit with
  | column parts =>
    obtain ⟨limit, rfl, -⟩ := exists_eq_succ_of_depth_lt hf hlimit
    have hparts : Json.asList? Json.asString? (f (Json.ofList .string parts)) = some parts :=
      hf.asList?_ofList fun part _ => hf.asString?_string part
    rw [toJson, hf.variant]
    exact congrArg (Option.map Predicate.column) hparts
  | literal v =>
    obtain ⟨limit, rfl, -⟩ := exists_eq_succ_of_depth_lt hf hlimit
    rw [toJson, hf.variant]
    exact congrArg (Option.map Predicate.literal) (Literal.ofJson?_toJson hf h)
  | binary l op r ihl ihr =>
    obtain ⟨limit, rfl, hbelow⟩ := exists_eq_succ_of_depth_lt hf hlimit
    obtain ⟨record, hparts, hfind⟩ := exists_parts hf lists ["left", "op", "right"]
      [("left", l.toJson), ("op", .string op.name), ("right", r.toJson)] rfl (by decide) hbelow
    have hop : Operator.ofJson? (f (.string op.name)) = some op := by
      rw [hf.scalar rfl, Operator.ofJson?_name]
    rw [toJson, hf.variant]
    simp only [ofJsonWithin, Json.asVariant?, hparts, Option.bind_eq_bind, Option.bind_some,
      required_of_find? (hfind 0 "left" rfl).1, required_of_find? (hfind 1 "op" rfl).1,
      required_of_find? (hfind 2 "right" rfl).1, ihl h.1 (hfind 0 "left" rfl).2, hop,
      ihr h.2 (hfind 2 "right" rfl).2]
  | not p ih =>
    obtain ⟨limit, rfl, hbelow⟩ := exists_eq_succ_of_depth_lt hf hlimit
    rw [toJson, hf.variant]
    exact congrArg (Option.map Predicate.not) (ih h hbelow)
  | isNull p ih =>
    obtain ⟨limit, rfl, hbelow⟩ := exists_eq_succ_of_depth_lt hf hlimit
    rw [toJson, hf.variant]
    exact congrArg (Option.map Predicate.isNull) (ih h hbelow)
  | isNotNull p ih =>
    obtain ⟨limit, rfl, hbelow⟩ := exists_eq_succ_of_depth_lt hf hlimit
    rw [toJson, hf.variant]
    exact congrArg (Option.map Predicate.isNotNull) (ih h hbelow)
  | inList p items negated ih ihitems =>
    obtain ⟨limit, rfl, hbelow⟩ := exists_eq_succ_of_depth_lt hf hlimit
    obtain ⟨record, hparts, hfind⟩ := exists_parts hf lists ["expr", "list", "negated"]
      [("expr", p.toJson), ("list", .array (toJson.itemsToJson items)), ("negated", .bool negated)] rfl (by decide)
      hbelow
    have hitems : Json.asList? (ofJsonWithin lists limit) (f (.array (toJson.itemsToJson items))) = some items := by
      have hlist := (hfind 1 "list" rfl).2
      rw [itemsToJson_eq_map] at hlist ⊢
      refine hf.asList?_ofList fun q hq => ihitems q hq (areRepresentable_iff.1 h.2 q hq) ?_
      exact Nat.lt_trans (hf.depth_lt_of_item (List.mem_map_of_mem hq)) hlist
    rw [toJson, hf.variant]
    simp only [ofJsonWithin, Json.asVariant?, hparts, Option.bind_eq_bind, Option.bind_some,
      required_of_find? (hfind 0 "expr" rfl).1, required_of_find? (hfind 1 "list" rfl).1,
      required_of_find? (hfind 2 "negated" rfl).1, ih h.1 (hfind 0 "expr" rfl).2, hitems, hnegated]
  | like p pattern negated ih ihpattern =>
    obtain ⟨limit, rfl, hbelow⟩ := exists_eq_succ_of_depth_lt hf hlimit
    obtain ⟨record, hparts, hfind⟩ := exists_parts hf lists ["expr", "pattern", "negated"]
      [("expr", p.toJson), ("pattern", pattern.toJson), ("negated", .bool negated)] rfl (by decide)
      hbelow
    rw [toJson, hf.variant]
    simp only [ofJsonWithin, Json.asVariant?, hparts, Option.bind_eq_bind, Option.bind_some,
      required_of_find? (hfind 0 "expr" rfl).1, required_of_find? (hfind 1 "pattern" rfl).1,
      required_of_find? (hfind 2 "negated" rfl).1, ih h.1 (hfind 0 "expr" rfl).2,
      ihpattern h.2 (hfind 1 "pattern" rfl).2, hnegated]
  | between p low high negated ih ihlow ihhigh =>
    obtain ⟨limit, rfl, hbelow⟩ := exists_eq_succ_of_depth_lt hf hlimit
    obtain ⟨record, hparts, hfind⟩ := exists_parts hf lists ["expr", "low", "high", "negated"]
      [("expr", p.toJson), ("low", low.toJson), ("high", high.toJson), ("negated", .bool negated)] rfl (by decide)
      hbelow
    rw [toJson, hf.variant]
    simp only [ofJsonWithin, Json.asVariant?, hparts, Option.bind_eq_bind, Option.bind_some,
      required_of_find? (hfind 0 "expr" rfl).1, required_of_find? (hfind 1 "low" rfl).1,
      required_of_find? (hfind 2 "high" rfl).1, required_of_find? (hfind 3 "negated" rfl).1,
      ih h.1 (hfind 0 "expr" rfl).2, ihlow h.2.1 (hfind 1 "low" rfl).2, ihhigh h.2.2 (hfind 2 "high" rfl).2, hnegated]

theorem ofJson?_toJson (hf : Arranges f) (lists : Bool) {p : Predicate} (h : p.IsRepresentable) :
    ofJson? lists (f p.toJson) = some p :=
  ofJsonWithin_toJson hf lists h (Nat.lt_succ_self _)

end Predicate

end Cohort
