import Cohort.Enrichment.Pipeline
import Cohort.Proofs.Catalog.Merging

/-!
# Declarations of one dependency

Declarations are about all collections or about those with some source, and what they are about is all that ties them
together. Of the fields that are declared for one source the first of each name stays, whatever type the others have,
and so it is with those for all collections. It does not matter how the fields are divided into declarations, nor how
declarations for one source come between those for another.
-/

namespace Cohort

variable {d d' : Dependency} {a : Declaration} {ds es : List Declaration} {source : String} {s : Option String}

namespace Declaration

/-- The source that the fields depend on, unless every collection needs them. -/
def source? : Declaration → Option String
  | .constant _ => none
  | .dependent source _ => some source

def fields : Declaration → List Field
  | .constant fields => fields
  | .dependent _ fields => fields

/-- The declaration of other fields for the same source. -/
def withFields : Declaration → List Field → Declaration
  | .constant _, fields => .constant fields
  | .dependent source _, fields => .dependent source fields

theorem source?_withFields (a : Declaration) (fields : List Field) : (a.withFields fields).source? = a.source? := by
  cases a <;> rfl

theorem fields_withFields (a : Declaration) (fields : List Field) : (a.withFields fields).fields = fields := by
  cases a <;> rfl

/-- All fields that are declared for a source, or else for every collection, in order. -/
def declaredFor (s : Option String) (ds : List Declaration) : List Field :=
  (ds.filter (·.source? == s)).flatMap fields

/-- There is a declaration for the source. -/
def Names (ds : List Declaration) (source : String) : Prop := ∃ a ∈ ds, a.source? = some source

theorem declaredFor_cons (a : Declaration) (ds : List Declaration) (s : Option String) :
    declaredFor s (a :: ds) = if a.source? = s then a.fields ++ declaredFor s ds else declaredFor s ds := by
  unfold declaredFor
  by_cases h : a.source? = s
  · rw [if_pos h, List.filter_cons, if_pos (beq_iff_eq.2 h), List.flatMap_cons]
  · rw [if_neg h, List.filter_cons, if_neg (mt beq_iff_eq.1 h)]

theorem declaredFor_append (ds es : List Declaration) (s : Option String) :
    declaredFor s (ds ++ es) = declaredFor s ds ++ declaredFor s es := by
  rw [declaredFor, List.filter_append, List.flatMap_append]
  rfl

theorem names_cons_iff : Names (a :: ds) source ↔ a.source? = some source ∨ Names ds source :=
  List.exists_mem_cons_iff _ _ _

theorem names_append_iff : Names (ds ++ es) source ↔ Names ds source ∨ Names es source := by
  simp only [Names, List.mem_append, or_and_right, exists_or]

theorem names_iff : Names ds source ↔ ∃ fields, .dependent source fields ∈ ds := by
  constructor
  · rintro ⟨a, ha, hsource⟩
    cases a with
    | constant fields => cases hsource
    | dependent other fields =>
      cases hsource
      exact ⟨fields, ha⟩
  · rintro ⟨fields, hmem⟩
    exact ⟨_, hmem, rfl⟩

theorem names_iff_filter_ne_nil : Names ds source ↔ ds.filter (·.source? == some source) ≠ [] := by
  rw [ne_eq, List.filter_eq_nil_iff, Names]
  push Not
  simp only [beq_iff_eq]

theorem declaredFor_pieces (a : Declaration) (pieces : List (List Field)) (s : Option String) :
    declaredFor s (pieces.map a.withFields) = if a.source? = s then pieces.flatten else [] := by
  induction pieces with
  | nil => exact (ite_self []).symm
  | cons piece pieces ih =>
    rw [List.map_cons, declaredFor_cons, ih, source?_withFields, fields_withFields]
    split
    · rw [List.flatten_cons]
    · rfl

end Declaration

namespace Dependency

open Declaration

/-- The fields that are needed because of a source, or else in every collection. -/
def declared (d : Dependency) : Option String → List Field
  | none => d.constant
  | some source => d.dependentOn source

/-- A dependency is told by what it declares, and for which sources. -/
theorem eq_of_declared_eq (h : ∀ s, d.declared s = d'.declared s)
    (hkeys : ∀ source, source ∈ d.dependent.keys ↔ source ∈ d'.dependent.keys) : d = d' := by
  obtain ⟨constant, dependent⟩ := d
  obtain ⟨constant', dependent'⟩ := d'
  have hconstant : constant = constant' := h none
  have hdependent : dependent = dependent' := by
    ext source : 1
    have hfields : (dependent.get? source).getD [] = (dependent'.get? source).getD [] := h (some source)
    have hkey := hkeys source
    rw [Keyed.mem_keys_iff, Keyed.mem_keys_iff] at hkey
    dsimp only at hkey
    cases hleft : dependent.get? source with
    | none =>
      cases hright : dependent'.get? source with
      | none => rfl
      | some fields =>
        obtain ⟨_, hthere⟩ := hkey.2 ⟨fields, hright⟩
        exact absurd (hleft.symm.trans hthere) (Option.some_ne_none _).symm
    | some fields =>
      obtain ⟨fields', hright⟩ := hkey.1 ⟨fields, hleft⟩
      rw [hleft, hright] at hfields
      rw [hright]
      exact congrArg some hfields
  rw [hconstant, hdependent]

/-- A declaration is merged into those for the same source, and leaves all others as they are. -/
theorem declared_declare (d : Dependency) (a : Declaration) (s : Option String) :
    (d.declare a).declared s = if a.source? = s then mergeFields (d.declared s) a.fields else d.declared s := by
  cases a with
  | constant fields =>
    cases s with
    | none => rfl
    | some other => rfl
  | dependent source fields =>
    cases s with
    | none => rfl
    | some other =>
      change ((d.dependent.insert source _).get? other).getD [] =
        if some source = some other then mergeFields (d.dependentOn other) fields else d.dependentOn other
      rw [Keyed.get?_insert]
      by_cases same : other = source
      · rw [if_pos same, if_pos (congrArg some same.symm), same]
        rfl
      · rw [if_neg same, if_neg fun h => same (Option.some.inj h).symm]
        rfl

theorem mem_keys_declare_iff :
    source ∈ (d.declare a).dependent.keys ↔ a.source? = some source ∨ source ∈ d.dependent.keys := by
  cases a with
  | constant fields => exact (or_iff_right nofun).symm
  | dependent other fields =>
    change source ∈ (d.dependent.insert other _).keys ↔ _
    rw [Keyed.mem_keys_insert, eq_comm, Declaration.source?, Option.some.injEq]

theorem declared_declareAll (d : Dependency) (ds : List Declaration) (s : Option String) :
    (ds.foldl declare d).declared s = mergeFields (d.declared s) (declaredFor s ds) := by
  induction ds generalizing d with
  | nil => rfl
  | cons a ds ih =>
    rw [List.foldl_cons, ih, declared_declare, declaredFor_cons]
    split
    · rw [mergeFields_append]
    · rfl

theorem mem_keys_declareAll_iff :
    source ∈ (ds.foldl declare d).dependent.keys ↔ Names ds source ∨ source ∈ d.dependent.keys := by
  induction ds generalizing d with
  | nil => exact (or_iff_right fun ⟨_, h, _⟩ => nomatch h).symm
  | cons a ds ih =>
    rw [List.foldl_cons, ih, mem_keys_declare_iff, names_cons_iff, or_left_comm, or_assoc]

theorem declared_ofDeclarations (ds : List Declaration) (s : Option String) :
    (ofDeclarations ds).declared s = mergeFields [] (declaredFor s ds) := by
  have hempty : empty.declared s = [] := by cases s <;> rfl
  rw [ofDeclarations, declared_declareAll, hempty]

theorem mem_names_ofDeclarations_iff {name : String} :
    name ∈ ((ofDeclarations ds).declared s).map (·.name) ↔
      ∃ a ∈ ds, a.source? = s ∧ name ∈ a.fields.map (·.name) := by
  rw [declared_ofDeclarations, mem_names_mergeFields_iff, List.map_nil, or_iff_right List.not_mem_nil, declaredFor,
    List.map_flatMap, List.mem_flatMap]
  simp only [List.mem_filter, beq_iff_eq, and_assoc]

theorem mem_keys_ofDeclarations_iff : source ∈ (ofDeclarations ds).dependent.keys ↔ Names ds source :=
  mem_keys_declareAll_iff.trans (or_iff_left List.not_mem_nil)

/-- Only what is declared for each source matters, and for which sources there are declarations. -/
theorem ofDeclarations_congr (h : ∀ s, declaredFor s ds = declaredFor s es)
    (hnames : ∀ source, Names ds source ↔ Names es source) : ofDeclarations ds = ofDeclarations es := by
  apply eq_of_declared_eq
  · intro s
    rw [declared_ofDeclarations, declared_ofDeclarations, h]
  · intro source
    rw [mem_keys_ofDeclarations_iff, mem_keys_ofDeclarations_iff]
    exact hnames source

/-- The fields of a declaration can as well be declared piece by piece. -/
theorem ofDeclarations_pieces (before after : List Declaration) {pieces : List (List Field)} (hne : pieces ≠ [])
    (h : pieces.flatten = a.fields) :
    ofDeclarations (before ++ pieces.map a.withFields ++ after) = ofDeclarations (before ++ a :: after) := by
  apply ofDeclarations_congr
  · intro s
    rw [declaredFor_append, declaredFor_append, declaredFor_append, declaredFor_pieces, declaredFor_cons,
      List.append_assoc, h]
    split
    · rfl
    · rw [List.nil_append]
  · intro source
    -- there is a piece, which names the source just as the whole does
    obtain ⟨piece, hpiece⟩ := List.exists_mem_of_ne_nil pieces hne
    have hpieces : Names (pieces.map a.withFields) source ↔ a.source? = some source := by
      constructor
      · rintro ⟨_, hmem, hsource⟩
        obtain ⟨_, -, rfl⟩ := List.mem_map.1 hmem
        rwa [source?_withFields] at hsource
      · intro hsource
        exact ⟨_, List.mem_map_of_mem hpiece, (source?_withFields a piece).trans hsource⟩
    rw [names_append_iff, names_append_iff, hpieces, names_append_iff, names_cons_iff, or_assoc]

/-- Declarations for different sources can be made in any order. -/
theorem ofDeclarations_interleaved (h : ∀ s, es.filter (·.source? == s) = ds.filter (·.source? == s)) :
    ofDeclarations es = ofDeclarations ds := by
  apply ofDeclarations_congr
  · intro s
    exact congrArg (List.flatMap fields) (h s)
  · intro source
    rw [names_iff_filter_ne_nil, names_iff_filter_ne_nil, h]

/-- Of the fields that are declared for a source, or for every collection, the first of each name are there in their
order, and a source is there if and only if there is a declaration for it. So under each name there is what has been
declared first, whatever its type. The same comes out if the fields of a declaration are declared piece by piece, and
if the declarations come in any other order in which those for each source follow each other as before. And it is what
a pipeline declares whose mappers make these declarations one after the other. -/
theorem ofDeclarations_keeps_first (ds : List Declaration) :
    let d := ofDeclarations ds
    d.constant = firstOfEachName (declaredFor none ds) ∧
      (∀ source, d.dependentOn source = firstOfEachName (declaredFor (some source) ds)) ∧
      (∀ source, source ∈ d.dependent.keys ↔ ∃ fields, .dependent source fields ∈ ds) ∧
      (∀ s name, (d.declared s).find? (·.name == name) = (declaredFor s ds).find? (·.name == name)) ∧
      (∀ before a after pieces, ds = before ++ a :: after → pieces ≠ [] → pieces.flatten = a.fields →
        ofDeclarations (before ++ pieces.map a.withFields ++ after) = d) ∧
      (∀ es, (∀ s, es.filter (·.source? == s) = ds.filter (·.source? == s)) → ofDeclarations es = d) ∧
      ∀ p : Pipeline, p.flatMap Mapper.declarations = ds → p.dependency = d := by
  have hfirst (s : Option String) : (ofDeclarations ds).declared s = firstOfEachName (declaredFor s ds) := by
    rw [declared_ofDeclarations, mergeFields_nil]
  refine ⟨hfirst none, fun source => hfirst (some source), ?_, ?_, ?_, ?_, ?_⟩
  · intro source
    rw [mem_keys_ofDeclarations_iff, names_iff]
  · intro s name
    rw [declared_ofDeclarations, find?_mergeFields, List.nil_append]
  · rintro before a after pieces rfl hne h
    exact ofDeclarations_pieces before after hne h
  · intro es h
    exact ofDeclarations_interleaved h
  · rintro p rfl
    rfl

end Dependency

end Cohort
