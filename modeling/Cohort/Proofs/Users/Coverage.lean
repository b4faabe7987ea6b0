import Cohort.Proofs.Event.Users
import Cohort.Proofs.Lexing.Token
import Cohort.Proofs.Users.Sending
import Mathlib.Data.List.Rotate

/-!
# Searches in all collections

A search without event filters finds the users of every collection of the project that has any. Which collections
these are can be told from the fields that there are, and their order is that of their names. So neither the order in
which collections have been created nor that in which they have gained their fields has any influence on the search.
-/

namespace Cohort

open Sql Outcome

/-- The name as text is stored and compared. -/
def bytes (name : String) : List UInt8 := name.toUTF8.data.toList

theorem val_le_of_isNamePart {c : Char} (h : isNamePart c = true) : c.val ≤ 127 := by
  simp only [isNamePart, Char.isAlphanum, Char.isDigit, Bool.or_eq_true, Bool.and_eq_true, decide_eq_true_eq,
    beq_iff_eq] at h
  rw [UInt32.le_iff_toNat_le]
  rcases h with (halpha | ⟨-, hdigit⟩) | rfl
  · rcases isAlpha_iff.1 halpha with ⟨-, h⟩ | ⟨-, h⟩
    · exact h.trans (by decide)
    · exact h.trans (by decide)
  · exact Nat.le_trans hdigit (by decide)
  · decide

theorem val_le_of_isName {name : String} (h : isName name = true) : ∀ c ∈ name.toList, c.val ≤ 127 := by
  unfold isName at h
  split at h
  · cases h
  · rename_i first others hname
    rw [Bool.and_eq_true, Bool.and_eq_true, List.all_eq_true] at h
    rw [hname, List.forall_mem_cons]
    exact ⟨val_le_of_isNamePart (isNamePart_of_isNameStart h.1.1), fun c hc => val_le_of_isNamePart (h.1.2 c hc)⟩

theorem bytes_eq_map {name : String} (h : isName name = true) : bytes name = name.toList.map fun c => c.val.toUInt8 := by
  rw [bytes, String.toUTF8, ← String.utf8Encode_toList, List.utf8Encode, List.data_toByteArray, List.map_eq_flatMap]
  refine List.flatMap_congr fun c hc => ?_
  exact String.utf8EncodeChar_eq_singleton (Char.utf8Size_eq_one_iff.2 (val_le_of_isName h c hc))

theorem map_toUInt8_lt {as bs : List Char} (has : ∀ c ∈ as, c.val ≤ 127) (hbs : ∀ c ∈ bs, c.val ≤ 127) (h : as < bs) :
    (as.map fun c => c.val.toUInt8) < bs.map fun c => c.val.toUInt8 := by
  induction as generalizing bs with
  | nil =>
    cases bs with
    | nil => exact absurd h (List.not_lt_nil _)
    | cons b bs => exact List.nil_lt_cons _ _
  | cons a as ih =>
    cases bs with
    | nil => exact absurd h (List.not_lt_nil _)
    | cons b bs =>
      obtain ⟨ha, hlaterAs⟩ := List.forall_mem_cons.1 has
      obtain ⟨hb, hlaterBs⟩ := List.forall_mem_cons.1 hbs
      rcases List.cons_lt_cons_iff.1 h with hlt | ⟨rfl, hlt⟩
      · refine List.cons_lt_cons_iff.2 (.inl ?_)
        rw [Char.lt_def, UInt32.lt_iff_toNat_lt] at hlt
        rw [UInt32.le_iff_toNat_le, show UInt32.toNat 127 = 127 from rfl] at ha hb
        rw [UInt8.lt_iff_toNat_lt, UInt32.toNat_toUInt8, UInt32.toNat_toUInt8]
        omega
      · exact List.cons_lt_cons_iff.2 (.inr ⟨rfl, ih hlaterAs hlaterBs hlt⟩)

/-- Names are in the order of their bytes. -/
theorem bytes_lt_bytes {m n : String} (hm : isName m = true) (hn : isName n = true) (h : m < n) : bytes m < bytes n := by
  rw [bytes_eq_map hm, bytes_eq_map hn]
  exact map_toUInt8_lt (val_le_of_isName hm) (val_le_of_isName hn) h

/-- The user did some event of the collection. -/
def IsUserIn (d : Database) (collection : String) (u : Cell) : Prop :=
  u ≠ .null ∧ ∃ event ∈ (d [collection]).rows, (d [collection]).cell event userField = u

namespace Search

/-- The selection is built for the collection, and has a row for each of its users and no others. -/
structure IsBranchOf (collection : String) (q : Select) : Prop where
  built : ∃ h : isName collection = true, q = usersIn (.checked collection h)
  rows : ∀ (e : Dialect) (d : Database) (row : Row),
    row ∈ (q.table e d []).rows ↔ ∃ u, row = [u] ∧ IsUserIn d collection u

/-- The branches are those of all collections of the project that have users, and of no others, in the order of the
bytes of their names, and together they have all users of these collections. -/
structure Covers (c : Catalog) (project : String) (names : List String) (branches : List Select) : Prop where
  matched : List.Forall₂ IsBranchOf names branches
  ascending : names.Pairwise fun m n => bytes m < bytes n
  collections : ∀ n, n ∈ names ↔ userField ∈ (c.fieldsOf project n).map (·.name)
  users : ∀ (e : Dialect) (d : Database) (label : Identifier) (row : Row),
    row ∈ ((usersOf (.ofSelections branches) label).table e d []).rows ↔ ∃ u, row = [u] ∧ ∃ n ∈ names, IsUserIn d n u

variable {e : Dialect} {d : Database}

theorem mem_rows_usersIn_iff {collection : Identifier} {row : Row} :
    row ∈ ((usersIn collection).table e d []).rows ↔ ∃ u, row = [u] ∧ IsUserIn d collection.text u := by
  -- the users of a collection are those of an event filter that asks for nothing more
  let f : EventFilter := ⟨collection.text, none, none, none⟩
  have haccepts (row : Row) : f.Accepts e (d [collection.text]) row := ⟨forall_mem_none _, forall_mem_none _⟩
  have hrows : row ∈ ((f.selection false [collection] [] []).table e d []).rows ↔
      ∃ u, row = [u] ∧ u ≠ .null ∧ f.eventsOf e (d [collection.text]) u ≠ [] :=
    EventFilter.mem_rows_of_not_aggregated rfl rfl .nil
  rw [show usersIn collection = f.selection false [collection] [] [] from rfl, hrows]
  refine exists_congr fun u => and_congr_right fun _ => ?_
  rw [← EventFilter.exists_accepted_iff]
  constructor
  · rintro ⟨event, hevent, rfl⟩
    obtain ⟨hmem, haccepted⟩ := List.mem_filter.1 hevent
    exact ⟨(of_decide_eq_true haccepted).1, event, hmem, rfl⟩
  · rintro ⟨hu, event, hmem, rfl⟩
    exact ⟨event, List.mem_filter.2 ⟨hmem, decide_eq_true ⟨hu, haccepts event⟩⟩, rfl⟩

theorem isBranchOf_usersIn {collection : String} (h : isName collection = true) :
    IsBranchOf collection (usersIn (.checked collection h)) :=
  ⟨⟨h, rfl⟩, fun _ _ _ => mem_rows_usersIn_iff⟩

theorem mem_rows_ofSelections_iff {qs : List Select} {row : Row} :
    row ∈ ((Query.ofSelections qs).table e d []).rows ↔ ∃ q ∈ qs, row ∈ (q.table e d []).rows := by
  have hunion (qs : List Select) : row ∈ ((Query.unionAll (qs.map .select)).table e d []).rows ↔
      ∃ q ∈ qs, row ∈ (q.table e d []).rows := by
    change row ∈ (unionTable e d (qs.map .select) []).rows ↔ _
    simp only [mem_rows_unionTable_iff, List.mem_map, exists_exists_and_eq_and]
    rfl
  match qs with
  | [] => exact hunion []
  | [q] => exact ⟨fun h => ⟨q, List.mem_singleton_self q, h⟩, fun ⟨_, hq, h⟩ => List.mem_singleton.1 hq ▸ h⟩
  | q :: q' :: qs => exact hunion (q :: q' :: qs)

theorem columns_ofSelections {qs : List Select} {columns : List String} (hne : qs ≠ [])
    (h : ∀ q ∈ qs, (q.table e d []).columns = columns) : ((Query.ofSelections qs).table e d []).columns = columns := by
  match qs, hne with
  | [q], _ => exact h q List.mem_cons_self
  | q :: q' :: qs, _ =>
    exact columns_unionTable (List.cons_ne_nil _ _) (List.forall_mem_map.2 h)

/-- What a query about users returns is returned under the new name. -/
theorem mem_rows_usersOf_iff {q : Query} {label : Identifier} (hcolumns : (q.table e d []).columns = [userField])
    (hrows : ∀ row ∈ (q.table e d []).rows, ∃ u, row = [u]) {row : Row} :
    row ∈ ((usersOf q label).table e d []).rows ↔ row ∈ (q.table e d []).rows := by
  have hgrouped : (usersOf q label).grouped e d [] =
      (q.table e d []).rows.map fun row => ⟨[⟨BuiltIn.distinctUsers.text, (q.table e d []).columns, row⟩], []⟩ := by
    change ((usersOf q label).kept e d []).map _ = _
    rw [kept_eq_filter rfl]
    change (((q.table e d []).rows.map _).filter fun _ => true).map _ = _
    rw [List.filter_true, List.map_map]
    rfl
  have hanswer (u : Cell) : (usersOf q label).answer e d []
      ⟨[⟨BuiltIn.distinctUsers.text, (q.table e d []).columns, [u]⟩], []⟩ = [u] := by
    change [Scope.cell [⟨BuiltIn.distinctUsers.text, (q.table e d []).columns, [u]⟩] none userField] = [u]
    rw [cell_single _ _ _ rfl, Table.cell, hcolumns]
    rfl
  rw [mem_rows_table_iff rfl rfl, hgrouped]
  constructor
  · rintro ⟨g, hg, -, rfl⟩
    obtain ⟨row, hrow, rfl⟩ := List.mem_map.1 hg
    obtain ⟨u, rfl⟩ := hrows row hrow
    rw [hanswer]
    exact hrow
  · intro hrow
    obtain ⟨u, rfl⟩ := hrows row hrow
    exact ⟨_, List.mem_map_of_mem hrow, rfl, (hanswer u).symm⟩

section

variable {names : List String} {qs : List Select}

theorem forall₂_isBranchOf (h : collectionQueries names = .ok qs) : List.Forall₂ IsBranchOf names qs := by
  refine (mapM_eq_ok_iff.1 h).imp fun n q hq => ?_
  obtain ⟨i, hi, rfl⟩ := map_eq_ok_iff.1 hq
  obtain ⟨hname, rfl⟩ := Identifier.mapError_check_eq_ok_iff.1 hi
  exact isBranchOf_usersIn hname

theorem columns_of_isBranchOf (h : List.Forall₂ IsBranchOf names qs) :
    ∀ q ∈ qs, (q.table e d []).columns = [userField] := by
  induction h with
  | nil => exact List.forall_mem_nil _
  | cons hbranch hothers ih =>
    obtain ⟨⟨hname, rfl⟩, -⟩ := hbranch
    exact List.forall_mem_cons.2 ⟨columns_table (List.cons_ne_nil _ _), ih⟩

theorem exists_mem_rows_iff (h : List.Forall₂ IsBranchOf names qs) {row : Row} :
    (∃ q ∈ qs, row ∈ (q.table e d []).rows) ↔ ∃ u, row = [u] ∧ ∃ n ∈ names, IsUserIn d n u := by
  induction h with
  | nil => exact iff_of_false (fun ⟨_, hq, _⟩ => nomatch hq) fun ⟨_, _, _, hn, _⟩ => nomatch hn
  | cons hbranch hothers ih =>
    simp only [List.exists_mem_cons_iff, hbranch.rows, ih, and_or_left, exists_or]

/-- The users of some collections are those who did something in any of them. -/
theorem mem_rows_usersOf_collections_iff (h : List.Forall₂ IsBranchOf names qs) (hne : qs ≠ []) {label : Identifier}
    {row : Row} :
    row ∈ ((usersOf (.ofSelections qs) label).table e d []).rows ↔ ∃ u, row = [u] ∧ ∃ n ∈ names, IsUserIn d n u := by
  rw [← exists_mem_rows_iff (e := e) h, ← mem_rows_ofSelections_iff]
  refine mem_rows_usersOf_iff (columns_ofSelections hne (columns_of_isBranchOf h)) fun row hrow => ?_
  obtain ⟨u, hu, -⟩ := (exists_mem_rows_iff h).1 (mem_rows_ofSelections_iff.1 hrow)
  exact ⟨u, hu⟩

end

variable {s : StorageSettings} {c c' : Catalog} {p : String} {r : SearchRequest}

theorem mem_userCollections_iff_mem_names {q : String} :
    q ∈ userCollections c p ↔ userField ∈ (c.fieldsOf p q).map (·.name) := by
  rw [mem_userCollections_iff, Catalog.fieldsOf]
  cases (c.collectionsOf p).get? q with
  | none => simp
  | some fields => simp [hasField_iff]

theorem pairwise_userCollections (c : Catalog) (p : String) : (userCollections c p).Pairwise (· < ·) :=
  List.pairwise_map.2 ((c.collectionsOf p).ascending.filter _)

theorem covers_userCollections (hc : c.IsWellNamed) {branches : List Select} (hne : branches ≠ [])
    (h : collectionQueries (userCollections c p) = .ok branches) : Covers c p (userCollections c p) branches where
  matched := forall₂_isBranchOf h
  ascending := by
    have hname : ∀ n ∈ userCollections c p, isName n = true := fun _ => isName_of_mem_userCollections hc
    exact (pairwise_userCollections c p).imp_of_mem fun hm hn hlt => bytes_lt_bytes (hname _ hm) (hname _ hn) hlt
  collections _ := mem_userCollections_iff_mem_names
  users _ _ _ _ := mem_rows_usersOf_collections_iff (forall₂_isBranchOf h) hne

/-- Which collections have users decides about their order as well. -/
theorem userCollections_congr
    (h : ∀ q, userField ∈ (c'.fieldsOf p q).map (·.name) ↔ userField ∈ (c.fieldsOf p q).map (·.name)) :
    userCollections c' p = userCollections c p := by
  -- lists in strict order are equal if they have the same members
  refine List.Perm.eq_of_pairwise (fun m n _ _ hmn hnm => absurd hmn (String.lt_asymm hnm))
    (pairwise_userCollections c' p) (pairwise_userCollections c p) ?_
  have hnodup (c : Catalog) : (userCollections c p).Nodup := by
    refine (pairwise_userCollections c p).imp fun {m n} hlt => ?_
    rintro rfl
    exact String.lt_irrefl m hlt
  refine (List.perm_ext_iff_of_nodup (hnodup c') (hnodup c)).2 fun q => ?_
  rw [mem_userCollections_iff_mem_names, mem_userCollections_iff_mem_names, h]

/-- Without event filters, the catalog has no part in a search but for the collections with users. -/
theorem eventQuery_congr (hfilters : r.eventFilters = []) (h : userCollections c' p = userCollections c p) :
    eventQuery s c' p r = eventQuery s c p r := by
  have hqueries : searchQueries s c' p r = searchQueries s c p r := by
    rw [searchQueries, searchQueries, hfilters, h]
    rfl
  rw [eventQuery_eq_bind, eventQuery_eq_bind, hqueries, h]

end Search

namespace Catalog

variable {c : Catalog} {a : Change} {p q name : String}

/-- All changes are made, one after the other, and none of them is refused. What is refused may depend on the order: a
collection cannot be created after fields have been added to it. -/
def MakesAll : Catalog → List Change → Prop
  | _, [] => True
  | c, a :: as => a.Succeeds c ∧ (c.changed a).MakesAll as

theorem mem_names_changed_iff (h : a.Succeeds c) :
    name ∈ ((c.changed a).fieldsOf p q).map (·.name) ↔
      name ∈ (c.fieldsOf p q).map (·.name) ∨
        (a.project, a.collection) = (p, q) ∧ name ∈ a.fields.map (·.name) := by
  have ha := Change.succeeds_iff_isAllowed.1 h
  rw [changed_of_isAllowed ha]
  by_cases same : (a.project, a.collection) = (p, q)
  · obtain ⟨rfl, rfl⟩ := Prod.mk.inj same
    rw [fieldsOf_setFields, and_iff_right rfl]
    cases a with
    | create p q fs =>
      change name ∈ fs.map (·.name) ↔ name ∈ (c.fieldsOf p q).map (·.name) ∨ name ∈ fs.map (·.name)
      rw [Change.fieldsOf_of_isAllowed_create ha]
      exact (or_iff_right List.not_mem_nil).symm
    | add p q fs => exact mem_names_mergeFields_iff
  · have hkept : (c.setFields a.project a.collection (a.result c)).fieldsOf p q = c.fieldsOf p q := by
      rw [fieldsOf, get?_setFields_of_ne _ _ (Ne.symm same)]
      rfl
    rw [hkept, or_iff_left fun h => same h.1]

/-- A collection has the names that it had, and those that changes have brought. -/
theorem mem_names_changedAll_iff {as : List Change} (h : c.MakesAll as) :
    name ∈ ((c.changedAll as).fieldsOf p q).map (·.name) ↔
      name ∈ (c.fieldsOf p q).map (·.name) ∨
        ∃ a ∈ as, (a.project, a.collection) = (p, q) ∧ name ∈ a.fields.map (·.name) := by
  induction as generalizing c with
  | nil => exact (or_iff_left fun ⟨_, h, _⟩ => nomatch h).symm
  | cons a as ih => rw [changedAll_cons, ih h.2, mem_names_changed_iff h.1, List.exists_mem_cons_iff, or_assoc]

/-- The names do not depend on the order of the changes. -/
theorem mem_names_changedAll_of_perm {as bs : List Change} (hperm : as.Perm bs) (has : c.MakesAll as)
    (hbs : c.MakesAll bs) :
    name ∈ ((c.changedAll as).fieldsOf p q).map (·.name) ↔ name ∈ ((c.changedAll bs).fieldsOf p q).map (·.name) := by
  rw [mem_names_changedAll_iff has, mem_names_changedAll_iff hbs]
  simp only [hperm.mem_iff]

end Catalog

namespace StorageSettings

open Search

variable {s : StorageSettings} {σ : Session} {r : SearchRequest}

/-! ## Searches without event filters -/

/-- With proper settings and in any session that can be reached, a search without event filters has nothing to search
in just where no collection of the project has users, and it can only fail for its column to sort by. Otherwise it asks
for a page of the users of all collections that have any, with one branch for each of them. Wherever the same
collections have users, the query is the same, and so it is after the same changes in whatever order, as long as all of
them are made. -/
theorem unfiltered_search_covers (hs : s.validate = .ok ()) (hσ : σ.IsReached) (p : String)
    (hfilters : r.eventFilters = []) :
    let found := fun c => eventQuery s c p r
    let c := σ.catalog
    (found c = .ok none ↔ ¬c.HasUsers p) ∧
      (r.HasProperSorting → ∃ q?, found c = .ok q?) ∧
      (∀ q, found c = .ok (some q) →
        ∃ (hcolumn : isName s.identifierColumn = true) (hsorting : r.HasProperSorting) (names : List String)
          (branches : List Select),
          Covers c p names branches ∧
            q = page r hsorting (usersOf (.ofSelections branches) (.checked s.identifierColumn hcolumn))) ∧
      (∀ c' : Catalog,
        (∀ n, userField ∈ (c'.fieldsOf p n).map (·.name) ↔ userField ∈ (c.fieldsOf p n).map (·.name)) →
          found c' = found c) ∧
      ∀ (start : Catalog) (as bs : List Change), as.Perm bs → start.MakesAll as → start.MakesAll bs →
        found (start.changedAll as) = found (start.changedAll bs) := by
  intro found c
  have hcolumn := (validate_eq_ok_iff.1 hs).1
  have hempty := List.isEmpty_iff.2 hfilters
  refine ⟨?_, fun hsorting => ?_, fun q hq => ?_, fun c' hsame => ?_, fun start as bs hperm has hbs => ?_⟩
  · rw [eventQuery_eq_none_iff, and_iff_right hcolumn, and_iff_right hempty, isEmpty_userCollections_iff]
  · refine (checks_eventQuery s c p r).exists_ok ⟨hcolumn, .inr ⟨?_, hsorting⟩⟩
    rw [HasProperBranches, if_pos hempty]
    exact fun _ => isName_of_mem_userCollections hσ.isWellNamed
  · obtain ⟨_, hsorting, branches, hbranches, hne, rfl⟩ := eventQuery_eq_some hq
    rw [searchQueries, if_pos hempty] at hbranches
    exact ⟨hcolumn, hsorting, _, branches, covers_userCollections hσ.isWellNamed hne hbranches, rfl⟩
  · exact eventQuery_congr hfilters (userCollections_congr hsame)
  · exact eventQuery_congr hfilters (userCollections_congr fun _ => Catalog.mem_names_changedAll_of_perm hperm has hbs)

/-- The users of a shop are in its visits, and later in its clicks too. -/
def shopChanges : List Change :=
  [.create "shop" "visits" [⟨userField, .string, true⟩], .create "shop" "clicks" [],
    .add "shop" "clicks" [⟨userField, .string, true⟩]]

/-- A shop may begin with its clicks, but nothing else has any users. -/
theorem unfiltered_search_covers_shop :
    let found := fun c p => eventQuery default c p anyVisitor
    validate default = .ok () ∧ withVisits.IsReached ∧ anyVisitor.eventFilters = [] ∧
      (∃ q, found withVisits.catalog "shop" = .ok (some q)) ∧ found withVisits.catalog "office" = .ok none ∧
      found (.changedAll .empty shopChanges) "shop" = found (.changedAll .empty (shopChanges.rotate 1)) "shop" := by
  intro found
  have hs : validate default = .ok () := by decide +kernel
  have hreached : withVisits.IsReached := .run .default true _ (.start _ _)
  have husers : withVisits.catalog.HasUsers "shop" := ⟨"visits", _, rfl, by decide +kernel⟩
  have hnobody : ¬withVisits.catalog.HasUsers "office" := by
    rintro ⟨q, fields, hfields, -⟩
    cases hfields
  obtain ⟨hnone, hok, -, -, hperm⟩ := unfiltered_search_covers (r := anyVisitor) hs hreached "shop" rfl
  obtain ⟨hnoneOffice, -⟩ := unfiltered_search_covers (r := anyVisitor) hs hreached "office" rfl
  refine ⟨hs, hreached, rfl, ?_, hnoneOffice.2 hnobody, ?_⟩
  · obtain ⟨q?, hq⟩ := hok (forall_mem_none _)
    cases q? with
    | none => exact absurd husers (hnone.1 hq)
    | some q => exact ⟨q, hq⟩
  · have hchanges : Catalog.empty.MakesAll shopChanges := ⟨⟨_, rfl⟩, ⟨_, rfl⟩, ⟨_, rfl⟩, trivial⟩
    have hothers : Catalog.empty.MakesAll (shopChanges.rotate 1) := ⟨⟨_, rfl⟩, ⟨_, rfl⟩, ⟨_, rfl⟩, trivial⟩
    exact hperm .empty _ _ (shopChanges.rotate_perm 1).symm hchanges hothers

end StorageSettings

end Cohort
