import Cohort.Users.Storage

/-!
# Operations on a session

Everything that can be asked of a session, as data, with the answers. An operation reads the session, may change the
catalog and may send statements to the engines; a storage that could not be prepared answers no searches and creates
no segments.
-/

namespace Cohort

inductive Operation
  | search (project : String) (r : SearchRequest)
  | segment (project : String) (r : SegmentRequest)
  | searchQuery (project : String) (r : SearchRequest)
  | segmentQuery (project : String) (r : SegmentRequest)
  | filterQuery (project : String) (f : EventFilter)
  | eventConditions (project : String) (filters : List EventFilter)
  | userTable (project : String) (withEvents : Bool)
  | createSchema
  | createView (project : String) (v : View)
  | view (project tableName : String)
  | views (project : String)
  | createCollection (project collection : String) (fields : List Field)
  | addFields (project collection : String) (fields : List Field)
  | fields (project collection : String)
  | collections (project : String)

/-- What an operation returns. -/
inductive Outcome
  | done
  | rows (t : Rows)
  | text (s : Option String)
  | texts (ss : List String)
  | view (v : View)
  | views (vs : List View)
  | fields (fs : List Field)
  | collections (cs : Keyed (List Field))
  | failed (e : QueryError)
  | refused (e : CatalogError)
  /-- There is no storage to ask. -/
  | unavailable

namespace Operation

/-- The project that an operation is about. -/
def project? : Operation → Option String
  | .search p _ | .segment p _ | .searchQuery p _ | .segmentQuery p _ | .filterQuery p _ | .eventConditions p _
  | .userTable p _ | .createView p _ | .view p _ | .views p | .createCollection p _ _ | .addFields p _ _
  | .fields p _ | .collections p => some p
  | .createSchema => none

/-- The outcome of what asks the storage. -/
def settle {α : Type} (encode : α → Outcome) (act : SessionM α) : StateM Session Outcome := do
  match ← act.run with
  | .ok a => return encode a
  | .error e => return .failed e

/-- The outcome of what only reads the session. -/
def answer {α : Type} (encode : α → Outcome) (r : Except QueryError α) : Outcome :=
  match r with
  | .ok a => encode a
  | .error e => .failed e

/-- The outcome of what changes the catalog. -/
def change {α : Type} (encode : α → Outcome) (act : CatalogM α) : StateM Session Outcome := do
  let s ← get
  let (r, catalog) := act s.catalog
  set { s with catalog }
  match r with
  | .ok a => return encode a
  | .error e => return .refused e

def queryText (q : Sql.Select) : String := (Sql.Query.select q).text

/-- Runs an operation under the settings; `ready` says whether the storage could be prepared. -/
def run (s : StorageSettings) (ready : Bool) : Operation → StateM Session Outcome
  | .search p r => if ready then settle .rows (s.search p r) else return .unavailable
  | .segment p r => if ready then settle (fun _ => .done) (s.createSegment p r) else return .unavailable
  | .searchQuery p r => do
    return answer (fun q => .text (q.map queryText)) (Search.eventQuery s (← get).catalog p r)
  | .segmentQuery p r => do
    return answer (fun q => .text (some (queryText q))) (Search.segmentQuery s (← get).catalog p r)
  | .filterQuery p f => do
    return answer (fun q => .text (some (queryText q))) (f.query s.userMapping (← get).catalog p)
  | .eventConditions p fs => do
    return answer (fun ts => .texts (ts.map Sql.Term.text))
      (Search.eventConditions s.userMapping (← get).catalog p fs)
  | .userTable p withEvents =>
    return answer (fun t => .text (some (Sql.Identifier.path t).text))
      (Search.userTable (if withEvents then some s.userConnector else none) p)
  | .createSchema => settle (fun _ => .done) StorageSettings.createSchema
  | .createView p v => change (fun _ => .done) (Catalog.createView p v)
  | .view p t => change .view (Catalog.view p t)
  | .views p => return .views ((← get).catalog.viewsOf p).values
  | .createCollection p c fs => change .fields (Catalog.createCollection p c fs)
  | .addFields p c fs => change .fields (Catalog.addFields p c fs)
  | .fields p c => return .fields ((← get).catalog.fieldsOf p c)
  | .collections p => return .collections ((← get).catalog.collectionsOf p)

/-- Runs operations one after the other. -/
def runAll (s : StorageSettings) (ready : Bool) (ops : List Operation) : StateM Session (List Outcome) :=
  ops.mapM (run s ready)

end Operation

end Cohort
