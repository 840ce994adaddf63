import RedashRunners.Schema
import RedashRunners.Transport

/-!
# Cassandra and ScyllaDB (`cass.py`)

`ScyllaDB` inherits everything from `Cassandra`, so one model serves both.

`run_query` builds a `Cluster`, connects a session and runs the query inside a `try`
that catches only `KeyboardInterrupt`. Nothing in it shuts the `Cluster` down:
`runQuery_never_shuts_down` is the footprint fact, over every driver behaviour.

Its rows are `dict(zip(column_names, row))`. `rowOf_keeps_values_iff` says exactly when
that keeps a row's values: when the column names are distinct. With a repeated name
the later value overwrites the earlier one (`runQuery_drops_repeated_column`). The rows
are written by `json.dumps(data, cls=CassandraJSONEncoder)`, whose `default` writes a
`sortedset` (a `set` value of the model) as a list; `runQuery_returns_zipped_rows` says
what a returned result holds.

`get_schema` asks for `release_version`, picks Cassandra 2's or Cassandra 3's
catalog query for the configured keyspace (`schemaQuery`), and files the rows by
`table_name` through the shared loop: `getSchema_groupedBy`.
-/

namespace RedashRunners

namespace Cassandra

/-! ## The driver -/

/-- The calls `run_query` makes on the `cassandra` driver, as they appear in the log.
`shutdown` is `Cluster.shutdown()`, which releases the cluster's connections. -/
inductive Call where
  | cluster (contactPoints : List PyObj) (authProvider : Option (String × String))
      (port protocolVersion : PyObj)
  | connect
  | setKeyspace (keyspace : PyObj)
  | defaultTimeout (timeout : PyObj)
  | execute (query : String)
  | fetch
  | shutdown
  deriving DecidableEq

/-- The driver's behaviour: the outcome of each call, chosen from the log up to and
including that call. `execute` answers the result's `column_names`, `fetch` the rows
that iterating the result yields. -/
structure Driver where
  cluster : List Call → Py Unit
  connect : List Call → Py Unit
  setKeyspace : List Call → Py Unit
  execute : List Call → Py (List String)
  fetch : List Call → Py (List (List PyObj))

/-! ## `run_query` -/

/-- `Cluster([host], ...)`, with a `PlainTextAuthProvider` when both a username and a
password are configured. -/
def newCluster (config : PyDict PyObj) (d : Driver) : Run Call Unit := do
  let username := config.get (.str "username") (.str "")
  let password := config.get (.str "password") (.str "")
  let host := config.get (.str "host") (.str "")
  let port := config.get (.str "port") (.str "")
  let protocol := config.get (.str "protocol") (.int 3)
  if username.truthy && password.truthy then
    let username ← liftM username.format
    let password ← liftM password.format
    Run.call (.cluster [host] (some (username, password)) port protocol) d.cluster
  else
    Run.call (.cluster [host] none port protocol) d.cluster

/-- The body of `run_query`'s `try`. -/
def queryBody (config : PyDict PyObj) (d : Driver) (query : String) :
    Run Call QueryResult := do
  newCluster config d
  Run.call .connect d.connect
  Run.call (.setKeyspace (← liftM (config.getItem (.str "keyspace")))) d.setKeyspace
  Run.call (.defaultTimeout (config.get (.str "timeout") (.int 10))) fun _ => pure ()
  let columnNames ← Run.call (.execute query) d.execute
  let columns := fetchColumns (columnNames.map fun c => (c, some .string))
  let rows ← Run.call .fetch d.fetch
  let data : QueryData := ⟨columns, rows.map (rowOf columnNames)⟩
  -- `json_data = json.dumps(data, cls=CassandraJSONEncoder)`
  let _ ← liftM (jsonDumps .cassandraJSONEncoder data)
  pure (some data, .none)

/-- `Cassandra.run_query(query, user)`, and so `ScyllaDB`'s. -/
def runQuery (config : PyDict PyObj) (d : Driver) (query : String) : Run Call QueryResult :=
  Run.tryExcept (queryBody config d query) fun e =>
    if e.cls = .keyboardInterrupt then some (pure (none, .str "Query cancelled by user."))
    else none

/-- No call of `run_query` is `shutdown`. -/
theorem runQuery_calls (config : PyDict PyObj) (d : Driver) (query : String) :
    Run.Calls (· ≠ .shutdown) (runQuery config d query) := by
  refine Run.Calls.tryExcept ?_ fun e h hh => ?_
  · -- the body: a sequence of calls, none of them `shutdown`
    repeat' first
      | exact Run.Calls.pure _
      | exact Run.Calls.lift _
      | exact Run.Calls.call nofun _
      | refine Run.Calls.ite ?_ ?_
      | refine Run.Calls.bind ?_ fun _ => ?_
  · split at hh
    · cases hh; exact Run.Calls.pure _
    · cases hh

/-- **The `Cluster` is never shut down.** Whatever the driver does, no run of
`run_query` calls `shutdown()`: not on success, not on an escaping exception, not on
cancellation. -/
theorem runQuery_never_shuts_down (config : PyDict PyObj) (d : Driver) (query : String)
    {r : Py QueryResult} {log : List Call} (h : runQuery config d query [] = some (r, log)) :
    Call.shutdown ∉ log :=
  (runQuery_calls config d query).not_mem (· rfl) h

/-! ## Rows -/

/-- `dict(zip(column_names, row))` keeps all of a row's values exactly when the column
names are distinct. -/
theorem rowOf_keeps_values_iff {names : List String} {row : List PyObj}
    (hlen : row.length = names.length) :
    (rowOf names row).items.length = names.length ↔ names.Nodup := by
  have hinj : Function.Injective PyObj.str := fun _ _ h => PyObj.str.inj h
  constructor
  · intro h
    by_contra hnd
    have := PyDict.length_ofZip_lt row (mt (List.Nodup.of_map PyObj.str) hnd)
    simp only [rowOf, List.length_map] at this h
    omega
  · intro hnd
    simp [rowOf, PyDict.ofZip_items_of_nodup row (hnd.map hinj), hlen]

theorem rowOf_keeps_values_iff_repeated :
    ((rowOf ["v", "v"] [.int 1, .int 2]).items.length = ["v", "v"].length ↔
      ["v", "v"].Nodup) :=
  rowOf_keeps_values_iff (show [PyObj.int 1, .int 2].length = ["v", "v"].length from rfl)

/-- A configuration with only a keyspace. -/
def keyspaceConfig (keyspace : String) : PyDict PyObj :=
  ⟨[(.str "keyspace", .str keyspace)], by simp⟩

/-- A driver whose query `SELECT v, v` returns the one row `(1, 2)`. -/
def repeatedColumnDriver : Driver where
  cluster _ := pure ()
  connect _ := pure ()
  setKeyspace _ := pure ()
  execute _ := pure ["v", "v"]
  fetch _ := pure [[.int 1, .int 2]]

/-- With the column name `v` repeated, `run_query`'s row keeps one entry: `{'v': 2}`. -/
theorem runQuery_drops_repeated_column :
    ∃ data log, runQuery (keyspaceConfig "ks") repeatedColumnDriver "SELECT v, v FROM t" [] =
        some (.ok (some data, .none), log) ∧
      data.rows.map (·.items) = [[(.str "v", .int 2)]] :=
  ⟨_, _, rfl, rfl⟩

/-- `select release_version from system.local;` -/
def releaseVersionQuery : String := "
        select release_version from system.local;
        "

/-- Cassandra 3's catalog query for `keyspace`. -/
def cassandra3Query (keyspace : String) : String := "
        SELECT table_name, column_name
        FROM system_schema.columns
        WHERE keyspace_name ='" ++ keyspace ++ "';
        "

/-- Cassandra 2's catalog query for `keyspace`. -/
def cassandra2Query (keyspace : String) : String := "
                SELECT columnfamily_name AS table_name, column_name
                FROM system.schema_columns
                WHERE keyspace_name ='" ++ keyspace ++ "';
                "

/-- The catalog query `get_schema` runs: Cassandra 3's, replaced by Cassandra 2's when
`release_version.startswith('2')`; each is `.format(self.configuration['keyspace'])`. -/
def schemaQuery (config : PyDict PyObj) (releaseVersion : PyObj) : Py String := do
  let query := cassandra3Query (← (← config.getItem (.str "keyspace")).format)
  if ← releaseVersion.startswith "2" then
    pure (cassandra2Query (← (← config.getItem (.str "keyspace")).format))
  else pure query

/-- `get_schema`'s reading of a catalog row: `row['table_name']`, `row['column_name']`. -/
def tableEntry (row : PyDict PyObj) : Py (PyObj × PyObj) := do
  let tableName ← row.getItem (.str "table_name")
  let columnName ← row.getItem (.str "column_name")
  pure (tableName, columnName)

/-- `Cassandra.get_schema()`; `runQuery` is `self.run_query`, given by what it returns or
raises for each query text. -/
def getSchema (config : PyDict PyObj) (runQuery : String → Py QueryResult) :
    Py (List Table) := do
  let (results, _) ← runQuery releaseVersionQuery
  let results ← jsonLoads results
  let releaseVersion ← match results.rows with
    | row :: _ => row.getItem (.str "release_version")
    | [] => throw (Exc.mk .indexError (.str "list index out of range"))
  let query ← schemaQuery config releaseVersion
  let (results, _) ← runQuery query
  let results ← jsonLoads results
  let schema ← collectColumns tableEntry PyDict.empty results.rows
  pure schema.values

/-- A catalog row `(table_name, column_name)` as `run_query` returns it. -/
def catalogRow (p : String × String) : PyDict PyObj :=
  rowOf ["table_name", "column_name"] [.str p.1, .str p.2]

@[simp] theorem getItem_catalogRow (p : String × String) :
    (catalogRow p).getItem (.str "table_name") = pure (.str p.1) ∧
      (catalogRow p).getItem (.str "column_name") = pure (.str p.2) := by
  constructor <;> simp [catalogRow, PyDict.getItem, get?_rowOf]

/-- **`get_schema` groups the catalog by table.** Whatever `release_version` the first
query returns, if the catalog query it picks for the keyspace returns the rows `ps`,
`get_schema` returns one entry per distinct `table_name`, named by it, whose columns
are that table's `column_name`s in row order. -/
theorem getSchema_groupedBy {config : PyDict PyObj} {runQuery : String → Py QueryResult}
    {release : PyDict PyObj} {others : List (PyDict PyObj)} {version : PyObj} {query : String}
    {columns columns' : List Column} {error error' : PyObj} {ps : List (String × String)}
    (hrelease : runQuery releaseVersionQuery = pure (some ⟨columns, release :: others⟩, error))
    (hversion : release.getItem (.str "release_version") = pure version)
    (hquery : schemaQuery config version = pure query)
    (hrows : runQuery query = pure (some ⟨columns', ps.map catalogRow⟩, error')) :
    ∃ tables, getSchema config runQuery = pure tables ∧
      GroupedBy (fun p => .str p.1) (fun p l => l = .str p.2) ps tables := by
  have hentry : ∀ p ∈ ps, tableEntry (catalogRow p) = pure (.str p.1, .str p.2) :=
    fun p _ => by simp [tableEntry]
  obtain ⟨d, hrun, hgroup⟩ := collectColumns_groupedBy hentry
  exact ⟨d.values, by simp [getSchema, hrelease, jsonLoads, hversion, hquery, hrows, hrun],
    hgroup⟩

/-- Tables `t` and `u` of keyspace `ks`, `t`'s columns split by `u`'s. -/
def catalogRows : List (String × String) := [("t", "a"), ("u", "b"), ("t", "c")]

/-- A `run_query` answering release `3.11.4`, and `catalogRows` to any other query. -/
def catalogRunQuery (query : String) : Py QueryResult :=
  if query = releaseVersionQuery then
    pure (some ⟨[], [rowOf ["release_version"] [.str "3.11.4"]]⟩, .none)
  else pure (some ⟨[], catalogRows.map catalogRow⟩, .none)

theorem getSchema_groupedBy_catalogRows :
    ∃ tables, getSchema (keyspaceConfig "ks") catalogRunQuery = pure tables ∧
      GroupedBy (fun p => .str p.1) (fun p l => l = .str p.2) catalogRows tables :=
  getSchema_groupedBy
    (show catalogRunQuery releaseVersionQuery =
      pure (some ⟨[], [rowOf ["release_version"] [.str "3.11.4"]]⟩, .none) from rfl) rfl
    (show schemaQuery (keyspaceConfig "ks") (.str "3.11.4") = pure (cassandra3Query "ks") from rfl)
    (show catalogRunQuery (cassandra3Query "ks") =
      pure (some ⟨[], catalogRows.map catalogRow⟩, .none) from rfl)

end Cassandra

end RedashRunners
