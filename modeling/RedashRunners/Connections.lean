import RedashRunners.Postgres
import RedashRunners.Cassandra

/-!
# Releasing the connection

Each runner's `run_query` opens a connection to the database: `psycopg2.connect` for
PostgreSQL, Redshift and CockroachDB, a `Cluster` for Cassandra and ScyllaDB. This module
puts the two runners' footprint results side by side, over every driver behaviour.

`PostgreSQL.run_query` closes the connection in the `finally` of a `try` that begins at
`cursor.execute`: a run that ends has called `close()` exactly when it reached
`cursor.execute`, and then `close()` is its last call. `Cassandra.run_query` has no
`shutdown()` on any path.
-/

namespace RedashRunners

/-- **Who releases the connection.** Over every driver behaviour: a run of
`PostgreSQL.run_query` that ends, returning or raising, has called `close()` if and only
if it reached `cursor.execute`, and then ends with it; no run of `Cassandra.run_query`
calls `shutdown()`. -/
theorem runQuery_releases_connection :
    (∀ (runner : PostgreSQL.Runner) (config : PyDict PyObj) (d : PostgreSQL.Driver)
      (fuel : Nat) (query : String) (r : Py QueryResult) (log : List PostgreSQL.Call),
      PostgreSQL.runQuery runner config d fuel query [] = some (r, log) →
      (PostgreSQL.Call.close ∈ log ↔ PostgreSQL.Call.execute query ∈ log) ∧
        (PostgreSQL.Call.execute query ∈ log → log.getLast? = some .close)) ∧
    (∀ (config : PyDict PyObj) (d : Cassandra.Driver) (query : String) (r : Py QueryResult)
      (log : List Cassandra.Call),
      Cassandra.runQuery config d query [] = some (r, log) → Cassandra.Call.shutdown ∉ log) :=
  ⟨fun runner config d fuel query _ _ h =>
      ⟨PostgreSQL.runQuery_close_iff_execute runner config d fuel query h,
        PostgreSQL.runQuery_closes runner config d fuel query h⟩,
    fun config d query _ _ h => Cassandra.runQuery_never_shuts_down config d query h⟩

/-- A `Cluster` on which every call succeeds and the query returns the row `(1)` of
column `v`. -/
def Cassandra.quietDriver : Cassandra.Driver where
  cluster _ := pure ()
  connect _ := pure ()
  setKeyspace _ := pure ()
  execute _ := pure ["v"]
  fetch _ := pure [[.int 1]]

/-- A psycopg2 connection whose `connection.cursor()` raises `InterfaceError`. -/
def PostgreSQL.closedCursorDriver : PostgreSQL.Driver :=
  { PostgreSQL.quietDriver with
    cursor := fun _ => throw ⟨.databaseError, .str "connection already closed"⟩ }

/-- The log of a quiet PostgreSQL run of `SELECT 1`. -/
def PostgreSQL.quietLog : List PostgreSQL.Call :=
  [.connect (PostgreSQL.Runner.postgreSQL.connectArgs PyDict.empty), .poll, .cursor,
    .execute "SELECT 1", .poll, .description, .close]

/-- The log of a quiet Cassandra run of `SELECT v FROM t` in keyspace `ks`. -/
def Cassandra.quietLog : List Cassandra.Call :=
  [.cluster [.str ""] none (.str "") (.int 3), .connect, .setKeyspace (.str "ks"),
    .defaultTimeout (.int 10), .execute "SELECT v FROM t", .fetch]

theorem runQuery_releases_connection_quietDrivers :
    PostgreSQL.runQuery .postgreSQL PyDict.empty PostgreSQL.quietDriver 1 "SELECT 1" [] =
        some (.ok (none, .str "Query completed but it returned no data."),
          PostgreSQL.quietLog) ∧
      (PostgreSQL.Call.close ∈ PostgreSQL.quietLog ↔
        PostgreSQL.Call.execute "SELECT 1" ∈ PostgreSQL.quietLog) ∧
      (PostgreSQL.Call.execute "SELECT 1" ∈ PostgreSQL.quietLog →
        PostgreSQL.quietLog.getLast? = some .close) ∧
      Cassandra.Call.shutdown ∉ Cassandra.quietLog :=
  have hpg := runQuery_releases_connection.1 .postgreSQL PyDict.empty PostgreSQL.quietDriver 1
    "SELECT 1" _ PostgreSQL.quietLog rfl
  ⟨rfl, hpg.1, hpg.2, runQuery_releases_connection.2 (Cassandra.keyspaceConfig "ks")
    Cassandra.quietDriver "SELECT v FROM t" _ Cassandra.quietLog rfl⟩

/-- A PostgreSQL run whose `connection.cursor()` raises lets the exception escape
without `close()`, and a Cassandra run that returns its rows never calls `shutdown()`. -/
theorem runQuery_leaves_connections_open :
    PostgreSQL.runQuery .postgreSQL PyDict.empty PostgreSQL.closedCursorDriver 1 "SELECT 1" [] =
        some (.error ⟨.databaseError, .str "connection already closed"⟩,
          [.connect (PostgreSQL.Runner.postgreSQL.connectArgs PyDict.empty), .poll, .cursor]) ∧
      (∃ data, Cassandra.runQuery (Cassandra.keyspaceConfig "ks") Cassandra.quietDriver
        "SELECT v FROM t" [] = some (.ok (some data, .none), Cassandra.quietLog)) ∧
      Cassandra.Call.shutdown ∉ Cassandra.quietLog :=
  ⟨rfl, ⟨_, rfl⟩, by decide⟩

end RedashRunners
