import RedashRunners.Transport
import RedashRunners.Postgres
import RedashRunners.Cassandra
import RedashRunners.Presto

/-!
# Configuration schemas

Each runner's `configuration_schema()` is the JSON Schema of its data source's
configuration: the properties a configuration may set, each with a type and perhaps a
default, and the ones it must set. `run_query` reads the configuration with
`self.configuration.get(key, default)` and `self.configuration[key]`. This module sets each
schema beside those reads.

* `PostgreSQL.configurationSchema` (inherited by `CockroachDB`),
  `PostgreSQL.redshiftConfigurationSchema`, `Cassandra.configurationSchema` (inherited by
  `ScyllaDB`) and `Presto.configurationSchema`: the dict literals of the source as `Json`.
* `Configuration.wellFormed`: an object schema whose properties each declare a type and a
  default of that type, and whose `required`, `order` and `secret` lists name properties.
  Every runner's schema passes it.
* `runQuery_reads_declared_keys`: two configurations with the same values under the
  schema's properties give the same run of `run_query`, and of Cassandra's `get_schema`.
  No runner reads a key its schema does not declare.
* `Configuration.fillDefaults`: the configuration with the schema's defaults set where a
  key is missing. `configurationSchema_defaults` sets those defaults against the code's
  own fallbacks: Redshift's `_get_connection` falls back to the `sslmode` its schema
  declares, PostgreSQL's falls back to `None` where its schema declares a host, a port and
  an `sslmode`; Cassandra's `run_query` falls back to its schema's protocol version and
  timeout but not to its port; Presto's schema declares no default `run_query` reads.
-/

namespace RedashRunners

/-- `value[key]` on a JSON object. -/
def Json.field (key : String) : Json → Option Json
  | .obj kvs => kvs.lookup key
  | _ => none

/-- The strings of a JSON array, such as a schema's `required` list. -/
def Json.names : Json → List String
  | .arr xs => xs.toList.filterMap fun
    | .str s => some s
    | _ => none
  | _ => []

/-- A dict literal `{key: value, ...}`. -/
def Json.dict (kvs : List (String × Json)) : Json := .obj (JsonItems.ofPairs kvs)

/-- A list literal `[value, ...]`. -/
def Json.list (xs : List Json) : Json := .arr (JsonList.ofList xs)

namespace Configuration

/-! ## Reading a schema -/

/-- The schema's `properties`, by name. -/
def properties (schema : Json) : List (String × Json) :=
  match schema.field "properties" with
  | some (.obj kvs) => kvs.toList
  | _ => []

/-- The names of the schema's properties: the keys a configuration may set. -/
def propertyNames (schema : Json) : List String := (properties schema).map Prod.fst

/-- The names one of the schema's lists (`required`, `order`, `secret`) gives. -/
def namesAt (schema : Json) (key : String) : List String :=
  ((schema.field key).map Json.names).getD []

/-- A value of the JSON Schema type `type`; the schemas here use `string` and `number`. -/
def hasType (type : String) : Json → Bool
  | .str _ => type == "string"
  | .int _ => type == "number"
  | _ => false

/-- A property declares a type the schemas use, and a default, if any, of that type. -/
def propertyOK (property : Json) : Bool :=
  match property.field "type" with
  | some (.str type) =>
    (type == "string" || type == "number") &&
      match property.field "default" with
      | some d => hasType type d
      | none => true
  | _ => false

/-- What a configuration schema's own data must satisfy: an object schema whose every
property is `propertyOK`, and whose `required`, `order` and `secret` lists name
properties. -/
def wellFormed (schema : Json) : Bool :=
  schema.field "type" == some (.str "object") &&
    (properties schema).all (propertyOK ·.2) &&
    ["required", "order", "secret"].all fun key =>
      (namesAt schema key).all (propertyNames schema).contains

/-- The schema's defaults, as the Python values a configuration holds. -/
def defaults (schema : Json) : List (String × PyObj) :=
  (properties schema).filterMap fun p =>
    (p.2.field "default").bind fun d => d.toPyObj.map (p.1, ·)

/-! ## Configurations that agree on the declared keys -/

/-- Two configurations with the same value, or none, under each key of `keys`. -/
def Agree (keys : List String) (c c' : PyDict PyObj) : Prop :=
  ∀ k ∈ keys, c.get? (.str k) = c'.get? (.str k)

instance (keys : List String) (c c' : PyDict PyObj) : Decidable (Agree keys c c') :=
  inferInstanceAs (Decidable (∀ k ∈ keys, _))

section Agree

variable {keys l : List String} {c c' : PyDict PyObj}

theorem Agree.mono (h : Agree keys c c') (hl : ∀ k ∈ l, k ∈ keys) : Agree l c c' :=
  fun k hk => h k (hl k hk)

theorem agree_cons {k : String} :
    Agree (k :: l) c c' ↔ c.get? (.str k) = c'.get? (.str k) ∧ Agree l c c' :=
  List.forall_mem_cons

end Agree

/-! ## Filling in the defaults -/

/-- Python's `config.setdefault(key, value)`: the value is set only where the key is
missing. -/
def setDefault (c : PyDict PyObj) (kv : String × PyObj) : PyDict PyObj :=
  if (c.get? (.str kv.1)).isSome then c else c.setItem (.str kv.1) kv.2

/-- The configuration with each of the schema's defaults set where its key is missing.
The runners do not compute this; it says what a schema's defaults promise, so that the
code's own fallbacks can be compared with them. -/
def fillDefaults (schema : Json) (c : PyDict PyObj) : PyDict PyObj :=
  (defaults schema).foldl setDefault c

theorem get?_foldl_setDefault (kvs : List (String × PyObj)) (c : PyDict PyObj) (k : String) :
    (kvs.foldl setDefault c).get? (.str k) = (c.get? (.str k)).or (kvs.lookup k) := by
  induction kvs generalizing c with
  | nil => exact Option.or_none.symm
  | cons kv kvs ih =>
    obtain ⟨k', v⟩ := kv
    rw [List.foldl_cons, ih]
    by_cases hk : k = k'
    · subst hk
      cases hc : c.get? (.str k) <;> simp [setDefault, hc, List.lookup_cons]
    · have hne : PyObj.str k ≠ PyObj.str k' := fun h => hk (PyObj.str.inj h)
      have hbeq : (k == k') = false := beq_false_of_ne hk
      unfold setDefault
      split_ifs <;> simp [List.lookup_cons, List.lookup_nil, hbeq, hne]

/-- Where a configuration already sets a key, filling in the defaults keeps its value;
where it does not, the schema's default is taken. -/
theorem get?_fillDefaults (schema : Json) (c : PyDict PyObj) (k : String) :
    (fillDefaults schema c).get? (.str k) = (c.get? (.str k)).or ((defaults schema).lookup k) :=
  get?_foldl_setDefault _ _ _

/-- `get` with the schema's own default as the fallback reads the same before and after
filling in. -/
theorem getD_or_some_self (x : Option PyObj) (v : PyObj) : (x.or (some v)).getD v = x.getD v := by
  cases x <;> rfl

/-- A key the schema gives no default, or the code's own fallback as its default, or one
the configuration sets, reads the same after filling in. -/
theorem get_fillDefaults (schema : Json) (c : PyDict PyObj) (k : String) (fallback : PyObj)
    (h : (defaults schema).lookup k = none ∨ (defaults schema).lookup k = some fallback ∨
      (c.get? (.str k)).isSome) :
    (fillDefaults schema c).get (.str k) fallback = c.get (.str k) fallback := by
  rw [PyDict.get, PyDict.get, get?_fillDefaults]
  rcases h with h | h | h
  · rw [h, Option.or_none]
  · rw [h, getD_or_some_self]
  · obtain ⟨v, hv⟩ := Option.isSome_iff_exists.mp h
    rw [hv, Option.or_some]

theorem getItem_fillDefaults (schema : Json) (c : PyDict PyObj) (k : String)
    (h : (defaults schema).lookup k = none) :
    (fillDefaults schema c).getItem (.str k) = c.getItem (.str k) := by
  simp only [PyDict.getItem, get?_fillDefaults, h, Option.or_none]

/-- A default other than the code's fallback shows exactly where the key is missing. -/
theorem getD_or_some_iff {x : Option PyObj} {v w : PyObj} (h : v ≠ w) :
    (x.or (some v)).getD w = x.getD w ↔ x.isSome := by
  cases x <;> simp [h]

end Configuration

open Configuration

/-! ## PostgreSQL, Redshift and CockroachDB -/

namespace PostgreSQL

/-- `PostgreSQL.default_doc_url`, which `CockroachDB` inherits. -/
def defaultDocUrl : String := "https://www.postgresql.org/docs/current/"

/-- `Redshift.default_doc_url`. -/
def redshiftDefaultDocUrl : String :=
  "http://docs.aws.amazon.com/redshift/latest/dg/cm_chap_SQLCommandRef.html"

/-- `PostgreSQL.configuration_schema()`, which `CockroachDB` inherits; the `title` and
`info` texts are left out. -/
def configurationSchema : Json := .dict [
  ("type", .str "object"),
  ("properties", .dict [
    ("user", .dict [("type", .str "string")]),
    ("password", .dict [("type", .str "string")]),
    ("host", .dict [("type", .str "string"), ("default", .str "127.0.0.1")]),
    ("port", .dict [("type", .str "number"), ("default", .int 5432)]),
    ("dbname", .dict [("type", .str "string")]),
    ("sslmode", .dict [("type", .str "string"), ("default", .str "prefer")]),
    ("doc_url", .dict [("type", .str "string"), ("default", .str defaultDocUrl)]),
    ("toggle_table_string", .dict [("type", .str "string"), ("default", .str "_v")])]),
  ("order", .list [.str "host", .str "port", .str "user", .str "password"]),
  ("required", .list [.str "dbname"]),
  ("secret", .list [.str "password"])]

/-- `Redshift.configuration_schema()`; the `title` texts are left out. -/
def redshiftConfigurationSchema : Json := .dict [
  ("type", .str "object"),
  ("properties", .dict [
    ("user", .dict [("type", .str "string")]),
    ("password", .dict [("type", .str "string")]),
    ("host", .dict [("type", .str "string")]),
    ("port", .dict [("type", .str "number")]),
    ("dbname", .dict [("type", .str "string")]),
    ("sslmode", .dict [("type", .str "string"), ("default", .str "prefer")]),
    ("doc_url", .dict [("type", .str "string"), ("default", .str redshiftDefaultDocUrl)])]),
  ("order", .list [.str "host", .str "port", .str "user", .str "password"]),
  ("required", .list [.str "dbname", .str "user", .str "password", .str "host", .str "port"]),
  ("secret", .list [.str "password"])]

/-- The schema of each runner: `Redshift` overrides `configuration_schema`. -/
def Runner.configurationSchema : Runner → Json
  | .redshift => redshiftConfigurationSchema
  | _ => PostgreSQL.configurationSchema

theorem Runner.wellFormed_configurationSchema (runner : Runner) :
    wellFormed runner.configurationSchema = true := by
  cases runner <;> decide

theorem defaults_configurationSchema : defaults configurationSchema =
    [("host", .str "127.0.0.1"), ("port", .int 5432), ("sslmode", .str "prefer"),
      ("doc_url", .str defaultDocUrl), ("toggle_table_string", .str "_v")] := rfl

theorem defaults_redshiftConfigurationSchema : defaults redshiftConfigurationSchema =
    [("sslmode", .str "prefer"), ("doc_url", .str redshiftDefaultDocUrl)] := rfl

/-- `_get_connection` reads the six keys every schema of the three runners declares. -/
theorem Runner.connectArgs_congr {runner : Runner} {c c' : PyDict PyObj}
    (h : Agree (propertyNames runner.configurationSchema) c c') :
    runner.connectArgs c = runner.connectArgs c' := by
  have h' : Agree ["user", "password", "host", "port", "dbname", "sslmode"] c c' :=
    h.mono (by cases runner <;> decide)
  simp only [agree_cons] at h'
  obtain ⟨hu, hp, hh, hpo, hd, hs, -⟩ := h'
  cases runner <;> simp only [Runner.connectArgs, PyDict.get, hu, hp, hh, hpo, hd, hs]

theorem runQuery_congr {runner : Runner} {c c' : PyDict PyObj}
    (h : Agree (propertyNames runner.configurationSchema) c c') (d : Driver) (fuel : Nat)
    (query : String) : runQuery runner c d fuel query = runQuery runner c' d fuel query := by
  simp only [runQuery, openCursor, Runner.connectArgs_congr h]

/-- **Which defaults `_get_connection` honours.** Filling in the schema's defaults leaves
the arguments of `psycopg2.connect` as they were exactly when the runner is Redshift,
whose `sslmode` fallback is its schema's default, or the configuration sets `host`, `port`
and `sslmode`: PostgreSQL's and CockroachDB's `_get_connection` pass `None` for a missing
key where the schema declares `127.0.0.1`, `5432` and `prefer`. -/
theorem connectArgs_fillDefaults_iff (runner : Runner) (c : PyDict PyObj) :
    runner.connectArgs (fillDefaults runner.configurationSchema c) = runner.connectArgs c ↔
      runner = .redshift ∨ ∀ k ∈ ["host", "port", "sslmode"], (c.get? (.str k)).isSome := by
  cases runner <;>
    simp only [Runner.configurationSchema, Runner.connectArgs, PyDict.get, get?_fillDefaults,
      defaults_configurationSchema, defaults_redshiftConfigurationSchema, List.lookup_cons,
      List.lookup_nil, String.reduceBEq, Option.or_none, getD_or_some_self, List.cons.injEq,
      Prod.mk.injEq, true_and, and_true, List.forall_mem_cons, List.mem_nil_iff, false_implies,
      implies_true, getD_or_some_iff, ne_eq, reduceCtorEq, not_false_eq_true, false_or, true_or]

end PostgreSQL

/-! ## Cassandra and ScyllaDB -/

namespace Cassandra

/-- `Cassandra.default_doc_url`, which `ScyllaDB` inherits. -/
def defaultDocUrl : String := "http://cassandra.apache.org/doc/latest/cql/index.html"

/-- `Cassandra.configuration_schema()`, which `ScyllaDB` inherits; the `title` and `info`
texts are left out. -/
def configurationSchema : Json := .dict [
  ("type", .str "object"),
  ("properties", .dict [
    ("host", .dict [("type", .str "string")]),
    ("port", .dict [("type", .str "number"), ("default", .int 9042)]),
    ("keyspace", .dict [("type", .str "string")]),
    ("username", .dict [("type", .str "string")]),
    ("password", .dict [("type", .str "string")]),
    ("protocol", .dict [("type", .str "number"), ("default", .int 3)]),
    ("timeout", .dict [("type", .str "number"), ("default", .int 10)]),
    ("doc_url", .dict [("type", .str "string"), ("default", .str defaultDocUrl)]),
    ("toggle_table_string", .dict [("type", .str "string"), ("default", .str "_v")])]),
  ("required", .list [.str "keyspace", .str "host"])]

theorem wellFormed_configurationSchema : wellFormed configurationSchema = true := by decide

theorem defaults_configurationSchema : defaults configurationSchema =
    [("port", .int 9042), ("protocol", .int 3), ("timeout", .int 10),
      ("doc_url", .str defaultDocUrl), ("toggle_table_string", .str "_v")] := rfl

section Congr

variable {c c' : PyDict PyObj} (h : Agree (propertyNames configurationSchema) c c')
include h

theorem newCluster_congr (d : Driver) : newCluster c d = newCluster c' d := by
  have h' : Agree ["username", "password", "host", "port", "protocol"] c c' := h.mono (by decide)
  simp only [agree_cons] at h'
  obtain ⟨hu, hp, hh, hpo, hpr, -⟩ := h'
  simp only [newCluster, PyDict.get, hu, hp, hh, hpo, hpr]

theorem runQuery_congr (d : Driver) (query : String) :
    runQuery c d query = runQuery c' d query := by
  have h' : Agree ["keyspace", "timeout"] c c' := h.mono (by decide)
  simp only [agree_cons] at h'
  obtain ⟨hk, ht, -⟩ := h'
  simp only [runQuery, queryBody, newCluster_congr h, PyDict.getItem, PyDict.get, hk, ht]

theorem getSchema_congr (runQuery : String → Py QueryResult) :
    getSchema c runQuery = getSchema c' runQuery := by
  have hk := h "keyspace" (by decide)
  simp only [getSchema, schemaQuery, PyDict.getItem, hk]

end Congr

/-- **Which defaults `run_query` honours.** With the port set, filling in the schema's
defaults leaves Cassandra's (and ScyllaDB's) run as it was: the schema's protocol version
`3` and timeout `10` are `run_query`'s own fallbacks. Its fallback for a missing port is
`''`, where the schema declares `9042`. -/
theorem runQuery_fillDefaults {c : PyDict PyObj} (h : (c.get? (.str "port")).isSome)
    (d : Driver) (query : String) :
    runQuery (fillDefaults configurationSchema c) d query = runQuery c d query := by
  have get := get_fillDefaults configurationSchema c
  simp only [runQuery, queryBody, newCluster,
    get "username" (.str "") (.inl rfl), get "password" (.str "") (.inl rfl),
    get "host" (.str "") (.inl rfl), get "port" (.str "") (.inr (.inr h)),
    get "protocol" (.int 3) (.inr (.inl rfl)), get "timeout" (.int 10) (.inr (.inl rfl)),
    getItem_fillDefaults configurationSchema c "keyspace" rfl]

end Cassandra

/-! ## Presto -/

namespace Presto

/-- `Presto.default_doc_url`. -/
def defaultDocUrl : String := "https://prestodb.io/docs/current/"

/-- `Presto.configuration_schema()`; the `title` and `info` texts are left out. -/
def configurationSchema : Json := .dict [
  ("type", .str "object"),
  ("properties", .dict [
    ("host", .dict [("type", .str "string")]),
    ("port", .dict [("type", .str "number")]),
    ("schema", .dict [("type", .str "string")]),
    ("catalog", .dict [("type", .str "string")]),
    ("username", .dict [("type", .str "string")]),
    ("doc_url", .dict [("type", .str "string"), ("default", .str defaultDocUrl)]),
    ("toggle_table_string", .dict [("type", .str "string"), ("default", .str "_v")])]),
  ("required", .list [.str "host"])]

theorem wellFormed_configurationSchema : wellFormed configurationSchema = true := by decide

theorem runQuery_congr {c c' : PyDict PyObj} (h : Agree (propertyNames configurationSchema) c c')
    (d : Driver) (query : String) : runQuery c d query = runQuery c' d query := by
  have h' : Agree ["host", "port", "username", "catalog", "schema"] c c' := h.mono (by decide)
  simp only [agree_cons] at h'
  obtain ⟨hh, hp, hu, hc, hs, -⟩ := h'
  simp only [runQuery, connectArgs, PyDict.get, hh, hp, hu, hc, hs]

/-- The schema gives defaults only to `doc_url` and `toggle_table_string`, which
`run_query` does not read: filling them in leaves its run as it was. -/
theorem runQuery_fillDefaults (c : PyDict PyObj) (d : Driver) (query : String) :
    runQuery (fillDefaults configurationSchema c) d query = runQuery c d query := by
  have get := get_fillDefaults configurationSchema c
  simp only [runQuery, connectArgs, get "host" (.str "") (.inl rfl),
    get "port" (.int 8080) (.inl rfl), get "username" (.str "redash") (.inl rfl),
    get "catalog" (.str "hive") (.inl rfl), get "schema" (.str "default") (.inl rfl)]

end Presto

/-- **The schemas' defaults against the code's fallbacks.** Every runner's schema is
well formed: each default has the type its property declares. Filling a configuration in
with the schema's defaults leaves the arguments of `psycopg2.connect` as they were exactly
when the runner is Redshift, whose `sslmode` fallback is its schema's default, or the
configuration sets `host`, `port` and `sslmode`; it leaves Cassandra's (and ScyllaDB's)
run as it was when the configuration sets the port, whose fallback is `''` and not the
declared `9042`; and it never changes Presto's run. -/
theorem configurationSchema_defaults :
    (∀ runner : PostgreSQL.Runner, wellFormed runner.configurationSchema = true ∧
      ∀ c, runner.connectArgs (fillDefaults runner.configurationSchema c) = runner.connectArgs c ↔
        runner = .redshift ∨ ∀ k ∈ ["host", "port", "sslmode"], (c.get? (.str k)).isSome) ∧
    (wellFormed Cassandra.configurationSchema = true ∧
      ∀ c, (c.get? (.str "port")).isSome → ∀ d query,
        Cassandra.runQuery (fillDefaults Cassandra.configurationSchema c) d query =
          Cassandra.runQuery c d query) ∧
    (wellFormed Presto.configurationSchema = true ∧
      ∀ c d query, Presto.runQuery (fillDefaults Presto.configurationSchema c) d query =
        Presto.runQuery c d query) :=
  ⟨fun runner => ⟨runner.wellFormed_configurationSchema,
      PostgreSQL.connectArgs_fillDefaults_iff runner⟩,
    ⟨Cassandra.wellFormed_configurationSchema, fun _ h => Cassandra.runQuery_fillDefaults h⟩,
    ⟨Presto.wellFormed_configurationSchema, Presto.runQuery_fillDefaults⟩⟩

/-- **No runner reads a key its schema does not declare.** Two configurations with the
same values under every property of a runner's `configuration_schema` give the same run,
driver calls and result, of its `run_query`, and for Cassandra (and ScyllaDB) of its
`get_schema`: every `self.configuration.get(key, ...)` and `self.configuration[key]` of
the three files names a declared property. -/
theorem runQuery_reads_declared_keys {c c' : PyDict PyObj} :
    (∀ runner : PostgreSQL.Runner, Agree (propertyNames runner.configurationSchema) c c' →
      ∀ d fuel query, PostgreSQL.runQuery runner c d fuel query =
        PostgreSQL.runQuery runner c' d fuel query) ∧
    (Agree (propertyNames Cassandra.configurationSchema) c c' →
      ∀ d query runQuery, Cassandra.runQuery c d query = Cassandra.runQuery c' d query ∧
        Cassandra.getSchema c runQuery = Cassandra.getSchema c' runQuery) ∧
    (Agree (propertyNames Presto.configurationSchema) c c' →
      ∀ d query, Presto.runQuery c d query = Presto.runQuery c' d query) :=
  ⟨fun _ h => PostgreSQL.runQuery_congr h, fun h _ _ _ =>
    ⟨Cassandra.runQuery_congr h _ _, Cassandra.getSchema_congr h _⟩,
    fun h => Presto.runQuery_congr h⟩

/-- A configuration that sets a key none of the runners declares, beside Cassandra's
keyspace. -/
def extraKeyConfig : PyDict PyObj :=
  ⟨[(.str "keyspace", .str "ks"), (.str "extra", .int 1)], by decide⟩

theorem runQuery_reads_declared_keys_extraKey :
    PostgreSQL.runQuery .postgreSQL PyDict.empty PostgreSQL.slowDriver 2 "SELECT 1" =
        PostgreSQL.runQuery .postgreSQL extraKeyConfig PostgreSQL.slowDriver 2 "SELECT 1" ∧
      Cassandra.runQuery (Cassandra.keyspaceConfig "ks") Cassandra.repeatedColumnDriver
          "SELECT v, v FROM t" =
        Cassandra.runQuery extraKeyConfig Cassandra.repeatedColumnDriver "SELECT v, v FROM t" ∧
      Presto.runQuery PyDict.empty Presto.markupDriver "SELECT a FROM t" =
        Presto.runQuery extraKeyConfig Presto.markupDriver "SELECT a FROM t" :=
  ⟨runQuery_reads_declared_keys.1 .postgreSQL (by decide) _ _ _,
    (runQuery_reads_declared_keys.2.1 (by decide) _ _ fun _ => pure (none, .none)).1,
    runQuery_reads_declared_keys.2.2 (by decide) _ _⟩

end RedashRunners
