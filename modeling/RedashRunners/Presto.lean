import RedashRunners.Schema
import RedashRunners.Transport

/-!
# Presto (`presto.py`)

`run_query` connects with pyhive, takes a cursor, and runs the query inside a `try`
with three clauses: `DatabaseError`, the two interrupts, and any other `Exception`.

The `DatabaseError` clause reads `db.message.get('failureInfo', {'message', None})`.
The default is a set literal, not a dict, and sets have no `get`; neither
does a string payload. `databaseErrorMessage` is the clause's computation; on a payload
with no `failureInfo` it raises `AttributeError`, which escapes `run_query`
(`runQuery_databaseError_escapes`). `runQuery_escapes` says what can escape once the
`try` is entered: only the clause's own exceptions and those of `cursor.cancel()`.

The loop `for row in rows: for field in row: field = escape(field)` iterates each dict's
keys and rebinds its own loop variable: the rows come back as the driver sent them
(`escapeRows_eq`, `runQuery_returns_driver_rows`), and `json.dumps` writes them inside
the `try`, where `except Exception` catches its `TypeError`.

`get_schema` files the catalog rows under `'{}.{}'.format(table_schema, table_name)`.
Its nested-type branch compares a two-character slice with three-character strings, so
it is never taken (`columnLabel_toRow`). `getSchema_groups_by_dotted_name` is what the
loop builds, two tables whose joined names coincide sharing one entry. The name is built
by a byte-string `format`, so a non-ASCII one raises (`getSchema_unicodeEncodeError`).
-/

namespace RedashRunners

namespace Presto

/-! ## The driver -/

/-- The pyhive calls `run_query` makes, as they appear in the log. -/
inductive Call where
  | connect (args : List (String × PyObj))
  | cursor
  | execute (query : String)
  | description
  | fetchall
  | cancel
  deriving DecidableEq

/-- pyhive's behaviour: the outcome of each call, chosen from the log up to and
including that call. `description` answers `(name, type)` per column. -/
structure Driver where
  connect : List Call → Py Unit
  cursor : List Call → Py Unit
  execute : List Call → Py Unit
  description : List Call → Py (List (String × String))
  fetchall : List Call → Py (List (List PyObj))
  cancel : List Call → Py Unit

/-- `PRESTO_TYPES_MAPPING`. -/
def prestoTypesMapping : List (String × ColType) :=
  [("integer", .integer), ("tinyint", .integer), ("smallint", .integer), ("long", .integer),
    ("bigint", .integer), ("float", .float), ("double", .float), ("boolean", .boolean),
    ("string", .string), ("varchar", .string), ("date", .date)]

/-- The keyword arguments of `presto.connect`. -/
def connectArgs (config : PyDict PyObj) : List (String × PyObj) :=
  [("host", config.get (.str "host") (.str "")), ("port", config.get (.str "port") (.int 8080)),
    ("username", config.get (.str "username") (.str "redash")),
    ("catalog", config.get (.str "catalog") (.str "hive")),
    ("schema", config.get (.str "schema") (.str "default"))]

/-! ## `run_query` -/

/-- `for row in rows: for field in row: field = escape(field)`. Iterating a dict yields
its keys, and the assignment only rebinds the loop variable `field`. -/
def escapeRows (rows : List (PyDict PyObj)) : List (PyDict PyObj) := Id.run do
  for row in rows do
    for field in row.keys do
      let _field := escape field.unicode
      pure ()
  return rows

/-- The body of `run_query`'s `try`. -/
def queryBody (d : Driver) (query : String) : Run Call QueryResult := do
  Run.call (.execute query) d.execute
  let description ← Run.call .description d.description
  let columnTuples := description.map fun i => (i.1, prestoTypesMapping.lookup i.2)
  let columns := fetchColumns columnTuples
  let rows ← Run.call .fetchall d.fetchall
  let rows := escapeRows (rows.map (rowOf (columns.map (·.name))))
  let data : QueryData := ⟨columns, rows⟩
  -- `json_data = json.dumps(data, cls=JSONEncoder)`
  let _ ← liftM (jsonDumps .jsonEncoder data)
  pure (some data, .none)

/-- The `except DatabaseError as db` clause's `error`:
`db.message.get('failureInfo', {'message', None}).get('message')`, or
`'Unspecified DatabaseError: {0}'.format(db.message)` when that is `None`. -/
def databaseErrorMessage (message : PyObj) : Py PyObj := do
  let defaultMessage := "Unspecified DatabaseError: " ++ (← message.format)
  let info ← message.get "failureInfo" (.set (.cons (.str "message") (.cons .none .nil)))
  let message ← info.get "message" .none
  pure (if message = .none then .str defaultMessage else message)

/-- `run_query`'s except clauses. -/
def queryHandler (d : Driver) (e : Exc) : Option (Run Call QueryResult) :=
  if e.cls = .databaseError then some do
    let error ← liftM (databaseErrorMessage e.message)
    pure (none, error)
  else if e.cls = .keyboardInterrupt ∨ e.cls = .interrupt then some do
    Run.call .cancel d.cancel
    pure (none, .str "Query cancelled by user.")
  else if e.isException then some (pure (none, .str e.message.unicode))
  else none

/-- `Presto.run_query(query, user)`. -/
def runQuery (config : PyDict PyObj) (d : Driver) (query : String) : Run Call QueryResult := do
  Run.call (.connect (connectArgs config)) d.connect
  Run.call .cursor d.cursor
  Run.tryExcept (queryBody d query) (queryHandler d)

/-! ### The `DatabaseError` clause -/

/-- A dict payload without `failureInfo` falls back to the set `{'message', None}`,
which has no `get`: the clause raises `AttributeError`. -/
theorem databaseErrorMessage_no_failureInfo {items : PyItems}
    (hinfo : items.lookup "failureInfo" = none) :
    databaseErrorMessage (.dict items) =
      throw (noAttribute (.set (.cons (.str "message") (.cons .none .nil))) "get") := by
  simp [databaseErrorMessage, PyObj.format, PyObj.get, hinfo]
  rfl

/-- The clause raises only `UnicodeEncodeError`, formatting a non-ASCII payload, or
`AttributeError`, calling `get` on what is not a dict. -/
theorem databaseErrorMessage_error_cls {message : PyObj} {e : Exc}
    (h : databaseErrorMessage message = .error e) :
    e.cls = .unicodeEncodeError ∨ e.cls = .attributeError := by
  simp only [databaseErrorMessage, Py.bind_eq_error] at h
  rcases h with h | ⟨_, -, h | ⟨_, -, h | ⟨_, -, h⟩⟩⟩
  · exact .inl (by rw [PyObj.format_error h]; rfl)
  · exact .inr (PyObj.get_error h)
  · exact .inr (PyObj.get_error h)
  · cases h

/-- When `cursor.execute` raises, the `try` body stops there. -/
theorem queryBody_execute_error {d : Driver} {query : String} {log : List Call} {e : Exc}
    (h : d.execute (log ++ [.execute query]) = .error e) :
    queryBody d query log = some (.error e, log ++ [.execute query]) := by
  simp [queryBody, Run.bind_apply, h]

/-- When the `try` body raises `DatabaseError`, `run_query` ends as the clause's
computation does: it returns `(None, error)`, or the clause's own exception escapes. -/
theorem runQuery_databaseError {config : PyDict PyObj} {d : Driver} {query : String}
    {payload : PyObj} {log : List Call}
    (hconnect : d.connect [.connect (connectArgs config)] = .ok ())
    (hcursor : d.cursor [.connect (connectArgs config), .cursor] = .ok ())
    (hbody : queryBody d query [.connect (connectArgs config), .cursor] =
      some (.error ⟨.databaseError, payload⟩, log)) :
    runQuery config d query [] =
      some ((databaseErrorMessage payload).map fun error => (none, error), log) := by
  simp [runQuery, Run.bind_apply, hconnect, hcursor, Run.tryExcept, hbody, queryHandler]
  cases databaseErrorMessage payload <;> rfl

/-- When the except clause raises, the exception escapes `run_query`. -/
theorem runQuery_databaseError_escapes {config : PyDict PyObj} {d : Driver} {query : String}
    {payload : PyObj} {e : Exc}
    (hconnect : d.connect [.connect (connectArgs config)] = .ok ())
    (hcursor : d.cursor [.connect (connectArgs config), .cursor] = .ok ())
    (hexecute : d.execute [.connect (connectArgs config), .cursor, .execute query] =
      .error ⟨.databaseError, payload⟩)
    (hmessage : databaseErrorMessage payload = .error e) :
    runQuery config d query [] =
      some (.error e, [.connect (connectArgs config), .cursor, .execute query]) := by
  rw [runQuery_databaseError hconnect hcursor (queryBody_execute_error hexecute), hmessage]
  rfl

/-- A driver whose `cursor.execute` raises `DatabaseError({})`. -/
def emptyPayloadDriver : Driver where
  connect _ := pure ()
  cursor _ := pure ()
  execute _ := throw ⟨.databaseError, .dict .nil⟩
  description _ := pure []
  fetchall _ := pure []
  cancel _ := pure ()

/-- `DatabaseError({})` from `cursor.execute`: `run_query` raises `AttributeError`. -/
theorem runQuery_raises_on_empty_payload :
    runQuery PyDict.empty emptyPayloadDriver "SELECT 1" [] =
      some (.error (noAttribute (.set (.cons (.str "message") (.cons .none .nil))) "get"),
        [.connect (connectArgs PyDict.empty), .cursor, .execute "SELECT 1"]) :=
  runQuery_databaseError_escapes rfl rfl rfl (databaseErrorMessage_no_failureInfo rfl)

/-- `queryHandler` catches every exception: what `except Exception` leaves, the
interrupt clause takes. -/
theorem queryHandler_ne_none (d : Driver) (e : Exc) : queryHandler d e ≠ none := by
  simp only [queryHandler]
  split_ifs <;> simp_all [Exc.isException]

/-- **What escapes `run_query`.** Once the `try` is entered, an exception escapes
`run_query` in two ways only. Either the `try` body raised `DatabaseError` and the clause's
own computation on its payload raised (`UnicodeEncodeError` or `AttributeError`), or the
body was interrupted and `cursor.cancel()` raised. Every other exception, `json.dumps`'s
`TypeError` included, becomes `(None, error)`. -/
theorem runQuery_escapes {config : PyDict PyObj} {d : Driver} {query : String} {e : Exc}
    {log : List Call} (h : runQuery config d query [] = some (.error e, log))
    (hexec : Call.execute query ∈ log) :
    d.connect [.connect (connectArgs config)] = .ok () ∧
      d.cursor [.connect (connectArgs config), .cursor] = .ok () ∧
      ((∃ payload, queryBody d query [.connect (connectArgs config), .cursor] =
            some (.error ⟨.databaseError, payload⟩, log) ∧
          databaseErrorMessage payload = .error e ∧
          (e.cls = .unicodeEncodeError ∨ e.cls = .attributeError)) ∨
        ∃ e' l, queryBody d query [.connect (connectArgs config), .cursor] =
            some (.error e', l) ∧
          (e'.cls = .keyboardInterrupt ∨ e'.cls = .interrupt) ∧ log = l ++ [.cancel] ∧
          d.cancel log = .error e) := by
  rcases Run.bind_eq_some.mp h with ⟨_, he, -⟩ | ⟨_, l, hl, h⟩
  · -- `presto.connect` raised
    simp [(Run.call_eq_error.mp he).2] at hexec
  obtain ⟨hconnect, rfl⟩ := Run.call_eq_ok.mp hl
  rcases Run.bind_eq_some.mp h with ⟨_, he, -⟩ | ⟨_, _, hc, h⟩
  · -- `connection.cursor()` raised
    simp [(Run.call_eq_error.mp he).2] at hexec
  obtain ⟨hcursor, rfl⟩ := Run.call_eq_ok.mp hc
  refine ⟨hconnect, hcursor, ?_⟩
  rcases Run.tryExcept_eq_some h with ⟨-, hnone⟩ | ⟨e', l, c, hbody, hc, hcl⟩
  · exact absurd (hnone e rfl) (queryHandler_ne_none d e)
  simp only [queryHandler] at hc
  split_ifs at hc with hdb hint <;> cases hc
  · -- `except DatabaseError`
    rcases Run.bind_eq_some.mp hcl with ⟨_, he, hr⟩ | ⟨_, _, -, hcl⟩
    · obtain ⟨hmsg, rfl⟩ := (Prod.mk.inj (Option.some.inj he))
      cases hr
      obtain ⟨cls, payload⟩ := e'
      cases hdb
      exact .inl ⟨payload, hbody, hmsg, databaseErrorMessage_error_cls hmsg⟩
    · cases hcl
  · -- `except (KeyboardInterrupt, InterruptException)`
    rcases Run.bind_eq_some.mp hcl with ⟨_, hcancel, he⟩ | ⟨_, _, -, hcl⟩
    · cases he
      obtain ⟨hc, rfl⟩ := Run.call_eq_error.mp hcancel
      exact .inr ⟨e', l, hbody, hint, rfl, hc⟩
    · cases hcl
  · cases hcl

/-- The `AttributeError` of calling `get` on the set `{'message', None}`. -/
def setAttributeError : Exc := noAttribute (.set (.cons (.str "message") (.cons .none .nil))) "get"

def emptyPayloadLog : List Call :=
  [.connect (connectArgs PyDict.empty), .cursor, .execute "SELECT 1"]

theorem runQuery_escapes_emptyPayload :
    emptyPayloadDriver.connect [.connect (connectArgs PyDict.empty)] = .ok () ∧
      emptyPayloadDriver.cursor [.connect (connectArgs PyDict.empty), .cursor] = .ok () ∧
      ((∃ payload, queryBody emptyPayloadDriver "SELECT 1" [.connect (connectArgs PyDict.empty),
              .cursor] = some (.error ⟨.databaseError, payload⟩, emptyPayloadLog) ∧
            databaseErrorMessage payload = .error setAttributeError ∧
            (setAttributeError.cls = .unicodeEncodeError ∨
              setAttributeError.cls = .attributeError)) ∨
        ∃ e' l, queryBody emptyPayloadDriver "SELECT 1" [.connect (connectArgs PyDict.empty),
              .cursor] = some (.error e', l) ∧
          (e'.cls = .keyboardInterrupt ∨ e'.cls = .interrupt) ∧ emptyPayloadLog = l ++ [.cancel] ∧
          emptyPayloadDriver.cancel emptyPayloadLog = .error setAttributeError) :=
  runQuery_escapes (show runQuery PyDict.empty emptyPayloadDriver "SELECT 1" [] =
    some (.error setAttributeError, emptyPayloadLog) from rfl) (by decide)

/-! ### Rows -/

/-- A driver returning one `varchar` column `a` holding `<b>`. -/
def markupDriver : Driver where
  connect _ := pure ()
  cursor _ := pure ()
  execute _ := pure ()
  description _ := pure [("a", "varchar")]
  fetchall _ := pure [[.str "<b>"]]
  cancel _ := pure ()

/-- The value `<b>` reaches `run_query`'s rows as it is, not as `&lt;b&gt;`. -/
theorem runQuery_leaves_markup :
    ∃ data log, runQuery PyDict.empty markupDriver "SELECT a FROM t" [] =
        some (.ok (some data, .none), log) ∧
      data.rows.map (·.items) = [[(.str "a", .str "<b>")]] ∧ escape "<b>" = "&lt;b&gt;" :=
  ⟨_, _, rfl, rfl, by decide⟩

/-- `get_schema`'s catalog query. -/
def schemaQuery : String := "
        SELECT table_schema, table_name, column_name, data_type as column_type, extra_info
        FROM information_schema.columns
        WHERE table_schema NOT IN ('pg_catalog', 'information_schema')
        ORDER BY 1, 5 DESC
        "

/-- The types `get_schema` shows beside a column's name. -/
def shownTypes : List String := ["integer", "varchar", "timestamp", "boolean", "bigint"]

/-- A column's label: `[P] name (type)` for a partition key, `name (type)` for a shown
type, `name (row or map or array)` when `column_type[0:2]` is `row`, `map` or `arr`,
else the bare name. -/
def columnLabel (row : PyDict PyObj) : Py PyObj := do
  if (← row.getItem (.str "extra_info")) = .str "partition key" then
    withType (← (PyObj.str "[P] ").add (← row.getItem (.str "column_name")))
      (row.getItem (.str "column_type"))
  else
    let columnType ← row.getItem (.str "column_type")
    if shownTypes.any (columnType = .str ·) then
      withType (← row.getItem (.str "column_name")) (row.getItem (.str "column_type"))
    else
      let head ← columnType.slice 0 2
      if head = .str "row" ∨ head = .str "map" ∨ head = .str "arr" then
        (← row.getItem (.str "column_name")).add (.str " (row or map or array)")
      else row.getItem (.str "column_name")

/-- `get_schema`'s reading of a catalog row: `'{}.{}'.format(table_schema, table_name)`
and the column's label. -/
def tableEntry (row : PyDict PyObj) : Py (PyObj × PyObj) := do
  let tableName ← formatDot (← row.getItem (.str "table_schema"))
    (← row.getItem (.str "table_name"))
  let column ← columnLabel row
  pure (tableName, column)

/-- `Presto.get_schema()`; `runQuery` is `self.run_query`, given by what it returns or
raises for each query text. -/
def getSchema (runQuery : String → Py QueryResult) : Py (List Table) := do
  let rows ← schemaRows runQuery schemaQuery
  let schema ← collectColumns tableEntry PyDict.empty rows
  pure schema.values

/-- A row of the catalog query. -/
structure ColumnRow where
  tableSchema : String
  tableName : String
  columnName : String
  columnType : String
  extraInfo : String

/-- The row as `run_query` returns it: keyed by the query's column names. -/
def ColumnRow.toRow (p : ColumnRow) : PyDict PyObj :=
  rowOf ["table_schema", "table_name", "column_name", "column_type", "extra_info"]
    [.str p.tableSchema, .str p.tableName, .str p.columnName, .str p.columnType,
      .str p.extraInfo]

@[simp] theorem ColumnRow.getItem_toRow (p : ColumnRow) :
    p.toRow.getItem (.str "table_schema") = pure (.str p.tableSchema) ∧
      p.toRow.getItem (.str "table_name") = pure (.str p.tableName) ∧
      p.toRow.getItem (.str "column_name") = pure (.str p.columnName) ∧
      p.toRow.getItem (.str "column_type") = pure (.str p.columnType) ∧
      p.toRow.getItem (.str "extra_info") = pure (.str p.extraInfo) := by
  refine ⟨?_, ?_, ?_, ?_, ?_⟩ <;> simp [ColumnRow.toRow, PyDict.getItem, get?_rowOf]

/-- A two-character slice is never one of the three-character `row`, `map`, `arr`. -/
theorem slice_two_ne (s : String) (t : String) (ht : t.length = 3) :
    String.mk (s.data.take 2) ≠ t := by
  intro h
  have := congrArg String.length h
  simp only [String.length, List.length_take] at this ht
  omega

/-- The label `get_schema` gives a row of strings: `[P] name (type)` for a partition key,
`name (type)` for a shown type, else the bare name, nested types included. -/
def ColumnRow.label (p : ColumnRow) : String :=
  if p.extraInfo = "partition key" then "[P] " ++ p.columnName ++ " (" ++ p.columnType ++ ")"
  else if p.columnType ∈ shownTypes then p.columnName ++ " (" ++ p.columnType ++ ")"
  else p.columnName

/-- `columnLabel` on a catalog row: the nested-type branch is never taken. -/
theorem columnLabel_toRow (p : ColumnRow) : columnLabel p.toRow = pure (.str p.label) := by
  by_cases hpk : p.extraInfo = "partition key"
  · simp [columnLabel, ColumnRow.label, hpk, String.append_assoc]
  · by_cases hshown : p.columnType ∈ shownTypes
    · have : shownTypes.any (PyObj.str p.columnType = .str ·) = true := by
        simpa using hshown
      simp [columnLabel, ColumnRow.label, hpk, hshown, this]
    · have : shownTypes.any (PyObj.str p.columnType = .str ·) = false :=
        Bool.eq_false_iff.mpr fun h => hshown (by simpa using h)
      simp [columnLabel, ColumnRow.label, hpk, hshown, this, slice_two_ne _ "row" rfl,
        slice_two_ne _ "map" rfl, slice_two_ne _ "arr" rfl]

theorem tableEntry_toRow {p : ColumnRow} (hs : isAscii p.tableSchema = true)
    (ht : isAscii p.tableName = true) :
    tableEntry p.toRow = pure (.str (p.tableSchema ++ "." ++ p.tableName), .str p.label) := by
  simp [tableEntry, formatDot_str hs ht, columnLabel_toRow]

/-- **What `get_schema` builds.** For any rows of the catalog query whose schema and table
names are ASCII, `get_schema` returns one entry per distinct text
`table_schema + '.' + table_name`, holding in row order the label of each of its rows. -/
theorem getSchema_groups_by_dotted_name {runQuery : String → Py QueryResult} {columns : List Column}
    {ps : List ColumnRow}
    (hq : runQuery schemaQuery = pure (some ⟨columns, ps.map ColumnRow.toRow⟩, .none))
    (hascii : ∀ p ∈ ps, isAscii p.tableSchema = true ∧ isAscii p.tableName = true) :
    ∃ tables, getSchema runQuery = pure tables ∧
      GroupedBy (fun p => .str (p.tableSchema ++ "." ++ p.tableName))
        (fun p l => l = .str p.label) ps tables := by
  obtain ⟨d, hrun, hgroup⟩ := collectColumns_groupedBy fun p hp =>
    tableEntry_toRow (hascii p hp).1 (hascii p hp).2
  exact ⟨d.values, by simp [getSchema, schemaRows_eq hq, hrun], hgroup⟩

/-- **The ASCII condition is needed.** If a catalog row's schema or table name is not
ASCII, and every row before it can be formatted, `get_schema` raises
`UnicodeEncodeError` there. -/
theorem getSchema_unicodeEncodeError {runQuery : String → Py QueryResult}
    {columns : List Column} {ps qs : List ColumnRow} {p : ColumnRow}
    (hq : runQuery schemaQuery =
      pure (some ⟨columns, (ps ++ p :: qs).map ColumnRow.toRow⟩, .none))
    (hascii : ∀ q ∈ ps, isAscii q.tableSchema = true ∧ isAscii q.tableName = true)
    (hp : ¬ (isAscii p.tableSchema = true ∧ isAscii p.tableName = true)) :
    getSchema runQuery = .error unicodeEncodeError := by
  have hentry : tableEntry p.toRow = .error unicodeEncodeError := by
    simp [tableEntry, formatDot_error hp]
    rfl
  have hrun := collectColumns_error hentry (qs.map ColumnRow.toRow)
    (fun q hq => tableEntry_toRow (hascii q hq).1 (hascii q hq).2) PyDict.empty
  simp [getSchema, schemaRows_eq hq, hrun]

/-- A catalog whose second row is table `t` of schema `café`. -/
def accentedCatalog : String → Py QueryResult := fun _ =>
  pure (some ⟨[], ([⟨"hive", "a", "x", "integer", ""⟩] ++ [⟨"café", "t", "y", "varchar", ""⟩] :
    List ColumnRow).map ColumnRow.toRow⟩, .none)

theorem getSchema_unicodeEncodeError_accentedCatalog :
    getSchema accentedCatalog = .error unicodeEncodeError :=
  getSchema_unicodeEncodeError rfl (by decide) (by decide)

/-- Table `c` of schema `a.b`, and table `b.c` of schema `a` with an array column. -/
def dottedRows : List ColumnRow :=
  [⟨"a.b", "c", "x", "integer", ""⟩, ⟨"a", "b.c", "y", "array(varchar)", ""⟩]

/-- A `run_query` answering every query with `dottedRows`. -/
def dottedCatalog : String → Py QueryResult := fun _ =>
  pure (some ⟨[], dottedRows.map ColumnRow.toRow⟩, .none)

theorem getSchema_groups_by_dotted_name_dottedCatalog :
    (∀ p ∈ dottedRows, isAscii p.tableSchema = true ∧ isAscii p.tableName = true) ∧
      ∃ tables, getSchema dottedCatalog = pure tables ∧
        GroupedBy (fun p => .str (p.tableSchema ++ "." ++ p.tableName))
          (fun p l => l = .str p.label) dottedRows tables :=
  ⟨by decide,
    getSchema_groups_by_dotted_name (show dottedCatalog schemaQuery = _ from rfl) (by decide)⟩

/-- Two tables share the entry `a.b.c`, and the array column is labelled by its bare
name. -/
example :
    getSchema dottedCatalog = pure [⟨.str "a.b.c", [.str "x (integer)", .str "y"]⟩] := rfl

/-- A catalog holding one column `c` of type `array(varchar)` in table `hive.t`. -/
def arrayCatalog : String → Py QueryResult := fun _ =>
  pure (some ⟨[], [ColumnRow.toRow ⟨"hive", "t", "c", "array(varchar)", ""⟩]⟩, .none)

theorem getSchema_labels_array_by_bare_name :
    getSchema arrayCatalog = pure [⟨.str "hive.t", [.str "c"]⟩] := rfl

end Presto

end RedashRunners
