import RedashRunners.Runner

/-!
# Filing columns under their tables

`PostgreSQL._get_definitions`, `Presto.get_schema` and `Cassandra.get_schema` share one
loop: for each catalog row, compute the table's name and the column's label, add an
empty entry `{'name': table_name, 'columns': []}` the first time a name is seen, and
append the label to that entry. They differ only in how a row gives its name and its
label, which `collectColumns` takes as `entry`; the loop is modelled once and proved once.

`GroupedBy` says what the loop is for: one entry per distinct name, named by it, holding
the labels of that name's rows in row order. `collectColumns_groupedBy` proves that the
loop started from `{}` builds exactly that whenever every row yields its name and label.
The induction carries `SchemaInv` (the dict is the grouping of the rows processed so
far) through `addColumn`, one row at a time.
-/

namespace RedashRunners

/-- A schema entry `{'name': table_name, 'columns': [...]}`. -/
structure Table where
  name : PyObj
  columns : List PyObj
  deriving DecidableEq

/-- `'{}.{}'.format(table_schema, table_name)`: a schema-qualified table name. -/
def formatDot (tableSchema tableName : PyObj) : Py PyObj := do
  let s ← tableSchema.format
  let t ← tableName.format
  pure (.str (s ++ "." ++ t))

/-- `name + ' (' + row[...] + ')'`: a column label with its type, the type read after
the first `+`. -/
def withType (name : PyObj) (type : Py PyObj) : Py PyObj := do
  let label ← name.add (.str " (")
  let label ← label.add (← type)
  label.add (.str ")")

theorem formatDot_str {s t : String} (hs : isAscii s = true) (ht : isAscii t = true) :
    formatDot (.str s) (.str t) = pure (.str (s ++ "." ++ t)) := by
  simp [formatDot, PyObj.format_str hs, PyObj.format_str ht]

/-- A non-ASCII schema or table name cannot be formatted. -/
theorem formatDot_error {s t : String} (h : ¬ (isAscii s = true ∧ isAscii t = true)) :
    formatDot (.str s) (.str t) = .error unicodeEncodeError := by
  by_cases hs : isAscii s = true
  · have ht : isAscii t = false := by simpa [hs] using h
    simp [formatDot, PyObj.format, hs, ht]
    rfl
  · simp [formatDot, PyObj.format, hs]
    rfl

@[simp] theorem withType_str (name type : String) :
    withType (.str name) (pure (.str type)) = pure (.str (name ++ " (" ++ type ++ ")")) := by
  simp [withType, String.append_assoc]

/-- One iteration's update of the schema dict:
`if table_name not in schema: schema[table_name] = {'name': table_name, 'columns': []}`,
then `schema[table_name]['columns'].append(column)`. -/
def addColumn (schema : PyDict Table) (tableName column : PyObj) : Py (PyDict Table) := do
  let schema := if schema.contains tableName then schema
    else schema.setItem tableName ⟨tableName, []⟩
  let table ← schema.getItem tableName
  pure (schema.setItem tableName { table with columns := table.columns ++ [column] })

/-- The loop over the catalog rows; `entry` reads a row's table name and column label. -/
def collectColumns (entry : PyDict PyObj → Py (PyObj × PyObj)) :
    PyDict Table → List (PyDict PyObj) → Py (PyDict Table)
  | schema, [] => pure schema
  | schema, row :: rows => do
    let (tableName, column) ← entry row
    let schema ← addColumn schema tableName column
    collectColumns entry schema rows

/-- The catalog rows of `query`, as `_get_definitions` and `Presto.get_schema` fetch
them: `results, error = self.run_query(query, None)`, raise if `error is not None`,
then `json.loads(results)['rows']`. -/
def schemaRows (runQuery : String → Py QueryResult) (query : String) :
    Py (List (PyDict PyObj)) := do
  let (results, error) ← runQuery query
  if error ≠ .none then throw (Exc.mk .exception (.str "Failed getting schema."))
  let results ← jsonLoads results
  pure results.rows

theorem schemaRows_eq {runQuery : String → Py QueryResult} {query : String}
    {data : QueryData} (h : runQuery query = pure (some data, .none)) :
    schemaRows runQuery query = pure data.rows := by
  simp [schemaRows, h, jsonLoads]

/-- A row whose name or label cannot be read stops the loop with that exception. -/
theorem collectColumns_cons_error {entry : PyDict PyObj → Py (PyObj × PyObj)}
    {row : PyDict PyObj} {e : Exc} (h : entry row = .error e) (schema : PyDict Table)
    (rows : List (PyDict PyObj)) : collectColumns entry schema (row :: rows) = .error e := by
  simp only [collectColumns, h]
  rfl

/-! ## One iteration -/

/-- The entry `addColumn` leaves under `tableName`, given the one it found there. -/
def Table.extend (tableName column : PyObj) : Option Table → Table
  | some t => { t with columns := t.columns ++ [column] }
  | none => ⟨tableName, [column]⟩

/-- `addColumn` never raises: it stores the extended entry under `tableName`. -/
theorem addColumn_eq (schema : PyDict Table) (tableName column : PyObj) :
    addColumn schema tableName column =
      pure (schema.setItem tableName (Table.extend tableName column (schema.get? tableName))) := by
  by_cases h : tableName ∈ schema.keys
  · obtain ⟨t, ht⟩ := PyDict.mem_keys.mp h
    have hget := PyDict.get?_eq_some_iff.mpr ht
    simp [addColumn, h, PyDict.getItem, hget, Table.extend]
  · have hget : schema.get? tableName = none := PyDict.get?_eq_none_iff.mpr h
    simp [addColumn, h, PyDict.getItem, hget, Table.extend,
      PyDict.setItem_setItem_of_not_mem h]

/-! ## What the loop builds -/

variable {ρ : Type}

/-- The dict filed the rows `ps`: under each of their names `k`, and only under those,
the entry named `k` holding the labels of `k`'s rows in row order. -/
def SchemaInv (K L : ρ → PyObj) (ps : List ρ) (d : PyDict Table) : Prop :=
  ∀ k t, (k, t) ∈ d.items ↔
    (∃ p ∈ ps, K p = k) ∧ t = ⟨k, (ps.filter (K · = k)).map L⟩

theorem schemaInv_empty (K L : ρ → PyObj) : SchemaInv K L [] PyDict.empty := by
  simp [SchemaInv, PyDict.empty]

/-- Under the invariant, the entry `addColumn` stores for a row is its name's entry so
far with the row's label appended. -/
theorem SchemaInv.extend_eq {K L : ρ → PyObj} {ps : List ρ} {d : PyDict Table}
    (hinv : SchemaInv K L ps d) (p : ρ) :
    Table.extend (K p) (L p) (d.get? (K p)) = ⟨K p, (ps.filter (K · = K p)).map L ++ [L p]⟩ := by
  cases hget : d.get? (K p) with
  | some t₀ =>
    obtain ⟨-, rfl⟩ := (hinv _ _).mp (PyDict.get?_eq_some_iff.mp hget)
    rfl
  | none =>
    have hnone : ∀ q ∈ ps, K q ≠ K p := fun q hq hqk => by
      have hmem := (hinv _ ⟨K p, _⟩).mpr ⟨⟨q, hq, hqk⟩, rfl⟩
      simp [PyDict.get?_eq_some_iff.mpr hmem] at hget
    simpa [Table.extend] using hnone

/-- **The step.** Filing one more row keeps the dict the grouping of the rows so far. -/
theorem SchemaInv.addColumn {K L : ρ → PyObj} {ps : List ρ} {d : PyDict Table}
    (hinv : SchemaInv K L ps d) (p : ρ) :
    SchemaInv K L (ps ++ [p]) (d.setItem (K p) (Table.extend (K p) (L p) (d.get? (K p)))) := by
  intro k t
  rw [PyDict.mem_setItem, hinv.extend_eq p]
  by_cases hk : k = K p
  · subst hk
    simp [List.filter_append, or_and_right, exists_or]
  · simp [hk, Ne.symm hk, hinv k t, List.filter_append, or_and_right, exists_or]

/-- **The run.** The loop files every row, provided each row yields its name and label. -/
theorem collectColumns_inv {entry : PyDict PyObj → Py (PyObj × PyObj)}
    {f : ρ → PyDict PyObj} {K L : ρ → PyObj} :
    ∀ {ps : List ρ}, (∀ p ∈ ps, entry (f p) = pure (K p, L p)) →
      ∀ {pre : List ρ} {d : PyDict Table}, SchemaInv K L pre d →
        ∃ d', collectColumns entry d (ps.map f) = pure d' ∧ SchemaInv K L (pre ++ ps) d'
  | [], _, pre, d, hinv => ⟨d, rfl, by simpa using hinv⟩
  | p :: ps, hentry, pre, d, hinv => by
    obtain ⟨d', hrun, hinv'⟩ := collectColumns_inv (fun q hq => hentry q (.tail _ hq))
      (hinv.addColumn p)
    refine ⟨d', ?_, by simpa using hinv'⟩
    simp only [List.map_cons, collectColumns, hentry p (.head _), addColumn_eq]
    exact hrun

/-- The loop stops at the first row whose name or label cannot be read, with that row's
exception, whatever the rows after it. -/
theorem collectColumns_error {entry : PyDict PyObj → Py (PyObj × PyObj)}
    {f : ρ → PyDict PyObj} {K L : ρ → PyObj} {row : PyDict PyObj} {e : Exc}
    (hrow : entry row = .error e) (rows : List (PyDict PyObj)) :
    ∀ {ps : List ρ}, (∀ p ∈ ps, entry (f p) = pure (K p, L p)) → ∀ d : PyDict Table,
      collectColumns entry d (ps.map f ++ row :: rows) = .error e
  | [], _, d => collectColumns_cons_error hrow d rows
  | p :: ps, hentry, d => by
    simp only [List.map_cons, List.cons_append, collectColumns, hentry p (.head _), addColumn_eq]
    exact collectColumns_error hrow rows (fun q hq => hentry q (.tail _ hq)) _

/-- `tables` lists the rows `ps` by table: one entry per distinct name `K p`, named by
it, whose columns are, in row order, one label per row of that name, each related by
`Label` to its row. -/
structure GroupedBy (K : ρ → PyObj) (Label : ρ → PyObj → Prop) (ps : List ρ)
    (tables : List Table) : Prop where
  names_nodup : (tables.map (·.name)).Nodup
  mem_names : ∀ k, k ∈ tables.map (·.name) ↔ ∃ p ∈ ps, K p = k
  columns : ∀ t ∈ tables, List.Forall₂ Label (ps.filter (K · = t.name)) t.columns

theorem SchemaInv.groupedBy {K L : ρ → PyObj} {ps : List ρ} {d : PyDict Table}
    (hinv : SchemaInv K L ps d) : GroupedBy K (fun p l => l = L p) ps d.values := by
  have hname : ∀ kt ∈ d.items, kt.2.name = kt.1 := fun kt hkt => by
    rw [((hinv kt.1 kt.2).mp hkt).2]
  have hnames : d.values.map (·.name) = d.keys := by
    simpa [PyDict.values, PyDict.keys, List.map_map] using List.map_congr_left hname
  refine ⟨hnames ▸ d.nodup, fun k => ?_, fun t ht => ?_⟩
  · rw [hnames, PyDict.mem_keys]
    exact ⟨fun ⟨t, ht⟩ => ((hinv k t).mp ht).1, fun hk => ⟨_, (hinv k _).mpr ⟨hk, rfl⟩⟩⟩
  · obtain ⟨⟨k, t'⟩, hkt, rfl⟩ := List.mem_map.mp ht
    obtain ⟨-, rfl⟩ := (hinv k t').mp hkt
    simp [List.forall₂_map_right_iff, List.forall₂_same]

/-- **The loop builds the grouping.** Started from `{}`, `collectColumns` returns a dict
whose values list the rows by table, with exactly each row's label under its name. -/
theorem collectColumns_groupedBy {entry : PyDict PyObj → Py (PyObj × PyObj)}
    {f : ρ → PyDict PyObj} {K L : ρ → PyObj} {ps : List ρ}
    (hentry : ∀ p ∈ ps, entry (f p) = pure (K p, L p)) :
    ∃ d, collectColumns entry PyDict.empty (ps.map f) = pure d ∧
      GroupedBy K (fun p l => l = L p) ps d.values := by
  obtain ⟨d, hrun, hinv⟩ := collectColumns_inv hentry (schemaInv_empty K L)
  exact ⟨d, hrun, hinv.groupedBy⟩

end RedashRunners
