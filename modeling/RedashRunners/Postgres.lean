import RedashRunners.Schema
import RedashRunners.Transport

/-!
# PostgreSQL, Redshift and CockroachDB (`pg.py`)

The three runners share `PostgreSQL.run_query`; they differ only in the arguments of
`psycopg2.connect` (`Runner.connectArgs`) and in `_get_tables`' catalog query.

`run_query` opens an asynchronous connection, waits for it with `_wait`, takes a
cursor, and only then enters the `try` whose `finally` closes the connection.
`wait_returns` is `_wait`'s exit condition, over every run of its loop.
`runQuery_close_iff_execute` proves that a run that ends has called `close()` exactly
when it reached `cursor.execute`, and `runQuery_closes` that `close()` is then its last
call, whatever the driver does at each step: the first `_wait` and `connection.cursor()`
stand before the `try`. Inside it, `json.dumps(data, cls=JSONEncoder)` writes the rows
(`jsonDumps`); `runQuery_returns_fetched_rows` says what a returned result holds, and
`runQuery_escaping_exceptions` which exceptions get out. `runQuery_protocol` is
psycopg2's asynchronous protocol over a whole run: every `select.select` follows a
`poll()` that asked for it, in its direction, with `timeout=10` before the cursor is
opened and none after; it is kept by each pass of `_wait` (`waitStep_keeps`) and by every
other call.

`_get_definitions` files the catalog rows by table through the shared loop of
`RedashRunners.Schema`, under the display name `schema.table` (the bare name in
`public`). `getTables_groupedBy` is what that builds for PostgreSQL's catalog query when
the names can be formatted, and `getTables_unicodeEncodeError` what happens when one
cannot; Redshift's query selects no `column_type`, so `redshift_getTables_keyError`
raises at its first row.
-/

namespace RedashRunners

namespace PostgreSQL

/-! ## The driver -/

/-- The psycopg2 calls `run_query` makes (and `select.select` on the connection's
socket), as they appear in the log. -/
inductive Call where
  | connect (args : List (String × PyObj))
  | poll
  | select (write : Bool) (timeout : Option Nat)
  | cursor
  | execute (query : String)
  | description
  | fetch
  | cancel
  | close
  deriving DecidableEq

/-- A psycopg2 connection's behaviour: the outcome of each call, chosen from the log up
to and including that call. -/
structure Driver where
  connect : List Call → Py Unit
  poll : List Call → Py Int
  select : List Call → Py Unit
  cursor : List Call → Py Unit
  execute : List Call → Py Unit
  description : List Call → Py (Option (List (String × Int)))
  fetch : List Call → Py (List (List PyObj))
  cancel : List Call → Py Unit
  close : List Call → Py Unit

/-- `psycopg2.extensions.POLL_OK`. -/
def pollOk : Int := 0

/-- `psycopg2.extensions.POLL_READ`. -/
def pollRead : Int := 1

/-- `psycopg2.extensions.POLL_WRITE`. -/
def pollWrite : Int := 2

/-- `types_map`: PostgreSQL type OIDs to column types. -/
def typesMap : List (Int × ColType) :=
  [(20, .integer), (21, .integer), (23, .integer), (700, .float), (1700, .float),
    (701, .float), (16, .boolean), (1082, .date), (1114, .datetime), (1184, .datetime),
    (1014, .string), (1015, .string), (1008, .string), (1009, .string), (2951, .string)]

/-! ## `_wait` -/

/-- One pass of `_wait`'s `while 1` body, inside its `try`; `true` is `break`. -/
def waitStep (d : Driver) (timeout : Option Nat) : Run Call Bool :=
  Run.tryExcept
    (do
      let state ← Run.call .poll d.poll
      if state = pollOk then pure true
      else if state = pollWrite then do
        Run.call (.select true timeout) d.select
        pure false
      else if state = pollRead then do
        Run.call (.select false timeout) d.select
        pure false
      else throw (Exc.mk .databaseError (.str ("poll() returned " ++ toString state))))
    fun e => if e.cls = .selectError then
      some (throw (Exc.mk .databaseError (.str "select.error received"))) else none

/-- `_wait(conn, timeout)`; `fuel` bounds the `while 1` loop. -/
def wait (d : Driver) (timeout : Option Nat) : Nat → Run Call Unit
  | 0 => Run.stall
  | fuel + 1 => do
    if ← waitStep d timeout then pure () else wait d timeout fuel

/-- `_wait` only polls and selects. -/
def WaitCall : Call → Prop
  | .poll | .select _ _ => True
  | _ => False

theorem waitStep_calls (d : Driver) (timeout : Option Nat) :
    Run.Calls WaitCall (waitStep d timeout) := by
  refine Run.Calls.tryExcept (Run.Calls.bind (Run.Calls.call trivial _) fun state => ?_)
    fun e h hh => ?_
  · repeat' first
      | exact Run.Calls.pure _
      | exact Run.Calls.throw _
      | refine Run.Calls.ite ?_ ?_
      | exact Run.Calls.bind (Run.Calls.call trivial _) fun _ => Run.Calls.pure _
  · split at hh
    · cases hh; exact Run.Calls.throw _
    · cases hh

theorem wait_calls (d : Driver) (timeout : Option Nat) :
    ∀ fuel, Run.Calls WaitCall (wait d timeout fuel)
  | 0 => Run.Calls.stall
  | fuel + 1 => Run.Calls.bind (waitStep_calls d timeout) fun _ =>
      Run.Calls.ite (Run.Calls.pure _) (wait_calls d timeout fuel)

/-- A pass of `_wait` that breaks made one call, a `poll()` that answered `POLL_OK`. -/
theorem waitStep_eq_true {d : Driver} {timeout : Option Nat} {log log' : List Call}
    (h : waitStep d timeout log = some (.ok true, log')) :
    log' = log ++ [.poll] ∧ d.poll log' = .ok pollOk := by
  rcases Run.tryExcept_eq_some h with ⟨h, -⟩ | ⟨e, l, c, -, hc, hcl⟩
  · obtain ⟨state, l, hpoll, h⟩ := Run.bind_eq_ok.mp h
    simp only [Run.call_apply, Option.some.injEq, Prod.mk.injEq] at hpoll
    obtain ⟨hstate, rfl⟩ := hpoll
    split_ifs at h with hok
    · -- `break`
      cases h
      exact ⟨rfl, hok ▸ hstate⟩
    all_goals
      repeat obtain ⟨_, _, -, h⟩ := Run.bind_eq_ok.mp h
      cases h
  · -- the `select.error` clause raises
    split at hc <;> cases hc
    cases hcl

/-- **`_wait` returns once `poll()` reports `POLL_OK`.** Whatever the connection
answers, a `_wait` that returns has made, as its last call, a `poll()` that answered
`POLL_OK`. -/
theorem wait_returns {d : Driver} {timeout : Option Nat} :
    ∀ {fuel : Nat} {log log' : List Call}, wait d timeout fuel log = some (.ok (), log') →
      ∃ l, log' = l ++ [.poll] ∧ d.poll log' = .ok pollOk
  | 0, _, _, h => by cases h
  | fuel + 1, _, _, h => by
    obtain ⟨brk, l, hstep, h⟩ := Run.bind_eq_ok.mp h
    cases brk
    · exact wait_returns h
    · cases h
      exact ⟨_, (waitStep_eq_true hstep).1, (waitStep_eq_true hstep).2⟩

/-- A connection whose `poll()` answers `POLL_READ` once, then `POLL_OK`. -/
def slowDriver : Driver where
  connect _ := pure ()
  poll log := pure (if Call.select false (some 10) ∈ log then pollOk else pollRead)
  select _ := pure ()
  cursor _ := pure ()
  execute _ := pure ()
  description _ := pure none
  fetch _ := pure []
  cancel _ := pure ()
  close _ := pure ()

theorem wait_returns_slowDriver :
    ∃ l, [.poll, .select false (some 10), .poll] = l ++ [Call.poll] ∧
      slowDriver.poll [.poll, .select false (some 10), .poll] = .ok pollOk :=
  wait_returns (show wait slowDriver (some 10) 2 [] = some (.ok (),
    [.poll, .select false (some 10), .poll]) from rfl)

/-! ## psycopg2's asynchronous protocol -/

/-- The timeout `run_query` gives `_wait`: `10` while the connection is being opened, none
once `connection.cursor()` has been called. -/
def waitTimeout (log : List Call) : Option Nat := if .cursor ∈ log then none else some 10

/-- psycopg2's asynchronous protocol, read off a log: every `select.select` comes right
after a `poll()` and waits for what that `poll()` answered, the socket writable after
`POLL_WRITE` and readable after `POLL_READ`, with the timeout `run_query` gives at that
point. -/
def Protocol (d : Driver) (log : List Call) : Prop :=
  ∀ pre w t post, log = pre ++ .select w t :: post →
    (∃ l, pre = l ++ [.poll]) ∧ d.poll pre = .ok (if w then pollWrite else pollRead) ∧
      t = waitTimeout pre

theorem eq_snoc_cases {log pre post : List Call} {x c : Call}
    (h : log ++ [c] = pre ++ x :: post) :
    (x = c ∧ pre = log) ∨ ∃ post', log = pre ++ x :: post' := by
  rcases List.eq_nil_or_concat post with rfl | ⟨L, b, rfl⟩
  · obtain ⟨h₁, h₂⟩ := List.append_inj' h rfl
    exact .inl ⟨(List.singleton_inj.1 h₂).symm, h₁.symm⟩
  · rw [List.concat_eq_append, ← List.cons_append, ← List.append_assoc] at h
    exact .inr ⟨L, (List.append_inj' h rfl).1⟩

theorem Protocol.nil (d : Driver) : Protocol d [] := fun pre _ _ _ h => by simp at h

/-- A call that is not a `select` keeps the protocol. -/
theorem Protocol.snoc {d : Driver} {log : List Call} {c : Call} (h : Protocol d log)
    (hc : ∀ w t, c ≠ .select w t) : Protocol d (log ++ [c]) := fun pre w t post he => by
  rcases eq_snoc_cases he with ⟨hx, -⟩ | ⟨post', he⟩
  · exact absurd hx.symm (hc w t)
  · exact h pre w t post' he

/-- A `select` right after a `poll()` that asked for it, with the timeout of that point,
keeps the protocol. -/
theorem Protocol.snoc_select {d : Driver} {l : List Call} {w : Bool}
    (h : Protocol d (l ++ [.poll]))
    (ha : d.poll (l ++ [.poll]) = .ok (if w then pollWrite else pollRead)) :
    Protocol d (l ++ [.poll] ++ [.select w (waitTimeout (l ++ [.poll]))]) :=
  fun pre w' t post he => by
    rcases eq_snoc_cases he with ⟨hx, rfl⟩ | ⟨post', he⟩
    · cases hx
      exact ⟨⟨l, rfl⟩, ha, rfl⟩
    · exact h pre w' t post' he

theorem waitTimeout_snoc {log : List Call} {c : Call} (hc : c ≠ .cursor) :
    waitTimeout (log ++ [c]) = waitTimeout log := by
  simp [waitTimeout, Ne.symm hc]

/-- What one pass of `_wait` logs: a `poll()`, then a `select` in the direction the
`poll()` answered if it answered `POLL_WRITE` or `POLL_READ`. -/
theorem waitStep_cases {d : Driver} {timeout : Option Nat} {log log' : List Call} {r : Py Bool}
    (h : waitStep d timeout log = some (r, log')) :
    log' = log ++ [.poll] ∨ ∃ w, d.poll (log ++ [.poll]) = .ok (if w then pollWrite else pollRead) ∧
      log' = log ++ [.poll] ++ [.select w timeout] := by
  -- the `select.error` handler only raises, so either way the log is the body's
  obtain ⟨r', hb⟩ : ∃ r', (_ : Run Call Bool) log = some (r', log') := by
    rcases Run.tryExcept_eq_some h with ⟨hb, -⟩ | ⟨e, l, c, hb, hc, hcl⟩
    · exact ⟨_, hb⟩
    · split at hc <;> cases hc
      cases hcl
      exact ⟨_, hb⟩
  simp only [Run.bind_apply, Run.call_apply] at hb
  rcases hp : d.poll (log ++ [.poll]) with e | state <;> rw [hp] at hb
  · cases hb
    exact .inl rfl
  · dsimp only at hb
    split_ifs at hb with h1 h2 h3
    · cases hb
      exact .inl rfl
    · cases hs : d.select (log ++ [.poll] ++ [.select true timeout]) <;>
        simp only [Run.bind_apply, Run.call_apply, hs, Run.pure_apply, Option.some.injEq,
          Prod.mk.injEq] at hb <;>
        exact .inr ⟨true, by rw [hp, h2]; rfl, hb.2.symm⟩
    · cases hs : d.select (log ++ [.poll] ++ [.select false timeout]) <;>
        simp only [Run.bind_apply, Run.call_apply, hs, Run.pure_apply, Option.some.injEq,
          Prod.mk.injEq] at hb <;>
        exact .inr ⟨false, by rw [hp, h3]; rfl, hb.2.symm⟩
    · cases hb
      exact .inl rfl

/-- What `_wait(conn, timeout)` keeps: the log follows the protocol, and `timeout` is the
one `run_query` gives at this point of the log. -/
def WaitInv (d : Driver) (timeout : Option Nat) (log : List Call) : Prop :=
  Protocol d log ∧ waitTimeout log = timeout

theorem waitStep_keeps (d : Driver) (timeout : Option Nat) :
    Run.Keeps (WaitInv d timeout) (waitStep d timeout) := fun log _ _ ⟨hp, ht⟩ h => by
  have hp₁ : Protocol d (log ++ [.poll]) := hp.snoc fun _ _ => by simp
  have ht₁ : waitTimeout (log ++ [.poll]) = timeout := by
    rw [waitTimeout_snoc (c := .poll) (by simp), ht]
  rcases waitStep_cases h with rfl | ⟨w, ha, rfl⟩
  · exact ⟨hp₁, ht₁⟩
  · refine ⟨ht₁ ▸ hp₁.snoc_select ha, ?_⟩
    rw [waitTimeout_snoc (by simp), ht₁]

theorem wait_keeps (d : Driver) (timeout : Option Nat) :
    ∀ fuel, Run.Keeps (WaitInv d timeout) (wait d timeout fuel)
  | 0 => fun _ _ _ _ h => by cases h
  | fuel + 1 => Run.Keeps.bind (waitStep_keeps d timeout) fun _ =>
      Run.Keeps.ite (Run.Keeps.pure _) (wait_keeps d timeout fuel)

/-! ## `run_query` -/

/-- The three runners on psycopg2; `Redshift` and `CockroachDB` inherit `run_query`. -/
inductive Runner where
  | postgreSQL
  | redshift
  | cockroachDB
  deriving DecidableEq

/-- Redshift's `sslrootcert_path`, the CA bundle beside `pg.py`. -/
def redshiftCaBundle : String := "redash/query_runner/./files/redshift-ca-bundle.crt"

/-- `_get_connection`'s keyword arguments to `psycopg2.connect`. -/
def Runner.connectArgs (config : PyDict PyObj) : Runner → List (String × PyObj)
  | .redshift =>
    [("user", config.get (.str "user") .none), ("password", config.get (.str "password") .none),
      ("host", config.get (.str "host") .none), ("port", config.get (.str "port") .none),
      ("dbname", config.get (.str "dbname") .none),
      ("sslmode", config.get (.str "sslmode") (.str "prefer")),
      ("sslrootcert", .str redshiftCaBundle), ("async", .bool true)]
  | _ =>
    [("user", config.get (.str "user") .none), ("password", config.get (.str "password") .none),
      ("host", config.get (.str "host") .none), ("port", config.get (.str "port") .none),
      ("dbname", config.get (.str "dbname") .none),
      ("sslmode", config.get (.str "sslmode") .none), ("async", .bool true)]

/-- The statements of `run_query` before its `try`: connect, `_wait(connection,
timeout=10)`, `connection.cursor()`. -/
def openCursor (runner : Runner) (config : PyDict PyObj) (d : Driver) (fuel : Nat) :
    Run Call Unit := do
  Run.call (.connect (runner.connectArgs config)) d.connect
  wait d (some 10) fuel
  Run.call .cursor d.cursor

/-- The body of `run_query`'s `try`. -/
def queryBody (d : Driver) (fuel : Nat) (query : String) : Run Call QueryResult := do
  Run.call (.execute query) d.execute
  wait d none fuel
  match ← Run.call .description d.description with
  | some description =>
    let columns := fetchColumns (description.map fun i => (i.1, typesMap.lookup i.2))
    let rows ← Run.call .fetch d.fetch
    let data : QueryData := ⟨columns, rows.map (rowOf (columns.map (·.name)))⟩
    -- `json_data = json.dumps(data, cls=JSONEncoder)`
    let _ ← liftM (jsonDumps .jsonEncoder data)
    pure (some data, .none)
  | none => pure (none, .str "Query completed but it returned no data.")

/-- `run_query`'s except clauses. -/
def queryHandler (d : Driver) (e : Exc) : Option (Run Call QueryResult) :=
  match e.cls with
  | .selectError | .osError => some (pure (none, .str "Query interrupted. Please retry."))
  | .databaseError => some (pure (none, e.message))
  | .keyboardInterrupt | .interrupt => some do
    Run.call .cancel d.cancel
    pure (none, .str "Query cancelled by user.")
  | _ => none

/-- `PostgreSQL.run_query(query, user)` as `runner` runs it; `fuel` bounds each `_wait`. -/
def runQuery (runner : Runner) (config : PyDict PyObj) (d : Driver) (fuel : Nat)
    (query : String) : Run Call QueryResult := do
  openCursor runner config d fuel
  Run.tryFinally (Run.tryExcept (queryBody d fuel query) (queryHandler d))
    (Run.call .close d.close)

/-- The calls `run_query` makes before its `try`. -/
def BeforeTry : Call → Prop
  | .connect _ | .poll | .select _ _ | .cursor => True
  | _ => False

theorem openCursor_calls (runner : Runner) (config : PyDict PyObj) (d : Driver)
    (fuel : Nat) : Run.Calls BeforeTry (openCursor runner config d fuel) :=
  Run.Calls.bind (Run.Calls.call trivial _) fun _ =>
    Run.Calls.bind ((wait_calls d _ fuel).mono fun c hc => by
        cases c <;> simp_all [WaitCall, BeforeTry])
      fun _ => Run.Calls.call trivial _

/-- Every run of the `try` body logs `cursor.execute` first. -/
theorem queryBody_extends {d : Driver} {fuel : Nat} {query : String} {log log' : List Call}
    {r : Py QueryResult} (h : queryBody d fuel query log = some (r, log')) :
    Run.Extends (fun _ => True) (log ++ [.execute query]) log' := by
  refine Run.Calls.call_bind (fun _ => ?_) h
  refine Run.Calls.bind ((wait_calls d none fuel).mono fun _ _ => trivial) fun _ =>
    Run.Calls.bind (Run.Calls.call trivial _) fun description => ?_
  cases description
  · exact Run.Calls.pure _
  · exact Run.Calls.bind (Run.Calls.call trivial _) fun _ =>
      Run.Calls.bind (Run.Calls.lift _) fun _ => Run.Calls.pure _

theorem queryHandler_calls (d : Driver) {e : Exc} {c : Run Call QueryResult}
    (h : queryHandler d e = some c) : Run.Calls (fun _ => True) c := by
  simp only [queryHandler] at h
  split at h <;> cases h
  all_goals first
    | exact Run.Calls.pure _
    | exact Run.Calls.bind (Run.Calls.call trivial _) fun _ => Run.Calls.pure _

/-- **`finally: connection.close()`.** Every run of `run_query` that reached
`cursor.execute` ends with `close()` as its last driver call, whatever each call
returned or raised, cancellation included. -/
theorem runQuery_closes (runner : Runner) (config : PyDict PyObj) (d : Driver) (fuel : Nat)
    (query : String) {r : Py QueryResult} {log : List Call}
    (h : runQuery runner config d fuel query [] = some (r, log))
    (hexec : Call.execute query ∈ log) : log.getLast? = some .close := by
  rcases Run.bind_eq_some.mp h with ⟨e, he, -⟩ | ⟨_, l, -, hfin⟩
  · exact absurd hexec ((openCursor_calls runner config d fuel).not_mem
      (fun h : BeforeTry (.execute query) => h) he)
  · obtain ⟨_, _, -, _, hclose⟩ := Run.tryFinally_eq_some hfin
    simp only [Run.call_apply, Option.some.injEq, Prod.mk.injEq] at hclose
    simp [← hclose.2]

/-- **`close()` exactly when the `try` was entered.** A run of `run_query` that ends,
returning or raising, has called `close()` if and only if it reached `cursor.execute`:
a raise at `connect`, in the first `_wait` or at `connection.cursor()` leaves the
connection open. -/
theorem runQuery_close_iff_execute (runner : Runner) (config : PyDict PyObj) (d : Driver)
    (fuel : Nat) (query : String) {r : Py QueryResult} {log : List Call}
    (h : runQuery runner config d fuel query [] = some (r, log)) :
    Call.close ∈ log ↔ Call.execute query ∈ log := by
  refine ⟨fun hclose => ?_, fun hexec => List.mem_of_getLast?_eq_some (runQuery_closes runner config
    d fuel query h hexec)⟩
  rcases Run.bind_eq_some.mp h with ⟨e, he, -⟩ | ⟨_, l, -, hfin⟩
  · exact absurd hclose ((openCursor_calls runner config d fuel).not_mem
      (fun h : BeforeTry .close => h) he)
  · obtain ⟨_, l', htry, _, hclose'⟩ := Run.tryFinally_eq_some hfin
    simp only [Run.call_apply, Option.some.injEq, Prod.mk.injEq] at hclose'
    have hbody : Run.Extends (fun _ => True) (l ++ [.execute query]) l' := by
      rcases Run.tryExcept_eq_some htry with ⟨hb, -⟩ | ⟨e, l₁, c, hb, hc, hcl⟩
      · exact queryBody_extends hb
      · exact (queryBody_extends hb).trans (queryHandler_calls d hc _ _ _ hcl)
    rw [← hclose'.2]
    exact List.mem_append_left _ (hbody.mem (List.mem_append_right _ (List.mem_singleton_self _)))

/-- The except clauses catch exactly `select.error`, `OSError`, `DatabaseError` and
the two interrupts. -/
theorem queryHandler_eq_none {d : Driver} {e : Exc} :
    queryHandler d e = none ↔
      e.cls ∉ [.selectError, .osError, .databaseError, .keyboardInterrupt, .interrupt] := by
  unfold queryHandler
  split <;> simp_all

/-- **What escapes `run_query`.** Once the `try` is entered, an exception escapes
`run_query` (after `finally: connection.close()` has run) only as raised by one of three
calls: `connection.close()` itself; the `try` body (`json.dumps`'s `TypeError`
included), when no except clause catches the exception; or `connection.cancel()`, in the
clause that caught an interruption. -/
theorem runQuery_escaping_exceptions (runner : Runner) (config : PyDict PyObj) (d : Driver)
    (fuel : Nat) (query : String) {e : Exc} {log : List Call}
    (h : runQuery runner config d fuel query [] = some (.error e, log))
    (hexec : Call.execute query ∈ log) :
    ∃ pre l, openCursor runner config d fuel [] = some (.ok (), pre) ∧ log = l ++ [.close] ∧
      (d.close log = .error e ∨ d.close log = .ok () ∧
        ((queryBody d fuel query pre = some (.error e, l) ∧
            e.cls ∉ [.selectError, .osError, .databaseError, .keyboardInterrupt, .interrupt]) ∨
          ∃ e' l', queryBody d fuel query pre = some (.error e', l') ∧
            (e'.cls = .keyboardInterrupt ∨ e'.cls = .interrupt) ∧ l = l' ++ [.cancel] ∧
            d.cancel l = .error e)) := by
  rcases Run.bind_eq_some.mp h with ⟨_, he, -⟩ | ⟨_, pre, hpre, hfin⟩
  · exact absurd hexec ((openCursor_calls runner config d fuel).not_mem
      (fun h : BeforeTry (.execute query) => h) he)
  refine ⟨pre, ?_⟩
  obtain ⟨l, ⟨_, -, hclose⟩ | ⟨htry, hclose⟩⟩ := Run.tryFinally_eq_error hfin
  · -- `connection.close()` raised
    obtain ⟨hc, rfl⟩ := Run.call_eq_error.mp hclose
    exact ⟨l, hpre, rfl, .inl hc⟩
  obtain ⟨hc, rfl⟩ := Run.call_eq_ok.mp hclose
  refine ⟨l, hpre, rfl, .inr ⟨hc, ?_⟩⟩
  rcases Run.tryExcept_eq_some htry with ⟨hbody, hnone⟩ | ⟨e', l', c, hbody, hc, hcl⟩
  · exact .inl ⟨hbody, queryHandler_eq_none.mp (hnone e rfl)⟩
  refine .inr ⟨e', l', hbody, ?_⟩
  unfold queryHandler at hc
  split at hc <;> cases hc
  -- the clauses that return `(None, error)`
  any_goals cases hcl
  -- the interrupt clauses: `connection.cancel()` raised
  all_goals
    rcases Run.bind_eq_some.mp hcl with ⟨_, hcancel, he⟩ | ⟨_, _, -, hcl⟩
    · cases he
      obtain ⟨hcan, rfl⟩ := Run.call_eq_error.mp hcancel
      exact ⟨by simp [*], rfl, hcan⟩
    · cases hcl

/-- A psycopg2 connection on which every call succeeds and the query returns no rows. -/
def quietDriver : Driver where
  connect _ := pure ()
  poll _ := pure pollOk
  select _ := pure ()
  cursor _ := pure ()
  execute _ := pure ()
  description _ := pure none
  fetch _ := pure []
  cancel _ := pure ()
  close _ := pure ()

/-- A connection whose query `SELECT a` returns a column holding a set, which
`JSONEncoder` cannot write. -/
def setValueDriver : Driver :=
  { quietDriver with
    description := fun _ => pure (some [("a", 1015)])
    fetch := fun _ => pure [[.set (.cons (.int 1) .nil)]] }

def setValueLog : List Call :=
  [.connect (Runner.postgreSQL.connectArgs PyDict.empty), .poll, .cursor, .execute "SELECT a",
    .poll, .description, .fetch, .close]

/-- What `json.dumps` raises on `setValueDriver`'s row. -/
def setTypeError : Exc := ⟨.typeError, .str "set([1]) is not JSON serializable"⟩

theorem runQuery_escaping_exceptions_setValueDriver :
    ∃ pre l, openCursor .postgreSQL PyDict.empty setValueDriver 1 [] = some (.ok (), pre) ∧
      setValueLog = l ++ [.close] ∧
      (setValueDriver.close setValueLog = .error setTypeError ∨
        setValueDriver.close setValueLog = .ok () ∧
        ((queryBody setValueDriver 1 "SELECT a" pre = some (.error setTypeError, l) ∧
            setTypeError.cls ∉ [.selectError, .osError, .databaseError, .keyboardInterrupt,
              .interrupt]) ∨
          ∃ e' l', queryBody setValueDriver 1 "SELECT a" pre = some (.error e', l') ∧
            (e'.cls = .keyboardInterrupt ∨ e'.cls = .interrupt) ∧ l = l' ++ [.cancel] ∧
            setValueDriver.cancel l = .error setTypeError)) :=
  runQuery_escaping_exceptions .postgreSQL PyDict.empty setValueDriver 1 "SELECT a"
    (show runQuery .postgreSQL PyDict.empty setValueDriver 1 "SELECT a" [] =
      some (.error setTypeError, setValueLog) from rfl)
    (by decide)

/-! ### Results -/

/-- Once the cursor is open, a call that is not a `select` keeps what `_wait(connection)`
needs. -/
theorem WaitInv.snoc_none {d : Driver} {log : List Call} {c : Call} (h : WaitInv d none log)
    (hc : ∀ w t, c ≠ .select w t) : WaitInv d none (log ++ [c]) := by
  refine ⟨h.1.snoc hc, ?_⟩
  have ht := h.2
  unfold waitTimeout at ht ⊢
  split_ifs at ht with hm
  exact if_pos (List.mem_append_left _ hm)

theorem call_keeps_none (d : Driver) {c : Call} (hc : ∀ w t, c ≠ .select w t) {α : Type}
    (answer : List Call → Py α) : Run.Keeps (WaitInv d none) (Run.call c answer) :=
  Run.Keeps.call (fun _ h => h.snoc_none hc) answer

theorem queryBody_keeps (d : Driver) (fuel : Nat) (query : String) :
    Run.Keeps (WaitInv d none) (queryBody d fuel query) := by
  refine Run.Keeps.bind (call_keeps_none d (by simp) _) fun _ =>
    Run.Keeps.bind (wait_keeps d none fuel) fun _ =>
      Run.Keeps.bind (call_keeps_none d (by simp) _) fun description => ?_
  cases description
  · exact Run.Keeps.pure _
  · exact Run.Keeps.bind (call_keeps_none d (by simp) _) fun _ =>
      Run.Keeps.bind (Run.Keeps.lift _) fun _ => Run.Keeps.pure _

theorem queryHandler_keeps (d : Driver) {e : Exc} {c : Run Call QueryResult}
    (h : queryHandler d e = some c) : Run.Keeps (WaitInv d none) c := by
  simp only [queryHandler] at h
  split at h <;> cases h
  all_goals first
    | exact Run.Keeps.pure _
    | exact Run.Keeps.bind (call_keeps_none d (by simp) _) fun _ => Run.Keeps.pure _

/-- Before the `try`: the log follows the protocol, and once the cursor is open the second
`_wait` may run with no timeout. -/
theorem openCursor_protocol {runner : Runner} {config : PyDict PyObj} {d : Driver} {fuel : Nat}
    {r : Py Unit} {log : List Call} (h : openCursor runner config d fuel [] = some (r, log)) :
    Protocol d log ∧ (r = .ok () → WaitInv d none log) := by
  have h₀ : WaitInv d (some 10) [.connect (runner.connectArgs config)] :=
    ⟨(Protocol.nil d).snoc (by simp), rfl⟩
  rcases Run.bind_eq_some.mp h with ⟨e, he, rfl⟩ | ⟨_, l, hl, h⟩
  · simp only [Run.call_apply, Option.some.injEq, Prod.mk.injEq] at he
    rw [← he.2]
    exact ⟨h₀.1, nofun⟩
  simp only [Run.call_apply, Option.some.injEq, Prod.mk.injEq] at hl
  obtain ⟨-, rfl⟩ := hl
  rcases Run.bind_eq_some.mp h with ⟨e, he, rfl⟩ | ⟨_, l', hw, hc⟩
  · exact ⟨(wait_keeps d _ fuel _ _ _ h₀ he).1, nofun⟩
  · have hw' := wait_keeps d _ fuel _ _ _ h₀ hw
    simp only [Run.call_apply, Option.some.injEq, Prod.mk.injEq] at hc
    obtain ⟨-, rfl⟩ := hc
    have hcur : WaitInv d none (l' ++ [.cursor]) := ⟨hw'.1.snoc (by simp), by simp [waitTimeout]⟩
    exact ⟨hcur.1, fun _ => hcur⟩

/-- **`run_query` follows psycopg2's asynchronous protocol.** Over every connection
behaviour, in every run of `run_query` that ends, returning or raising, each
`select.select` comes right after a `poll()` and waits for what it answered: the socket
writable after `POLL_WRITE`, readable after `POLL_READ`; its timeout is `10` until
`connection.cursor()` and none after. -/
theorem runQuery_protocol (runner : Runner) (config : PyDict PyObj) (d : Driver) (fuel : Nat)
    (query : String) {r : Py QueryResult} {log : List Call}
    (h : runQuery runner config d fuel query [] = some (r, log)) : Protocol d log := by
  rcases Run.bind_eq_some.mp h with ⟨e, he, -⟩ | ⟨_, l, hl, htry⟩
  · exact (openCursor_protocol he).1
  · exact (Run.Keeps.tryFinally (Run.Keeps.tryExcept (queryBody_keeps d fuel query)
      fun _ _ hc => queryHandler_keeps d hc) (call_keeps_none d (by simp) _) _ _ _
      ((openCursor_protocol hl).2 rfl) htry).1

/-- The log of `SELECT 1` on `slowDriver`, whose first `poll()` asks to wait until the
socket is readable. -/
def slowLog : List Call :=
  [.connect (Runner.postgreSQL.connectArgs PyDict.empty), .poll, .select false (some 10), .poll,
    .cursor, .execute "SELECT 1", .poll, .description, .close]

theorem runQuery_protocol_slowDriver :
    runQuery .postgreSQL PyDict.empty slowDriver 2 "SELECT 1" [] =
        some (.ok (none, .str "Query completed but it returned no data."), slowLog) ∧
      Protocol slowDriver slowLog :=
  ⟨rfl, runQuery_protocol .postgreSQL PyDict.empty slowDriver 2 "SELECT 1" rfl⟩

/-! ## `_get_tables` -/

/-- `PostgreSQL._get_tables`' catalog query. -/
def postgresTablesQuery : String := "
        SELECT s.nspname as table_schema,
               c.relname as table_name,
               t.typname as column_type,
               a.attname as column_name
        FROM pg_class c
        JOIN pg_namespace s
        ON c.relnamespace = s.oid
        AND s.nspname NOT IN ('pg_catalog', 'information_schema')
        JOIN pg_attribute a
        ON a.attrelid = c.oid
        AND a.attnum > 0
        AND NOT a.attisdropped
        JOIN pg_type t
        ON c.reltype = t.oid
        WHERE c.relkind IN ('r', 'v', 'm', 'f', 'p')
        "

/-- `Redshift._get_tables`' catalog query. -/
def redshiftTablesQuery : String := "
        WITH tables AS (
            SELECT DISTINCT table_name,
                            table_schema,
                            column_name,
                            ordinal_position AS pos
            FROM svv_columns
            WHERE table_schema NOT IN ('pg_internal','pg_catalog','information_schema')
            UNION ALL
            SELECT DISTINCT view_name::varchar AS table_name,
                            view_schema::varchar AS table_schema,
                            col_name::varchar AS column_name,
                            col_num AS pos
            FROM pg_get_late_binding_view_cols()
                 cols(view_schema name, view_name name, col_name name, col_type varchar, col_num int)
        )
        SELECT table_name, table_schema, column_name
        FROM tables
        ORDER BY table_name, pos
        "

/-- The catalog query `_get_tables` runs: Redshift's own, or PostgreSQL's. -/
def Runner.tablesQuery : Runner → String
  | .redshift => redshiftTablesQuery
  | _ => postgresTablesQuery

/-- `_get_definitions`' reading of a catalog row: the table's display name,
`'{}.{}'.format(table_schema, table_name)` outside `public`, and the label
`column_name + ' (' + column_type + ')'`. -/
def definitionEntry (row : PyDict PyObj) : Py (PyObj × PyObj) := do
  let tableName ← if (← row.getItem (.str "table_schema")) ≠ .str "public" then
      formatDot (← row.getItem (.str "table_schema")) (← row.getItem (.str "table_name"))
    else row.getItem (.str "table_name")
  let column ← withType (← row.getItem (.str "column_name")) (row.getItem (.str "column_type"))
  pure (tableName, column)

/-- `_get_definitions(schema, query)`; `runQuery` is `self.run_query`, given by what it
returns or raises for each query text. -/
def getDefinitions (runQuery : String → Py QueryResult) (schema : PyDict Table)
    (query : String) : Py (PyDict Table) := do
  let rows ← schemaRows runQuery query
  collectColumns definitionEntry schema rows

/-- `_get_tables(schema)`: `PostgreSQL`'s (inherited by `CockroachDB`) or `Redshift`'s. -/
def getTables (runner : Runner) (runQuery : String → Py QueryResult) (schema : PyDict Table) :
    Py (List Table) := do
  let schema ← getDefinitions runQuery schema runner.tablesQuery
  pure schema.values

/-- A row of PostgreSQL's catalog query. -/
structure CatalogRow where
  tableSchema : String
  tableName : String
  columnType : String
  columnName : String

/-- The row as `run_query` returns it: keyed by the query's column names. -/
def CatalogRow.toRow (p : CatalogRow) : PyDict PyObj :=
  rowOf ["table_schema", "table_name", "column_type", "column_name"]
    [.str p.tableSchema, .str p.tableName, .str p.columnType, .str p.columnName]

@[simp] theorem CatalogRow.getItem_toRow (p : CatalogRow) :
    p.toRow.getItem (.str "table_schema") = pure (.str p.tableSchema) ∧
      p.toRow.getItem (.str "table_name") = pure (.str p.tableName) ∧
      p.toRow.getItem (.str "column_type") = pure (.str p.columnType) ∧
      p.toRow.getItem (.str "column_name") = pure (.str p.columnName) := by
  refine ⟨?_, ?_, ?_, ?_⟩ <;> simp [CatalogRow.toRow, PyDict.getItem, get?_rowOf]

/-- The name `_get_definitions` files the row's table under. -/
def CatalogRow.displayName (p : CatalogRow) : String :=
  if p.tableSchema ≠ "public" then p.tableSchema ++ "." ++ p.tableName else p.tableName

/-- The names `'{}.{}'.format` can encode: ASCII, wherever the schema is not `public`. -/
def CatalogRow.Formattable (p : CatalogRow) : Prop :=
  p.tableSchema ≠ "public" → isAscii p.tableSchema = true ∧ isAscii p.tableName = true

instance (p : CatalogRow) : Decidable p.Formattable :=
  inferInstanceAs (Decidable (_ → _))

theorem definitionEntry_toRow {p : CatalogRow} (hp : p.Formattable) :
    definitionEntry p.toRow = pure (.str p.displayName,
      .str (p.columnName ++ " (" ++ p.columnType ++ ")")) := by
  by_cases hpub : p.tableSchema = "public"
  · simp [definitionEntry, CatalogRow.displayName, hpub]
  · obtain ⟨hs, ht⟩ := hp hpub
    simp [definitionEntry, CatalogRow.displayName, hpub, formatDot_str hs ht]

/-- **`_get_tables` groups the catalog by display name.** For any rows of PostgreSQL's
catalog query whose non-`public` names are ASCII, `PostgreSQL._get_tables` and
`CockroachDB`'s (inherited) return, from `{}`, one entry per distinct display name,
holding in row order the label `column_name (column_type)` of each of that name's
rows. -/
theorem getTables_groupedBy {runQuery : String → Py QueryResult} {columns : List Column}
    {ps : List CatalogRow}
    (hq : runQuery postgresTablesQuery = pure (some ⟨columns, ps.map CatalogRow.toRow⟩, .none))
    (hfmt : ∀ p ∈ ps, p.Formattable) :
    ∃ tables, getTables .postgreSQL runQuery PyDict.empty = pure tables ∧
      getTables .cockroachDB runQuery PyDict.empty = pure tables ∧
      GroupedBy (fun p => .str p.displayName)
        (fun p l => l = .str (p.columnName ++ " (" ++ p.columnType ++ ")")) ps tables := by
  obtain ⟨d, hrun, hgroup⟩ := collectColumns_groupedBy fun p hp => definitionEntry_toRow (hfmt p hp)
  have hget : ∀ runner : Runner, runner.tablesQuery = postgresTablesQuery →
      getTables runner runQuery PyDict.empty = pure d.values := fun runner hr => by
    simp [getTables, getDefinitions, hr, schemaRows_eq hq, hrun]
  exact ⟨d.values, hget .postgreSQL rfl, hget .cockroachDB rfl, hgroup⟩

/-- Outside `public`, a non-ASCII schema or table name cannot be formatted: the row's
reading raises `UnicodeEncodeError`. -/
theorem definitionEntry_not_formattable {p : CatalogRow} (hp : ¬ p.Formattable) :
    definitionEntry p.toRow = .error unicodeEncodeError := by
  simp only [CatalogRow.Formattable, Classical.not_imp] at hp
  simp [definitionEntry, hp.1, formatDot_error hp.2]

/-- **The ASCII condition is needed.** If a row of PostgreSQL's catalog names a
non-`public` table whose schema or table name is not ASCII, and every row before it can
be formatted, `_get_tables` raises `UnicodeEncodeError` there. -/
theorem getTables_unicodeEncodeError {runQuery : String → Py QueryResult}
    {columns : List Column} {ps qs : List CatalogRow} {p : CatalogRow}
    (hq : runQuery postgresTablesQuery =
      pure (some ⟨columns, (ps ++ p :: qs).map CatalogRow.toRow⟩, .none))
    (hfmt : ∀ q ∈ ps, q.Formattable) (hp : ¬ p.Formattable) :
    getTables .postgreSQL runQuery PyDict.empty = .error unicodeEncodeError ∧
      getTables .cockroachDB runQuery PyDict.empty = .error unicodeEncodeError := by
  have hrun := collectColumns_error (definitionEntry_not_formattable hp) (qs.map CatalogRow.toRow)
    (fun q hq => definitionEntry_toRow (hfmt q hq)) PyDict.empty
  constructor <;> simp [getTables, getDefinitions, Runner.tablesQuery, schemaRows_eq hq, hrun]

/-- A catalog whose second row is table `t` of schema `café`. -/
def accentedCatalog : String → Py QueryResult := fun _ =>
  pure (some ⟨[], ([⟨"public", "a", "integer", "x"⟩] ++ [⟨"café", "t", "text", "y"⟩] :
    List CatalogRow).map CatalogRow.toRow⟩, .none)

theorem getTables_unicodeEncodeError_accentedCatalog :
    getTables .postgreSQL accentedCatalog PyDict.empty = .error unicodeEncodeError ∧
      getTables .cockroachDB accentedCatalog PyDict.empty = .error unicodeEncodeError :=
  getTables_unicodeEncodeError rfl (by decide) (by decide)

/-- A row of Redshift's catalog query, which selects no `column_type`. -/
structure RedshiftRow where
  tableName : String
  tableSchema : String
  columnName : String

/-- The row as `run_query` returns it: keyed by the query's column names. -/
def RedshiftRow.toRow (p : RedshiftRow) : PyDict PyObj :=
  rowOf ["table_name", "table_schema", "column_name"]
    [.str p.tableName, .str p.tableSchema, .str p.columnName]

@[simp] theorem RedshiftRow.getItem_toRow (p : RedshiftRow) :
    p.toRow.getItem (.str "table_schema") = pure (.str p.tableSchema) ∧
      p.toRow.getItem (.str "table_name") = pure (.str p.tableName) ∧
      p.toRow.getItem (.str "column_type") = throw (keyError (.str "column_type")) ∧
      p.toRow.getItem (.str "column_name") = pure (.str p.columnName) := by
  refine ⟨?_, ?_, ?_, ?_⟩ <;> simp [RedshiftRow.toRow, PyDict.getItem, get?_rowOf]

/-- Redshift's rows carry no `column_type`, which `_get_definitions` reads: from any
non-empty catalog whose first row's name can be formatted, `Redshift._get_tables`
raises `KeyError('column_type')`. -/
theorem redshift_getTables_keyError {runQuery : String → Py QueryResult}
    {columns : List Column} {p : RedshiftRow} {ps : List RedshiftRow}
    (hq : runQuery Runner.redshift.tablesQuery =
      pure (some ⟨columns, (p :: ps).map RedshiftRow.toRow⟩, .none))
    (hfmt : p.tableSchema ≠ "public" → isAscii p.tableSchema = true ∧ isAscii p.tableName = true) :
    getTables .redshift runQuery PyDict.empty = .error (keyError (.str "column_type")) := by
  have hentry : definitionEntry p.toRow = .error (keyError (.str "column_type")) := by
    by_cases hpub : p.tableSchema = "public"
    · simp [definitionEntry, hpub, withType]
      rfl
    · obtain ⟨hs, ht⟩ := hfmt hpub
      simp [definitionEntry, hpub, withType, formatDot_str hs ht]
      rfl
  simp [getTables, getDefinitions, schemaRows_eq hq, collectColumns_cons_error hentry]

/-- Table `a.b` of schema `public`, and table `b` of schema `a`. -/
def dottedRows : List CatalogRow :=
  [⟨"public", "a.b", "integer", "x"⟩, ⟨"a", "b", "text", "y"⟩]

/-- A `run_query` answering every query with `dottedRows`. -/
def dottedCatalog : String → Py QueryResult := fun _ =>
  pure (some ⟨[], dottedRows.map CatalogRow.toRow⟩, .none)

theorem getTables_groupedBy_dottedCatalog :
    dottedCatalog postgresTablesQuery = pure (some ⟨[], dottedRows.map CatalogRow.toRow⟩, .none) ∧
      (∀ p ∈ dottedRows, p.Formattable) ∧
      ∃ tables, getTables .postgreSQL dottedCatalog PyDict.empty = pure tables ∧
        getTables .cockroachDB dottedCatalog PyDict.empty = pure tables ∧
        GroupedBy (fun p => .str p.displayName)
          (fun p l => l = .str (p.columnName ++ " (" ++ p.columnType ++ ")")) dottedRows tables :=
  ⟨rfl, by decide, getTables_groupedBy rfl (by decide)⟩

/-- The two tables are filed under the one display name `a.b`. -/
example : getTables .postgreSQL dottedCatalog PyDict.empty =
    pure [⟨.str "a.b", [.str "x (integer)", .str "y (text)"]⟩] := rfl

/-- Redshift's catalog holding column `y` of table `b` in schema `a`. -/
def redshiftCatalog : String → Py QueryResult := fun _ =>
  pure (some ⟨[], [RedshiftRow.toRow ⟨"b", "a", "y"⟩]⟩, .none)

theorem getTables_redshift_raises_keyError :
    getTables .redshift redshiftCatalog PyDict.empty = .error (keyError (.str "column_type")) :=
  @redshift_getTables_keyError redshiftCatalog [] ⟨"b", "a", "y"⟩ [] rfl fun _ => by decide

end PostgreSQL

end RedashRunners
