import RedashRunners.Python

/-!
# Runner code in conversation with a driver

A runner's `run_query` is a sequence of driver calls (`connect`, `poll`, `execute`, ...)
glued by plain Python. `Run κ` models such code: from the calls made so far (a log of
`κ`s) a run either ends, returning a value or letting an exception escape, together
with the extended log, or is still going (`none`) when a loop's fuel is spent.

The driver is never modelled. `call c answer` appends `c` to the log and then returns or
raises whatever `answer` picks, given every call up to and including `c`. A theorem
quantified over every `answer` therefore holds for every driver behaviour, a raise at
any step included.

`tryExcept` and `tryFinally` are Python's `try`/`except` and `try`/`finally` (a
`try` with both is the one nested in the other): the handler picks the exceptions it
catches, and the `finally` block runs on every exit, after the handler.
`Calls P m` is the footprint of `m`: every call it appends satisfies `P`. It is proved
once per combinator, so that what a whole `run_query` can call follows from its parts.
`Keeps I m` is the same for an invariant of the log: every run of `m` from a log
satisfying `I` ends with one that does.

The second half is the result every runner returns: columns, rows as dicts, and the
`(json_data, error)` pair.
-/

namespace RedashRunners

/-- Runner code: from the log of driver calls made so far, `some (outcome, log')` when
it ends, and `none` while a loop is still running. -/
def Run (κ α : Type) : Type := List κ → Option (Py α × List κ)

namespace Run

variable {κ α β : Type}

instance : Monad (Run κ) where
  pure a := fun log => some (.ok a, log)
  bind m f := fun log =>
    match m log with
    | some (.ok a, log') => f a log'
    | some (.error e, log') => some (.error e, log')
    | none => none

instance : MonadExceptOf Exc (Run κ) where
  throw e := fun log => some (.error e, log)
  tryCatch m h := fun log =>
    match m log with
    | some (.error e, log') => h e log'
    | r => r

instance : MonadLift Py (Run κ) where
  monadLift x := fun log => some (x, log)

/-- A driver call: log `c`, then return or raise what the driver answers. -/
def call (c : κ) (answer : List κ → Py α) : Run κ α :=
  fun log => some (answer (log ++ [c]), log ++ [c])

/-- A loop whose fuel is spent: no outcome yet. -/
def stall : Run κ α := fun _ => none

/-- `try: body` / `except ...: handler e`: the clause that catches the exception, if
one does, runs in its place; an exception the clause raises escapes. -/
def tryExcept (body : Run κ α) (handler : Exc → Option (Run κ α)) : Run κ α := fun log =>
  match body log with
  | some (.error e, log') =>
    match handler e with
    | some h => h log'
    | none => some (.error e, log')
  | r => r

/-- `try: m` / `finally: fin`: `fin` runs on every exit of `m`; if it raises, its
exception replaces `m`'s outcome. -/
def tryFinally (m : Run κ α) (fin : Run κ Unit) : Run κ α := fun log =>
  match m log with
  | some (r, log') =>
    match fin log' with
    | some (.ok (), log'') => some (r, log'')
    | some (.error e, log'') => some (.error e, log'')
    | none => none
  | none => none

@[simp] theorem pure_apply (a : α) (log : List κ) :
    (pure a : Run κ α) log = some (.ok a, log) := rfl

@[simp] theorem throw_apply (e : Exc) (log : List κ) :
    (throw e : Run κ α) log = some (.error e, log) := rfl

@[simp] theorem lift_apply (x : Py α) (log : List κ) :
    (liftM x : Run κ α) log = some (x, log) := rfl

@[simp] theorem call_apply (c : κ) (answer : List κ → Py α) (log : List κ) :
    call c answer log = some (answer (log ++ [c]), log ++ [c]) := rfl

theorem call_eq_ok {c : κ} {answer : List κ → Py α} {log log' : List κ} {a : α} :
    call c answer log = some (.ok a, log') ↔ answer (log ++ [c]) = .ok a ∧ log' = log ++ [c] := by
  simp [eq_comm]

theorem call_eq_error {c : κ} {answer : List κ → Py α} {log log' : List κ} {e : Exc} :
    call c answer log = some (.error e, log') ↔
      answer (log ++ [c]) = .error e ∧ log' = log ++ [c] := by
  simp [eq_comm]

theorem bind_apply (m : Run κ α) (f : α → Run κ β) (log : List κ) :
    (m >>= f) log = match m log with
      | some (.ok a, log') => f a log'
      | some (.error e, log') => some (.error e, log')
      | none => none := rfl

/-- How a sequenced run ended: in its first part, with an exception, or in the second. -/
theorem bind_eq_some {m : Run κ α} {f : α → Run κ β} {log log' : List κ} {r : Py β} :
    (m >>= f) log = some (r, log') ↔
      (∃ e, m log = some (.error e, log') ∧ r = .error e) ∨
        ∃ a l, m log = some (.ok a, l) ∧ f a l = some (r, log') := by
  rw [bind_apply]
  rcases h : m log with _ | ⟨_ | a, l⟩
  · simp
  · simp only [Option.some.injEq, Prod.mk.injEq, Except.error.injEq, reduceCtorEq, false_and,
      exists_false, or_false]
    exact ⟨fun ⟨h₁, h₂⟩ => ⟨_, ⟨rfl, h₂⟩, h₁.symm⟩,
      fun ⟨_, ⟨he, h₂⟩, h₁⟩ => by subst he; exact ⟨h₁.symm, h₂⟩⟩
  · simp only [Option.some.injEq, Prod.mk.injEq, Except.ok.injEq, reduceCtorEq, false_and,
      exists_false, false_or]
    exact ⟨fun hf => ⟨a, l, ⟨rfl, rfl⟩, hf⟩, fun ⟨_, _, ⟨ha, hl⟩, hf⟩ => ha ▸ hl ▸ hf⟩

/-- A sequenced run that returned: both parts returned. -/
theorem bind_eq_ok {m : Run κ α} {f : α → Run κ β} {log log' : List κ} {b : β} :
    (m >>= f) log = some (.ok b, log') ↔
      ∃ a l, m log = some (.ok a, l) ∧ f a l = some (.ok b, log') := by
  rw [bind_eq_some]
  simp

/-- How a `try`/`except` ended: in its body, with no clause catching what it raised, or
in the clause that caught the body's exception. -/
theorem tryExcept_eq_some {body : Run κ α} {handler : Exc → Option (Run κ α)}
    {log log' : List κ} {r : Py α} (h : tryExcept body handler log = some (r, log')) :
    (body log = some (r, log') ∧ ∀ e, r = .error e → handler e = none) ∨
      ∃ e l c, body log = some (.error e, l) ∧ handler e = some c ∧ c l = some (r, log') := by
  simp only [tryExcept] at h
  split at h
  · rename_i e l hbody
    split at h
    · exact .inr ⟨e, l, _, hbody, ‹_›, h⟩
    · cases h; exact .inl ⟨hbody, fun _ he => by cases he; assumption⟩
  · rename_i hnot
    exact .inl ⟨h, fun e he => absurd (he ▸ h) (hnot e log')⟩

/-- How a `try`/`finally` ended: its body ended, then its `fin` ran from there. -/
theorem tryFinally_eq_some {m : Run κ α} {fin : Run κ Unit} {log log' : List κ} {r : Py α}
    (h : tryFinally m fin log = some (r, log')) :
    ∃ r' l, m log = some (r', l) ∧ ∃ r'', fin l = some (r'', log') := by
  simp only [tryFinally] at h
  rcases hm : m log with _ | ⟨r', l⟩ <;> rw [hm] at h
  · cases h
  · refine ⟨r', l, rfl, ?_⟩
    dsimp only at h
    split at h <;> cases h
    all_goals exact ⟨_, ‹_›⟩

/-- A `try`/`finally` that raised: its `fin` raised, or its body raised and `fin`
returned. -/
theorem tryFinally_eq_error {m : Run κ α} {fin : Run κ Unit} {log log' : List κ} {e : Exc}
    (h : tryFinally m fin log = some (.error e, log')) :
    ∃ l, (∃ r, m log = some (r, l) ∧ fin l = some (.error e, log')) ∨
      (m log = some (.error e, l) ∧ fin l = some (.ok (), log')) := by
  simp only [tryFinally] at h
  rcases hm : m log with _ | ⟨r, l⟩ <;> rw [hm] at h
  · cases h
  · dsimp only at h
    split at h <;> cases h
    · exact ⟨l, .inr ⟨rfl, ‹_›⟩⟩
    · exact ⟨l, .inl ⟨r, rfl, ‹_›⟩⟩

/-- `log'` is `log` followed by calls that all satisfy `P`. -/
def Extends (P : κ → Prop) (log log' : List κ) : Prop :=
  ∃ l, log' = log ++ l ∧ ∀ c ∈ l, P c

theorem Extends.refl (P : κ → Prop) (log : List κ) : Extends P log log :=
  ⟨[], by simp, by simp⟩

theorem Extends.trans {P : κ → Prop} {l₁ l₂ l₃ : List κ} (h₁ : Extends P l₁ l₂)
    (h₂ : Extends P l₂ l₃) : Extends P l₁ l₃ := by
  obtain ⟨a, rfl, ha⟩ := h₁
  obtain ⟨b, rfl, hb⟩ := h₂
  exact ⟨a ++ b, by simp, List.forall_mem_append.mpr ⟨ha, hb⟩⟩

theorem Extends.mem {P : κ → Prop} {l₁ l₂ : List κ} {c : κ} (h : Extends P l₁ l₂)
    (hc : c ∈ l₁) : c ∈ l₂ := by
  obtain ⟨a, rfl, -⟩ := h
  exact List.mem_append_left a hc

/-- Every driver call `m` adds to the log satisfies `P`. -/
def Calls (P : κ → Prop) (m : Run κ α) : Prop :=
  ∀ log r log', m log = some (r, log') → Extends P log log'

namespace Calls

variable {P : κ → Prop}

theorem of_log {m : Run κ α} (h : ∀ log r log', m log = some (r, log') → log' = log) :
    Calls P m := fun log r log' hm => h log r log' hm ▸ Extends.refl P log

theorem pure (a : α) : Calls P (Pure.pure a : Run κ α) :=
  of_log fun _ _ _ h => by cases h; rfl

theorem throw (e : Exc) : Calls P (MonadExcept.throw e : Run κ α) :=
  of_log fun _ _ _ h => by cases h; rfl

theorem lift (x : Py α) : Calls P (liftM x : Run κ α) :=
  of_log fun _ _ _ h => by cases h; rfl

theorem stall : Calls P (Run.stall : Run κ α) := fun _ _ _ h => by cases h

theorem call {c : κ} (hc : P c) (answer : List κ → Py α) : Calls P (Run.call c answer) :=
  fun _ _ _ h => by cases h; exact ⟨[c], rfl, by simpa using hc⟩

theorem bind {m : Run κ α} {f : α → Run κ β} (hm : Calls P m) (hf : ∀ a, Calls P (f a)) :
    Calls P (m >>= f) := by
  intro log r log' h
  rcases bind_eq_some.mp h with ⟨e, he, -⟩ | ⟨a, l, ha, hfa⟩
  · exact hm _ _ _ he
  · exact (hm _ _ _ ha).trans (hf a _ _ _ hfa)

theorem ite {c : Prop} [Decidable c] {t e : Run κ α} (ht : Calls P t) (he : Calls P e) :
    Calls P (if c then t else e) := by
  split
  · exact ht
  · exact he

theorem tryExcept {body : Run κ α} {handler : Exc → Option (Run κ α)} (hb : Calls P body)
    (hh : ∀ e h, handler e = some h → Calls P h) : Calls P (Run.tryExcept body handler) := by
  intro log r log' h
  simp only [Run.tryExcept] at h
  split at h
  · rename_i e l hbody
    split at h
    · exact (hb _ _ _ hbody).trans (hh e _ ‹_› _ _ _ h)
    · cases h; exact hb _ _ _ hbody
  · exact hb _ _ _ h

theorem tryFinally {m : Run κ α} {fin : Run κ Unit} (hm : Calls P m) (hf : Calls P fin) :
    Calls P (Run.tryFinally m fin) := by
  intro log r log' h
  simp only [Run.tryFinally] at h
  split at h
  · rename_i hm'
    split at h <;> cases h
    all_goals exact (hm _ _ _ hm').trans (hf _ _ _ ‹_›)
  · cases h

theorem mono {Q : κ → Prop} {m : Run κ α} (h : Calls P m) (hPQ : ∀ c, P c → Q c) :
    Calls Q m := fun log r log' hm => by
  obtain ⟨l, rfl, hl⟩ := h log r log' hm
  exact ⟨l, rfl, fun c hc => hPQ c (hl c hc)⟩

/-- A run of `call c answer >>= f` logs `c` before anything `f` adds. -/
theorem call_bind {c : κ} {answer : List κ → Py α} {f : α → Run κ β} (hf : ∀ a, Calls P (f a))
    {log log' : List κ} {r : Py β} (h : (Run.call c answer >>= f) log = some (r, log')) :
    Extends P (log ++ [c]) log' := by
  rcases bind_eq_some.mp h with ⟨e, he, -⟩ | ⟨a, l, ha, hfa⟩
  · simp only [call_apply, Option.some.injEq, Prod.mk.injEq] at he
    exact he.2 ▸ Extends.refl P _
  · simp only [call_apply, Option.some.injEq, Prod.mk.injEq] at ha
    exact ha.2 ▸ hf a _ _ _ hfa

/-- A call outside `m`'s footprint is not in the log of a run of `m` from the empty log. -/
theorem not_mem {m : Run κ α} {c : κ} (h : Calls P m) (hc : ¬ P c) {r : Py α}
    {log : List κ} (hm : m [] = some (r, log)) : c ∉ log := fun hmem => by
  obtain ⟨l, rfl, hl⟩ := h [] r log hm
  exact hc (hl c (by simpa using hmem))

end Calls

/-! ## Invariants of the log -/

/-- Every run of `m` from a log satisfying `I` ends, returning or raising, with a log
satisfying `I`. -/
def Keeps (I : List κ → Prop) (m : Run κ α) : Prop :=
  ∀ log r log', I log → m log = some (r, log') → I log'

namespace Keeps

variable {I : List κ → Prop}

theorem of_log {m : Run κ α} (h : ∀ log r log', m log = some (r, log') → log' = log) :
    Keeps I m := fun log r log' hI hm => h log r log' hm ▸ hI

theorem pure (a : α) : Keeps I (Pure.pure a : Run κ α) :=
  of_log fun _ _ _ h => by cases h; rfl

theorem throw (e : Exc) : Keeps I (MonadExcept.throw e : Run κ α) :=
  of_log fun _ _ _ h => by cases h; rfl

theorem lift (x : Py α) : Keeps I (liftM x : Run κ α) :=
  of_log fun _ _ _ h => by cases h; rfl

theorem call {c : κ} (hc : ∀ log, I log → I (log ++ [c])) (answer : List κ → Py α) :
    Keeps I (Run.call c answer) := fun log _ _ hI h => by
  cases h
  exact hc log hI

theorem bind {m : Run κ α} {f : α → Run κ β} (hm : Keeps I m) (hf : ∀ a, Keeps I (f a)) :
    Keeps I (m >>= f) := fun log r log' hI h => by
  rcases bind_eq_some.mp h with ⟨e, he, -⟩ | ⟨a, l, ha, hfa⟩
  · exact hm _ _ _ hI he
  · exact hf a _ _ _ (hm _ _ _ hI ha) hfa

theorem ite {c : Prop} [Decidable c] {t e : Run κ α} (ht : Keeps I t) (he : Keeps I e) :
    Keeps I (if c then t else e) := by
  split
  · exact ht
  · exact he

theorem tryExcept {body : Run κ α} {handler : Exc → Option (Run κ α)} (hb : Keeps I body)
    (hh : ∀ e h, handler e = some h → Keeps I h) : Keeps I (Run.tryExcept body handler) :=
  fun log r log' hI h => by
    rcases tryExcept_eq_some h with ⟨hbody, -⟩ | ⟨e, l, c, hbody, hc, hcl⟩
    · exact hb _ _ _ hI hbody
    · exact hh e c hc _ _ _ (hb _ _ _ hI hbody) hcl

theorem tryFinally {m : Run κ α} {fin : Run κ Unit} (hm : Keeps I m) (hf : Keeps I fin) :
    Keeps I (Run.tryFinally m fin) := fun log r log' hI h => by
  obtain ⟨_, l, hml, _, hfl⟩ := tryFinally_eq_some h
  exact hf _ _ _ (hm _ _ _ hI hml) hfl

end Keeps

end Run

/-! ## What a runner returns -/

/-- The spec's portable column types (`TYPE_INTEGER`, ... of `redash.query_runner`). -/
inductive ColType where
  | integer
  | float
  | boolean
  | string
  | date
  | datetime
  deriving DecidableEq, Repr

/-- A result column `{'name': ..., 'friendly_name': ..., 'type': ...}`. -/
structure Column where
  name : String
  friendlyName : String
  type : Option ColType
  deriving DecidableEq

/-- `BaseQueryRunner.fetch_columns`, which lives in `redash.query_runner` beside these
files: a result's columns are `[(name, type)]`, one column per pair, in order, under its
name. -/
def fetchColumns (columns : List (String × Option ColType)) : List Column :=
  columns.map fun c => ⟨c.1, c.1, c.2⟩

/-- `dict(zip(names, row))`: a result row keyed by column name. -/
def rowOf (names : List String) (row : List PyObj) : PyDict PyObj :=
  PyDict.ofZip (names.map .str) row

@[simp] theorem lookup_str_cons {α : Type} (a b : String) (v : α) (rest : List (PyObj × α)) :
    ((PyObj.str a, v) :: rest).lookup (.str b) =
      if b = a then some v else rest.lookup (.str b) := by
  by_cases h : b = a
  · simp [h]
  · have : (PyObj.str b == PyObj.str a) = false := beq_false_of_ne (by simpa using h)
    simp [List.lookup_cons, this, h]

/-- With distinct column names, a result row finds each name's value. -/
theorem get?_rowOf {names : List String} (h : names.Nodup) (row : List PyObj) (k : PyObj) :
    (rowOf names row).get? k = ((names.map .str).zip row).lookup k := by
  rw [PyDict.get?, rowOf, PyDict.ofZip_items_of_nodup _ (h.map fun _ _ h => PyObj.str.inj h)]

/-- `{'columns': columns, 'rows': rows}`: the data of the JSON text `run_query` returns.
The runner models run `json.dumps` where the code does, and may raise as it does, but pass
on the data the text was written from: for every result whose rows hold no set,
`json.loads` reads the text back as the data (`loadsData_dumpsData`). -/
structure QueryData where
  columns : List Column
  rows : List (PyDict PyObj)
  deriving DecidableEq

/-- `run_query`'s `(json_data, error)`: `None` or the JSON's data, and `None` or the
error. -/
abbrev QueryResult := Option QueryData × PyObj

/-- `json.loads(results)`: the data back, and `TypeError` for `None`, which is not a
string. -/
def jsonLoads : Option QueryData → Py QueryData
  | some data => pure data
  | none => throw ⟨.typeError, .str "expected string or buffer"⟩

end RedashRunners
