import Mathlib.Data.List.Dedup
import Mathlib.Data.List.Perm.Subperm

/-!
# The Python the runners are written in

`pg.py`, `cass.py` and `presto.py` are Python 2. This file models the part of the
language their code relies on, so that every runner function can be read off its source
line by line:

* `PyObj`: the objects a driver hands back and the runners compare, format and index:
  `None`, booleans, integers, (unicode) strings, lists, and dicts and sets (a driver's
  JSON error payload, the set literal `{'message', None}` in `presto.py`, a Cassandra
  `sortedset`). Floats, tuples, dates and the other types a driver can return are left
  out;
* `repr()` as CPython 2.7 writes it: `u'...'` with its escapes, a long's `L`, and a
  dict's items in the order of its hash table (`iterationOrder`), which follows from the
  order its keys were inserted in;
* `Exc` and `Py`: an exception is its class and its `message`; code that may raise
  returns `Except Exc`;
* `PyDict`: a dict is its items in insertion order, distinct keys carried as a field, so
  no model value can hold a key twice; `setItem` is `d[k] = v` and `ofZip` is
  `dict(zip(ks, vs))`;
* the string operations the runners use: `unicode()`, `'{}'.format` (which raises on a
  non-ASCII unicode argument, as Python 2 does), `+`, slicing, `startswith`,
  `dict.get`, and `markupsafe.escape`.

Python's own errors (a missing key, a missing attribute, `+` on a non-string, slicing
what cannot be sliced) are raised with the class and the message CPython 2 gives them.
-/

namespace RedashRunners

/-! ## Objects -/

mutual
/-- The Python objects the runners read, compare and build. -/
inductive PyObj where
  | none
  | bool (b : Bool)
  | int (n : Int)
  | str (s : String)
  | list (elems : PyObjs)
  | dict (items : PyItems)
  | set (elems : PyObjs)

/-- The elements of a list, or of a set in its iteration order. -/
inductive PyObjs where
  | nil
  | cons (x : PyObj) (xs : PyObjs)

/-- The items of a dict with unicode keys, in the order the keys were inserted. -/
inductive PyItems where
  | nil
  | cons (k : String) (v : PyObj) (rest : PyItems)
end

deriving instance DecidableEq for PyObj

def PyObjs.toList : PyObjs → List PyObj
  | .nil => []
  | .cons x xs => x :: xs.toList

def PyObjs.ofList : List PyObj → PyObjs
  | [] => .nil
  | x :: xs => .cons x (PyObjs.ofList xs)

def PyItems.keys : PyItems → List String
  | .nil => []
  | .cons k _ rest => k :: rest.keys

def PyItems.lookup (key : String) : PyItems → Option PyObj
  | .nil => none
  | .cons k v rest => if k = key then some v else rest.lookup key

namespace PyObj

/-- `type(o).__name__`; JSON strings are `unicode` in Python 2. -/
def typeName : PyObj → String
  | .none => "NoneType"
  | .bool _ => "bool"
  | .int _ => "int"
  | .str _ => "unicode"
  | .list _ => "list"
  | .dict _ => "dict"
  | .set _ => "set"

/-- `bool(o)`. -/
def truthy : PyObj → Bool
  | .none => false
  | .bool b => b
  | .int n => n ≠ 0
  | .str s => !s.isEmpty
  | .list .nil | .dict .nil | .set .nil => false
  | .list _ | .dict _ | .set _ => true

end PyObj

/-! ## A dict's iteration order

CPython 2.7 keeps a dict's keys in an open-addressing table (`Objects/dictobject.c`) and
iterates, and so `repr`s, them in slot order. The slot of a key depends on its hash and
on the keys inserted before it, so the order is computed from the insertion order by
replaying the insertions. No runner deletes from a dict, so no slot is ever freed. -/

/-- `unicode_hash` on a 64-bit wide (UCS-4) build with hash randomization off, the
default: `x = ord(s[0]) << 7`, `x = (1000003 * x) ^ ord(c)` for each character,
`x ^= len(s)`; `-1` is reserved for errors and becomes `-2`. The empty string hashes to
`0`. -/
def strHash (s : String) : BitVec 64 :=
  match s.toList with
  | [] => 0
  | c :: _ =>
    let x := s.toList.foldl (fun x c => 1000003 * x ^^^ BitVec.ofNat 64 c.toNat)
      (BitVec.ofNat 64 c.toNat <<< 7) ^^^ BitVec.ofNat 64 s.length
    if x = -1 then -2 else x

/-- A dict's hash table: each slot empty or holding a key. -/
abbrev Slots := List (Option String)

/-- The empty slot `lookdict` finds for a new key (and `insertdict_clean` for a moved
one): slot `i & mask` for `i = hash & mask`, then `i = (i << 2) + i + perturb + 1` with
`perturb` starting at the hash and shifted right by 5 after each probe. -/
def probe (slots : Slots) (mask : BitVec 64) : Nat → BitVec 64 → BitVec 64 → Nat
  | 0, i, _ => (i &&& mask).toNat
  | fuel + 1, i, perturb =>
    if slots.getD (i &&& mask).toNat none = none then (i &&& mask).toNat
    else probe slots mask fuel ((i <<< 2) + i + perturb + 1) (perturb >>> 5)

/-- `insertdict_clean`: the key goes into the slot `probe` finds. After 13 shifts
`perturb` is `0`, and `i ↦ 5 * i + 1` runs through every slot of a table whose size is a
power of two, so `size + 13` probes reach the empty slot the table always keeps. -/
def Slots.insert (slots : Slots) (key : String) : Slots :=
  let mask := BitVec.ofNat 64 (slots.length - 1)
  slots.set (probe slots mask (slots.length + 13) (strHash key &&& mask) (strHash key))
    (some key)

/-- `newsize` of `dictresize`: from `PyDict_MINSIZE = 8`, doubled while
`newsize <= minused`. -/
def newSize (minused : Nat) : Nat → Nat → Nat
  | 0, size => size
  | fuel + 1, size => if size ≤ minused then newSize minused fuel (2 * size) else size

/-- `dictresize(mp, minused)`: a table of `newSize` slots, refilled by moving the old
table's keys in slot order. -/
def Slots.resize (slots : Slots) (minused : Nat) : Slots :=
  (slots.filterMap id).foldl Slots.insert (List.replicate (newSize minused minused 8) none)

/-- `PyDict_SetItem(mp, key, value)`: a key already there keeps its slot; a new one is
inserted, and when `fill * 3 >= (mask + 1) * 2` the table is resized to `4 * used`
(`2 * used` past 50000 items). -/
def Slots.setItem (slots : Slots) (key : String) : Slots :=
  if some key ∈ slots then slots
  else
    let slots := slots.insert key
    let used := (slots.filterMap id).length
    if used * 3 ≥ slots.length * 2 then slots.resize ((if used > 50000 then 2 else 4) * used)
    else slots

/-- The order `PyDict_Next` visits the keys of a dict built by inserting `keys` in turn
into `{}`: its occupied slots, in slot order. -/
def iterationOrder (keys : List String) : List String :=
  (keys.foldl Slots.setItem (List.replicate 8 none)).filterMap id

example : iterationOrder ["a", "b", "c"] = ["a", "c", "b"] := by decide

example : iterationOrder ((List.range 10).map toString) =
    ["1", "0", "3", "2", "5", "4", "7", "6", "9", "8"] := by decide

/-! ## `repr` -/

/-- `hexdigit[d]` of `"0123456789abcdef"`. -/
def hexDigit (d : Nat) : Char :=
  if d < 10 then Char.ofNat (48 + d) else Char.ofNat (87 + d)

/-- The low `n` hex digits of `v`, most significant first. -/
def hexDigits : Nat → Nat → List Char
  | 0, _ => []
  | n + 1, v => hexDigits n (v / 16) ++ [hexDigit (v % 16)]

/-- One character of a unicode string's `repr` quoted with `quote`
(`unicodeescape_string`): the quote and a backslash after a backslash, `\U` and eight
hex digits past the BMP, `\u` and four from `256` on, `\t`, `\n`, `\r`, `\x` and two
hex digits for the other characters outside `' '`..`'~'`. -/
def reprChar (quote c : Char) : List Char :=
  if c = quote ∨ c = '\\' then ['\\', c]
  else if 0x10000 ≤ c.toNat then '\\' :: 'U' :: hexDigits 8 c.toNat
  else if 256 ≤ c.toNat then '\\' :: 'u' :: hexDigits 4 c.toNat
  else if c = '\t' then ['\\', 't']
  else if c = '\n' then ['\\', 'n']
  else if c = '\r' then ['\\', 'r']
  else if c.toNat < 32 ∨ 0x7f ≤ c.toNat then '\\' :: 'x' :: hexDigits 2 c.toNat
  else [c]

/-- `repr(s)` of a unicode string: `u`, then `"` as the quote if `s` holds a `'` and no
`"`, else `'`. -/
def reprUnicode (s : String) : String :=
  let quote := if '\x27' ∈ s.toList ∧ '"' ∉ s.toList then '"' else '\x27'
  ⟨'u' :: quote :: s.toList.flatMap (reprChar quote) ++ [quote]⟩

/-- Whether Python 2 holds `n` as a `long` rather than an `int`: outside
`-sys.maxint - 1 .. sys.maxint`, that is `-2 ** 63 .. 2 ** 63 - 1` on a 64-bit build. -/
def isLong (n : Int) : Bool := n < -9223372036854775808 ∨ 9223372036854775808 ≤ n

mutual
/-- `repr(o)` in CPython 2.7. A dict lists its items in its `iterationOrder`. -/
def PyObj.repr : PyObj → String
  | .none => "None"
  | .bool b => if b then "True" else "False"
  | .int n => toString n ++ if isLong n then "L" else ""
  | .str s => reprUnicode s
  | .list elems => "[" ++ ", ".intercalate elems.reprs ++ "]"
  | .dict items => "\x7b" ++ ", ".intercalate
      ((iterationOrder items.keys).filterMap items.itemReprs.lookup) ++ "\x7d"
  | .set elems => "set([" ++ ", ".intercalate elems.reprs ++ "])"

def PyObjs.reprs : PyObjs → List String
  | .nil => []
  | .cons x xs => x.repr :: xs.reprs

/-- Each key with its item's text `repr(k) + ': ' + repr(v)`. -/
def PyItems.itemReprs : PyItems → List (String × String)
  | .nil => []
  | .cons k v rest => (k, reprUnicode k ++ ": " ++ v.repr) :: rest.itemReprs
end

example : (PyObj.dict (.cons "b" (.int 1) (.cons "a" (.str "it\x27s") .nil))).repr =
    "\x7bu\x27a\x27: u\"it\x27s\", u\x27b\x27: 1\x7d" := by decide

example : (PyObj.list (.cons (.str "é\n") (.cons (.int (2 ^ 63)) .nil))).repr =
    "[u\x27\\xe9\\n\x27, 9223372036854775808L]" := by decide

/-! ## Exceptions -/

/-- The exception classes the runners raise, catch or let escape. `databaseError` is
the driver's own `DatabaseError` family (psycopg2's or pyhive's), `OperationalError`
included; `interrupt` is redash's `InterruptException`; `exception` is any other
subclass of `Exception`. `KeyboardInterrupt` is the one class here that is not an
`Exception`. -/
inductive ExcClass where
  | keyError
  | attributeError
  | typeError
  | indexError
  | unicodeEncodeError
  | selectError
  | osError
  | databaseError
  | interrupt
  | keyboardInterrupt
  | exception
  deriving DecidableEq, Repr

/-- A raised exception: its class and its `message` attribute. -/
structure Exc where
  cls : ExcClass
  message : PyObj
  deriving DecidableEq

/-- Python code that returns a value or raises. -/
abbrev Py := Except Exc

/-- A sequence that raised: its first part raised, or it returned and the rest raised. -/
theorem Py.bind_eq_error {α β : Type} {x : Py α} {f : α → Py β} {e : Exc} :
    x >>= f = .error e ↔ x = .error e ∨ ∃ a, x = .ok a ∧ f a = .error e := by
  cases x <;> simp [bind, Except.bind]

/-- `isinstance(e, Exception)`. -/
def Exc.isException (e : Exc) : Bool := e.cls ≠ .keyboardInterrupt

/-- `KeyError(key)`. -/
def keyError (key : PyObj) : Exc := ⟨.keyError, key⟩

/-- The `AttributeError` of looking up `attr` on `o`. -/
def noAttribute (o : PyObj) (attr : String) : Exc :=
  ⟨.attributeError,
    .str ("\x27" ++ o.typeName ++ "\x27 object has no attribute \x27" ++ attr ++ "\x27")⟩

def isAscii (s : String) : Bool := s.toList.all fun c => c.toNat < 128

/-- The `UnicodeEncodeError` of encoding a non-ASCII string to ASCII. -/
def unicodeEncodeError : Exc :=
  ⟨.unicodeEncodeError, .str "\x27ascii\x27 codec can\x27t encode character"⟩

namespace PyObj

/-- `unicode(o)`: a string is itself, an integer its digits (a long without the `L` of
its `repr`), any other object its `repr`. -/
def unicode : PyObj → String
  | .str s => s
  | .int n => toString n
  | o => o.repr

/-- `'{}'.format(o)` in a byte-string template: `str(o)`, for which Python 2 encodes a
unicode string argument to ASCII. -/
def format : PyObj → Py String
  | .str s => if isAscii s then pure s else throw unicodeEncodeError
  | o => pure o.unicode

/-- `o.get(key, default)`: only a dict has the method. -/
def get (o : PyObj) (key : String) (default : PyObj) : Py PyObj :=
  match o with
  | .dict items => pure ((items.lookup key).getD default)
  | _ => throw (noAttribute o "get")

/-- `o.startswith(p)`: whether `p`'s characters begin `o`'s. -/
def startswith (o : PyObj) (p : String) : Py Bool :=
  match o with
  | .str s => pure (p.toList.isPrefixOf s.toList)
  | _ => throw (noAttribute o "startswith")

/-- `o[start:stop]` for `start ≤ stop` (`apply_slice`): a unicode string is sliced by
characters and a list by elements; a dict looks the slice up as a key, which is not
hashable; any other object has no `__getitem__`. All three errors are `TypeError`. -/
def slice (o : PyObj) (start stop : Nat) : Py PyObj :=
  match o with
  | .str s => pure (.str ⟨(s.toList.drop start).take (stop - start)⟩)
  | .list elems => pure (.list (.ofList ((elems.toList.drop start).take (stop - start))))
  | .dict _ => throw ⟨.typeError, .str "unhashable type"⟩
  | _ => throw ⟨.typeError,
      .str ("\x27" ++ o.typeName ++ "\x27 object has no attribute \x27__getitem__\x27")⟩

/-- `a + b`: two strings or two lists concatenated; a string and anything else fails to
coerce to unicode; other operands have no `+`. -/
def add (a b : PyObj) : Py PyObj :=
  match a, b with
  | .str s, .str t => pure (.str (s ++ t))
  | .list xs, .list ys => pure (.list (.ofList (xs.toList ++ ys.toList)))
  | .str _, _ => throw ⟨.typeError,
      .str ("coercing to Unicode: need string or buffer, " ++ b.typeName ++ " found")⟩
  | _, _ => throw ⟨.typeError, .str ("unsupported operand type(s) for +: \x27" ++
      a.typeName ++ "\x27 and \x27" ++ b.typeName ++ "\x27")⟩

@[simp] theorem add_str (s t : String) : add (.str s) (.str t) = pure (.str (s ++ t)) := rfl

@[simp] theorem slice_str (s : String) (a b : Nat) :
    slice (.str s) a b = pure (.str ⟨(s.toList.drop a).take (b - a)⟩) := rfl

@[simp] theorem startswith_str (s p : String) :
    startswith (.str s) p = pure (p.toList.isPrefixOf s.toList) := rfl

@[simp] theorem unicode_str (s : String) : unicode (.str s) = s := rfl

theorem format_str {s : String} (h : isAscii s = true) : format (.str s) = pure s := by
  simp [format, h]

/-- Formatting raises only `UnicodeEncodeError`. -/
theorem format_error {o : PyObj} {e : Exc} (h : o.format = .error e) : e = unicodeEncodeError := by
  cases o <;> simp only [format] at h
  case str s => split at h <;> cases h; rfl
  all_goals cases h

/-- `o.get(key, default)` raises only `AttributeError`. -/
theorem get_error {o : PyObj} {key : String} {default : PyObj} {e : Exc}
    (h : o.get key default = .error e) : e.cls = .attributeError := by
  cases o <;> simp only [get] at h
  case dict => cases h
  all_goals cases h; rfl

end PyObj

/-! ## `markupsafe.escape` -/

/-- The entity `markupsafe` writes for one character. -/
def escapeChar : Char → String
  | '&' => "&amp;"
  | '<' => "&lt;"
  | '>' => "&gt;"
  | '"' => "&#34;"
  | '\x27' => "&#39;"
  | c => c.toString

/-- `markupsafe.escape(s)` for a string `s`. -/
def escape (s : String) : String := String.join (s.toList.map escapeChar)

/-! ## Dicts -/

/-- A Python dict: its items in insertion order. Keys are distinct by construction. -/
structure PyDict (α : Type) where
  items : List (PyObj × α)
  nodup : (items.map Prod.fst).Nodup

instance {α : Type} [DecidableEq α] : DecidableEq (PyDict α) := fun a b =>
  decidable_of_iff (a.items = b.items) (by cases a; cases b; simp)

namespace PyDict

variable {α : Type}

/-- `{}`. -/
def empty : PyDict α := ⟨[], List.nodup_nil⟩

/-- `d.keys()`. -/
def keys (d : PyDict α) : List PyObj := d.items.map Prod.fst

/-- `d.values()`. -/
def values (d : PyDict α) : List α := d.items.map Prod.snd

def get? (d : PyDict α) (k : PyObj) : Option α := d.items.lookup k

/-- `k in d`. -/
def contains (d : PyDict α) (k : PyObj) : Bool := d.keys.contains k

/-- `d[k]`. -/
def getItem (d : PyDict α) (k : PyObj) : Py α :=
  match d.get? k with
  | some v => pure v
  | none => throw (keyError k)

/-- `d.get(k, default)`. -/
def get (d : PyDict α) (k : PyObj) (default : α) : α := (d.get? k).getD default

/-- The items after `d[k] = v` when `k` is already a key: the value is replaced in place. -/
def replace (items : List (PyObj × α)) (k : PyObj) (v : α) : List (PyObj × α) :=
  items.map fun kv => if kv.1 = k then (k, v) else kv

theorem map_fst_replace (items : List (PyObj × α)) (k : PyObj) (v : α) :
    (replace items k v).map Prod.fst = items.map Prod.fst := by
  simp only [replace, List.map_map]
  exact List.map_congr_left fun kv _ => by by_cases h : kv.1 = k <;> simp [h]

/-- `d[k] = v`: a present key keeps its place, a new one goes last. -/
def setItem (d : PyDict α) (k : PyObj) (v : α) : PyDict α :=
  if h : k ∈ d.keys then ⟨replace d.items k v, by rw [map_fst_replace]; exact d.nodup⟩
  else ⟨d.items ++ [(k, v)], by
    rw [List.map_append, List.nodup_append]
    exact ⟨d.nodup, List.nodup_singleton _, List.disjoint_singleton.mpr h⟩⟩

/-- `dict(zip(ks, vs))`. -/
def ofZip (ks : List PyObj) (vs : List α) : PyDict α :=
  (ks.zip vs).foldl (fun d kv => d.setItem kv.1 kv.2) empty

/-! ### Lookup and update -/

@[simp] theorem get?_empty (k : PyObj) : (empty : PyDict α).get? k = none := rfl

@[ext] theorem ext {d d' : PyDict α} (h : d.items = d'.items) : d = d' := by
  cases d; cases d'; cases h; rfl

theorem items_setItem_of_mem {d : PyDict α} {k : PyObj} {v : α} (h : k ∈ d.keys) :
    (d.setItem k v).items = replace d.items k v := by
  simp [setItem, h]

theorem items_setItem_of_not_mem {d : PyDict α} {k : PyObj} {v : α} (h : k ∉ d.keys) :
    (d.setItem k v).items = d.items ++ [(k, v)] := by
  simp [setItem, h]

theorem replace_of_not_mem {items : List (PyObj × α)} {k : PyObj} {v : α}
    (h : k ∉ items.map Prod.fst) : replace items k v = items :=
  (List.map_congr_left fun kv hkv => if_neg fun he =>
    h (List.mem_map.mpr ⟨kv, hkv, he⟩)).trans (List.map_id _)

theorem mem_keys {d : PyDict α} {k : PyObj} : k ∈ d.keys ↔ ∃ v, (k, v) ∈ d.items := by
  simp [keys]

/-- With distinct keys, looking a key up finds exactly the item stored under it. -/
theorem get?_eq_some_iff {d : PyDict α} {k : PyObj} {v : α} :
    d.get? k = some v ↔ (k, v) ∈ d.items := by
  obtain ⟨items, nd⟩ := d
  simp only [get?]
  induction items with
  | nil => simp
  | cons kv rest ih =>
    obtain ⟨k', v'⟩ := kv
    simp only [List.map_cons, List.nodup_cons, List.mem_map] at nd
    by_cases hk : k = k'
    · subst hk
      simp only [List.lookup_cons_self, Option.some.injEq, List.mem_cons, Prod.mk.injEq,
        true_and]
      exact ⟨fun h => .inl h.symm, fun h => h.elim Eq.symm
        fun hm => absurd ⟨(k, v), hm, rfl⟩ nd.1⟩
    · have hbeq : (k == k') = false := beq_false_of_ne hk
      simp [List.lookup_cons, hbeq, hk, ih nd.2]

theorem get?_eq_none_iff {d : PyDict α} {k : PyObj} : d.get? k = none ↔ k ∉ d.keys := by
  rw [mem_keys, not_exists, Option.eq_none_iff_forall_not_mem]
  exact forall_congr' fun v => not_congr get?_eq_some_iff

@[simp] theorem contains_iff {d : PyDict α} {k : PyObj} : d.contains k = true ↔ k ∈ d.keys := by
  simp [contains]

theorem mem_replace {items : List (PyObj × α)} {k k' : PyObj} {v v' : α}
    (hk : k ∈ items.map Prod.fst) :
    (k', v') ∈ replace items k v ↔ (k' = k ∧ v' = v) ∨ (k' ≠ k ∧ (k', v') ∈ items) := by
  simp only [replace, List.mem_map]
  constructor
  · rintro ⟨⟨k₀, v₀⟩, hmem, heq⟩
    by_cases h : k₀ = k <;> simp only [h, ↓reduceIte, Prod.mk.injEq] at heq
    · exact .inl ⟨heq.1.symm, heq.2.symm⟩
    · obtain ⟨rfl, rfl⟩ := heq
      exact .inr ⟨h, hmem⟩
  · rintro (⟨rfl, rfl⟩ | ⟨hne, hmem⟩)
    · obtain ⟨⟨k₀, v₀⟩, hmem, rfl⟩ := List.mem_map.mp hk
      exact ⟨(k₀, v₀), hmem, by simp⟩
    · exact ⟨(k', v'), hmem, by simp [hne]⟩

/-- What `d[k] = v` stores: `v` under `k`, every other item as it was. -/
theorem mem_setItem {d : PyDict α} {k k' : PyObj} {v v' : α} :
    (k', v') ∈ (d.setItem k v).items ↔ (k' = k ∧ v' = v) ∨ (k' ≠ k ∧ (k', v') ∈ d.items) := by
  unfold setItem
  split
  · exact mem_replace (by simpa [keys] using ‹k ∈ d.keys›)
  · simp only [List.mem_append, List.mem_singleton, Prod.mk.injEq]
    by_cases h : k' = k
    · subst h
      have : (k', v') ∉ d.items := fun hm => ‹k' ∉ d.keys› (mem_keys.mpr ⟨v', hm⟩)
      simp [this]
    · simp [h]

theorem mem_keys_setItem {d : PyDict α} {k k' : PyObj} {v : α} :
    k' ∈ (d.setItem k v).keys ↔ k' = k ∨ k' ∈ d.keys := by
  simp only [mem_keys, mem_setItem]
  by_cases h : k' = k <;> simp [h]

@[simp] theorem get?_setItem (d : PyDict α) (k k' : PyObj) (v : α) :
    (d.setItem k v).get? k' = if k' = k then some v else d.get? k' := by
  apply Option.ext
  intro w
  rw [Option.mem_def, get?_eq_some_iff, mem_setItem]
  by_cases h : k' = k
  · simp [h, eq_comm]
  · simp [h, get?_eq_some_iff]

/-! ### `dict(zip(ks, vs))` -/

theorem map_fst_zip_sublist :
    ∀ (ks : List PyObj) (vs : List α), List.Sublist ((ks.zip vs).map Prod.fst) ks
  | [], _ => by simp
  | _ :: _, [] => by simp
  | k :: ks, _ :: vs => by simpa using (map_fst_zip_sublist ks vs).cons₂ k

theorem setItem_setItem_of_not_mem {d : PyDict α} {k : PyObj} {v w : α}
    (h : k ∉ d.keys) : (d.setItem k v).setItem k w = d.setItem k w := by
  have happ : replace (d.items ++ [(k, v)]) k w = replace d.items k w ++ [(k, w)] := by
    simp [replace]
  ext1
  rw [items_setItem_of_mem (mem_keys_setItem.mpr (.inl rfl)), items_setItem_of_not_mem h,
    items_setItem_of_not_mem h, happ, replace_of_not_mem h]

theorem mem_keys_foldl_setItem (kvs : List (PyObj × α)) (d : PyDict α) (k : PyObj) :
    k ∈ (kvs.foldl (fun d kv => d.setItem kv.1 kv.2) d).keys ↔
      k ∈ d.keys ∨ k ∈ kvs.map Prod.fst := by
  induction kvs generalizing d with
  | nil => simp
  | cons kv rest ih =>
    simp only [List.foldl_cons, ih, mem_keys_setItem, List.map_cons, List.mem_cons]
    tauto

/-- Storing fresh keys one by one appends their items, in order. -/
theorem items_foldl_setItem (kvs : List (PyObj × α)) (d : PyDict α)
    (hnd : ((d.items ++ kvs).map Prod.fst).Nodup) :
    (kvs.foldl (fun d kv => d.setItem kv.1 kv.2) d).items = d.items ++ kvs := by
  induction kvs generalizing d with
  | nil => simp
  | cons kv rest ih =>
    have hnew : kv.1 ∉ d.keys := fun hm => by
      rw [List.map_append, List.nodup_append] at hnd
      exact hnd.2.2 hm (List.mem_cons_self _ _)
    have hset := items_setItem_of_not_mem (v := kv.2) hnew
    rw [List.foldl_cons, ih _ (by rw [hset]; simpa using hnd), hset]
    simp

/-- With distinct names, `dict(zip(ks, vs))` keeps every pair, in order. -/
theorem ofZip_items_of_nodup {ks : List PyObj} (vs : List α) (h : ks.Nodup) :
    (ofZip ks vs).items = ks.zip vs := by
  simpa [ofZip, empty] using items_foldl_setItem (ks.zip vs) empty (by
    simpa [empty] using h.sublist (map_fst_zip_sublist ..))

/-- With a repeated name, `dict(zip(ks, vs))` has fewer items than `ks` has names. -/
theorem length_ofZip_lt {ks : List PyObj} (vs : List α) (h : ¬ ks.Nodup) :
    (ofZip ks vs).items.length < ks.length := by
  have hsub : (ofZip ks vs).keys ⊆ ks.dedup := fun k hk => by
    rw [ofZip, mem_keys_foldl_setItem] at hk
    rcases hk with hk | hk
    · simp [keys, empty] at hk
    · exact List.mem_dedup.mpr (map_fst_zip_sublist ks vs |>.subset hk)
  have hle := (List.subperm_of_subset (ofZip ks vs).nodup hsub).length_le
  have hlt : ks.dedup.length < ks.length :=
    lt_of_le_of_ne (List.dedup_sublist ks).length_le fun heq =>
      h ((List.dedup_sublist ks).eq_of_length heq ▸ List.nodup_dedup ks)
  simpa [keys] using lt_of_le_of_lt hle hlt

end PyDict

end RedashRunners
