import RedashRunners.Python

/-!
# JSON values

Every runner returns its result as the text of `json.dumps(data, cls=...)`, and every
`get_schema` reads it back with `json.loads(results)`. The modules under `Json` model the
two ends of that transport as the standard library of Python 2.7 computes them. This one
holds the values: `Json` is what the decoder builds and the encoder writes.

A JSON object becomes a Python dict through `dict(pairs)` (`JsonItems.ofPairs`): the pairs
are inserted in text order, so a key keeps the place where it first appears and takes the
value it is given last (`JsonItems.lookup_ofPairs`), and the keys of the result are
distinct (`JsonItems.canonical_ofPairs`).
-/

namespace RedashRunners

/-! ## Values -/

mutual
/-- A JSON value as the json module decodes one: `None`, a bool, an integer, a unicode
string, a list or a dict. -/
inductive Json where
  | null
  | bool (b : Bool)
  | int (n : Int)
  | str (s : String)
  | arr (xs : JsonList)
  | obj (kvs : JsonItems)

/-- The elements of a JSON array, in order. -/
inductive JsonList where
  | nil
  | cons (x : Json) (xs : JsonList)

/-- The items of a JSON object, in the order the encoder writes them. -/
inductive JsonItems where
  | nil
  | cons (k : String) (v : Json) (rest : JsonItems)
end

deriving instance DecidableEq for Json

namespace JsonItems

def keys : JsonItems → List String
  | .nil => []
  | .cons k _ rest => k :: rest.keys

def toList : JsonItems → List (String × Json)
  | .nil => []
  | .cons k v rest => (k, v) :: rest.toList

/-- `d[k] = v`: a key already there keeps its place and takes the new value, a new key
goes last. -/
def insert (k : String) (v : Json) : JsonItems → JsonItems
  | .nil => .cons k v .nil
  | .cons k' v' rest => if k' = k then .cons k v rest else .cons k' v' (rest.insert k v)

/-- `d.get(key)`: the value stored under `key`. -/
def lookup (key : String) : JsonItems → Option Json
  | .nil => none
  | .cons k v rest => if k = key then some v else rest.lookup key

/-- `dict(pairs)`: the pairs inserted in order. -/
def ofPairs (pairs : List (String × Json)) : JsonItems :=
  pairs.foldl (fun d p => d.insert p.1 p.2) .nil

end JsonItems

def JsonList.toList : JsonList → List Json
  | .nil => []
  | .cons x xs => x :: xs.toList

def JsonList.ofList : List Json → JsonList
  | [] => .nil
  | x :: xs => .cons x (JsonList.ofList xs)

mutual
/-- Every object of the value has distinct keys: what a Python dict can hold. -/
def Json.canonical : Json → Bool
  | .arr xs => xs.canonical
  | .obj kvs => decide kvs.keys.Nodup && kvs.canonical
  | _ => true

def JsonList.canonical : JsonList → Bool
  | .nil => true
  | .cons x xs => x.canonical && xs.canonical

/-- Every value is `canonical`; the keys themselves may repeat. -/
def JsonItems.canonical : JsonItems → Bool
  | .nil => true
  | .cons _ v rest => v.canonical && rest.canonical
end

/-! ## `dict(pairs)` -/

namespace JsonItems

theorem keys_eq_map : ∀ kvs : JsonItems, kvs.keys = kvs.toList.map Prod.fst
  | .nil => rfl
  | .cons _ _ rest => by rw [keys, toList, List.map_cons, keys_eq_map rest]

theorem toList_insert_of_not_mem {k : String} (v : Json) :
    ∀ {kvs : JsonItems}, k ∉ kvs.keys → (kvs.insert k v).toList = kvs.toList ++ [(k, v)]
  | .nil, _ => rfl
  | .cons k' v' rest, h => by
    simp only [keys, List.mem_cons, not_or] at h
    rw [insert, if_neg (Ne.symm h.1), toList, toList, toList_insert_of_not_mem v h.2,
      List.cons_append]

theorem toList_inj : ∀ {a b : JsonItems}, a.toList = b.toList → a = b
  | .nil, .nil, _ => rfl
  | .cons _ _ _, .cons _ _ _, h => by
    simp only [toList, List.cons.injEq, Prod.mk.injEq] at h
    obtain ⟨⟨rfl, rfl⟩, h⟩ := h
    rw [toList_inj h]
  | .nil, .cons _ _ _, h => nomatch h
  | .cons _ _ _, .nil, h => nomatch h

/-- Inserting pairs with distinct new keys appends them. -/
theorem toList_foldl_insert : ∀ (l : List (String × Json)) (acc : JsonItems),
    (l.map Prod.fst).Nodup → (∀ p ∈ l, p.1 ∉ acc.keys) →
      (l.foldl (fun d p => d.insert p.1 p.2) acc).toList = acc.toList ++ l
  | [], acc, _, _ => by simp
  | p :: l, acc, hn, hf => by
    have hp := hf p (List.mem_cons_self _ _)
    rw [List.map_cons, List.nodup_cons] at hn
    rw [List.foldl_cons, toList_foldl_insert l _ hn.2, toList_insert_of_not_mem _ hp,
      List.append_assoc, List.singleton_append]
    intro q hq
    rw [keys_eq_map, toList_insert_of_not_mem _ hp, List.map_append, List.mem_append,
      ← keys_eq_map]
    rintro (h | h)
    · exact hf q (List.mem_cons_of_mem _ hq) h
    · exact hn.1 (List.mem_singleton.1 h ▸ List.mem_map_of_mem _ hq)

/-- `dict(pairs)` of an object's items, when its keys are distinct, is the object. -/
theorem ofPairs_toList {kvs : JsonItems} (h : kvs.keys.Nodup) : ofPairs kvs.toList = kvs :=
  toList_inj (by
    rw [ofPairs, toList_foldl_insert _ _ (keys_eq_map kvs ▸ h) (fun _ _ => List.not_mem_nil _)]
    rfl)

theorem lookup_insert (k k' : String) (v : Json) : ∀ kvs : JsonItems,
    (kvs.insert k v).lookup k' = if k = k' then some v else kvs.lookup k'
  | .nil => rfl
  | .cons k₀ v₀ rest => by
    rw [insert]
    split
    · subst_vars
      by_cases h : k₀ = k' <;> simp [lookup, h]
    · rename_i hne
      by_cases h : k₀ = k'
      · subst h
        simp [lookup, Ne.symm hne]
      · simp [lookup, h, lookup_insert k k' v rest]

/-- **Later values win.** Under each key, `dict(pairs)` holds the value of the last pair
with that key. -/
theorem lookup_ofPairs (pairs : List (String × Json)) (k : String) :
    (ofPairs pairs).lookup k = pairs.reverse.lookup k := by
  suffices ∀ acc : JsonItems, (pairs.foldl (fun d p => d.insert p.1 p.2) acc).lookup k =
      (pairs.reverse.lookup k).or (acc.lookup k) from (this .nil).trans Option.or_none
  induction pairs with
  | nil => exact fun acc => Option.none_or.symm
  | cons p ps ih =>
    intro acc
    rw [List.foldl_cons, ih, lookup_insert, List.reverse_cons, List.lookup_append,
      Option.or_assoc]
    rcases p with ⟨k₁, v₁⟩
    by_cases h : k₁ = k
    · subst h
      simp
    · have : (k == k₁) = false := beq_false_of_ne (Ne.symm h)
      simp [List.lookup_cons, this, h]

/-! ## `dict(pairs)` has distinct keys -/

theorem mem_keys_insert {k k' : String} {v : Json} :
    ∀ {kvs : JsonItems}, k' ∈ (kvs.insert k v).keys ↔ k' = k ∨ k' ∈ kvs.keys
  | .nil => by simp [insert, keys]
  | .cons k₀ v₀ rest => by
    rw [insert]
    split
    · subst_vars
      simp [keys]
    · simp only [keys, List.mem_cons, mem_keys_insert]
      exact or_left_comm

theorem nodup_keys_insert {k : String} {v : Json} :
    ∀ {kvs : JsonItems}, kvs.keys.Nodup → (kvs.insert k v).keys.Nodup
  | .nil, _ => List.nodup_singleton k
  | .cons k₀ v₀ rest, h => by
    rw [keys, List.nodup_cons] at h
    rw [insert]
    split
    · subst_vars
      exact List.nodup_cons.2 h
    · rename_i hne
      rw [keys, List.nodup_cons, mem_keys_insert]
      exact ⟨not_or.2 ⟨hne, h.1⟩, nodup_keys_insert h.2⟩

theorem canonical_insert {k : String} {v : Json} (hv : v.canonical = true) :
    ∀ {kvs : JsonItems}, kvs.canonical = true → (kvs.insert k v).canonical = true
  | .nil, _ => by simp [insert, canonical, hv]
  | .cons k₀ v₀ rest, h => by
    rw [canonical, Bool.and_eq_true] at h
    rw [insert]
    split
    · simp [canonical, hv, h.2]
    · simp [canonical, h.1, canonical_insert hv h.2]

/-- `dict(pairs)` has distinct keys, and holds only values of the pairs. -/
theorem canonical_ofPairs (l : List (String × Json)) (h : ∀ p ∈ l, p.2.canonical = true) :
    (Json.obj (ofPairs l)).canonical = true := by
  suffices ∀ acc : JsonItems, acc.keys.Nodup → acc.canonical = true →
      (l.foldl (fun d p => d.insert p.1 p.2) acc).keys.Nodup ∧
        (l.foldl (fun d p => d.insert p.1 p.2) acc).canonical = true by
    obtain ⟨hk, hc⟩ := this .nil List.nodup_nil rfl
    simp [Json.canonical, ofPairs, hk, hc]
  induction l with
  | nil => exact fun acc hk hc => ⟨hk, hc⟩
  | cons p l ih =>
    intro acc hk hc
    rw [List.forall_mem_cons] at h
    exact ih h.2 _ (nodup_keys_insert hk) (canonical_insert h.1 hc)

end JsonItems

end RedashRunners
