import RedashRunners.Json.Encode
import RedashRunners.Json.Decode

/-!
# Decoding what the encoder wrote

`loads_dumps` is the round trip: `json.loads(json.dumps(v))` gives `v` back for every value
whose objects have distinct keys. Underneath it, `Json.scanOnce_dumps` reads the encoding of
any value back as `Json.reload v`, the value with every object rebuilt by `dict(pairs)`;
the two agree on values with distinct keys (`Json.reload_of_canonical`).

Strings come back character by character: each form `Escaped` allows reads back as its
character (`Escaped.scanString`), and `escapeChar` writes one (`escaped_escapeChar`).
-/

namespace RedashRunners

namespace Json

/-! ## Strings come back -/

theorem hexVal_lowerHex :
    ∀ d ∈ "0123456789abcdef".toList, hexVal d = some ("0123456789abcdef".toList.indexOf d) := by
  decide

theorem LowerHex.eq_cons {n : Nat} {ds : List Char} (h : LowerHex n ds) :
    ∃ a b c d, ds = [a, b, c, d] :=
  match ds, h.1 with
  | [a, b, c, d], _ => ⟨a, b, c, d, rfl⟩

/-- `_decode_uXXXX` reads four lowercase hex digits as their value. -/
theorem decodeHex_of_lowerHex {n : Nat} {a b c d : Char} (h : LowerHex n [a, b, c, d]) :
    decodeHex a b c d = .ok n := by
  obtain ⟨-, hmem, hv⟩ := h
  have hx := fun x (hx : x ∈ [a, b, c, d]) => hexVal_lowerHex x (hmem x hx)
  simp only [decodeHex, hx a (by simp), hx b (by simp), hx c (by simp), hx d (by simp)]
  simp only [List.foldl_cons, List.foldl_nil] at hv
  congr 1
  omega

theorem scanString_backslash_u (s : List Char) : scanString ('\\' :: 'u' :: s) = scanUnicode s :=
  rfl

@[simp] theorem consChar_ok (c : Char) (cs t : List Char) :
    consChar c (.ok (cs, t)) = .ok (c :: cs, t) := rfl

/-- `py_scanstring` after `\u` and four characters that `_decode_uXXXX` reads as `uni`. -/
theorem scanUnicode_of_decodeHex {a b c d : Char} {uni : Nat} (h : decodeHex a b c d = .ok uni)
    (s : List Char) : scanUnicode (a :: b :: c :: d :: s) =
      if 0xd800 ≤ uni ∧ uni ≤ 0xdbff then scanLow uni s
      else if 0xdc00 ≤ uni ∧ uni ≤ 0xdfff then .error (.leftOut "a lone surrogate")
      else consChar (Char.ofNat uni) (scanString s) := by
  unfold scanUnicode
  rw [h]

/-- After a high surrogate `uni`, a second `\uXXXX` escape that `_decode_uXXXX` reads as
`uni2`. -/
theorem scanLow_of_decodeHex {a b c d : Char} {uni2 : Nat} (h : decodeHex a b c d = .ok uni2)
    (uni : Nat) (s : List Char) : scanLow uni ('\\' :: 'u' :: a :: b :: c :: d :: s) =
      if 0xdc00 ≤ uni2 ∧ uni2 ≤ 0xdfff then
        consChar (Char.ofNat (0x10000 + (uni - 0xd800) * 0x400 + (uni2 - 0xdc00))) (scanString s)
      else .error (.leftOut "a lone surrogate") := by
  unfold scanLow
  rw [if_pos ⟨rfl, rfl⟩]
  dsimp only
  rw [h]

/-- Each form `Escaped` allows reads back as its character, whatever follows. -/
theorem Escaped.scanString {c : Char} {b : List Char} (h : Escaped c b) (t : List Char) :
    Json.scanString (b ++ t) = consChar c (Json.scanString t) := by
  have hv := toNat_valid c
  cases h with
  | self h₁ _ hq hb =>
    have : 32 ≤ c.toNat := h₁
    rw [List.singleton_append, Json.scanString, if_neg hq, if_neg hb, if_neg (by omega)]
  | short h =>
    simp only [shortEscapes, List.mem_cons, Prod.mk.injEq, List.mem_singleton,
      List.not_mem_nil, or_false] at h
    rcases h with ⟨rfl, rfl⟩ | ⟨rfl, rfl⟩ | ⟨rfl, rfl⟩ | ⟨rfl, rfl⟩ | ⟨rfl, rfl⟩ | ⟨rfl, rfl⟩ |
      ⟨rfl, rfl⟩ <;> rfl
  | bmp _ _ hlt hd =>
    obtain ⟨a, b, c', d, rfl⟩ := hd.eq_cons
    simp only [List.cons_append, List.nil_append, scanString_backslash_u]
    rw [scanUnicode_of_decodeHex (decodeHex_of_lowerHex hd), if_neg (by omega),
      if_neg (by omega), Char.ofNat_toNat]
  | pair hge hhi hlo =>
    obtain ⟨a, b, c', d, rfl⟩ := hhi.eq_cons
    obtain ⟨a', b', c'', d', rfl⟩ := hlo.eq_cons
    have hc : 0x10000 + (0xd800 + (c.toNat - 0x10000) / 0x400 - 0xd800) * 0x400 +
        (0xdc00 + (c.toNat - 0x10000) % 0x400 - 0xdc00) = c.toNat := by omega
    simp only [List.cons_append, List.nil_append, scanString_backslash_u]
    rw [scanUnicode_of_decodeHex (decodeHex_of_lowerHex hhi), if_pos (by omega),
      scanLow_of_decodeHex (decodeHex_of_lowerHex hlo), if_pos (by omega), hc, Char.ofNat_toNat]

/-- The escaped characters of a string, then the closing quote, read back as the
string's characters. -/
theorem scanString_escapeChars (cs t : List Char) :
    scanString (escapeChars cs ++ '"' :: t) = .ok (cs, t) := by
  induction cs with
  | nil => rfl
  | cons c cs ih =>
    rw [escapeChars, List.flatMap_cons, List.append_assoc, (escaped_escapeChar c).scanString]
    rw [escapeChars] at ih
    rw [ih, consChar_ok]

/-! ## Integers come back -/

theorem digitChar_value : ∀ d < 10, (Nat.digitChar d).toNat - 48 = d := by decide

theorem digitChar_eq_zero : ∀ d < 10, Nat.digitChar d = '0' → d = 0 := by decide

theorem digitsValue_append_digit (l : List Char) (d : Char) :
    digitsValue (l ++ [d]) = 10 * digitsValue l + (d.toNat - 48) := by
  simp [digitsValue, List.foldl_append]

/-- What `Nat.toDigitsCore` puts before its accumulator `ds`: decimal digits, starting with
`0` only for `0`, whose value is the number. -/
theorem toDigitsCore_spec : ∀ (f n : Nat) (ds : List Char), n < f →
    ∃ c l, Nat.toDigitsCore 10 f n ds = c :: l ++ ds ∧ (c = '0' → n = 0) ∧
      (∀ d ∈ c :: l, d.isDigit = true) ∧ digitsValue (c :: l) = n
  | 0, n, _, h => absurd h (Nat.not_lt_zero n)
  | f + 1, n, ds, h => by
    have hlt : n % 10 < 10 := Nat.mod_lt _ (by decide)
    by_cases hq : n / 10 = 0
    · refine ⟨Nat.digitChar (n % 10), [], by rw [toDigitsCore_succ, if_pos hq]; rfl, fun h0 => ?_,
        by simpa using isDigit_digitChar _ hlt, ?_⟩
      · have := digitChar_eq_zero _ hlt h0
        omega
      · have := digitChar_value _ hlt
        simp only [digitsValue, List.foldl_cons, List.foldl_nil]
        omega
    · obtain ⟨c, l, he, h0, hdig, hval⟩ :=
        toDigitsCore_spec f (n / 10) (Nat.digitChar (n % 10) :: ds) (by omega)
      refine ⟨c, l ++ [Nat.digitChar (n % 10)], by rw [toDigitsCore_succ, if_neg hq, he]; simp,
        fun hc => absurd (h0 hc) hq, fun d hd => ?_, ?_⟩
      · rw [← List.cons_append, List.mem_append, List.mem_singleton] at hd
        exact hd.elim (hdig d) fun h => h ▸ isDigit_digitChar _ hlt
      · have := digitChar_value _ hlt
        rw [← List.cons_append, digitsValue_append_digit, hval]
        omega

theorem toDigits_cons (m : Nat) :
    ∃ c l, Nat.toDigits 10 m = c :: l ∧ (c = '0' → m = 0) ∧ ∀ d ∈ c :: l, d.isDigit = true := by
  obtain ⟨c, l, he, h0, hdig, -⟩ := toDigitsCore_spec (m + 1) m [] (by omega)
  exact ⟨c, l, by rw [toDigits_eq, he, List.append_nil], h0, hdig⟩

/-- `NUMBER_RE`'s integer part reads back what `str()` wrote, when no digit follows. -/
theorem natPart_toDigits (m : Nat) {t : List Char} (ht : ∀ c ∈ t.head?, c.isDigit = false) :
    natPart (Nat.toDigits 10 m ++ t) = some (m, t) := by
  rcases Nat.eq_zero_or_pos m with rfl | hm
  · rfl
  obtain ⟨c, l, he, h0, hdig, hval⟩ := toDigitsCore_spec (m + 1) m [] (by omega)
  have hl : ∀ d ∈ l, d.isDigit = true := fun d hd => hdig d (List.mem_cons_of_mem _ hd)
  have htw : t.takeWhile Char.isDigit = [] := by cases t <;> simp_all
  have hdw : t.dropWhile Char.isDigit = t := by cases t <;> simp_all
  rw [toDigits_eq, he, List.append_nil, List.cons_append, natPart,
    if_neg fun h => absurd (h0 h) (by omega), if_pos (hdig c (List.mem_cons_self _ _)),
    List.takeWhile_append_of_pos hl, List.dropWhile_append_of_pos hl, htw, hdw,
    List.append_nil, hval]

theorem isDigit_ne {c d : Char} (hc : c.isDigit = true) (hd : d.isDigit = false) : c ≠ d := by
  rintro rfl
  simp_all

theorem intPart_intChars (n : Int) {t : List Char} (ht : ∀ c ∈ t.head?, c.isDigit = false) :
    intPart (intChars n ++ t) = some (n, t) := by
  cases n with
  | ofNat m =>
    obtain ⟨c, l, he, -, hdig⟩ := toDigits_cons m
    have hc : c ≠ '-' := isDigit_ne (hdig c (List.mem_cons_self _ _)) rfl
    rw [intChars, he, List.cons_append, intPart, if_neg hc, ← List.cons_append, ← he,
      natPart_toDigits m ht]
    rfl
  | negSucc m =>
    rw [intChars, List.cons_append, intPart, if_pos rfl, natPart_toDigits (m + 1) ht]
    simp [Int.negSucc_eq]

/-- What may follow a value in the encoder's output: nothing, or a `,`, `]` or `}`. -/
def Delimited (t : List Char) : Prop := ∀ c ∈ t.head?, c = ',' ∨ c = ']' ∨ c = '\x7d'

theorem Delimited.not_isDigit {t : List Char} (h : Delimited t) :
    ∀ c ∈ t.head?, c.isDigit = false := fun c hc => by
  rcases h c hc with rfl | rfl | rfl <;> rfl

theorem Delimited.floatTail {t : List Char} (h : Delimited t) : floatTail t = false := by
  match t, h with
  | [], _ => rfl
  | c :: _, h => rcases h c rfl with rfl | rfl | rfl <;> rfl

theorem scanNumber_intChars (n : Int) {t : List Char} (h : Delimited t) :
    scanNumber (intChars n ++ t) = .ok (.int n, t) := by
  simp [scanNumber, intPart_intChars n h.not_isDigit, h.floatTail]

/-! ## One step of the scanner -/

theorem skipWs_cons_of_not_isWs {c : Char} (h : isWs c = false) (l : List Char) :
    skipWs (c :: l) = c :: l :=
  List.dropWhile_cons_of_neg (by simp [h])

@[simp] theorem skipWs_space (l : List Char) : skipWs (' ' :: l) = skipWs l :=
  List.dropWhile_cons_of_pos rfl

theorem scanOnce_quote (f : Nat) (s : List Char) :
    scanOnce (f + 1) ('"' :: s) = Except.map (fun p => (Json.str ⟨p.1⟩, p.2)) (scanString s) :=
  rfl

theorem scanOnce_brace (f : Nat) (s : List Char) :
    scanOnce (f + 1) ('\x7b' :: s) =
      if (skipWs s).head? = some '\x7d' then .ok (.obj .nil, (skipWs s).tail)
      else if (skipWs s).head? = some '"' then
        Except.map (fun p => (Json.obj (JsonItems.ofPairs p.1), p.2))
          (scanMembers f (skipWs s).tail)
      else .error (.valueError "Expecting property name enclosed in double quotes") :=
  rfl

theorem scanOnce_bracket (f : Nat) (s : List Char) :
    scanOnce (f + 1) ('[' :: s) =
      if (skipWs s).head? = some ']' then .ok (.arr .nil, (skipWs s).tail)
      else Except.map (fun p => (Json.arr p.1, p.2)) (scanElements f (skipWs s)) :=
  rfl

/-- A digit or a `-` starts no string, object, array or literal: `_scan_once` goes to
`match_number`. -/
theorem scanOnce_number (f : Nat) {c : Char} (hc : c.isDigit = true ∨ c = '-')
    (s : List Char) : scanOnce (f + 1) (c :: s) = scanNumber (c :: s) := by
  have ne : ∀ d : Char, d.isDigit = false → d ≠ '-' → c ≠ d := fun d hd hm =>
    hc.elim (isDigit_ne · hd) fun h => h ▸ hm.symm
  rw [scanOnce, if_neg (ne '"' rfl (by decide)), if_neg (ne '\x7b' rfl (by decide)),
    if_neg (ne '[' rfl (by decide)), if_neg fun h => ne 'n' rfl (by decide) h.1,
    if_neg fun h => ne 't' rfl (by decide) h.1, if_neg fun h => ne 'f' rfl (by decide) h.1]

end Json

/-! ## Values come back -/

mutual
/-- What `json.loads` makes of the encoding of a value: every object rebuilt by
`dict(pairs)` from its items, in order. -/
def Json.reload : Json → Json
  | .arr xs => .arr xs.reload
  | .obj kvs => .obj (JsonItems.ofPairs kvs.reload)
  | v => v

def JsonList.reload : JsonList → JsonList
  | .nil => .nil
  | .cons x xs => .cons x.reload xs.reload

def JsonItems.reload : JsonItems → List (String × Json)
  | .nil => []
  | .cons k v rest => (k, v.reload) :: rest.reload
end

mutual
/-- A value whose objects have distinct keys is its own `reload`. -/
theorem Json.reload_of_canonical : ∀ v : Json, v.canonical = true → v.reload = v
  | .null, _ | .bool _, _ | .int _, _ | .str _, _ => rfl
  | .arr xs, h => by rw [Json.reload, xs.reload_of_canonical h]
  | .obj kvs, h => by
    rw [Json.canonical, Bool.and_eq_true, decide_eq_true_eq] at h
    rw [Json.reload, kvs.reload_of_canonical h.2, JsonItems.ofPairs_toList h.1]

theorem JsonList.reload_of_canonical : ∀ xs : JsonList, xs.canonical = true → xs.reload = xs
  | .nil, _ => rfl
  | .cons x xs, h => by
    rw [JsonList.canonical, Bool.and_eq_true] at h
    rw [JsonList.reload, x.reload_of_canonical h.1, xs.reload_of_canonical h.2]

theorem JsonItems.reload_of_canonical : ∀ kvs : JsonItems, kvs.canonical = true →
    kvs.reload = kvs.toList
  | .nil, _ => rfl
  | .cons k v rest, h => by
    rw [JsonItems.canonical, Bool.and_eq_true] at h
    rw [JsonItems.reload, v.reload_of_canonical h.1, rest.reload_of_canonical h.2]
    rfl
end

section RoundTrip

open Json

theorem isWs_of_isDigit {c : Char} (hc : c.isDigit = true) : isWs c = false := by
  simp [isWs, isDigit_ne (d := ' ') hc rfl, isDigit_ne (d := '\t') hc rfl,
    isDigit_ne (d := '\n') hc rfl, isDigit_ne (d := '\r') hc rfl]

theorem intChars_head (n : Int) :
    ∃ c l, intChars n = c :: l ∧ (c.isDigit = true ∨ c = '-') := by
  cases n with
  | ofNat m =>
    obtain ⟨c, l, he, -, hdig⟩ := toDigits_cons m
    exact ⟨c, l, he, .inl (hdig c (List.mem_cons_self _ _))⟩
  | negSucc m => exact ⟨'-', _, rfl, .inr rfl⟩

/-- The encoder's output for a value starts with a character that is neither a blank nor
a `]`. -/
theorem Json.dumps_head (v : Json) : ∃ c l, v.dumps = c :: l ∧ isWs c = false ∧ c ≠ ']' := by
  cases v with
  | int n =>
    obtain ⟨c, l, he, hc | rfl⟩ := intChars_head n
    · exact ⟨c, l, he, isWs_of_isDigit hc, isDigit_ne hc rfl⟩
    · exact ⟨'-', l, he, rfl, by decide⟩
  | bool b => cases b <;> exact ⟨_, _, rfl, rfl, by decide⟩
  | _ => exact ⟨_, _, rfl, rfl, by decide⟩

theorem Json.skipWs_dumps (v : Json) (t : List Char) : skipWs (v.dumps ++ t) = v.dumps ++ t := by
  obtain ⟨c, l, he, hw, -⟩ := v.dumps_head
  rw [he, List.cons_append, skipWs_cons_of_not_isWs hw]

theorem Json.head_dumps_ne (v : Json) (t : List Char) : (v.dumps ++ t).head? ≠ some ']' := by
  obtain ⟨c, l, he, -, hc⟩ := v.dumps_head
  simpa [he] using hc

theorem JsonList.delimited_dumpsTail (xs : JsonList) (t : List Char) :
    Delimited (xs.dumpsTail ++ ']' :: t) := by
  cases xs <;> simp [JsonList.dumpsTail, Delimited]

theorem JsonItems.delimited_dumpsTail (kvs : JsonItems) (t : List Char) :
    Delimited (kvs.dumpsTail ++ '\x7d' :: t) := by
  cases kvs <;> simp [JsonItems.dumpsTail, Delimited]

theorem JsonList.dumpsTail_cons (y : Json) (ys : JsonList) (t : List Char) :
    (JsonList.cons y ys).dumpsTail ++ ']' :: t =
      ',' :: ' ' :: ((JsonList.cons y ys).dumps ++ ']' :: t) := by
  simp [JsonList.dumpsTail, JsonList.dumps]

theorem JsonItems.dumpsTail_cons (k : String) (v : Json) (r : JsonItems) (t : List Char) :
    (JsonItems.cons k v r).dumpsTail ++ '\x7d' :: t =
      ',' :: ' ' :: '"' :: ((JsonItems.cons k v r).dumps.tail ++ '\x7d' :: t) := by
  simp [JsonItems.dumpsTail, JsonItems.dumps, encodeString]

mutual
/-- With fuel twice the length of the text, `_scan_once` reads the encoding of a value back
as its `reload`, whatever may follow it in the encoder's output. -/
theorem Json.scanOnce_dumps : ∀ (v : Json) (f : Nat) (t : List Char),
    2 * (v.dumps ++ t).length + 1 ≤ f → Delimited t → scanOnce f (v.dumps ++ t) = .ok (v.reload, t)
  | _, 0, _, hf, _ => absurd hf (by omega)
  | .null, _ + 1, _, _, _ => rfl
  | .bool true, _ + 1, _, _, _ => rfl
  | .bool false, _ + 1, _, _, _ => rfl
  | .int n, f + 1, t, _, ht => by
    obtain ⟨c, l, he, hc⟩ := intChars_head n
    rw [Json.dumps, he, List.cons_append, scanOnce_number f hc, ← List.cons_append, ← he,
      scanNumber_intChars n ht]
    rfl
  | .str s, f + 1, t, _, _ => by
    rw [Json.dumps, encodeString, List.append_assoc, List.singleton_append, List.cons_append,
      scanOnce_quote, scanString_escapeChars]
    rfl
  | .arr .nil, _ + 1, _, _, _ => rfl
  | .arr (.cons x xs), f + 1, t, hf, _ => by
    simp only [Json.dumps, List.length_append, List.length_cons, List.length_singleton] at hf
    have hd : skipWs ((JsonList.cons x xs).dumps ++ ']' :: t) =
        (JsonList.cons x xs).dumps ++ ']' :: t := by
      rw [JsonList.dumps, List.append_assoc, x.skipWs_dumps]
    have hh : ((JsonList.cons x xs).dumps ++ ']' :: t).head? ≠ some ']' := by
      rw [JsonList.dumps, List.append_assoc]
      exact x.head_dumps_ne _
    simp only [Json.dumps, List.cons_append, List.append_assoc, List.singleton_append,
      List.nil_append]
    rw [scanOnce_bracket, hd, if_neg hh, JsonList.scanElements_dumps _ f t (by simp)
      (by simp only [List.length_append, List.length_cons]; omega)]
    rfl
  | .obj .nil, _ + 1, _, _, _ => rfl
  | .obj (.cons k v rest), f + 1, t, hf, _ => by
    simp only [Json.dumps, List.length_append, List.length_cons, List.length_singleton] at hf
    have hd : (JsonItems.cons k v rest).dumps ++ '\x7d' :: t =
        '"' :: ((JsonItems.cons k v rest).dumps.tail ++ '\x7d' :: t) := rfl
    have hl := congrArg List.length hd
    simp only [List.length_append, List.length_cons] at hl
    simp only [Json.dumps, List.cons_append, List.append_assoc, List.singleton_append,
      List.nil_append]
    rw [scanOnce_brace, hd, skipWs_cons_of_not_isWs (c := '"') rfl, List.head?_cons,
      if_neg (by decide), if_pos rfl, List.tail_cons, JsonItems.scanMembers_dumps _ f t (by simp)
      (by simp only [List.length_append, List.length_cons]; omega)]
    rfl

/-- `JSONArray`'s loop reads the elements back, up to the closing `]`. -/
theorem JsonList.scanElements_dumps : ∀ (xs : JsonList) (f : Nat) (t : List Char),
    xs ≠ .nil → 2 * (xs.dumps ++ ']' :: t).length + 2 ≤ f →
      scanElements f (xs.dumps ++ ']' :: t) = .ok (xs.reload, t)
  | .nil, _, _, h, _ => absurd rfl h
  | .cons _ _, 0, _, _, hf => absurd hf (by omega)
  | .cons x xs, f + 1, t, _, hf => by
    simp only [JsonList.dumps, List.length_append, List.length_cons] at hf
    rw [JsonList.dumps, List.append_assoc, scanElements,
      Json.scanOnce_dumps x f _ (by simp only [List.length_append, List.length_cons]; omega)
        (xs.delimited_dumpsTail t)]
    cases xs with
    | nil => rfl
    | cons y ys =>
      simp only [JsonList.dumpsTail, List.length_append, List.length_cons] at hf
      dsimp only
      rw [JsonList.dumpsTail_cons, skipWs_cons_of_not_isWs (c := ',') rfl, List.head?_cons,
        if_neg (by decide), if_pos rfl, List.tail_cons, skipWs_space, JsonList.dumps,
        List.append_assoc, y.skipWs_dumps, ← List.append_assoc, ← JsonList.dumps,
        JsonList.scanElements_dumps (.cons y ys) f t (by simp)
          (by simp only [JsonList.dumps, List.length_append, List.length_cons]; omega)]
      rfl

/-- `JSONObject`'s loop reads the items back as its list of pairs, up to the closing
`}`. -/
theorem JsonItems.scanMembers_dumps : ∀ (kvs : JsonItems) (f : Nat) (t : List Char),
    kvs ≠ .nil → 2 * (kvs.dumps.tail ++ '\x7d' :: t).length + 1 ≤ f →
      scanMembers f (kvs.dumps.tail ++ '\x7d' :: t) = .ok (kvs.reload, t)
  | .nil, _, _, h, _ => absurd rfl h
  | .cons _ _ _, 0, _, _, hf => absurd hf (by omega)
  | .cons k v rest, f + 1, t, _, hf => by
    have hk : (JsonItems.cons k v rest).dumps.tail ++ '\x7d' :: t =
        escapeChars k.toList ++ '"' :: ':' :: ' ' ::
          (v.dumps ++ (rest.dumpsTail ++ '\x7d' :: t)) := by
      simp [JsonItems.dumps, encodeString]
    rw [hk] at hf ⊢
    simp only [List.length_append, List.length_cons] at hf
    rw [scanMembers, scanString_escapeChars]
    dsimp only
    rw [skipWs_cons_of_not_isWs (c := ':') rfl, List.head?_cons, if_pos rfl, List.tail_cons,
      skipWs_space, v.skipWs_dumps, Json.scanOnce_dumps v f _
        (by simp only [List.length_append, List.length_cons]; omega) (rest.delimited_dumpsTail t)]
    dsimp only
    cases rest with
    | nil => rfl
    | cons k' v' r' =>
      simp only [JsonItems.dumpsTail, encodeString, List.length_append, List.length_cons,
        List.length_singleton] at hf
      rw [JsonItems.dumpsTail_cons, skipWs_cons_of_not_isWs (c := ',') rfl, List.head?_cons,
        if_neg (by decide), if_pos rfl, List.tail_cons, skipWs_space,
        skipWs_cons_of_not_isWs (c := '"') rfl, List.head?_cons, if_pos rfl, List.tail_cons,
        JsonItems.scanMembers_dumps (.cons k' v' r') f t (by simp)
          (by simp only [JsonItems.dumps, encodeString, List.length_tail, List.length_append,
            List.length_cons, List.length_singleton]; omega)]
      rfl
end

/-- `json.loads(json.dumps(v))` is `v` with every object rebuilt by `dict(pairs)`. -/
theorem loads_dumps_eq_reload (v : Json) : loads ⟨v.dumps⟩ = .ok v.reload := by
  rw [loads, show (⟨v.dumps⟩ : String).length = v.dumps.length from rfl,
    show (⟨v.dumps⟩ : String).toList = v.dumps ++ [] from (List.append_nil _).symm, v.skipWs_dumps,
    v.scanOnce_dumps _ [] (by simp) (by simp [Delimited])]
  rfl

/-- **The round trip.** `json.loads(json.dumps(v))` gives back every value whose objects
have distinct keys. -/
theorem loads_dumps (v : Json) (h : v.canonical = true) : loads ⟨v.dumps⟩ = .ok v := by
  rw [loads_dumps_eq_reload, v.reload_of_canonical h]

/-- An object holding a string with an accent and a character past the BMP, and an
array. -/
def sampleValue : Json :=
  .obj (.cons "name" (.str "é😀") (.cons "rows" (.arr (.cons (.int (-12)) (.cons .null .nil))) .nil))

theorem loads_dumps_sampleValue :
    sampleValue.canonical = true ∧ loads ⟨sampleValue.dumps⟩ = .ok sampleValue :=
  ⟨rfl, loads_dumps sampleValue rfl⟩

end RoundTrip

end RedashRunners
