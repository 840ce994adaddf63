import RedashRunners.Json.Value

/-!
# The encoder

`Json.dumps` is `JSONEncoder.encode` with the runners' defaults, `ensure_ascii=True` and
the separators `', '` and `': '`: strings go through `py_encode_basestring_ascii`,
integers through `str()`, lists and dicts through `_iterencode_list` and
`_iterencode_dict`. (CPython runs the C encoder of `_json`, which writes the same text.)

`dumps_printable` is what `ensure_ascii` promises: every value is written in printable
ASCII, and every string character by character in one of the forms `Escaped` lists.
-/

namespace RedashRunners

namespace Json

/-- `'\\u{0:04x}'.format(n)`. -/
def uEscape (n : Nat) : List Char :=
  ['\\', 'u', hexDigit (n / 4096 % 16), hexDigit (n / 256 % 16), hexDigit (n / 16 % 16),
    hexDigit (n % 16)]

/-- The `replace` of `py_encode_basestring_ascii`, on a character: `ESCAPE_ASCII` matches a
backslash, a double quote and everything outside `' '`..`'~'`; `ESCAPE_DCT` names the
seven short escapes and writes the other control characters as `\u00XX`; a character
past the BMP becomes the surrogate pair `0xd800 | ((n >> 10) & 0x3ff)`,
`0xdc00 | (n & 0x3ff)` of `n = ord(c) - 0x10000`. -/
def escapeChar (c : Char) : List Char :=
  if c = '\\' then ['\\', '\\']
  else if c = '"' then ['\\', '"']
  else if c = '\x08' then ['\\', 'b']
  else if c = '\x0c' then ['\\', 'f']
  else if c = '\n' then ['\\', 'n']
  else if c = '\r' then ['\\', 'r']
  else if c = '\t' then ['\\', 't']
  else if ' ' ≤ c ∧ c ≤ '~' then [c]
  else if c.toNat < 0x10000 then uEscape c.toNat
  else
    uEscape (0xd800 + (c.toNat - 0x10000) / 0x400) ++
      uEscape (0xdc00 + (c.toNat - 0x10000) % 0x400)

/-- The escaped characters of a string, without the quotes. -/
def escapeChars (s : List Char) : List Char := s.flatMap escapeChar

/-- `encode_basestring_ascii(s)`: `'"' + ESCAPE_ASCII.sub(replace, s) + '"'`. -/
def encodeString (s : String) : List Char := '"' :: escapeChars s.toList ++ ['"']

/-- `str(n)` of an int or a long: its decimal digits, after a `-` if negative. -/
def intChars : Int → List Char
  | .ofNat m => Nat.toDigits 10 m
  | .negSucc m => '-' :: Nat.toDigits 10 (m + 1)

end Json

mutual
/-- `JSONEncoder.encode(o)` with the default separators: `_iterencode` writes `null`,
`true`, `false`, `str(o)` for an integer and `encode_basestring_ascii` for a string, and
hands lists and dicts to `_iterencode_list` and `_iterencode_dict`, which write `[]` and
`{}` when empty. -/
def Json.dumps : Json → List Char
  | .null => ['n', 'u', 'l', 'l']
  | .bool true => ['t', 'r', 'u', 'e']
  | .bool false => ['f', 'a', 'l', 's', 'e']
  | .int n => Json.intChars n
  | .str s => Json.encodeString s
  | .arr xs => '[' :: xs.dumps ++ [']']
  | .obj kvs => '\x7b' :: kvs.dumps ++ ['\x7d']

/-- `_iterencode_list`'s loop: the first element, then `', '` before each of the others. -/
def JsonList.dumps : JsonList → List Char
  | .nil => []
  | .cons x xs => x.dumps ++ xs.dumpsTail

def JsonList.dumpsTail : JsonList → List Char
  | .nil => []
  | .cons x xs => ',' :: ' ' :: x.dumps ++ xs.dumpsTail

/-- `_iterencode_dict`'s loop: each key encoded as a string, the key separator `': '`, the
value; `', '` before each item but the first. -/
def JsonItems.dumps : JsonItems → List Char
  | .nil => []
  | .cons k v rest => Json.encodeString k ++ ':' :: ' ' :: v.dumps ++ rest.dumpsTail

def JsonItems.dumpsTail : JsonItems → List Char
  | .nil => []
  | .cons k v rest => ',' :: ' ' :: Json.encodeString k ++ ':' :: ' ' :: v.dumps ++ rest.dumpsTail
end

namespace Json

/-! ## The digits of `str()` -/

theorem toDigitsCore_succ (f n : Nat) (ds : List Char) :
    Nat.toDigitsCore 10 (f + 1) n ds = if n / 10 = 0 then Nat.digitChar (n % 10) :: ds
      else Nat.toDigitsCore 10 f (n / 10) (Nat.digitChar (n % 10) :: ds) := rfl

theorem toDigits_eq (m : Nat) : Nat.toDigits 10 m = Nat.toDigitsCore 10 (m + 1) m [] := rfl

theorem isDigit_digitChar : ∀ d < 10, (Nat.digitChar d).isDigit = true := by decide

theorem isDigit_toDigitsCore : ∀ (f n : Nat) (ds : List Char), (∀ c ∈ ds, c.isDigit = true) →
    ∀ c ∈ Nat.toDigitsCore 10 f n ds, c.isDigit = true
  | 0, _, _, h => h
  | f + 1, n, ds, h => by
    have hds : ∀ c ∈ Nat.digitChar (n % 10) :: ds, c.isDigit = true :=
      List.forall_mem_cons.2 ⟨isDigit_digitChar _ (Nat.mod_lt _ (by decide)), h⟩
    rw [toDigitsCore_succ]
    split
    · exact hds
    · exact isDigit_toDigitsCore f _ _ hds

/-! ## The forms a character is written in

`Escaped` restates the json module's account of `ensure_ascii` (its docstring and
`ESCAPE_DCT`) independently of `escapeChar`'s branches. -/

/-- The characters `ESCAPE_DCT` writes as a backslash and a letter. -/
def shortEscapes : List (Char × Char) :=
  [('\\', '\\'), ('"', '"'), ('\x08', 'b'), ('\x0c', 'f'), ('\n', 'n'), ('\r', 'r'),
    ('\t', 't')]

/-- Four lowercase hex digits, most significant first, whose value is `n`. -/
def LowerHex (n : Nat) (ds : List Char) : Prop :=
  ds.length = 4 ∧ (∀ d ∈ ds, d ∈ "0123456789abcdef".toList) ∧
    ds.foldl (fun v d => 16 * v + "0123456789abcdef".toList.indexOf d) 0 = n

/-- How `ensure_ascii` may write a character: itself, if it is printable ASCII other than
`"` and `\`; a backslash and a letter, for the seven short escapes; `\u` and the four
lowercase hex digits of its code point, for any other character of the BMP; the `\u`
escapes of its UTF-16 surrogate pair past the BMP. -/
inductive Escaped : Char → List Char → Prop where
  | self {c : Char} : ' ' ≤ c → c ≤ '~' → c ≠ '"' → c ≠ '\\' → Escaped c [c]
  | short {c e : Char} : (c, e) ∈ shortEscapes → Escaped c ['\\', e]
  | bmp {c : Char} {ds : List Char} : ¬ (' ' ≤ c ∧ c ≤ '~') → c ∉ shortEscapes.map Prod.fst →
      c.toNat < 0x10000 → LowerHex c.toNat ds → Escaped c ('\\' :: 'u' :: ds)
  | pair {c : Char} {hi lo : List Char} : 0x10000 ≤ c.toNat →
      LowerHex (0xd800 + (c.toNat - 0x10000) / 0x400) hi →
      LowerHex (0xdc00 + (c.toNat - 0x10000) % 0x400) lo →
      Escaped c ('\\' :: 'u' :: hi ++ '\\' :: 'u' :: lo)

theorem lowerHex_hexDigit :
    ∀ d < 16, hexDigit d ∈ "0123456789abcdef".toList ∧
      "0123456789abcdef".toList.indexOf (hexDigit d) = d := by decide

theorem lowerHex_uEscape {n : Nat} (h : n < 0x10000) : LowerHex n (uEscape n).tail.tail := by
  have hd := fun d => lowerHex_hexDigit (d % 16) (Nat.mod_lt _ (by decide))
  refine ⟨rfl, ?_, ?_⟩
  · simp only [uEscape, List.tail_cons, List.mem_cons, List.mem_singleton, List.not_mem_nil,
      or_false]
    rintro c (rfl | rfl | rfl | rfl) <;> exact (hd _).1
  · simp only [uEscape, List.tail_cons, List.foldl_cons, List.foldl_nil, (hd _).2]
    omega

/-- A `Char` is a Unicode scalar value: below the surrogates, or above them and below
`0x110000`. -/
theorem toNat_valid (c : Char) : c.toNat < 0xd800 ∨ 0xdfff < c.toNat ∧ c.toNat < 0x110000 :=
  c.valid

theorem escaped_escapeChar (c : Char) : Escaped c (escapeChar c) := by
  by_cases h1 : c = '\\'; · subst h1; exact .short (by decide)
  by_cases h2 : c = '"'; · subst h2; exact .short (by decide)
  by_cases h3 : c = '\x08'; · subst h3; exact .short (by decide)
  by_cases h4 : c = '\x0c'; · subst h4; exact .short (by decide)
  by_cases h5 : c = '\n'; · subst h5; exact .short (by decide)
  by_cases h6 : c = '\r'; · subst h6; exact .short (by decide)
  by_cases h7 : c = '\t'; · subst h7; exact .short (by decide)
  rw [escapeChar, if_neg h1, if_neg h2, if_neg h3, if_neg h4, if_neg h5, if_neg h6, if_neg h7]
  by_cases hp : ' ' ≤ c ∧ c ≤ '~'
  · rw [if_pos hp]
    exact .self hp.1 hp.2 h2 h1
  rw [if_neg hp]
  have hv := toNat_valid c
  split
  · exact .bmp hp (by simp [shortEscapes, h1, h2, h3, h4, h5, h6, h7]) ‹_›
      (lowerHex_uEscape ‹_›)
  · exact .pair (by omega) (lowerHex_uEscape (by omega)) (lowerHex_uEscape (by omega))

/-! ## The encoder writes printable ASCII -/

/-- A character of `' '`..`'~'`, the alphabet `ensure_ascii` writes in. -/
def Printable (l : List Char) : Prop := ∀ c ∈ l, ' ' ≤ c ∧ c ≤ '~'

instance (l : List Char) : Decidable (Printable l) :=
  inferInstanceAs (Decidable (∀ c ∈ l, ' ' ≤ c ∧ c ≤ '~'))

theorem Printable.append {a b : List Char} (ha : Printable a) (hb : Printable b) :
    Printable (a ++ b) := fun c hc => (List.mem_append.1 hc).elim (ha c) (hb c)

theorem Printable.cons {c : Char} {l : List Char} (hc : ' ' ≤ c ∧ c ≤ '~') (hl : Printable l) :
    Printable (c :: l) := fun d hd => (List.mem_cons.1 hd).elim (· ▸ hc) (hl d)

theorem Escaped.printable {c : Char} {b : List Char} (h : Escaped c b) : Printable b := by
  have hex : ∀ n ds, LowerHex n ds → Printable ds := fun _ _ h d hd =>
    (by decide : ∀ d ∈ "0123456789abcdef".toList, ' ' ≤ d ∧ d ≤ '~') d (h.2.1 d hd)
  cases h with
  | self h₁ h₂ => exact .cons ⟨h₁, h₂⟩ fun _ h => absurd h (List.not_mem_nil _)
  | short h =>
    have : ∀ p ∈ shortEscapes, ' ' ≤ p.2 ∧ p.2 ≤ '~' := by decide
    exact .cons (by decide) (.cons (this _ h) fun _ h => absurd h (List.not_mem_nil _))
  | bmp _ _ _ h => exact .cons (by decide) (.cons (by decide) (hex _ _ h))
  | pair _ h₁ h₂ => exact .cons (by decide) (.cons (by decide) ((hex _ _ h₁).append
      (.cons (by decide) (.cons (by decide) (hex _ _ h₂)))))

theorem printable_escapeChar (c : Char) : Printable (escapeChar c) :=
  (escaped_escapeChar c).printable

theorem printable_escapeChars (cs : List Char) : Printable (escapeChars cs) := fun c hc => by
  obtain ⟨d, -, hd⟩ := List.mem_flatMap.1 hc
  exact printable_escapeChar d c hd

theorem printable_encodeString (s : String) : Printable (encodeString s) :=
  (Printable.cons (by decide) (printable_escapeChars _)).append (Printable.cons (by decide)
    fun _ h => absurd h (List.not_mem_nil _))

theorem printable_intChars (n : Int) : Printable (intChars n) := by
  have digits : ∀ m, Printable (Nat.toDigits 10 m) := fun m c hc => by
    have := isDigit_toDigitsCore _ _ _ (fun _ h => absurd h (List.not_mem_nil _)) c
      (toDigits_eq m ▸ hc)
    simp only [Char.isDigit, Bool.and_eq_true, decide_eq_true_eq] at this
    have h : 48 ≤ c.toNat ∧ c.toNat ≤ 57 := this
    exact ⟨show 32 ≤ c.toNat by omega, show c.toNat ≤ 126 by omega⟩
  cases n with
  | ofNat m => exact digits m
  | negSucc m => exact Printable.cons (by decide) (digits _)

end Json

mutual
theorem Json.printable_dumps : ∀ v : Json, Json.Printable v.dumps
  | .null | .bool true | .bool false => by decide
  | .int n => Json.printable_intChars n
  | .str s => Json.printable_encodeString s
  | .arr xs => (Json.Printable.cons (by decide) xs.printable_dumps).append (by decide)
  | .obj kvs => (Json.Printable.cons (by decide) kvs.printable_dumps).append (by decide)

theorem JsonList.printable_dumps : ∀ xs : JsonList, Json.Printable xs.dumps
  | .nil => fun _ h => absurd h (List.not_mem_nil _)
  | .cons x xs => x.printable_dumps.append xs.printable_dumpsTail

theorem JsonList.printable_dumpsTail : ∀ xs : JsonList, Json.Printable xs.dumpsTail
  | .nil => fun _ h => absurd h (List.not_mem_nil _)
  | .cons x xs => Json.Printable.cons (by decide) (Json.Printable.cons (by decide)
      (x.printable_dumps.append xs.printable_dumpsTail))

theorem JsonItems.printable_dumps : ∀ kvs : JsonItems, Json.Printable kvs.dumps
  | .nil => fun _ h => absurd h (List.not_mem_nil _)
  | .cons k v rest => ((Json.printable_encodeString k).append (Json.Printable.cons (by decide)
      (Json.Printable.cons (by decide) v.printable_dumps))).append rest.printable_dumpsTail

theorem JsonItems.printable_dumpsTail : ∀ kvs : JsonItems, Json.Printable kvs.dumpsTail
  | .nil => fun _ h => absurd h (List.not_mem_nil _)
  | .cons k v rest => Json.Printable.cons (by decide) (Json.Printable.cons (by decide)
      (((Json.printable_encodeString k).append (Json.Printable.cons (by decide)
        (Json.Printable.cons (by decide) v.printable_dumps))).append rest.printable_dumpsTail))
end

namespace Json

/-- **`ensure_ascii`.** `json.dumps` writes every value in printable ASCII, and a string
as `"`, one block per character, `"`, each block in a form `Escaped` allows: no character
is dropped, a printable one other than `"` and `\` is written as itself, and the escapes
are the seven short ones, `\u` with four lowercase hex digits, or a surrogate pair. -/
theorem dumps_printable :
    (∀ v : Json, Printable v.dumps) ∧
      ∀ s : String, ∃ blocks : List (List Char),
        (Json.str s).dumps = '"' :: blocks.flatten ++ ['"'] ∧
          List.Forall₂ Escaped s.toList blocks :=
  ⟨Json.printable_dumps, fun s => ⟨s.toList.map escapeChar, rfl,
    List.forall₂_map_right_iff.2 (List.forall₂_same.2 fun c _ => escaped_escapeChar c)⟩⟩

end Json

end RedashRunners
