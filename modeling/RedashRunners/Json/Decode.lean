import RedashRunners.Json.Value

/-!
# The decoder

`Json.loads` is `JSONDecoder.decode` over the pure-Python scanner: `_scan_once`, the loops
of `JSONArray` and `JSONObject`, `py_scanstring` and `_decode_uXXXX`. An object is built
with `dict(pairs)` (`JsonItems.ofPairs`).

Floats, `NaN` and `Infinity` are left out: the scanner reports them as `leftOut`, as it
does a lone surrogate, which `unichr` builds and a Lean `Char` cannot hold. Error messages
are the text before `errmsg`'s position suffix. The scanner takes fuel; `loads` gives it
twice the length of the input, which is enough for any text (`loads_ne_fuel`).
-/

namespace RedashRunners

/-! ## The decoder -/

/-- How a scan stops short of a value: `StopIteration` where no value starts, a
`ValueError` with its message, or input the model leaves out (a float, a lone surrogate,
the leniency of `int()`, running out of fuel). -/
inductive ScanError where
  | stopIteration
  | valueError (msg : String)
  | leftOut (what : String)
  deriving DecidableEq, Repr

namespace Json

/-- What a scan read, and the input after it. -/
abbrev Scan (α : Type) := Except ScanError (α × List Char)

/-- `WHITESPACE_STR = ' \t\n\r'`. -/
def isWs (c : Char) : Bool := c == ' ' || c == '\t' || c == '\n' || c == '\r'

/-- `WHITESPACE.match(s, end).end()`: the input past `[ \t\n\r]*`. -/
def skipWs (s : List Char) : List Char := s.dropWhile isWs

/-- A hex digit's value, in either case. -/
def hexVal (c : Char) : Option Nat :=
  if '0' ≤ c ∧ c ≤ '9' then some (c.toNat - 48)
  else if 'a' ≤ c ∧ c ≤ 'f' then some (c.toNat - 87)
  else if 'A' ≤ c ∧ c ≤ 'F' then some (c.toNat - 55)
  else none

/-- `_decode_uXXXX` on the four characters after `\u`: `int(esc, 16)`. Four hex digits
give their value; a sign, a blank or a character outside printable ASCII is read by
`int()` in ways the model leaves out; anything else is refused. -/
def decodeHex (a b c d : Char) : Except ScanError Nat :=
  match hexVal a, hexVal b, hexVal c, hexVal d with
  | some a, some b, some c, some d => .ok (((a * 16 + b) * 16 + c) * 16 + d)
  | _, _, _, _ =>
    if [a, b, c, d].any fun c => c == '+' || c == '-' || !decide (' ' < c ∧ c ≤ '~') then
      .error (.leftOut "int() of a signed or blank escape")
    else .error (.valueError "Invalid \\uXXXX escape")

/-- `BACKSLASH`: the character each short escape stands for. -/
def backslash : Char → Option Char
  | '"' => some '"'
  | '\\' => some '\\'
  | '/' => some '/'
  | 'b' => some '\x08'
  | 'f' => some '\x0c'
  | 'n' => some '\n'
  | 'r' => some '\r'
  | 't' => some '\t'
  | _ => none

/-- `repr()` of a one-character byte string: a unicode string's `repr` without its `u`. -/
def charRepr (c : Char) : String := ⟨(reprUnicode c.toString).toList.tail⟩

/-- `_append(char)`: a character before the rest of the string being scanned. -/
def consChar (c : Char) (r : Scan (List Char)) : Scan (List Char) :=
  Except.map (fun p => (c :: p.1, p.2)) r

mutual
/-- `py_scanstring(s, end)` from just after the opening quote: `STRINGCHUNK` takes
characters up to a quote, a backslash or a control character; a quote ends the string, and
a control character is refused (`strict`). -/
def scanString : List Char → Scan (List Char)
  | [] => .error (.valueError "Unterminated string starting at")
  | c :: s =>
    if c = '"' then .ok ([], s)
    else if c = '\\' then scanEscape s
    else if c.toNat < 0x20 then
      .error (.valueError ("Invalid control character " ++ charRepr c ++ " at"))
    else consChar c (scanString s)

/-- `py_scanstring` after a backslash: `u` starts a `\uXXXX` escape, any other character
is looked up in `BACKSLASH`. -/
def scanEscape : List Char → Scan (List Char)
  | [] => .error (.valueError "Unterminated string starting at")
  | e :: s =>
    if e = 'u' then scanUnicode s
    else match backslash e with
      | some c => consChar c (scanString s)
      | none =>
        if e.toNat < 128 then .error (.valueError ("Invalid \\escape: " ++ charRepr e))
        else .error (.leftOut "a non-ASCII escape")

/-- `py_scanstring` after `\u`: `_decode_uXXXX`, then `unichr(uni)`, unless `uni` is a
high surrogate, which looks for its low half. -/
def scanUnicode : List Char → Scan (List Char)
  | a :: b :: c :: d :: s =>
    match decodeHex a b c d with
    | .error e => .error e
    | .ok uni =>
      if 0xd800 ≤ uni ∧ uni ≤ 0xdbff then scanLow uni s
      else if 0xdc00 ≤ uni ∧ uni ≤ 0xdfff then .error (.leftOut "a lone surrogate")
      else consChar (Char.ofNat uni) (scanString s)
  | _ => .error (.valueError "Invalid \\uXXXX escape")

/-- `py_scanstring` after a high surrogate `uni`: if `s[end:end + 2] == '\\u'`,
`_decode_uXXXX` again, and a low surrogate `uni2` makes the pair
`0x10000 + (((uni - 0xd800) << 10) | (uni2 - 0xdc00))`. -/
def scanLow (uni : Nat) : List Char → Scan (List Char)
  | c₁ :: c₂ :: s =>
    if c₁ = '\\' ∧ c₂ = 'u' then
      match s with
      | a :: b :: c :: d :: s =>
        match decodeHex a b c d with
        | .error e => .error e
        | .ok uni2 =>
          if 0xdc00 ≤ uni2 ∧ uni2 ≤ 0xdfff then
            consChar (Char.ofNat (0x10000 + (uni - 0xd800) * 0x400 + (uni2 - 0xdc00)))
              (scanString s)
          else .error (.leftOut "a lone surrogate")
      | _ => .error (.valueError "Invalid \\uXXXX escape")
    else .error (.leftOut "a lone surrogate")
  | _ => .error (.leftOut "a lone surrogate")
end

/-- The value of a run of decimal digits, as `int()` reads it. -/
def digitsValue (ds : List Char) : Nat := ds.foldl (fun n d => 10 * n + (d.toNat - 48)) 0

/-- `NUMBER_RE`'s integer part without its sign, `0|[1-9]\d*`: the value, and the input
after it. -/
def natPart : List Char → Option (Nat × List Char)
  | [] => none
  | c :: s =>
    if c = '0' then some (0, s)
    else if c.isDigit then
      some (digitsValue (c :: s.takeWhile Char.isDigit), s.dropWhile Char.isDigit)
    else none

/-- `NUMBER_RE`'s integer group, `-?(?:0|[1-9]\d*)`. -/
def intPart : List Char → Option (Int × List Char)
  | [] => none
  | c :: s =>
    if c = '-' then (natPart s).map fun p => (-(p.1 : Int), p.2)
    else (natPart (c :: s)).map fun p => ((p.1 : Int), p.2)

/-- Whether the exponent group `[eE][-+]?\d+` matches past its `e`. -/
def expDigits : List Char → Bool
  | '+' :: d :: _ | '-' :: d :: _ => d.isDigit
  | d :: _ => d.isDigit
  | [] => false

/-- Whether `NUMBER_RE`'s fraction `(\.\d+)?` or exponent `([eE][-+]?\d+)?` group matches
after the integer part: then the number is a float. -/
def floatTail : List Char → Bool
  | '.' :: d :: _ => d.isDigit
  | 'e' :: s | 'E' :: s => expDigits s
  | _ => false

/-- `_scan_once` past the literals: `match_number`, an `int` unless a fraction or an
exponent follows; then the constants `NaN`, `Infinity` and `-Infinity`; else
`StopIteration`. -/
def scanNumber (s : List Char) : Scan Json :=
  match intPart s with
  | some (n, r) => if floatTail r then .error (.leftOut "a float") else .ok (.int n, r)
  | none =>
    if ['N', 'a', 'N'].isPrefixOf s || ['I', 'n', 'f', 'i', 'n', 'i', 't', 'y'].isPrefixOf s ||
        ['-', 'I', 'n', 'f', 'i', 'n', 'i', 't', 'y'].isPrefixOf s then
      .error (.leftOut "a float constant")
    else .error .stopIteration

mutual
/-- `_scan_once(string, idx)`, by the first character: a string; an object (`JSONObject`:
past blanks, a `}` ends an empty one and a `"` starts the first key); an array
(`JSONArray`: past blanks, a `]` ends an empty one); the literals `null`, `true` and
`false`; else a number. -/
def scanOnce : Nat → List Char → Scan Json
  | 0, _ => .error (.leftOut "fuel")
  | _ + 1, [] => .error .stopIteration
  | f + 1, c :: s =>
    if c = '"' then Except.map (fun p => (Json.str ⟨p.1⟩, p.2)) (scanString s)
    else if c = '\x7b' then
      let r := skipWs s
      if r.head? = some '\x7d' then .ok (.obj .nil, r.tail)
      else if r.head? = some '"' then
        Except.map (fun p => (Json.obj (JsonItems.ofPairs p.1), p.2)) (scanMembers f r.tail)
      else .error (.valueError "Expecting property name enclosed in double quotes")
    else if c = '[' then
      let r := skipWs s
      if r.head? = some ']' then .ok (.arr .nil, r.tail)
      else Except.map (fun p => (Json.arr p.1, p.2)) (scanElements f r)
    else if c = 'n' ∧ s.take 3 = ['u', 'l', 'l'] then .ok (.null, s.drop 3)
    else if c = 't' ∧ s.take 3 = ['r', 'u', 'e'] then .ok (.bool true, s.drop 3)
    else if c = 'f' ∧ s.take 4 = ['a', 'l', 's', 'e'] then .ok (.bool false, s.drop 4)
    else scanNumber (c :: s)

/-- `JSONArray`'s loop, at an element: `scan_once` (where no value starts, `Expecting
object`), past blanks, then a `]` ends the array, and a `,` and blanks lead to the
next. -/
def scanElements : Nat → List Char → Scan JsonList
  | 0, _ => .error (.leftOut "fuel")
  | f + 1, s =>
    match scanOnce f s with
    | .error .stopIteration => .error (.valueError "Expecting object")
    | .error e => .error e
    | .ok (x, r) =>
      let r := skipWs r
      if r.head? = some ']' then .ok (.cons x .nil, r.tail)
      else if r.head? = some ',' then
        Except.map (fun p => (JsonList.cons x p.1, p.2)) (scanElements f (skipWs r.tail))
      else .error (.valueError "Expecting \x27,\x27 delimiter")

/-- `JSONObject`'s loop, just after a key's opening quote: the key (`scanstring`), past
blanks a `:`, past blanks the value (`scan_once`), past blanks a `}` or a `,`, and after a
`,` and blanks the next key's quote. -/
def scanMembers : Nat → List Char → Scan (List (String × Json))
  | 0, _ => .error (.leftOut "fuel")
  | f + 1, s =>
    match scanString s with
    | .error e => .error e
    | .ok (k, r) =>
      let r := skipWs r
      if r.head? = some ':' then
        match scanOnce f (skipWs r.tail) with
        | .error .stopIteration => .error (.valueError "Expecting object")
        | .error e => .error e
        | .ok (v, r) =>
          let r := skipWs r
          if r.head? = some '\x7d' then .ok ([(⟨k⟩, v)], r.tail)
          else if r.head? = some ',' then
            let r := skipWs r.tail
            if r.head? = some '"' then
              Except.map (fun p => ((⟨k⟩, v) :: p.1, p.2)) (scanMembers f r.tail)
            else .error (.valueError "Expecting property name enclosed in double quotes")
          else .error (.valueError "Expecting \x27,\x27 delimiter")
      else .error (.valueError "Expecting \x27:\x27 delimiter")
end

/-- `json.loads(s)`, `JSONDecoder.decode`: past blanks, `raw_decode` scans one value
(where none starts, `No JSON object could be decoded`), and only blanks may follow it. -/
def loads (s : String) : Except ScanError Json :=
  match scanOnce (2 * s.length + 1) (skipWs s.toList) with
  | .error .stopIteration => .error (.valueError "No JSON object could be decoded")
  | .error e => .error e
  | .ok (v, r) => if skipWs r = [] then .ok v else .error (.valueError "Extra data")

example : loads "[1, \x7b\"a\": true, \"a\": null\x7d, \"\\u00e9\\ud83d\\ude00\"]" =
    .ok (.arr (.cons (.int 1) (.cons (.obj (.cons "a" .null .nil))
      (.cons (.str "é😀") .nil)))) := rfl

example : loads "[1, 2.5]" = .error (.leftOut "a float") := rfl

example : loads "\x7b\"a\" 1\x7d" =
    .error (.valueError "Expecting \x27:\x27 delimiter") := rfl

end Json

end RedashRunners
