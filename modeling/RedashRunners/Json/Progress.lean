import RedashRunners.Json.RoundTrip

/-!
# The decoder consumes its input

`Consumes P s x`: a scan of `s` that succeeds leaves strictly less input and a value
satisfying `P`, and no scan stops for lack of fuel. Each scanner has it, by induction on
the fuel (`scan_consumes`). Two results follow: `loads_ne_fuel`, the fuel `loads` gives
is enough for every text, and `loads_canonical`, every object `loads` builds has
distinct keys, the value under a repeated key being the last one the text gives.
-/

namespace RedashRunners

namespace Json

/-- A scan of `s` that behaves as Python's does: when it succeeds it has consumed input and
its value has `P`, and it does not stop for lack of fuel. -/
def Consumes {α : Type} (P : α → Prop) (s : List Char) (x : Scan α) : Prop :=
  (∀ a r, x = .ok (a, r) → r.length < s.length ∧ P a) ∧ x ≠ .error (.leftOut "fuel")

section Consumes

variable {α β : Type} {P : α → Prop} {s s' : List Char}

theorem Consumes.ok {a : α} {r : List Char} (h : r.length < s.length) (ha : P a) :
    Consumes P s (.ok (a, r)) :=
  ⟨fun _ _ he => by cases he; exact ⟨h, ha⟩, nofun⟩

theorem Consumes.error {e : ScanError} (h : e ≠ .leftOut "fuel") :
    Consumes P s (.error e : Scan α) :=
  ⟨nofun, fun he => h (Except.error.inj he)⟩

theorem Consumes.mono {x : Scan α} (h : Consumes P s x) (hl : s.length ≤ s'.length) :
    Consumes P s' x :=
  ⟨fun a r he => ⟨lt_of_lt_of_le (h.1 a r he).1 hl, (h.1 a r he).2⟩, h.2⟩

theorem Consumes.map {Q : β → Prop} {x : Scan α} (h : Consumes P s x) (g : α → β)
    (hg : ∀ a, P a → Q (g a)) : Consumes Q s (Except.map (fun p => (g p.1, p.2)) x) := by
  cases x with
  | error e => exact Consumes.error fun he => h.2 (he ▸ rfl)
  | ok p => exact Consumes.ok (h.1 p.1 p.2 rfl).1 (hg _ (h.1 p.1 p.2 rfl).2)

theorem Consumes.consChar {c : Char} {x : Scan (List Char)} (h : Consumes (fun _ => True) s x) :
    Consumes (fun _ => True) (c :: s) (consChar c x) :=
  (h.map (c :: ·) fun _ _ => trivial).mono (Nat.le_succ _)

end Consumes

theorem decodeHex_ne_fuel (a b c d : Char) : decodeHex a b c d ≠ .error (.leftOut "fuel") := by
  unfold decodeHex
  split
  · nofun
  · split_ifs <;> simp

mutual
theorem scanString_consumes : ∀ s, Consumes (fun _ => True) s (scanString s)
  | [] => Consumes.error nofun
  | c :: s => by
    rw [scanString]
    split_ifs
    · exact Consumes.ok (Nat.lt_succ_self _) trivial
    · exact (scanEscape_consumes s).mono (Nat.le_succ _)
    · exact Consumes.error nofun
    · exact (scanString_consumes s).consChar

theorem scanEscape_consumes : ∀ s, Consumes (fun _ => True) s (scanEscape s)
  | [] => Consumes.error nofun
  | e :: s => by
    rw [scanEscape]
    by_cases hu : e = 'u'
    · rw [if_pos hu]
      exact (scanUnicode_consumes s).mono (Nat.le_succ _)
    · rw [if_neg hu]
      split
      · exact (scanString_consumes s).consChar
      · split_ifs <;> exact Consumes.error nofun

theorem scanUnicode_consumes : ∀ s, Consumes (fun _ => True) s (scanUnicode s)
  | a :: b :: c :: d :: s => by
    rw [scanUnicode]
    split
    · exact Consumes.error fun he => decodeHex_ne_fuel a b c d (he ▸ ‹_›)
    · split_ifs
      · exact (scanLow_consumes _ s).mono (by simp; omega)
      · exact Consumes.error nofun
      · exact ((scanString_consumes s).consChar).mono (by simp)
  | [] | [_] | [_, _] | [_, _, _] => Consumes.error nofun

theorem scanLow_consumes (uni : Nat) : ∀ s, Consumes (fun _ => True) s (scanLow uni s)
  | c₁ :: c₂ :: a :: b :: c :: d :: s => by
    rw [scanLow]
    split_ifs
    · split
      · exact Consumes.error fun he => decodeHex_ne_fuel a b c d (he ▸ ‹_›)
      · split_ifs
        · exact ((scanString_consumes s).consChar).mono (by simp)
        · exact Consumes.error nofun
    · exact Consumes.error nofun
  | [c₁, c₂] | [c₁, c₂, _] | [c₁, c₂, _, _] | [c₁, c₂, _, _, _] => by
    show Consumes _ _ (if c₁ = '\\' ∧ c₂ = 'u' then _ else _)
    split_ifs <;> exact Consumes.error nofun
  | [] | [_] => Consumes.error nofun
end

theorem natPart_length {s r : List Char} {n : Nat} (h : natPart s = some (n, r)) :
    r.length < s.length := by
  obtain _ | ⟨c, s⟩ := s
  · nomatch h
  rw [natPart] at h
  split_ifs at h
  · cases h
    exact Nat.lt_succ_self _
  · cases h
    exact Nat.lt_succ_of_le (List.dropWhile_suffix _).length_le

theorem scanNumber_consumes (s : List Char) :
    Consumes (·.canonical = true) s (scanNumber s) := by
  unfold scanNumber
  split
  · rename_i n r h
    split_ifs
    · exact Consumes.error nofun
    · refine Consumes.ok ?_ rfl
      obtain _ | ⟨c, s⟩ := s
      · nomatch h
      rw [intPart] at h
      split_ifs at h
      · obtain ⟨⟨_, r'⟩, hr, he⟩ := Option.map_eq_some'.1 h
        cases he
        exact Nat.lt_succ_of_lt (natPart_length hr)
      · obtain ⟨⟨_, r'⟩, hr, he⟩ := Option.map_eq_some'.1 h
        cases he
        exact natPart_length hr
  · split_ifs <;> exact Consumes.error nofun

theorem length_skipWs_le (l : List Char) : (skipWs l).length ≤ l.length :=
  (List.dropWhile_suffix _).length_le

theorem length_tail_lt {l : List Char} {c : Char} (h : l.head? = some c) :
    l.tail.length < l.length := by
  cases l <;> simp_all

/-! Each scanner's step, given the scanners it calls with one less fuel. What a
successful scan promises of its value: a value, a list and the pairs of an object whose
objects have distinct keys. -/

section Fuel

variable {f : Nat}

theorem scanOnce_succ_consumes
    (ih₂ : ∀ s, 2 * s.length + 2 ≤ f → Consumes (·.canonical = true) s (scanElements f s))
    (ih₃ : ∀ s, 2 * s.length + 1 ≤ f →
      Consumes (∀ p ∈ ·, p.2.canonical = true) s (scanMembers f s))
    {s : List Char} (hf : 2 * s.length + 1 ≤ f + 1) :
    Consumes (·.canonical = true) s (scanOnce (f + 1) s) := by
  obtain _ | ⟨c, s⟩ := s
  · exact Consumes.error nofun
  rw [List.length_cons] at hf
  have hw := length_skipWs_le s
  by_cases h1 : c = '"'
  · subst h1
    rw [scanOnce_quote]
    exact Consumes.mono (Consumes.map (scanString_consumes s) (fun cs => Json.str ⟨cs⟩)
      fun _ _ => rfl) (Nat.le_succ _)
  by_cases h2 : c = '\x7b'
  · subst h2
    rw [scanOnce_brace]
    split_ifs with h3 h4
    · exact Consumes.ok (by have := length_tail_lt h3; simp only [List.length_cons]; omega) rfl
    · have ht := length_tail_lt h4
      exact Consumes.mono (Consumes.map (ih₃ _ (by omega))
        (fun l => Json.obj (JsonItems.ofPairs l)) JsonItems.canonical_ofPairs)
        (by simp only [List.length_cons]; omega)
    · exact Consumes.error nofun
  by_cases h3 : c = '['
  · subst h3
    rw [scanOnce_bracket]
    split_ifs with h4
    · exact Consumes.ok (by have := length_tail_lt h4; simp only [List.length_cons]; omega) rfl
    · exact Consumes.mono (Consumes.map (ih₂ _ (by omega)) Json.arr fun _ h => h)
        (by simp only [List.length_cons]; omega)
  rw [scanOnce, if_neg h1, if_neg h2, if_neg h3]
  split_ifs
  · exact Consumes.ok (by simp only [List.length_drop, List.length_cons]; omega) rfl
  · exact Consumes.ok (by simp only [List.length_drop, List.length_cons]; omega) rfl
  · exact Consumes.ok (by simp only [List.length_drop, List.length_cons]; omega) rfl
  · exact scanNumber_consumes _

theorem scanElements_succ_consumes
    (ih₁ : ∀ s, 2 * s.length + 1 ≤ f → Consumes (·.canonical = true) s (scanOnce f s))
    (ih₂ : ∀ s, 2 * s.length + 2 ≤ f → Consumes (·.canonical = true) s (scanElements f s))
    {s : List Char} (hf : 2 * s.length + 2 ≤ f + 1) :
    Consumes (·.canonical = true) s (scanElements (f + 1) s) := by
  have h₁ := ih₁ s (by omega)
  rw [scanElements]
  split
  · exact Consumes.error nofun
  · rename_i hx
    exact Consumes.error fun h => h₁.2 (h ▸ hx)
  · rename_i x r hx
    obtain ⟨hr, hxc⟩ := h₁.1 _ _ hx
    have hw := length_skipWs_le r
    dsimp only
    split_ifs with h2 h3
    · exact Consumes.ok (by have := length_tail_lt h2; omega)
        (by rw [JsonList.canonical, hxc]; rfl)
    · have ht := length_tail_lt h3
      have := length_skipWs_le (skipWs r).tail
      exact Consumes.mono (Consumes.map (ih₂ _ (by omega)) (JsonList.cons x) fun _ h => by
        rw [JsonList.canonical, hxc, h]; rfl) (by omega)
    · exact Consumes.error nofun

theorem scanMembers_succ_consumes
    (ih₁ : ∀ s, 2 * s.length + 1 ≤ f → Consumes (·.canonical = true) s (scanOnce f s))
    (ih₃ : ∀ s, 2 * s.length + 1 ≤ f →
      Consumes (∀ p ∈ ·, p.2.canonical = true) s (scanMembers f s))
    {s : List Char} (hf : 2 * s.length + 1 ≤ f + 1) :
    Consumes (∀ p ∈ ·, p.2.canonical = true) s (scanMembers (f + 1) s) := by
  have hs := scanString_consumes s
  rw [scanMembers]
  split
  · rename_i hx
    exact Consumes.error fun h => hs.2 (h ▸ hx)
  · rename_i k r hk
    have hr := (hs.1 _ _ hk).1
    have w₁ := length_skipWs_le r
    dsimp only
    split_ifs with h₁
    · have t₁ := length_tail_lt h₁
      have w₂ := length_skipWs_le (skipWs r).tail
      have hv := ih₁ (skipWs (skipWs r).tail) (by omega)
      split
      · exact Consumes.error nofun
      · rename_i hx
        exact Consumes.error fun h => hv.2 (h ▸ hx)
      · rename_i v r₂ hx
        obtain ⟨hr₂, hvc⟩ := hv.1 _ _ hx
        have w₃ := length_skipWs_le r₂
        split_ifs with h₂ h₃ h₄
        · exact Consumes.ok (by have := length_tail_lt h₂; omega) (by simpa using hvc)
        · have t₃ := length_tail_lt h₃
          have w₄ := length_skipWs_le (skipWs r₂).tail
          have t₄ := length_tail_lt h₄
          refine Consumes.mono (Consumes.map (ih₃ (skipWs (skipWs r₂).tail).tail (by omega))
            ((⟨k⟩, v) :: ·) fun _ h => by exact List.forall_mem_cons.2 ⟨hvc, h⟩) ?_
          omega
        · exact Consumes.error nofun
        · exact Consumes.error nofun
    · exact Consumes.error nofun

end Fuel

/-- With fuel at least twice the length of the input, each scanner consumes input when it
succeeds, with a value whose objects have distinct keys, and never stops for lack of
fuel. -/
theorem scan_consumes : ∀ f : Nat,
    (∀ s, 2 * s.length + 1 ≤ f → Consumes (·.canonical = true) s (scanOnce f s)) ∧
    (∀ s, 2 * s.length + 2 ≤ f → Consumes (·.canonical = true) s (scanElements f s)) ∧
    (∀ s, 2 * s.length + 1 ≤ f →
      Consumes (∀ p ∈ ·, p.2.canonical = true) s (scanMembers f s))
  | 0 => ⟨fun _ h => absurd h (by omega), fun _ h => absurd h (by omega),
      fun _ h => absurd h (by omega)⟩
  | f + 1 => by
    obtain ⟨ih₁, ih₂, ih₃⟩ := scan_consumes f
    exact ⟨fun _ => scanOnce_succ_consumes ih₂ ih₃, fun _ => scanElements_succ_consumes ih₁ ih₂,
      fun _ => scanMembers_succ_consumes ih₁ ih₃⟩

/-- `raw_decode` with the fuel `loads` gives it. -/
theorem scanOnce_loads_consumes (s : String) : Consumes (·.canonical = true) (skipWs s.toList)
    (scanOnce (2 * s.length + 1) (skipWs s.toList)) := by
  have hl : (skipWs s.toList).length ≤ s.length := length_skipWs_le _
  exact (scan_consumes _).1 _ (by omega)

/-- **The fuel is enough.** On every text, `loads` returns a value or raises a
`ValueError` as Python's does, or meets what the model leaves out (a float, a lone
surrogate); it never stops for lack of fuel. -/
theorem loads_ne_fuel (s : String) : loads s ≠ .error (.leftOut "fuel") := by
  have h := scanOnce_loads_consumes s
  unfold loads
  split
  · simp
  · rename_i he
    exact fun h' => h.2 (by rw [he, Except.error.inj h'])
  · split_ifs <;> simp

/-- **What `json.loads` accepts is a value Python can hold.** For every text, every object
`loads` returns has distinct keys. An object's text that repeats keys (its values'
objects having distinct keys) is read as `dict(pairs)` of its items, which holds under each
key the value the text gives it last. -/
theorem loads_canonical :
    (∀ (s : String) (v : Json), loads s = .ok v → v.canonical = true) ∧
      ∀ kvs : JsonItems, kvs.canonical = true →
        loads ⟨(Json.obj kvs).dumps⟩ = .ok (.obj (JsonItems.ofPairs kvs.toList)) ∧
          ∀ k, (JsonItems.ofPairs kvs.toList).lookup k = kvs.toList.reverse.lookup k := by
  refine ⟨fun s v h => ?_, fun kvs hc =>
    ⟨by rw [loads_dumps_eq_reload, Json.reload, kvs.reload_of_canonical hc],
      JsonItems.lookup_ofPairs _⟩⟩
  unfold loads at h
  split at h
  · nomatch h
  · nomatch h
  · rename_i hv
    split_ifs at h
    cases h
    exact ((scanOnce_loads_consumes s).1 _ _ hv).2

/-- The items of the text `{"a": 1, "a": 2}`. -/
def repeatedKey : JsonItems := .cons "a" (.int 1) (.cons "a" (.int 2) .nil)

theorem loads_canonical_repeatedKey :
    loads "\x7b\"a\": 1, \"a\": 2\x7d" = .ok (.obj (.cons "a" (.int 2) .nil)) ∧
      (Json.obj (.cons "a" (.int 2) .nil)).canonical = true ∧ repeatedKey.canonical = true ∧
      (JsonItems.ofPairs repeatedKey.toList).lookup "a" = repeatedKey.toList.reverse.lookup "a" :=
  ⟨rfl, loads_canonical.1 "\x7b\"a\": 1, \"a\": 2\x7d" _ rfl, rfl,
    (loads_canonical.2 repeatedKey rfl).2 "a"⟩

end Json

end RedashRunners
