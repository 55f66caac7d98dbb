import DriftDB.Wire.Encode

/-!
# Reading a string back

`json.loads` reads a JSON string with `scanstring` (the C `scanstring_unicode`, `strict`). Each turn
of its loop (`scanPiece`) takes the closing quote, refuses a control character, resolves an escape
(`\"`, `\\`, `\/`, `\b`, `\f`, `\n`, `\r`, `\t`, or `\uXXXX`, where a high surrogate takes the
low one of a `\uXXXX` right after it), or copies one character. The string comes out as code
points, as a Python `str` is, so a lone surrogate is kept as well. The loop is run with as many
turns as the text has characters, which never runs out (`scanLoop_fuel`).

`scanstring` reads `py_encode_basestring_ascii`'s text of any `str` back to its code points, with one
exception that the escaping itself makes: a high surrogate right before a low one comes back as the
one code point the pair encodes (`joinPairs`, `scanstring_encodeBasestringAscii`), so
`json.loads(json.dumps("\ud83d\ude00"))` is `"😀"`. A `str` without surrogates, as every string of
the model is, reads back exactly (`scanstring_points`).
-/

namespace DriftDB.Wire

/-- `JSONDecodeError`'s messages in `scanstring_unicode`. -/
def unterminated : String := "Unterminated string starting at"
def invalidControl : String := "Invalid control character at"
def invalidEscape : String := "Invalid \\escape"
def invalidUXXXX : String := "Invalid \\uXXXX escape"

/-- A hexadecimal digit's value, as `scanstring_unicode` reads the digits of `\uXXXX`. -/
def hexValue (c : Char) : Option Nat :=
  if '0' ≤ c ∧ c ≤ '9' then some (c.toNat - '0'.toNat)
  else if 'a' ≤ c ∧ c ≤ 'f' then some (c.toNat - 'a'.toNat + 10)
  else if 'A' ≤ c ∧ c ≤ 'F' then some (c.toNat - 'A'.toNat + 10)
  else none

/-- Four hexadecimal digits: `c <<= 4; c |= digit` for each, the digits being below `16`. -/
def hex4Value (a b c d : Char) : Option Nat := do
  return (((← hexValue a) * 16 + (← hexValue b)) * 16 + (← hexValue c)) * 16 + (← hexValue d)

/-- The escapes other than `\u`. -/
def backslash : Char → Option Nat
  | '"' => some 0x22
  | '\\' => some 0x5c
  | '/' => some 0x2f
  | 'b' => some 0x08
  | 'f' => some 0x0c
  | 'n' => some 0x0a
  | 'r' => some 0x0d
  | 't' => some 0x09
  | _ => none

/-- `Py_UNICODE_JOIN_SURROGATES(high, low)`. -/
def joinSurrogates (high low : Nat) : Nat := (((high &&& 0x3ff) <<< 10) ||| (low &&& 0x3ff)) + 0x10000

/-- `Py_UNICODE_IS_HIGH_SURROGATE`. -/
def High (n : Nat) : Prop := 0xd800 ≤ n ∧ n ≤ 0xdbff

/-- `Py_UNICODE_IS_LOW_SURROGATE`. -/
def Low (n : Nat) : Prop := 0xdc00 ≤ n ∧ n ≤ 0xdfff

instance : DecidablePred High := fun _ => inferInstanceAs (Decidable (_ ∧ _))
instance : DecidablePred Low := fun _ => inferInstanceAs (Decidable (_ ∧ _))

/-- What `scanstring` reads back from the escapes of a `str`'s code points: a high surrogate
followed by a low one comes back as the one code point the pair encodes. -/
def joinPairs : List Nat → List Nat
  | hi :: lo :: ps => if High hi ∧ Low lo then joinSurrogates hi lo :: joinPairs ps else hi :: joinPairs (lo :: ps)
  | ps => ps

/-- One turn of `scanstring_unicode`'s loop: the closing quote, one code point, or an error. -/
inductive Piece
  | close (rest : List Char)
  | point (u : Nat) (rest : List Char)
  | fail (message : String)

/-- A `\uXXXX` escape, from just after its `u`: a high surrogate takes the low one of a `\uXXXX`
right after it. -/
def scanU : List Char → Piece
  | d₁ :: d₂ :: d₃ :: d₄ :: more =>
    if more = [] then .fail invalidUXXXX else
    match hex4Value d₁ d₂ d₃ d₄ with
    | none => .fail invalidUXXXX
    | some u =>
      if 0xd800 ≤ u ∧ u ≤ 0xdbff then
        match more with
        | b :: v :: e₁ :: e₂ :: e₃ :: e₄ :: more' =>
          if b = '\\' ∧ v = 'u' ∧ more' ≠ [] then
            match hex4Value e₁ e₂ e₃ e₄ with
            | none => .fail invalidUXXXX
            | some u' =>
              if 0xdc00 ≤ u' ∧ u' ≤ 0xdfff then .point (joinSurrogates u u') more' else .point u more
          else .point u more
        | _ => .point u more
      else .point u more
  | _ => .fail invalidUXXXX

/-- What follows a backslash. -/
def scanEscape : List Char → Piece
  | [] => .fail unterminated
  | e :: more =>
    if e = 'u' then scanU more
    else
      match backslash e with
      | some u => .point u more
      | none => .fail invalidEscape

/-- One turn of the loop, at the head of the text. -/
def scanPiece : List Char → Piece
  | [] => .fail unterminated
  | c :: rest =>
    if c = '"' then .close rest
    else if c = '\\' then scanEscape rest
    else if c.toNat ≤ 0x1f then .fail invalidControl
    else .point c.toNat rest

/-- A code point appended before what the rest of the string reads. -/
def prepend (u : Nat) (r : Except String (List Nat × List Char)) : Except String (List Nat × List Char) :=
  r.map fun p => (u :: p.1, p.2)

/-- The loop, for at most `fuel` turns. -/
def scanLoop : Nat → List Char → Except String (List Nat × List Char)
  | 0, _ => .error unterminated
  | fuel + 1, s =>
    match scanPiece s with
    | .close rest => .ok ([], rest)
    | .point u rest => prepend u (scanLoop fuel rest)
    | .fail message => .error message

/-- `scanstring_unicode` with `strict`, from just after the opening quote: the string's code points
and the text after its closing quote. Each turn takes at least one character, so as many turns as
characters are enough. -/
def scanstring (s : List Char) : Except String (List Nat × List Char) := scanLoop s.length s

example : scanstring "a\\u00e9\\ud83d\\ude00\\n\" tail".data = .ok ([0x61, 0xe9, 0x1f600, 0x0a], " tail".data) :=
  rfl

/-! ### The digits and the surrogates -/

theorem hexValue_digitChar : ∀ k < 16, hexValue (Nat.digitChar k) = some k := by decide

/-- `hex4` reads back: the four digits of a code point below `0x10000` give the code point. -/
theorem hex4Value_hex4 {n : Nat} (h : n < 0x10000) :
    hex4Value (Nat.digitChar (n / 4096 % 16)) (Nat.digitChar (n / 256 % 16))
      (Nat.digitChar (n / 16 % 16)) (Nat.digitChar (n % 16)) = some n := by
  have hd := fun m => hexValue_digitChar (m % 16) (Nat.mod_lt _ (by decide))
  simp only [hex4Value, hd, Option.pure_def, Option.bind_eq_bind, Option.some_bind, Option.some.injEq]
  omega

theorem and_low_bits (x : Nat) : x &&& 0x3ff = x % 1024 := Nat.and_pow_two_sub_one_eq_mod x 10

theorem or_low_bits (a : Nat) {x : Nat} (hx : x < 1024) : 1024 * a ||| x = 1024 * a + x :=
  (Nat.mul_add_lt_is_or (show x < 2 ^ 10 from hx) a).symm

/-- The surrogates `replace` writes for `0x10000 + n`, and what `Py_UNICODE_JOIN_SURROGATES` makes
of them. -/
theorem surrogates {n : Nat} (hn : n < 0x100000) :
    0xd800 ||| (n >>> 10 &&& 0x3ff) = 0xd800 + n / 1024 ∧
      0xdc00 ||| (n &&& 0x3ff) = 0xdc00 + n % 1024 ∧
      joinSurrogates (0xd800 + n / 1024) (0xdc00 + n % 1024) = 0x10000 + n := by
  have hq : n / 1024 < 1024 := by omega
  have hr : n % 1024 < 1024 := Nat.mod_lt _ (by decide)
  refine ⟨?_, ?_, ?_⟩
  · rw [Nat.shiftRight_eq_div_pow, and_low_bits, Nat.mod_eq_of_lt (by simpa using hq)]
    exact or_low_bits 54 (by simpa using hq)
  · rw [and_low_bits]
    exact or_low_bits 55 hr
  · have h₁ : (0xd800 + n / 1024) &&& 0x3ff = n / 1024 := by rw [and_low_bits]; omega
    have h₂ : (0xdc00 + n % 1024) &&& 0x3ff = n % 1024 := by rw [and_low_bits]; omega
    rw [joinSurrogates, h₁, h₂, Nat.shiftLeft_eq, Nat.mul_comm, show 2 ^ 10 = 1024 from rfl,
      or_low_bits _ hr]
    omega

/-! ### Each escape reads back -/

/-- What follows a high surrogate's escape does not start with the escape of a low surrogate, nor
with a broken `\u` escape: `scanstring` reads the high surrogate alone. -/
def NoLowNext (l : List Char) : Prop :=
  ∀ e₁ e₂ e₃ e₄ more, l = '\\' :: 'u' :: e₁ :: e₂ :: e₃ :: e₄ :: more →
    ∃ u, hex4Value e₁ e₂ e₃ e₄ = some u ∧ ¬ Low u

/-- A printable code point's character is another character's only when the code points agree. -/
theorem ofNat_ne {n : Nat} {c : Char} (hval : (Char.ofNat n).toNat = n) (hn : n ≠ c.toNat) :
    Char.ofNat n ≠ c :=
  fun he => hn (hval.symm.trans (congrArg Char.toNat he))

theorem noLowNext_of_ne {c : Char} (hc : c ≠ '\\') (l : List Char) : NoLowNext (c :: l) :=
  fun _ _ _ _ _ h => absurd (List.cons.inj h).1 hc

theorem noLowNext_of_ne_u {c : Char} (hc : c ≠ 'u') (l : List Char) : NoLowNext ('\\' :: c :: l) :=
  fun _ _ _ _ _ h => absurd (List.cons.inj (List.cons.inj h).2).1 hc

theorem noLowNext_uEscape {n : Nat} (hn : n < 0x10000) (hl : ¬ Low n) (l : List Char) :
    NoLowNext (uEscape n ++ l) := by
  intro e₁ e₂ e₃ e₄ more h
  simp only [uEscape, hex4, List.cons_append, List.nil_append, List.cons.injEq] at h
  obtain ⟨-, -, rfl, rfl, rfl, rfl, -⟩ := h
  exact ⟨n, hex4Value_hex4 hn, hl⟩

section
variable {l : List Char}

theorem scanPiece_plain {c : Char} (hq : c ≠ '"') (hb : c ≠ '\\') (hc : 0x1f < c.toNat) :
    scanPiece (c :: l) = .point c.toNat l := by
  rw [scanPiece, if_neg hq, if_neg hb, if_neg (by omega)]

theorem scanPiece_uEscape {n : Nat} (hn : n < 0x10000) (hs : ¬ High n) (hl : l ≠ []) :
    scanPiece (uEscape n ++ l) = .point n l := by
  unfold High at hs
  simp [uEscape, hex4, scanPiece, scanEscape, scanU, hex4Value_hex4 hn, hs, hl]

/-- A high surrogate's escape with no low one after it reads back alone. -/
theorem scanPiece_uEscape_high {n : Nat} (hn : High n) (hl : l ≠ []) (hnext : NoLowNext l) :
    scanPiece (uEscape n ++ l) = .point n l := by
  unfold High at hn
  simp only [uEscape, hex4, List.cons_append, List.nil_append, scanPiece, scanEscape, scanU,
    hex4Value_hex4 (show n < 0x10000 by omega), if_neg hl, if_pos hn, reduceIte, Char.reduceEq]
  split
  · rename_i b v e₁ e₂ e₃ e₄ more'
    split_ifs with hbu
    · obtain ⟨rfl, rfl, -⟩ := hbu
      obtain ⟨u, hu, hlow⟩ := hnext e₁ e₂ e₃ e₄ more' rfl
      unfold Low at hlow
      simp only [hu, if_neg hlow]
    · rfl
  · rfl

theorem scanPiece_pair {hi lo : Nat} (hhi : High hi) (hlo : Low lo) (hl : l ≠ []) :
    scanPiece (uEscape hi ++ uEscape lo ++ l) = .point (joinSurrogates hi lo) l := by
  unfold High at hhi
  unfold Low at hlo
  simp [uEscape, hex4, scanPiece, scanEscape, scanU, hex4Value_hex4 (show hi < 0x10000 by omega),
    hex4Value_hex4 (show lo < 0x10000 by omega), hhi, hlo, hl]

/-- The escapes `replace` writes above `0x10000` are a high and a low surrogate. -/
theorem encodePoint_above {n : Nat} (h : 0x10000 ≤ n) (hn : n < 0x110000) :
    encodePoint n = uEscape (0xd800 + (n - 0x10000) / 1024) ++ uEscape (0xdc00 + (n - 0x10000) % 1024) ∧
      High (0xd800 + (n - 0x10000) / 1024) ∧ Low (0xdc00 + (n - 0x10000) % 1024) ∧
      joinSurrogates (0xd800 + (n - 0x10000) / 1024) (0xdc00 + (n - 0x10000) % 1024) = n := by
  obtain ⟨hhi, hlo, hjoin⟩ := surrogates (show n - 0x10000 < 0x100000 by omega)
  refine ⟨?_, by unfold High; omega, by unfold Low; omega, by omega⟩
  unfold encodePoint
  repeat rw [if_neg (by omega)]
  exact congrArg₂ (· ++ ·) (congrArg uEscape hhi) (congrArg uEscape hlo)

/-- A surrogate is written as its own `\uXXXX`. -/
theorem encodePoint_surrogate {n : Nat} (h : 0xd800 ≤ n ∧ n ≤ 0xdfff) : encodePoint n = uEscape n := by
  unfold encodePoint
  repeat rw [if_neg (by omega)]
  rw [if_pos (by omega)]

/-- No escape but a low surrogate's starts with a `\uXXXX` of a low surrogate. -/
theorem noLowNext_encodePoint {n : Nat} (hn : n < 0x110000) (hl : ¬ Low n) (l : List Char) :
    NoLowNext (encodePoint n ++ l) := by
  by_cases hbig : 0x10000 ≤ n
  · obtain ⟨he, hhi, -, -⟩ := encodePoint_above hbig hn
    rw [he, List.append_assoc]
    exact noLowNext_uEscape (by unfold High at hhi; omega) (by unfold High at hhi; unfold Low; omega) _
  unfold encodePoint
  repeat' refine ite_list (fun x => NoLowNext (x ++ l)) (fun h => ?_) (fun _ => ?_)
  all_goals first
    | (subst h; exact noLowNext_of_ne_u (by decide) l)
    | exact noLowNext_uEscape h hl l
    | omega
    | skip
  obtain ⟨-, hval⟩ := ofNat_printable n (by omega) h.1
  exact noLowNext_of_ne (ofNat_ne hval (show n ≠ 92 by omega)) l

/-- **Each code point's escape is one turn** that reads it back, unless it is a high surrogate
followed by the escape of a low one. -/
theorem scanPiece_encodePoint {n : Nat} (hn : n < 0x110000) (hl : l ≠ []) (hnext : High n → NoLowNext l) :
    scanPiece (encodePoint n ++ l) = .point n l := by
  by_cases hbig : 0x10000 ≤ n
  · obtain ⟨he, hhi, hlo, hjoin⟩ := encodePoint_above hbig hn
    rw [he, scanPiece_pair hhi hlo hl, hjoin]
  unfold encodePoint
  repeat' refine ite_list (fun x => scanPiece (x ++ l) = _) (fun h => ?_) (fun _ => ?_)
  all_goals first
    | (subst h; rfl)
    | omega
    | skip
  · obtain ⟨-, hval⟩ := ofNat_printable n (by omega) h.1
    show scanPiece (Char.ofNat n :: l) = _
    rw [scanPiece_plain (ofNat_ne hval (show n ≠ 34 by omega)) (ofNat_ne hval (show n ≠ 92 by omega))
      (by omega), hval]
  · by_cases hhigh : High n
    · exact scanPiece_uEscape_high hhigh hl (hnext hhigh)
    · exact scanPiece_uEscape h hhigh hl

end

/-! ### The loop -/

theorem scanU_point_length {s rest : List Char} {u : Nat} (h : scanU s = .point u rest) :
    rest.length < s.length := by
  unfold scanU at h
  repeat' split at h
  all_goals cases h
  all_goals simp only [List.length_cons]; omega

theorem scanPiece_point_length {s rest : List Char} {u : Nat} (h : scanPiece s = .point u rest) :
    rest.length < s.length := by
  match s, h with
  | c :: s, h =>
    rw [scanPiece] at h
    split_ifs at h
    · match s, h with
      | e :: more, h =>
        rw [scanEscape] at h
        split_ifs at h
        · have := scanU_point_length h
          simp only [List.length_cons]; omega
        · split at h
          · cases h; simp only [List.length_cons]; omega
          · cases h
    · cases h; simp

/-- **The fuel never runs out**: every turn takes at least one character, so any fuel of at least
the text's length gives the same reading. -/
theorem scanLoop_fuel : ∀ {fuel fuel' : Nat} {s : List Char}, s.length ≤ fuel → s.length ≤ fuel' →
    scanLoop fuel s = scanLoop fuel' s
  | 0, 0, _, _, _ => rfl
  | 0, _ + 1, [], _, _ => rfl
  | _ + 1, 0, [], _, _ => rfl
  | fuel + 1, fuel' + 1, s, h, h' => by
    simp only [scanLoop]
    cases hp : scanPiece s with
    | close rest => rfl
    | point u rest =>
      have := scanPiece_point_length hp
      show prepend u (scanLoop fuel rest) = prepend u (scanLoop fuel' rest)
      rw [scanLoop_fuel (show rest.length ≤ fuel by omega) (show rest.length ≤ fuel' by omega)]
    | fail m => rfl

theorem scanPiece_close_length {s rest : List Char} (h : scanPiece s = .close rest) :
    rest.length < s.length := by
  match s, h with
  | c :: s, h =>
    rw [scanPiece] at h
    split_ifs at h
    · cases h; simp
    · unfold scanEscape at h
      repeat' split at h
      all_goals first | cases h | (unfold scanU at h; repeat' split at h)
      all_goals cases h

/-- What follows the closing quote is shorter than the text. -/
theorem scanLoop_length : ∀ {fuel : Nat} {s rest : List Char} {ps : List Nat},
    scanLoop fuel s = .ok (ps, rest) → rest.length < s.length
  | 0, _, _, _, h => by cases h
  | fuel + 1, s, rest, ps, h => by
    rw [scanLoop] at h
    split at h
    · cases h; exact scanPiece_close_length ‹_›
    · rename_i u r hp
      cases hr : scanLoop fuel r with
      | error e => rw [hr] at h; cases h
      | ok p =>
        rw [hr] at h
        cases h
        exact (scanLoop_length hr).trans (scanPiece_point_length hp)
    · cases h

theorem scanstring_length {s rest : List Char} {ps : List Nat} (h : scanstring s = .ok (ps, rest)) :
    rest.length < s.length :=
  scanLoop_length h

theorem length_le_encodePoints (ps : List Nat) : ps.length ≤ (encodePoints ps).length := by
  induction ps with
  | nil => rfl
  | cons p ps ih =>
    have := List.length_pos.mpr (encodePoint_ne_nil p)
    simp only [encodePoints, List.flatMap_cons, List.length_append, List.length_cons] at ih ⊢
    omega

/-- The loop reads the escaped code points back, each pair of surrogates joined, given a turn for
each and one for the quote. -/
theorem scanLoop_encodePoints (rest : List Char) :
    ∀ (ps : List Nat) (fuel : Nat), (∀ p ∈ ps, p < 0x110000) → ps.length < fuel →
      scanLoop fuel (encodePoints ps ++ '"' :: rest) = .ok (joinPairs ps, rest)
  | [], _ + 1, _, _ => rfl
  | [p], fuel + 1, hv, h => by
    rw [show encodePoints [p] ++ '"' :: rest = encodePoint p ++ '"' :: rest by simp [encodePoints],
      scanLoop, scanPiece_encodePoint (hv p (List.mem_singleton_self p)) (List.cons_ne_nil _ _)
        fun _ => noLowNext_of_ne (by decide) rest]
    exact congrArg (prepend p) (scanLoop_encodePoints rest [] fuel (by simp) (by simpa using h))
  | p :: q :: qs, fuel + 1, hv, h => by
    have hp := hv p (List.mem_cons_self _ _)
    have hq := hv q (List.mem_cons_of_mem _ (List.mem_cons_self _ _))
    have hqs : ∀ r ∈ q :: qs, r < 0x110000 := fun r hr => hv r (List.mem_cons_of_mem _ hr)
    have hlen : (q :: qs).length < fuel := by simpa using h
    rw [show encodePoints (p :: q :: qs) ++ '"' :: rest =
        encodePoint p ++ (encodePoint q ++ (encodePoints qs ++ '"' :: rest)) by simp [encodePoints],
      joinPairs, scanLoop]
    by_cases hpair : High p ∧ Low q
    · obtain ⟨hhi, hlo⟩ := hpair
      rw [if_pos ⟨hhi, hlo⟩, encodePoint_surrogate (by unfold High at hhi; omega),
        encodePoint_surrogate (by unfold Low at hlo; omega), ← List.append_assoc,
        scanPiece_pair hhi hlo (List.append_ne_nil_of_right_ne_nil _ (List.cons_ne_nil _ _))]
      show prepend _ (scanLoop fuel _) = _
      rw [scanLoop_encodePoints rest qs fuel (fun r hr => hqs r (List.mem_cons_of_mem _ hr))
        (by simp at hlen; omega)]
      rfl
    · rw [if_neg hpair, scanPiece_encodePoint hp (by simp)
        fun hh => noLowNext_encodePoint hq (fun hl => hpair ⟨hh, hl⟩) _]
      show prepend p (scanLoop fuel _) = _
      rw [show encodePoint q ++ (encodePoints qs ++ '"' :: rest) = encodePoints (q :: qs) ++ '"' :: rest by
        simp [encodePoints], scanLoop_encodePoints rest (q :: qs) fuel hqs hlen]
      rfl

theorem scanstring_encodePoints (ps : List Nat) (hps : ∀ p ∈ ps, p < 0x110000) (rest : List Char) :
    scanstring (encodePoints ps ++ '"' :: rest) = .ok (joinPairs ps, rest) := by
  apply scanLoop_encodePoints rest ps _ hps
  have := length_le_encodePoints ps
  simp only [List.length_append, List.length_cons]
  omega

/-- **The escaping loses nothing but the split of surrogate pairs.** For any `str`, given by its
code points, `py_encode_basestring_ascii(s)` opens with a quote, and from there `scanstring` reads
back `s`'s code points, a high surrogate followed by a low one joined into the code point they
encode, and stops after the closing quote, whatever text follows. -/
theorem scanstring_encodeBasestringAscii (ps : List Nat) (hps : ∀ p ∈ ps, p < 0x110000) (rest : List Char) :
    ∃ t, encodeBasestringAscii ps ++ rest = '"' :: t ∧ scanstring t = .ok (joinPairs ps, rest) :=
  ⟨_, by simp [encodeBasestringAscii], scanstring_encodePoints ps hps rest⟩

/-- `chr(0xd83d) + chr(0xde00)`, two lone surrogates, reads back as `"😀"`. -/
theorem scanstring_encodeBasestringAscii_pair :
    (∀ p ∈ [0xd83d, 0xde00], p < 0x110000) ∧ joinPairs [0xd83d, 0xde00] = [0x1f600] ∧
      ∃ t, encodeBasestringAscii [0xd83d, 0xde00] ++ [] = '"' :: t ∧
        scanstring t = .ok (joinPairs [0xd83d, 0xde00], []) :=
  ⟨by decide, by decide, scanstring_encodeBasestringAscii [0xd83d, 0xde00] (by decide) []⟩

/-- With no high surrogate among the code points, nothing is joined. -/
theorem joinPairs_of_not_high : ∀ {ps : List Nat}, (∀ p ∈ ps, ¬ High p) → joinPairs ps = ps
  | [], _ | [_], _ => rfl
  | p :: q :: qs, h => by
    rw [joinPairs, if_neg fun hpq => h p (List.mem_cons_self _ _) hpq.1,
      joinPairs_of_not_high fun r hr => h r (List.mem_cons_of_mem _ hr)]

/-- A `str` without surrogates, as every string of the model is, reads back exactly. -/
theorem scanstring_points (s : String) (rest : List Char) :
    scanstring (encodePoints (points s) ++ '"' :: rest) = .ok (points s, rest) := by
  have hv : ∀ p ∈ points s, ¬ High p ∧ p < 0x110000 := by
    intro p hp
    obtain ⟨c, -, rfl⟩ := List.mem_map.mp hp
    have hc : c.toNat < 0xd800 ∨ 0xdfff < c.toNat ∧ c.toNat < 0x110000 := c.valid
    unfold High
    omega
  rw [scanstring_encodePoints _ fun p hp => (hv p hp).2, joinPairs_of_not_high fun p hp => (hv p hp).1]

end DriftDB.Wire
