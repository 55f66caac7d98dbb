import DriftDB.Wire.Decode

/-!
# `json.loads`

`json.loads(s)` on a `str` refuses a leading byte-order mark, then `JSONDecoder.decode` skips
whitespace, reads one value with the C scanner's `scan_once_unicode` (`scanValue`), skips
whitespace again and refuses anything left (`loads`). `scan_once_unicode` looks at the value's
first character: a string (`scanstring`), an object (`_parse_object_unicode`, `parseFields`), an
array (`_parse_array_unicode`, `parseItems`), a named constant, or a number
(`_match_number_unicode`, `matchNumber`). A number is kept as its text, not converted by `int` or
`float`; a `dict` as its items in insertion order (`setItem`). When no value starts where the
scanner looks it raises `StopIteration` (`Raise.stop`), which `decode` reports as `Expecting value`.
Each call takes one unit of fuel; twice the text's length is more than the text needs.

`json.loads` reads the text of every value `json.dumps` serializes back to the Python object the
value stands for (`scanValue_iterencode`), as long as its numbers have JSON's number syntax, as the
`repr` of an `int` or a `float` has. So the line every request writes loads back to its message
(`loads_requestLine`). The values of the model are the ones this holds for: `str`s without
surrogate code points (a surrogate pair comes back joined, `scanstring_encodeBasestringAscii`),
`list`s, and `dict`s with `str` keys. `json.dumps` also writes a `tuple` as a list and a non-`str`
key as a `str`, which load back as a `list` and a `str` key; the model has neither.
-/

namespace DriftDB.Wire

/-- A Python object as `json.loads` builds it: `None`, a `bool`, a number (its text), a `str` (its
code points), a `list`, or a `dict` (its items in insertion order); or an object of another type,
which `json.loads` never builds. -/
inductive Loaded
  | null
  | bool (b : Bool)
  | number (literal : String)
  | string (points : List Nat)
  | array (items : List Loaded)
  | object (items : List (List Nat × Loaded))
  | other (typeName : String)

/-- `PyDict_SetItem(d, key, val)`: a key already there keeps its place and takes the new value. -/
def setItem (d : List (List Nat × Loaded)) (key : List Nat) (val : Loaded) : List (List Nat × Loaded) :=
  if d.any (·.1 == key) then d.map fun kv => if kv.1 = key then (kv.1, val) else kv
  else d ++ [(key, val)]

mutual

/-- The Python object a value stands for: a `str` as its code points, a `dict` built item by item. -/
def load : Value → Loaded
  | .null => .null
  | .bool b => .bool b
  | .number literal => .number literal
  | .string s => .string (points s)
  | .array items => .array (loadItems items)
  | .object fields => .object (loadFields [] fields)
  | .other typeName => .other typeName

def loadItems : List Value → List Loaded
  | [] => []
  | v :: vs => load v :: loadItems vs

/-- The fields set one after another into `d`. -/
def loadFields (d : List (List Nat × Loaded)) : List (String × Value) → List (List Nat × Loaded)
  | [] => d
  | (k, v) :: fields => loadFields (setItem d (points k) (load v)) fields

end

/-- What `scan_once` raises: `StopIteration` when no value starts where it looks, or a
`JSONDecodeError` with its message. -/
inductive Raise
  | stop
  | error (message : String)

/-- `JSONDecodeError`'s messages outside `scanstring`. -/
def expectingValue : String := "Expecting value"
def expectingDelimiter : String := "Expecting ',' delimiter"
def expectingColon : String := "Expecting ':' delimiter"
def expectingName : String := "Expecting property name enclosed in double quotes"
def extraData : String := "Extra data"
def unexpectedBom : String := "Unexpected UTF-8 BOM (decode using utf-8-sig)"

/-- `IS_WHITESPACE`. -/
def isWhitespace (c : Char) : Bool := c == ' ' || c == '\t' || c == '\n' || c == '\r'

/-- `while (idx <= end_idx && IS_WHITESPACE(...)) idx++`. -/
def skipWs (s : List Char) : List Char := s.dropWhile isWhitespace

/-! ### Numbers and constants -/

/-- Every digit at the head of the text, and what follows them. -/
def digitRun (s : List Char) : List Char × List Char :=
  (s.takeWhile Char.isDigit, s.dropWhile Char.isDigit)

/-- A sign from `signs` at the head of the text, if there is one. -/
def signPart (signs : List Char) : List Char → List Char × List Char
  | [] => ([], [])
  | c :: rest => if c ∈ signs then ([c], rest) else ([], c :: rest)

/-- The integer digits: `1`–`9` and every digit after it, or a `0` alone; `none` otherwise. -/
def intPart : List Char → Option (List Char × List Char)
  | [] => none
  | c :: rest =>
    if '1' ≤ c ∧ c ≤ '9' then some (c :: (digitRun rest).1, (digitRun rest).2)
    else if c = '0' then some (['0'], rest)
    else none

/-- A `.` followed by a digit, and every digit after it; nothing otherwise. -/
def fracPart : List Char → List Char × List Char
  | '.' :: d :: rest =>
    if d.isDigit then ('.' :: d :: (digitRun rest).1, (digitRun rest).2) else ([], '.' :: d :: rest)
  | s => ([], s)

/-- An `e` or `E`, a sign if any, and the digits after it; nothing (the scanner backtracks to the
`e`) when no digit follows. -/
def expPart : List Char → List Char × List Char
  | [] => ([], [])
  | x :: rest =>
    if x = 'e' ∨ x = 'E' then
      let (sign, after) := signPart ['-', '+'] rest
      let (ds, after') := digitRun after
      if ds = [] then ([], x :: rest) else (x :: sign ++ ds, after')
    else ([], x :: rest)

/-- `_match_number_unicode`: the number's text and what follows it, or `none` (`StopIteration`)
when no integer digit follows the optional `-`. -/
def matchNumber (s : List Char) : Option (List Char × List Char) :=
  let (sign, s₁) := signPart ['-'] s
  match intPart s₁ with
  | none => none
  | some (int, s₂) =>
    let (frac, s₃) := fracPart s₂
    let (exp, s₄) := expPart s₃
    some (sign ++ int ++ frac ++ exp, s₄)

/-- The named constants `scan_once_unicode` reads before it tries a number. -/
def constants : List (List Char × Loaded) :=
  [(['n', 'u', 'l', 'l'], .null), (['t', 'r', 'u', 'e'], .bool true),
    (['f', 'a', 'l', 's', 'e'], .bool false), (['N', 'a', 'N'], .number "NaN"),
    (['I', 'n', 'f', 'i', 'n', 'i', 't', 'y'], .number "Infinity"),
    (['-', 'I', 'n', 'f', 'i', 'n', 'i', 't', 'y'], .number "-Infinity")]

/-- The constant at the head of the text, and what follows it. -/
def matchConstant (s : List Char) : Option (Loaded × List Char) :=
  (constants.find? fun k => k.1.isPrefixOf s).map fun k => (k.2, s.drop k.1.length)

/-! ### The scanner -/

mutual

/-- `scan_once_unicode` with `fuel` calls left: the value at the head of the text and what follows
it. -/
def scanValue : Nat → List Char → Except Raise (Loaded × List Char)
  | 0, _ => .error .stop
  | _ + 1, [] => .error .stop
  | fuel + 1, c :: rest =>
    if c = '"' then
      match scanstring rest with
      | .ok (points, after) => .ok (.string points, after)
      | .error message => .error (.error message)
    else if c = '{' then
      let s := skipWs rest
      if s.head? = some '}' then .ok (.object [], s.tail) else parseFields fuel [] s
    else if c = '[' then
      let s := skipWs rest
      if s.head? = some ']' then .ok (.array [], s.tail) else parseItems fuel [] s
    else
      match matchConstant (c :: rest) with
      | some found => .ok found
      | none =>
        match matchNumber (c :: rest) with
        | some (literal, after) => .ok (.number (String.mk literal), after)
        | none => .error .stop

/-- The loop of `_parse_array_unicode`, from an item: the item, then `]`, or `,` and the next. -/
def parseItems : Nat → List Loaded → List Char → Except Raise (Loaded × List Char)
  | 0, _, _ => .error .stop
  | fuel + 1, items, s =>
    match scanValue fuel s with
    | .error e => .error e
    | .ok (v, after) =>
      match skipWs after with
      | ']' :: rest => .ok (.array (items ++ [v]), rest)
      | ',' :: rest => parseItems fuel (items ++ [v]) (skipWs rest)
      | _ => .error (.error expectingDelimiter)

/-- The loop of `_parse_object_unicode`, from a key: the key, `:`, the value, then `}`, or `,` and
the next. -/
def parseFields : Nat → List (List Nat × Loaded) → List Char → Except Raise (Loaded × List Char)
  | 0, _, _ => .error .stop
  | fuel + 1, d, '"' :: s =>
    match scanstring s with
    | .error message => .error (.error message)
    | .ok (key, after) =>
      match skipWs after with
      | ':' :: rest =>
        match scanValue fuel (skipWs rest) with
        | .error e => .error e
        | .ok (v, after') =>
          match skipWs after' with
          | '}' :: rest' => .ok (.object (setItem d key v), rest')
          | ',' :: rest' => parseFields fuel (setItem d key v) (skipWs rest')
          | _ => .error (.error expectingDelimiter)
      | _ => .error (.error expectingColon)
  | _ + 1, _, _ => .error (.error expectingName)

end

/-- `json.loads(s)` for a `str`. -/
def loads (s : List Char) : Except String Loaded :=
  if s.head? = some '\uFEFF' then .error unexpectedBom
  else
    match scanValue (2 * s.length + 1) (skipWs s) with
    | .error .stop => .error expectingValue
    | .error (.error message) => .error message
    | .ok (v, rest) => if skipWs rest = [] then .ok v else .error extraData

/-! ### What follows a value -/

/-- What may follow a value in JSON text: nothing, a delimiter, or whitespace. -/
def Follows (s : List Char) : Prop :=
  ∀ c ∈ s.head?, c = ',' ∨ c = ']' ∨ c = '}' ∨ isWhitespace c = true

/-- A character no number goes on with. -/
def Ends (c : Char) : Prop := c.isDigit = false ∧ c ≠ '.' ∧ c ≠ 'e' ∧ c ≠ 'E'

instance : DecidablePred Ends := fun _ => inferInstanceAs (Decidable (_ ∧ _))

theorem Follows.ends {s : List Char} (h : Follows s) : ∀ c ∈ s.head?, Ends c := by
  intro c hc
  rcases h c hc with rfl | rfl | rfl | hw
  · decide
  · decide
  · decide
  · simp only [isWhitespace, Bool.or_eq_true, beq_iff_eq] at hw
    rcases hw with ((rfl | rfl) | rfl) | rfl <;> decide

theorem skipWs_of_not {c : Char} (h : isWhitespace c = false) (s : List Char) :
    skipWs (c :: s) = c :: s :=
  List.dropWhile_cons_of_neg (by simp [h])

@[simp] theorem skipWs_space (s : List Char) : skipWs (' ' :: s) = skipWs s := rfl

/-! ### Number texts -/

/-- One digit or more. -/
def Digits (ds : List Char) : Prop := ds ≠ [] ∧ ∀ d ∈ ds, d.isDigit

/-- `0|[1-9][0-9]*`. -/
def IntText : List Char → Prop
  | [] => False
  | d :: ds => d = '0' ∧ ds = [] ∨ ('1' ≤ d ∧ d ≤ '9') ∧ ∀ x ∈ ds, x.isDigit

theorem IntText.head {int : List Char} (hi : IntText int) : ∃ d ds, int = d :: ds ∧ d.isDigit := by
  cases int with
  | nil => exact absurd hi id
  | cons d ds =>
    refine ⟨d, ds, rfl, ?_⟩
    rcases hi with ⟨rfl, -⟩ | ⟨⟨h₁, h₂⟩, -⟩
    · decide
    · simp only [Char.isDigit, Bool.and_eq_true, decide_eq_true_eq]
      exact ⟨Nat.le_trans (by decide) h₁, h₂⟩

/-- `(\.[0-9]+)?`. -/
def FracText (f : List Char) : Prop := f = [] ∨ ∃ ds, f = '.' :: ds ∧ Digits ds

/-- `([eE][-+]?[0-9]+)?`. -/
def ExpText (e : List Char) : Prop :=
  e = [] ∨ ∃ x sign ds, e = x :: (sign ++ ds) ∧ (x = 'e' ∨ x = 'E') ∧
    (sign = [] ∨ sign = ['-'] ∨ sign = ['+']) ∧ Digits ds

/-- The texts `json.dumps` writes for a number: `-?(0|[1-9][0-9]*)(\.[0-9]+)?([eE][-+]?[0-9]+)?`,
as the `repr` of an `int` or a finite `float` is, or `NaN`, `Infinity` and `-Infinity`, as
`floatstr` writes the others. -/
inductive NumberText : List Char → Prop
  | finite {sign int frac exp : List Char} : sign = [] ∨ sign = ['-'] → IntText int → FracText frac →
      ExpText exp → NumberText (sign ++ int ++ frac ++ exp)
  | nan : NumberText ['N', 'a', 'N']
  | infinity : NumberText ['I', 'n', 'f', 'i', 'n', 'i', 't', 'y']
  | negInfinity : NumberText ['-', 'I', 'n', 'f', 'i', 'n', 'i', 't', 'y']

theorem digitRun_append {ds r : List Char} (hds : ∀ d ∈ ds, d.isDigit)
    (hr : ∀ c ∈ r.head?, c.isDigit = false) : digitRun (ds ++ r) = (ds, r) := by
  rw [digitRun, List.takeWhile_append_of_pos hds, List.dropWhile_append_of_pos hds]
  cases r with
  | nil => simp
  | cons c r =>
    have hc : ¬c.isDigit = true := by simp [hr c rfl]
    rw [List.takeWhile_cons_of_neg hc, List.dropWhile_cons_of_neg hc, List.append_nil]

theorem intPart_append {int r : List Char} (hi : IntText int) (hr : ∀ c ∈ r.head?, c.isDigit = false) :
    intPart (int ++ r) = some (int, r) := by
  cases int with
  | nil => exact absurd hi id
  | cons d ds =>
    rcases hi with ⟨rfl, rfl⟩ | ⟨hd, hds⟩
    · rfl
    · rw [List.cons_append, intPart, if_pos hd, digitRun_append hds hr]

theorem fracPart_append {frac r : List Char} (hf : FracText frac)
    (hr : ∀ c ∈ r.head?, c.isDigit = false ∧ c ≠ '.') : fracPart (frac ++ r) = (frac, r) := by
  rcases hf with rfl | ⟨_, rfl, hne, hds⟩
  · unfold fracPart
    split
    · exact absurd rfl (hr '.' (by simp_all)).2
    · rfl
  · obtain ⟨d, ds, rfl⟩ := List.exists_cons_of_ne_nil hne
    have hd := hds d (List.mem_cons_self _ _)
    rw [List.cons_append, List.cons_append, fracPart, if_pos hd,
      digitRun_append (fun x hx => hds x (List.mem_cons_of_mem _ hx)) fun c hc => (hr c hc).1]

theorem signPart_of_mem {signs : List Char} {c : Char} (hc : c ∈ signs) (s : List Char) :
    signPart signs (c :: s) = ([c], s) := by
  rw [signPart, if_pos hc]

theorem signPart_of_digit {signs : List Char} (hs : ∀ c ∈ signs, c.isDigit = false) {d : Char}
    (hd : d.isDigit) (s : List Char) : signPart signs (d :: s) = ([], d :: s) := by
  rw [signPart, if_neg fun h => by simp [hs d h] at hd]

theorem expPart_append {exp r : List Char} (he : ExpText exp) (hr : ∀ c ∈ r.head?, Ends c) :
    expPart (exp ++ r) = (exp, r) := by
  rcases he with rfl | ⟨x, sign, ds, rfl, hx, hsign, hne, hds⟩
  · cases r with
    | nil => rfl
    | cons c r =>
      obtain ⟨-, -, he, hE⟩ := hr c rfl
      rw [List.nil_append, expPart, if_neg (by tauto)]
  · obtain ⟨d, ds', rfl⟩ := List.exists_cons_of_ne_nil hne
    have hd := hds d (List.mem_cons_self _ _)
    have hsigns : ∀ c ∈ ['-', '+'], c.isDigit = false := by decide
    have hsp : signPart ['-', '+'] (sign ++ (d :: ds' ++ r)) = (sign, d :: ds' ++ r) := by
      rcases hsign with rfl | rfl | rfl
      · exact signPart_of_digit hsigns hd _
      · exact signPart_of_mem (by decide) _
      · exact signPart_of_mem (by decide) _
    rw [List.cons_append, List.append_assoc, expPart, if_pos hx]
    simp only [hsp]
    rw [digitRun_append hds fun c hc => (hr c hc).1]
    simp only [List.cons_ne_nil, if_false, List.cons_append]

/-- **A number's text reads back whole** when a delimiter, whitespace or nothing follows it. -/
theorem matchNumber_append {sign int frac exp r : List Char} (hs : sign = [] ∨ sign = ['-'])
    (hi : IntText int) (hf : FracText frac) (he : ExpText exp) (hr : Follows r) :
    matchNumber (sign ++ int ++ frac ++ exp ++ r) = some (sign ++ int ++ frac ++ exp, r) := by
  have hends := hr.ends
  have hexp : ∀ c ∈ (exp ++ r).head?, c.isDigit = false ∧ c ≠ '.' := by
    rcases he with rfl | ⟨x, _, _, rfl, hx, -⟩
    · exact fun c hc => ⟨(hends c hc).1, (hends c hc).2.1⟩
    · intro c hc
      obtain rfl : x = c := by simpa using hc
      rcases hx with rfl | rfl <;> decide
  have hfrac : ∀ c ∈ (frac ++ exp ++ r).head?, c.isDigit = false := by
    rcases hf with rfl | ⟨_, rfl, -⟩
    · exact fun c hc => (hexp c hc).1
    · intro c hc
      obtain rfl : c = '.' := by simpa using hc.symm
      decide
  obtain ⟨d, ds, rfl, hd⟩ := hi.head
  have hsp : signPart ['-'] (sign ++ (d :: ds ++ frac ++ exp ++ r)) = (sign, d :: ds ++ frac ++ exp ++ r) := by
    rcases hs with rfl | rfl
    · exact signPart_of_digit (by decide) hd _
    · exact signPart_of_mem (by decide) _
  simp only [List.append_assoc] at hsp ⊢
  simp only [matchNumber, hsp, intPart_append hi (by simpa only [List.append_assoc] using hfrac),
    fracPart_append hf hexp, expPart_append he hends, List.append_assoc]

/-! ### Constants, numbers and the first character -/

theorem matchConstant_digit {d : Char} (hd : d.isDigit) (s : List Char) :
    matchConstant (d :: s) = none := by
  simp [matchConstant, constants, List.isPrefixOf]
  refine ⟨?_, ?_, ?_, ?_, ?_, ?_⟩ <;> rintro rfl <;> exact absurd hd (by decide)

theorem matchConstant_minus {d : Char} (hd : d.isDigit) (s : List Char) :
    matchConstant ('-' :: d :: s) = none := by
  simp [matchConstant, constants, List.isPrefixOf]
  rintro rfl
  exact absurd hd (by decide)

/-- A constant's text reads back as the constant. -/
theorem scanValue_constant {k : List Char × Loaded} (hk : k ∈ constants) (fuel : Nat) (r : List Char) :
    scanValue (fuel + 1) (k.1 ++ r) = .ok (k.2, r) := by
  simp only [constants, List.mem_cons, List.mem_singleton, List.not_mem_nil, or_false] at hk
  rcases hk with rfl | rfl | rfl | rfl | rfl | rfl <;>
    simp [scanValue, matchConstant, constants, List.isPrefixOf]

/-- The text starts with a character that is neither whitespace nor a closing bracket. -/
def Opens (s : List Char) : Prop :=
  ∃ c cs, s = c :: cs ∧ isWhitespace c = false ∧ c ≠ ']' ∧ c ≠ '}'

theorem Opens.append {s : List Char} (h : Opens s) (t : List Char) : Opens (s ++ t) := by
  obtain ⟨c, cs, rfl, hc⟩ := h
  exact ⟨c, cs ++ t, rfl, hc⟩

theorem Opens.skipWs {s : List Char} (h : Opens s) : skipWs s = s := by
  obtain ⟨c, cs, rfl, hw, -⟩ := h
  exact skipWs_of_not hw cs

theorem Opens.head_ne {s : List Char} (h : Opens s) : s.head? ≠ some ']' ∧ s.head? ≠ some '}' := by
  obtain ⟨c, cs, rfl, -, h₁, h₂⟩ := h
  simpa using ⟨h₁, h₂⟩

theorem opens_digit {d : Char} (hd : d.isDigit) (cs : List Char) : Opens (d :: cs) := by
  refine ⟨d, cs, rfl, ?_, ?_, ?_⟩
  · cases hw : isWhitespace d
    · rfl
    · simp only [isWhitespace, Bool.or_eq_true, beq_iff_eq] at hw
      rcases hw with ((rfl | rfl) | rfl) | rfl <;> exact absurd hd (by decide)
  all_goals rintro rfl; exact absurd hd (by decide)

theorem NumberText.opens {t : List Char} (h : NumberText t) : Opens t := by
  cases h with
  | finite hs hi =>
    obtain ⟨d, ds, rfl, hd⟩ := hi.head
    rcases hs with rfl | rfl
    · exact (opens_digit hd _).append _ |>.append _
    · exact ⟨'-', _, rfl, rfl, by decide, by decide⟩
  | nan => exact ⟨'N', _, rfl, rfl, by decide, by decide⟩
  | infinity => exact ⟨'I', _, rfl, rfl, by decide, by decide⟩
  | negInfinity => exact ⟨'-', _, rfl, rfl, by decide, by decide⟩

/-- A value that is not a string, an object or an array: a constant, or a number. -/
theorem scanValue_other {s : List Char} (hs : ∃ c cs, s = c :: cs ∧ c ≠ '"' ∧ c ≠ '{' ∧ c ≠ '[')
    (fuel : Nat) : scanValue (fuel + 1) s = match matchConstant s with
      | some found => .ok found
      | none =>
        match matchNumber s with
        | some (literal, after) => .ok (.number (String.mk literal), after)
        | none => .error .stop := by
  obtain ⟨c, cs, rfl, h₁, h₂, h₃⟩ := hs
  rw [scanValue, if_neg h₁, if_neg h₂, if_neg h₃]

/-- **A number's text reads back as the number** when a delimiter, whitespace or nothing follows. -/
theorem scanValue_number {t r : List Char} (ht : NumberText t) (hr : Follows r) (fuel : Nat) :
    scanValue (fuel + 1) (t ++ r) = .ok (.number (String.mk t), r) := by
  cases ht with
  | finite hs hi hf he =>
    obtain ⟨d, ds, rfl, hd⟩ := hi.head
    have hne : ∀ c : Char, c.isDigit = false → d ≠ c := fun c hc h => absurd hd (by rw [h, hc]; decide)
    have hnum := matchNumber_append hs hi hf he hr
    simp only [List.append_assoc, List.cons_append] at hnum ⊢
    rcases hs with rfl | rfl
    · simp only [List.nil_append] at hnum ⊢
      rw [scanValue_other ⟨d, _, rfl, hne '"' rfl, hne '{' rfl, hne '[' rfl⟩, matchConstant_digit hd]
      simp only [hnum]
    · simp only [List.singleton_append] at hnum ⊢
      rw [scanValue_other ⟨'-', _, rfl, by decide, by decide, by decide⟩, matchConstant_minus hd]
      simp only [hnum]
  | nan => exact @scanValue_constant (['N', 'a', 'N'], .number "NaN") (by simp [constants]) fuel r
  | infinity =>
    exact @scanValue_constant (['I', 'n', 'f', 'i', 'n', 'i', 't', 'y'], .number "Infinity")
      (by simp [constants]) fuel r
  | negInfinity =>
    exact @scanValue_constant (['-', 'I', 'n', 'f', 'i', 'n', 'i', 't', 'y'], .number "-Infinity")
      (by simp [constants]) fuel r

theorem follows_cons {c : Char} (hc : c = ',' ∨ c = ']' ∨ c = '}' ∨ isWhitespace c = true)
    (s : List Char) : Follows (c :: s) :=
  fun _ h => Option.some.inj h ▸ hc

/-! ### Arrays and objects, one step at a time -/

theorem scanValue_array (fuel : Nat) (s : List Char) :
    scanValue (fuel + 1) ('[' :: s) = if (skipWs s).head? = some ']' then .ok (.array [], (skipWs s).tail)
      else parseItems fuel [] (skipWs s) := by
  rw [scanValue, if_neg (by decide), if_neg (by decide), if_pos rfl]

theorem scanValue_object (fuel : Nat) (s : List Char) :
    scanValue (fuel + 1) ('{' :: s) = if (skipWs s).head? = some '}' then .ok (.object [], (skipWs s).tail)
      else parseFields fuel [] (skipWs s) := by
  rw [scanValue, if_neg (by decide), if_pos rfl]

section
variable {fuel : Nat} {s after rest : List Char} {v : Loaded}

theorem parseItems_close {items : List Loaded} (h : scanValue fuel s = .ok (v, ']' :: after)) :
    parseItems (fuel + 1) items s = .ok (.array (items ++ [v]), after) := by
  rw [parseItems, h]
  rfl

theorem parseItems_comma {items : List Loaded} (h : scanValue fuel s = .ok (v, ',' :: after)) :
    parseItems (fuel + 1) items s = parseItems fuel (items ++ [v]) (skipWs after) := by
  rw [parseItems, h]
  rfl

variable {d : List (List Nat × Loaded)} {key : List Nat}

theorem parseFields_close (hk : scanstring s = .ok (key, ':' :: after))
    (hv : scanValue fuel (skipWs after) = .ok (v, '}' :: rest)) :
    parseFields (fuel + 1) d ('"' :: s) = .ok (.object (setItem d key v), rest) := by
  simp only [parseFields, hk, skipWs_of_not (show isWhitespace ':' = false by decide), hv,
    skipWs_of_not (show isWhitespace '}' = false by decide)]

theorem parseFields_comma (hk : scanstring s = .ok (key, ':' :: after))
    (hv : scanValue fuel (skipWs after) = .ok (v, ',' :: rest)) :
    parseFields (fuel + 1) d ('"' :: s) = parseFields fuel (setItem d key v) (skipWs rest) := by
  simp only [parseFields, hk, skipWs_of_not (show isWhitespace ':' = false by decide), hv,
    skipWs_of_not (show isWhitespace ',' = false by decide)]

end

/-! ### The fuel never runs out -/

theorem digitRun_split (s : List Char) : (digitRun s).1 ++ (digitRun s).2 = s :=
  List.takeWhile_append_dropWhile _ _

theorem signPart_split (signs s : List Char) : (signPart signs s).1 ++ (signPart signs s).2 = s := by
  cases s with
  | nil => rfl
  | cons c rest => rw [signPart]; split_ifs <;> rfl

theorem intPart_split {s a b : List Char} (h : intPart s = some (a, b)) : a ≠ [] ∧ a ++ b = s := by
  match s, h with
  | c :: rest, h =>
    rw [intPart] at h
    split_ifs at h with h₁ h₂
    · cases h; exact ⟨List.cons_ne_nil _ _, by rw [List.cons_append, digitRun_split]⟩
    · cases h; subst h₂; exact ⟨List.cons_ne_nil _ _, rfl⟩

theorem fracPart_split (s : List Char) : (fracPart s).1 ++ (fracPart s).2 = s := by
  unfold fracPart
  split
  · split_ifs
    · simp only [List.cons_append, digitRun_split]
    · rfl
  · rfl

theorem expPart_split (s : List Char) : (expPart s).1 ++ (expPart s).2 = s := by
  cases s with
  | nil => rfl
  | cons x rest =>
    rw [expPart]
    split_ifs
    · have hs := signPart_split ['-', '+'] rest
      have hd := digitRun_split (signPart ['-', '+'] rest).2
      dsimp only
      split_ifs
      · rfl
      · simp only [List.cons_append, List.append_assoc, hd, hs]
    · rfl

/-- The number's text is taken off the head of the text. -/
theorem matchNumber_split {s lit r : List Char} (h : matchNumber s = some (lit, r)) :
    lit ≠ [] ∧ lit ++ r = s := by
  have hs := signPart_split ['-'] s
  unfold matchNumber at h
  rcases hsp : signPart ['-'] s with ⟨sign, s₁⟩
  rw [hsp] at h hs
  dsimp only at h hs
  split at h
  · cases h
  · rename_i int s₂ hi
    obtain ⟨hne, hi⟩ := intPart_split hi
    have hf := fracPart_split s₂
    have he := expPart_split (fracPart s₂).2
    cases h
    refine ⟨by simp [hne], ?_⟩
    simp only [List.append_assoc, he, hf, hi, hs]

theorem matchConstant_length {s r : List Char} {v : Loaded} (h : matchConstant s = some (v, r)) :
    r.length < s.length := by
  unfold matchConstant at h
  obtain ⟨k, hk, hkv⟩ := Option.map_eq_some'.mp h
  cases hkv
  have hne : k.1 ≠ [] := by
    have : ∀ k ∈ constants, k.1 ≠ [] := by decide
    exact this k (List.mem_of_find?_eq_some hk)
  have hp := List.find?_some hk
  have hle := (List.isPrefixOf_iff_prefix.mp hp).length_le
  have := List.length_pos.mpr hne
  rw [List.length_drop]
  omega

theorem skipWs_length_le (s : List Char) : (skipWs s).length ≤ s.length :=
  (List.dropWhile_suffix _).length_le

/-- A delimiter met after the whitespace leaves less text than there was. -/
theorem skipWs_eq_cons_length {s rest : List Char} {c : Char} (h : skipWs s = c :: rest) :
    rest.length < s.length := by
  have := skipWs_length_le s
  rw [h, List.length_cons] at this
  omega

mutual

/-- What follows a value is shorter than the text it started. -/
theorem scanValue_length : ∀ {fuel : Nat} {s r : List Char} {v : Loaded},
    scanValue fuel s = .ok (v, r) → r.length < s.length
  | 0, _, _, _, h => by cases h
  | _ + 1, [], _, _, h => by cases h
  | fuel + 1, c :: rest, r, v, h => by
    have hws := skipWs_length_le rest
    rw [scanValue] at h
    split_ifs at h
    · split at h
      · cases h; exact (scanstring_length ‹_›).trans (Nat.lt_succ_self _)
      · cases h
    · dsimp only at h
      split_ifs at h
      · cases h; simp only [List.length_tail, List.length_cons]; omega
      · exact (parseFields_length h).trans_le (by simp only [List.length_cons]; omega)
    · dsimp only at h
      split_ifs at h
      · cases h; simp only [List.length_tail, List.length_cons]; omega
      · exact (parseItems_length h).trans_le (by simp only [List.length_cons]; omega)
    · split at h
      · cases h; exact matchConstant_length ‹_›
      · split at h
        · cases h
          obtain ⟨hne, hsplit⟩ := matchNumber_split ‹_›
          rw [← hsplit, List.length_append]
          have := List.length_pos.mpr hne
          omega
        · cases h

theorem parseItems_length : ∀ {fuel : Nat} {items : List Loaded} {s r : List Char} {v : Loaded},
    parseItems fuel items s = .ok (v, r) → r.length < s.length
  | 0, _, _, _, _, h => by cases h
  | fuel + 1, items, s, r, v, h => by
    rw [parseItems] at h
    split at h
    · cases h
    · rename_i w after hw
      have h₁ := scanValue_length hw
      split at h
      · rename_i rest hs
        cases h
        have := skipWs_eq_cons_length hs
        omega
      · rename_i rest hs
        have := skipWs_eq_cons_length hs
        have := (parseItems_length h).trans_le (skipWs_length_le rest)
        omega
      · cases h

theorem parseFields_length : ∀ {fuel : Nat} {d : List (List Nat × Loaded)} {s r : List Char} {v : Loaded},
    parseFields fuel d s = .ok (v, r) → r.length < s.length
  | 0, _, _, _, _, h => by cases h
  | _ + 1, _, [], _, _, h => by cases h
  | fuel + 1, d, c :: s, r, v, h => by
    by_cases hc : c = '"'
    · subst hc
      rw [parseFields] at h
      split at h
      · cases h
      · rename_i key after hk
        have h₁ := scanstring_length hk
        split at h
        · rename_i rest hs
          have h₂ := skipWs_eq_cons_length hs
          have h₃ := skipWs_length_le rest
          simp only [List.length_cons]
          split at h
          · cases h
          · rename_i w after' hw
            have h₄ := scanValue_length hw
            split at h
            · rename_i rest' hs'
              cases h
              have := skipWs_eq_cons_length hs'
              omega
            · rename_i rest' hs'
              have := skipWs_eq_cons_length hs'
              have := (parseFields_length h).trans_le (skipWs_length_le rest')
              omega
            · cases h
        · cases h
    · rw [parseFields] at h
      · cases h
      · rintro _ he
        cases he
        exact hc rfl

end

mutual

/-- **The fuel never runs out.** Each call either takes a character or hands a shorter text on, so
any fuel above twice the text's length gives the same result: `loads` is `scan_once` without a
bound. -/
theorem scanValue_fuel : ∀ {f f' : Nat} {s : List Char}, 2 * s.length < f → 2 * s.length < f' →
    scanValue f s = scanValue f' s
  | 0, _, _, h, _ => absurd h (Nat.not_lt_zero _)
  | _ + 1, 0, _, _, h => absurd h (Nat.not_lt_zero _)
  | _ + 1, _ + 1, [], _, _ => rfl
  | f + 1, f' + 1, c :: rest, h, h' => by
    have hws := skipWs_length_le rest
    simp only [List.length_cons] at h h'
    rw [scanValue, scanValue]
    dsimp only
    split_ifs
    all_goals first
      | rfl
      | exact parseFields_fuel (by omega) (by omega)
      | exact parseItems_fuel (by omega) (by omega)

theorem parseItems_fuel : ∀ {f f' : Nat} {items : List Loaded} {s : List Char},
    2 * s.length + 1 < f → 2 * s.length + 1 < f' → parseItems f items s = parseItems f' items s
  | 0, _, _, _, h, _ => absurd h (Nat.not_lt_zero _)
  | _ + 1, 0, _, _, _, h => absurd h (Nat.not_lt_zero _)
  | f + 1, f' + 1, items, s, h, h' => by
    rw [parseItems, parseItems, scanValue_fuel (show 2 * s.length < f by omega)
      (show 2 * s.length < f' by omega)]
    split
    · rfl
    · rename_i w after hw
      have h₁ := scanValue_length hw
      split
      · rfl
      · rename_i rest hs
        have h₂ := skipWs_eq_cons_length hs
        have h₃ := skipWs_length_le rest
        exact parseItems_fuel (by omega) (by omega)
      · rfl

theorem parseFields_fuel : ∀ {f f' : Nat} {d : List (List Nat × Loaded)} {s : List Char},
    2 * s.length + 1 < f → 2 * s.length + 1 < f' → parseFields f d s = parseFields f' d s
  | 0, _, _, _, h, _ => absurd h (Nat.not_lt_zero _)
  | _ + 1, 0, _, _, _, h => absurd h (Nat.not_lt_zero _)
  | _ + 1, _ + 1, _, [], _, _ => rfl
  | f + 1, f' + 1, d, c :: s, h, h' => by
    by_cases hc : c = '"'
    · subst hc
      simp only [List.length_cons] at h h'
      rw [parseFields, parseFields]
      split
      · rfl
      · rename_i key after hk
        have h₁ := scanstring_length hk
        split
        · rename_i rest hs
          have h₂ := skipWs_eq_cons_length hs
          have h₃ := skipWs_length_le rest
          rw [scanValue_fuel (show 2 * (skipWs rest).length < f by omega)
            (show 2 * (skipWs rest).length < f' by omega)]
          split
          · rfl
          · rename_i w after' hw
            have h₄ := scanValue_length hw
            split
            · rfl
            · rename_i rest' hs'
              have h₅ := skipWs_eq_cons_length hs'
              have h₆ := skipWs_length_le rest'
              exact parseFields_fuel (by omega) (by omega)
            · rfl
        · rfl
    · have hne : ∀ s', c :: s ≠ '"' :: s' := fun _ he => hc (List.cons.inj he).1
      rw [parseFields, parseFields]
      all_goals first | rfl | exact fun s' he => hne s' he

end

/-! ### What `json.dumps` writes reads back -/

/-- Every number of the texts has JSON's number syntax. -/
def JsonNumbers (ns : List String) : Prop := ∀ n ∈ ns, NumberText n.data

theorem iterencodeList_cons_cons (v w : Value) (ws : List Value) :
    iterencodeList (v :: w :: ws) = iterencode v ++ ',' :: ' ' :: iterencodeList (w :: ws) := by
  rw [iterencodeList, List.append_assoc]
  rfl

theorem iterencodeDict_single (k : String) (v : Value) :
    iterencodeDict [(k, v)] = '"' :: (encodePoints (points k) ++ '"' :: ':' :: ' ' :: iterencode v) := by
  simp only [iterencodeDict, encodeBasestringAscii, List.cons_append, List.append_assoc]
  rfl

theorem iterencodeDict_cons_cons (k : String) (v : Value) (f : String × Value)
    (fs : List (String × Value)) : iterencodeDict ((k, v) :: f :: fs) = '"' :: (encodePoints (points k) ++
      '"' :: ':' :: ' ' :: (iterencode v ++ ',' :: ' ' :: iterencodeDict (f :: fs))) := by
  simp only [iterencodeDict, encodeBasestringAscii, List.cons_append, List.append_assoc]
  rfl

theorem iterencode_opens (v : Value) (h : JsonNumbers (numbers v)) (hs : unserializable v = none) :
    Opens (iterencode v) := by
  cases v with
  | null => exact ⟨'n', _, rfl, rfl, by decide, by decide⟩
  | bool b => cases b <;> exact ⟨_, _, rfl, rfl, by decide, by decide⟩
  | number literal => exact (h literal (List.mem_singleton_self _)).opens
  | string s => exact ⟨'"', _, rfl, rfl, by decide, by decide⟩
  | array items => exact ⟨'[', _, rfl, rfl, by decide, by decide⟩
  | object fields => exact ⟨'{', _, rfl, rfl, by decide, by decide⟩
  | other typeName => cases hs

theorem iterencodeList_opens {v : Value} {vs : List Value} (h : JsonNumbers (numbersList (v :: vs)))
    (hs : unserializableList (v :: vs) = none) : Opens (iterencodeList (v :: vs)) := by
  have hv := (List.forall_mem_append.mp h).1
  have hsv := (Option.or_eq_none.mp hs).1
  cases vs with
  | nil => exact iterencode_opens v hv hsv
  | cons w ws =>
    rw [iterencodeList_cons_cons]
    exact (iterencode_opens v hv hsv).append _

theorem iterencodeDict_opens (f : String × Value) (fs : List (String × Value)) :
    Opens (iterencodeDict (f :: fs)) := by
  obtain ⟨k, v⟩ := f
  cases fs with
  | nil => rw [iterencodeDict_single]; exact ⟨'"', _, rfl, rfl, by decide, by decide⟩
  | cons f fs => rw [iterencodeDict_cons_cons]; exact ⟨'"', _, rfl, rfl, by decide, by decide⟩

theorem iterencode_length_pos (v : Value) (h : JsonNumbers (numbers v)) (hs : unserializable v = none) :
    0 < (iterencode v).length := by
  obtain ⟨c, cs, hc, -⟩ := iterencode_opens v h hs
  simp [hc]

mutual

/-- **`json.loads` reads back what `json.dumps` writes.** With a unit of fuel for each character,
`scan_once` reads the text of a value that `json.dumps` serializes, its numbers with JSON's number
syntax, back to the Python object the value stands for, and stops right after it, whatever
delimiter or whitespace follows. -/
theorem scanValue_iterencode : ∀ (v : Value), JsonNumbers (numbers v) → unserializable v = none →
    ∀ (fuel : Nat) (rest : List Char), (iterencode v).length ≤ fuel → Follows rest →
      scanValue fuel (iterencode v ++ rest) = .ok (load v, rest)
  | v, h, hs, 0, _, hf, _ => absurd hf (Nat.not_le_of_lt (iterencode_length_pos v h hs))
  | .null, _, _, fuel + 1, rest, _, _ =>
    @scanValue_constant (['n', 'u', 'l', 'l'], .null) (by simp [constants]) fuel rest
  | .bool true, _, _, fuel + 1, rest, _, _ =>
    @scanValue_constant (['t', 'r', 'u', 'e'], .bool true) (by simp [constants]) fuel rest
  | .bool false, _, _, fuel + 1, rest, _, _ =>
    @scanValue_constant (['f', 'a', 'l', 's', 'e'], .bool false) (by simp [constants]) fuel rest
  | .number literal, h, _, fuel + 1, rest, _, hr =>
    scanValue_number (h literal (List.mem_singleton_self _)) hr fuel
  | .string s, _, _, fuel + 1, rest, _, _ => by
    rw [show iterencode (.string s) ++ rest = '"' :: (encodePoints (points s) ++ '"' :: rest) by
      simp [iterencode, encodeBasestringAscii], scanValue, if_pos rfl, scanstring_points]
    rfl
  | .array [], _, _, fuel + 1, rest, _, _ => by
    rw [show iterencode (.array []) ++ rest = '[' :: ']' :: rest from rfl, scanValue_array,
      skipWs_of_not (by decide)]
    rfl
  | .array (v :: vs), h, hs, fuel + 1, rest, hf, _ => by
    have ho := (iterencodeList_opens h hs).append (']' :: rest)
    have hlen : (iterencode (.array (v :: vs))).length = (iterencodeList (v :: vs)).length + 2 := by
      simp [iterencode]
    rw [show iterencode (.array (v :: vs)) ++ rest = '[' :: (iterencodeList (v :: vs) ++ ']' :: rest) by
      simp [iterencode], scanValue_array, ho.skipWs, if_neg ho.head_ne.1,
      parseItems_iterencodeList (v :: vs) (List.cons_ne_nil _ _) h hs fuel [] rest (by omega)]
    rfl
  | .object [], _, _, fuel + 1, rest, _, _ => by
    rw [show iterencode (.object []) ++ rest = '{' :: '}' :: rest from rfl, scanValue_object,
      skipWs_of_not (by decide)]
    rfl
  | .object (f :: fs), h, hs, fuel + 1, rest, hf, _ => by
    have hlen : (iterencode (.object (f :: fs))).length = (iterencodeDict (f :: fs)).length + 2 := by
      simp [iterencode]
    have ho := (iterencodeDict_opens f fs).append ('}' :: rest)
    rw [show iterencode (.object (f :: fs)) ++ rest = '{' :: (iterencodeDict (f :: fs) ++ '}' :: rest)
      by simp [iterencode], scanValue_object, ho.skipWs, if_neg ho.head_ne.2,
      parseFields_iterencodeDict (f :: fs) (List.cons_ne_nil _ _) h hs fuel [] rest (by omega)]
    rfl
  | .other _, _, hs, _ + 1, _, _, _ => by cases hs

theorem parseItems_iterencodeList : ∀ (vs : List Value), vs ≠ [] → JsonNumbers (numbersList vs) →
    unserializableList vs = none → ∀ (fuel : Nat) (items : List Loaded) (rest : List Char),
      (iterencodeList vs).length < fuel →
      parseItems fuel items (iterencodeList vs ++ ']' :: rest) = .ok (.array (items ++ loadItems vs), rest)
  | [], hne, _, _, _, _, _, _ => absurd rfl hne
  | _, _, _, _, 0, _, _, hf => absurd hf (Nat.not_lt_zero _)
  | [v], _, h, hs, fuel + 1, items, rest, hf => by
    have hv : JsonNumbers (numbers v) := (List.forall_mem_append.mp h).1
    rw [show iterencodeList [v] = iterencode v from rfl] at hf ⊢
    rw [parseItems_close (scanValue_iterencode v hv (Option.or_eq_none.mp hs).1 fuel (']' :: rest)
      (by omega) (follows_cons (.inr (.inl rfl)) rest))]
    rfl
  | v :: w :: ws, _, h, hs, fuel + 1, items, rest, hf => by
    obtain ⟨hv, hws⟩ := List.forall_mem_append.mp h
    obtain ⟨hsv, hsws⟩ := Option.or_eq_none.mp hs
    have ho := (iterencodeList_opens hws hsws).append (']' :: rest)
    rw [iterencodeList_cons_cons] at hf ⊢
    simp only [List.length_append, List.length_cons] at hf
    rw [List.append_assoc, List.cons_append, List.cons_append,
      parseItems_comma (scanValue_iterencode v hv hsv fuel _ (by omega) (follows_cons (.inl rfl) _)),
      skipWs_space, ho.skipWs, parseItems_iterencodeList (w :: ws) (List.cons_ne_nil _ _) hws hsws fuel _
        rest (by omega)]
    simp [loadItems]

theorem parseFields_iterencodeDict : ∀ (fs : List (String × Value)), fs ≠ [] →
    JsonNumbers (numbersDict fs) → unserializableDict fs = none →
    ∀ (fuel : Nat) (d : List (List Nat × Loaded)) (rest : List Char), (iterencodeDict fs).length < fuel →
      parseFields fuel d (iterencodeDict fs ++ '}' :: rest) = .ok (.object (loadFields d fs), rest)
  | [], hne, _, _, _, _, _, _ => absurd rfl hne
  | _, _, _, _, 0, _, _, hf => absurd hf (Nat.not_lt_zero _)
  | [(k, v)], _, h, hs, fuel + 1, d, rest, hf => by
    have hv : JsonNumbers (numbers v) := (List.forall_mem_append.mp h).1
    have hsv := (Option.or_eq_none.mp hs).1
    have ho := (iterencode_opens v hv hsv).append ('}' :: rest)
    rw [iterencodeDict_single] at hf ⊢
    simp only [List.length_append, List.length_cons] at hf
    rw [List.cons_append, List.append_assoc, List.cons_append, List.cons_append, List.cons_append,
      parseFields_close (scanstring_points _ _) (by
        rw [skipWs_space, ho.skipWs]
        exact scanValue_iterencode v hv hsv fuel _ (by omega) (follows_cons (.inr (.inr (.inl rfl))) rest))]
    rfl
  | (k, v) :: f :: fs, _, h, hs, fuel + 1, d, rest, hf => by
    obtain ⟨hv, hfs⟩ := List.forall_mem_append.mp h
    obtain ⟨hsv, hsfs⟩ := Option.or_eq_none.mp hs
    have hopen := (iterencodeDict_opens f fs).append ('}' :: rest)
    have ho := (iterencode_opens v hv hsv).append (',' :: ' ' :: (iterencodeDict (f :: fs) ++ '}' :: rest))
    rw [iterencodeDict_cons_cons] at hf ⊢
    simp only [List.length_append, List.length_cons] at hf
    rw [List.cons_append, List.append_assoc, List.cons_append, List.cons_append, List.cons_append,
      List.append_assoc, List.cons_append, List.cons_append,
      parseFields_comma (scanstring_points _ _) (by
        rw [skipWs_space, ho.skipWs]
        exact scanValue_iterencode v hv hsv fuel _ (by omega) (follows_cons (.inl rfl) _)),
      skipWs_space, hopen.skipWs,
      parseFields_iterencodeDict (f :: fs) (List.cons_ne_nil _ _) hfs hsfs fuel _ rest (by omega)]
    rfl

end

/-- **Every request line loads back to its message.** When `json.dumps` serializes every
parameter, `json.loads` of the line `execute` writes, its newline included, is the message it
serialized, `{"type": "query", "query": query, "params": params}`, as Python objects: whatever the
statement and the parameters contain, as long as the parameters' numbers have JSON's number
syntax. -/
theorem loads_requestLine (r : Request) (h : JsonNumbers (numbersList r.params))
    (hs : unserializableList r.params = none) : loads (requestLine r) = .ok (load (message r)) := by
  have hm : JsonNumbers (numbers (message r)) := by
    simpa [JsonNumbers, message, numbers, numbersDict] using h
  have hsm : unserializable (message r) = none := (unserializable_message r).trans hs
  have ho := (iterencode_opens (message r) hm hsm).append ['\n']
  have hlen : (requestLine r).length = (iterencode (message r)).length + 1 := by simp [requestLine]
  unfold loads
  rw [if_neg (by rw [show (requestLine r).head? = some '{' from rfl]; decide), requestLine, ho.skipWs,
    scanValue_iterencode (message r) hm hsm _ ['\n'] (by rw [← requestLine]; omega)
      (follows_cons (.inr (.inr (.inr (by decide)))) [])]
  rfl

/-- The docstring's `client.query("SELECT * FROM users WHERE age > ?", [18])`. -/
def ageQuery : Request := request "SELECT * FROM users WHERE age > ?" (some [.number "18"])

theorem loads_requestLine_ageQuery :
    JsonNumbers (numbersList ageQuery.params) ∧ unserializableList ageQuery.params = none ∧
      loads (requestLine ageQuery) = .ok (load (message ageQuery)) := by
  have h : JsonNumbers (numbersList ageQuery.params) := by
    intro n hn
    obtain rfl : n = "18" := by simpa [ageQuery, request, numbersList, numbers] using hn
    exact @NumberText.finite [] ['1', '8'] [] [] (.inl rfl) (.inr ⟨⟨by decide, by decide⟩, by decide⟩)
      (.inl rfl) (.inl rfl)
  exact ⟨h, rfl, loads_requestLine ageQuery h rfl⟩

end DriftDB.Wire
