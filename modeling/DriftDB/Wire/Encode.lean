import DriftDB.Connection

/-!
# The request line

`Connection.execute` writes `json.dumps(message).encode() + b"\n"`. With `json.dumps`'s defaults
(`ensure_ascii`, separators `", "` and `": "`, no indent) the text is built by `iterencode`, whose
strings go through `py_encode_basestring_ascii` (`encodeBasestringAscii`, on the string's code
points): `"` and `\` are escaped, and so is every code point outside printable ASCII, newlines and
lone surrogates included. An object of another type makes `json.dumps` raise `TypeError` before
anything is written (`dumps`, naming the first such object in the order `iterencode` walks).

Every character of the text is printable ASCII (`iterencode_printable`) as soon as the numbers' own
texts are, as the `repr` of an `int` or a `float` is; so the text holds no newline and `.encode()`
writes one byte per character. Each request is therefore one line, and the stream a connection
carries splits at its newlines into the requests' texts, in order, whatever the statements and
parameters contain (`requestLines_splitOn`).
-/

namespace DriftDB

/-- A character `' '` to `'~'`. -/
def Printable (c : Char) : Prop := ' ' ≤ c ∧ c ≤ '~'

instance : DecidablePred Printable := fun _ => inferInstanceAs (Decidable (_ ∧ _))

namespace Wire

/-- `'{0:04x}'.format(n)` for `n < 0x10000`: four lowercase hexadecimal digits. -/
def hex4 (n : Nat) : List Char :=
  [Nat.digitChar (n / 4096 % 16), Nat.digitChar (n / 256 % 16), Nat.digitChar (n / 16 % 16),
    Nat.digitChar (n % 16)]

/-- `'\\u{0:04x}'.format(n)`. -/
def uEscape (n : Nat) : List Char := '\\' :: 'u' :: hex4 n

/-- `replace` in `py_encode_basestring_ascii`, applied to a code point `ESCAPE_ASCII` matches or
kept as it is: the `ESCAPE_DCT` entries, a printable character, `\uXXXX` below `0x10000` (a lone
surrogate among them), a surrogate pair above. -/
def encodePoint (n : Nat) : List Char :=
  if n = 0x5c then ['\\', '\\']
  else if n = 0x22 then ['\\', '"']
  else if n = 0x08 then ['\\', 'b']
  else if n = 0x0c then ['\\', 'f']
  else if n = 0x0a then ['\\', 'n']
  else if n = 0x0d then ['\\', 'r']
  else if n = 0x09 then ['\\', 't']
  else if 0x20 ≤ n ∧ n ≤ 0x7e then [Char.ofNat n]
  else if n < 0x10000 then uEscape n
  else
    let m := n - 0x10000
    uEscape (0xd800 ||| (m >>> 10 &&& 0x3ff)) ++ uEscape (0xdc00 ||| (m &&& 0x3ff))

/-- `ESCAPE_ASCII.sub(replace, s)` on a `str`'s code points. -/
def encodePoints (ps : List Nat) : List Char := ps.flatMap encodePoint

/-- `py_encode_basestring_ascii(s)`: `'"' + ESCAPE_ASCII.sub(replace, s) + '"'`. -/
def encodeBasestringAscii (ps : List Nat) : List Char := '"' :: encodePoints ps ++ ['"']

/-- The code points of a string. -/
def points (s : String) : List Nat := s.data.map Char.toNat

example : encodeBasestringAscii (points "a\"\n\u00e9😀") = "\"a\\\"\\n\\u00e9\\ud83d\\ude00\"".data := by
  decide

mutual

/-- `_iterencode(o)` with `json.dumps`'s defaults, joined: the JSON text of a value. -/
def iterencode : Value → List Char
  | .null => "null".data
  | .bool b => if b then "true".data else "false".data
  | .number literal => literal.data
  | .string s => encodeBasestringAscii (points s)
  | .array items => '[' :: iterencodeList items ++ [']']
  | .object fields => '{' :: iterencodeDict fields ++ ['}']
  | .other _ => []

/-- `_iterencode_list` between its brackets: the items joined by `", "`. -/
def iterencodeList : List Value → List Char
  | [] => []
  | [v] => iterencode v
  | v :: w :: rest => iterencode v ++ ", ".data ++ iterencodeList (w :: rest)

/-- `_iterencode_dict` between its braces: `key: value` pairs joined by `", "`. -/
def iterencodeDict : List (String × Value) → List Char
  | [] => []
  | [(k, v)] => encodeBasestringAscii (points k) ++ ": ".data ++ iterencode v
  | (k, v) :: f :: rest =>
    encodeBasestringAscii (points k) ++ ": ".data ++ iterencode v ++ ", ".data ++ iterencodeDict (f :: rest)

end

mutual

/-- The type of the first object `iterencode` meets that `json.dumps` cannot serialize. -/
def unserializable : Value → Option String
  | .array items => unserializableList items
  | .object fields => unserializableDict fields
  | .other typeName => some typeName
  | _ => none

def unserializableList : List Value → Option String
  | [] => none
  | v :: rest => (unserializable v).or (unserializableList rest)

def unserializableDict : List (String × Value) → Option String
  | [] => none
  | (_, v) :: rest => (unserializable v).or (unserializableDict rest)

end

/-- `json.dumps(o)`: the text, or the `TypeError` that `default` raises for the first object it
cannot serialize. -/
def dumps (v : Value) : Except String (List Char) :=
  match unserializable v with
  | some typeName => .error (notSerializable typeName)
  | none => .ok (iterencode v)

mutual

/-- The texts of the numbers in a value. -/
def numbers : Value → List String
  | .number literal => [literal]
  | .array items => numbersList items
  | .object fields => numbersDict fields
  | _ => []

def numbersList : List Value → List String
  | [] => []
  | v :: rest => numbers v ++ numbersList rest

def numbersDict : List (String × Value) → List String
  | [] => []
  | (_, v) :: rest => numbers v ++ numbersDict rest

end

/-- The message `execute` serializes: `{"type": ..., "query": ..., "params": ...}`, in that order. -/
def message (r : Request) : Value :=
  .object [("type", .string r.type), ("query", .string r.query), ("params", .array r.params)]

/-- `json.dumps(message).encode() + b"\n"`: what `execute` writes, once `dumps` succeeded. -/
def requestLine (r : Request) : List Char := iterencode (message r) ++ ['\n']

theorem unserializable_message (r : Request) : unserializable (message r) = unserializableList r.params := by
  simp [message, unserializable, unserializableDict]

/-! ### Every character is printable -/

/-- Every number of the texts is written with printable characters. -/
def PrintableNumbers (ns : List String) : Prop := ∀ n ∈ ns, ∀ c ∈ n.data, Printable c

instance : DecidablePred PrintableNumbers := fun _ => inferInstanceAs (Decidable (∀ _ ∈ _, ∀ _ ∈ _, _))

theorem hex4_printable (n : Nat) : ∀ c ∈ hex4 n, Printable c := by
  have hdigit : ∀ k < 16, Printable (Nat.digitChar k) := by decide
  simp only [hex4, List.forall_mem_cons, List.not_mem_nil, false_imp_iff, implies_true, and_true]
  exact ⟨hdigit _ (Nat.mod_lt _ (by decide)), hdigit _ (Nat.mod_lt _ (by decide)),
    hdigit _ (Nat.mod_lt _ (by decide)), hdigit _ (Nat.mod_lt _ (by decide))⟩

theorem uEscape_printable (n : Nat) : ∀ c ∈ uEscape n, Printable c :=
  List.forall_mem_cons.mpr ⟨by decide, List.forall_mem_cons.mpr ⟨by decide, hex4_printable n⟩⟩

/-- A property of the text each test of an `if` chain picks holds of the text picked. -/
theorem ite_list {p : Prop} [Decidable p] (P : List Char → Prop) {a b : List Char} (ha : p → P a)
    (hb : ¬p → P b) : P (if p then a else b) :=
  iteInduction ha hb

/-- The printable code points are the printable characters. -/
theorem ofNat_printable : ∀ n < 0x7f, 0x20 ≤ n → Printable (Char.ofNat n) ∧ (Char.ofNat n).toNat = n := by
  decide

theorem encodePoint_printable (n : Nat) : ∀ d ∈ encodePoint n, Printable d := by
  unfold encodePoint
  repeat' refine ite_list (fun x => ∀ d ∈ x, Printable d) (fun _ => ?_) (fun _ => ?_)
  any_goals decide
  · exact List.forall_mem_singleton.mpr (ofNat_printable n (by omega) ‹_ ∧ _›.1).1
  · exact uEscape_printable _
  · exact List.forall_mem_append.mpr ⟨uEscape_printable _, uEscape_printable _⟩

theorem encodePoint_ne_nil (n : Nat) : encodePoint n ≠ [] := by
  unfold encodePoint
  repeat' refine ite_list (· ≠ []) (fun _ => ?_) (fun _ => ?_)
  all_goals simp [uEscape]

theorem encodeBasestringAscii_printable (ps : List Nat) : ∀ c ∈ encodeBasestringAscii ps, Printable c := by
  simp only [encodeBasestringAscii, encodePoints, List.cons_append, List.forall_mem_cons,
    List.forall_mem_append, List.forall_mem_flatMap]
  exact ⟨by decide, fun n _ => encodePoint_printable n, by decide⟩

mutual

/-- **The JSON text is printable ASCII** when the numbers' texts are. -/
theorem iterencode_printable : ∀ v : Value, PrintableNumbers (numbers v) →
    ∀ c ∈ iterencode v, Printable c
  | .null, _ => by decide
  | .bool b, _ => by cases b <;> decide
  | .number literal, h => h literal (List.mem_singleton_self _)
  | .string s, _ => encodeBasestringAscii_printable (points s)
  | .array items, h => List.forall_mem_cons.mpr
      ⟨by decide, List.forall_mem_append.mpr ⟨iterencodeList_printable items h, by decide⟩⟩
  | .object fields, h => List.forall_mem_cons.mpr
      ⟨by decide, List.forall_mem_append.mpr ⟨iterencodeDict_printable fields h, by decide⟩⟩
  | .other _, _ => fun _ h => absurd h (List.not_mem_nil _)

theorem iterencodeList_printable : ∀ vs : List Value, PrintableNumbers (numbersList vs) →
    ∀ c ∈ iterencodeList vs, Printable c
  | [], _ => fun _ h => absurd h (List.not_mem_nil _)
  | [v], h => iterencode_printable v fun n hn => h n (List.mem_append_left _ hn)
  | v :: w :: rest, h =>
    have h' := List.forall_mem_append.mp h
    List.forall_mem_append.mpr ⟨List.forall_mem_append.mpr ⟨iterencode_printable v h'.1, by decide⟩,
      iterencodeList_printable (w :: rest) h'.2⟩

theorem iterencodeDict_printable : ∀ fs : List (String × Value), PrintableNumbers (numbersDict fs) →
    ∀ c ∈ iterencodeDict fs, Printable c
  | [], _ => fun _ h => absurd h (List.not_mem_nil _)
  | [(k, v)], h => List.forall_mem_append.mpr
      ⟨List.forall_mem_append.mpr ⟨encodeBasestringAscii_printable (points k), by decide⟩,
        iterencode_printable v fun n hn => h n (List.mem_append_left _ hn)⟩
  | (k, v) :: f :: rest, h =>
    have h' := List.forall_mem_append.mp h
    List.forall_mem_append.mpr ⟨List.forall_mem_append.mpr ⟨List.forall_mem_append.mpr
      ⟨List.forall_mem_append.mpr ⟨encodeBasestringAscii_printable (points k), by decide⟩,
        iterencode_printable v h'.1⟩, by decide⟩, iterencodeDict_printable (f :: rest) h'.2⟩

end

/-! ### One request, one line -/

/-- A request's JSON text holds no newline when its parameters' numbers are printable. -/
theorem newline_not_mem_message (r : Request) (h : PrintableNumbers (numbersList r.params)) :
    '\n' ∉ iterencode (message r) := fun hn =>
  absurd (iterencode_printable (message r) (by simpa [PrintableNumbers, message, numbers, numbersDict]
    using h) '\n' hn) (by decide)

/-- **Each request is one line.** The requests a connection writes, split at the newlines of the
stream, are the requests' JSON texts in the order they were written, followed by the empty text
after the last newline, whatever their statements and parameters contain. -/
theorem requestLines_splitOn (reqs : List Request)
    (h : ∀ r ∈ reqs, PrintableNumbers (numbersList r.params)) :
    (reqs.flatMap requestLine).splitOn '\n' = reqs.map (fun r => iterencode (message r)) ++ [[]] := by
  induction reqs with
  | nil => rfl
  | cons r reqs ih =>
    have hr : ∀ c ∈ iterencode (message r), ¬ (c == '\n') = true := fun c hc hn =>
      newline_not_mem_message r (h r (List.mem_cons_self _ _)) (eq_of_beq hn ▸ hc)
    rw [List.flatMap_cons, requestLine, List.append_assoc, List.singleton_append, List.splitOn,
      List.splitOnP_first _ _ hr _ (beq_self_eq_true _), ← List.splitOn,
      ih fun r' hr' => h r' (List.mem_cons_of_mem _ hr')]
    rfl

/-- A statement and a parameter with newlines and quotes, then a second request. -/
def twoRequests : List Request :=
  [request "SELECT *\nFROM users WHERE name = ?" (some [.string "O'Brien\n\"x\"", .number "1.5e3"]),
    request "COMMIT" none]

theorem requestLines_splitOn_twoRequests :
    (∀ r ∈ twoRequests, PrintableNumbers (numbersList r.params)) ∧
      (twoRequests.flatMap requestLine).splitOn '\n' =
        twoRequests.map (fun r => iterencode (message r)) ++ [[]] :=
  ⟨by decide, requestLines_splitOn twoRequests (by decide)⟩

end Wire

end DriftDB
