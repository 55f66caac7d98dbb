import Mathlib.Data.List.Basic

/-!
# `Connection`: one link to the server

`Connection.execute` (client.py) serializes a request, writes it, reads one line and decodes it
(`decode`): a response whose `type` is `"error"` raises `QueryError` with the server's `message`,
anything else becomes a `QueryResult` with `row_count = len(rows)` (`decode_rowCount`). Because the
`QueryError` is raised inside the `try`, its `except Exception` catches it and raises it again as
`"Query execution failed: …"`; a line that is not JSON gives `"Invalid response from server: …"`.
Every error `decode` produces is a `QueryError` (`decode_error`).

The link itself (`Link`) is the spec's `link_state` together with the stream the server writes:
the server answers each request with one line, in order, so the unread part of the stream is the
lines of the requests in `inflight`, oldest first. A `readline` that overruns the reader's limit
before the end of a line drops what it buffered of it (`cut`); the next `readline` then returns
the rest of that line. When the server closes the stream (`hangUp`), the responses it wrote before
closing stay buffered and `readline` returns them first; a request it never answered, or one
written after the close, gets no line, and `readline` then reports the end of the stream.
-/

namespace DriftDB

/-- A parameter or a field, as the client passes it through unread: a JSON value (a `str` without
surrogate code points, a `list`, a `dict` with `str` keys), or an object of another type, named by
its type, which `json.dumps` cannot serialize. -/
inductive Value
  | null
  | bool (b : Bool)
  | number (literal : String)
  | string (s : String)
  | array (items : List Value)
  | object (fields : List (String × Value))
  | other (typeName : String)

/-- `Row(data)`. -/
structure Row where
  data : List (String × Value)

/-- `QueryResult(rows, row_count, columns, execution_time_ms)`. -/
structure QueryResult where
  rows : List Row
  rowCount : Nat
  columns : List String
  executionTimeMs : Option Value

/-- The exceptions of exceptions.py the client raises. -/
inductive DriftError
  | connection (message : String)
  | query (message : String)
  | timeout (message : String)
  deriving DecidableEq

/-- The request line `execute` writes: `{"type": "query", "query": query, "params": params or []}`. -/
structure Request where
  type : String
  query : String
  params : List Value

/-- The message `execute` serializes. -/
def request (query : String) (params : Option (List Value)) : Request :=
  ⟨"query", query, params.getD []⟩

/-- A response object; a field is `none` when its key is absent. -/
structure Response where
  type : Option String
  message : Option String
  rows : Option (List Row)
  columns : Option (List String)
  executionTimeMs : Option Value

/-- A response line as `json.loads` sees it. -/
inductive Line
  | malformed (error : String)
  | object (response : Response)

/-- `execute` after its `readline`: decode the line, raise the server's error, or build the result. -/
def decode : Line → Except DriftError QueryResult
  | .malformed e => .error (.query ("Invalid response from server: " ++ e))
  | .object r =>
    if r.type = some "error" then
      .error (.query ("Query execution failed: " ++ r.message.getD "Unknown error"))
    else
      .ok ⟨r.rows.getD [], (r.rows.getD []).length, r.columns.getD [], r.executionTimeMs⟩

/-- `execute` on a connection that is not connected. -/
def notConnected : DriftError := .connection "Not connected to server"

/-- The `TypeError` `json.dumps` raises for an object it cannot serialize, by its type's name. -/
def notSerializable (typeName : String) : String := "Object of type " ++ typeName ++ " is not JSON serializable"

/-- `execute`'s `except Exception as e`: `QueryError(f"Query execution failed: {e}")`. -/
def executionFailed (message : String) : DriftError := .query ("Query execution failed: " ++ message)

theorem decode_rowCount {l : Line} {r : QueryResult} (h : decode l = .ok r) :
    r.rowCount = r.rows.length := by
  cases l with
  | malformed e => cases h
  | object resp =>
    by_cases ht : resp.type = some "error" <;> simp [decode, ht] at h
    subst h
    rfl

theorem decode_error {l : Line} {e : DriftError} (h : decode l = .error e) :
    ∃ message, e = .query message := by
  cases l with
  | malformed err => cases h; exact ⟨_, rfl⟩
  | object resp =>
    by_cases ht : resp.type = some "error" <;> simp [decode, ht] at h
    exact ⟨_, h.symm⟩

/-! ### The link -/

/-- The spec's `link_state`: `Unconnected` until `connect` succeeds, `Connected` after, `Closed`
once `close` ran. -/
inductive LinkState
  | unconnected
  | connected
  | closed
  deriving DecidableEq

/-- A connection's link and the unread part of its stream. -/
structure Link where
  state : LinkState
  /-- The requests written whose response line has not been read, oldest first. -/
  inflight : List Nat
  /-- A `readline` overran the limit and dropped the start of the first unread line. -/
  cut : Bool
  /-- The server closed the stream. -/
  eof : Bool

namespace Link

/-- `Connection(host, port)`. -/
def fresh : Link := ⟨.unconnected, [], false, false⟩

/-- `connect` succeeded. -/
def connect (l : Link) : Link := { l with state := .connected }

/-- `close()`. -/
def close (l : Link) : Link := { l with state := .closed }

/-- `self._writer.write(...)` of request `q`; once the server has closed the stream, no line will
answer it. -/
def write (l : Link) (q : Nat) : Link := if l.eof then l else { l with inflight := l.inflight ++ [q] }

/-- A `readline` consumed the first unread line (whole, or the rest of a cut one). -/
def take (l : Link) : Link := { l with inflight := l.inflight.tail, cut := false }

/-- A `readline` overran the limit before the end of the first unread line. -/
def cutHead (l : Link) : Link := { l with cut := true }

/-- The server closed the stream after writing the responses to the first `k` unread requests,
which stay buffered. -/
def hangUp (l : Link) (k : Nat) : Link := { l with inflight := l.inflight.take k, eof := true }

/-- Nothing unread: the next line on the link answers the next request written. -/
def Quiet (l : Link) : Prop := l.inflight = [] ∧ l.cut = false

@[simp] theorem fresh_state : fresh.state = .unconnected := rfl
@[simp] theorem connect_state (l : Link) : l.connect.state = .connected := rfl
@[simp] theorem close_state (l : Link) : l.close.state = .closed := rfl
@[simp] theorem write_state (l : Link) (q : Nat) : (l.write q).state = l.state := by
  unfold write; split <;> rfl
@[simp] theorem take_state (l : Link) : l.take.state = l.state := rfl
@[simp] theorem cutHead_state (l : Link) : l.cutHead.state = l.state := rfl
@[simp] theorem hangUp_state (l : Link) (k : Nat) : (l.hangUp k).state = l.state := rfl

end Link

end DriftDB
