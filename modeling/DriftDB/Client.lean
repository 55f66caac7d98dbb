import DriftDB.Pool.Basic
import DriftDB.Query.Placeholders

/-!
# `Client`

`Client` (client.py) is a thin layer over the pool. `Client.connect` splits its address at the last
`:` (`splitAddress`; `splitAddress_joinAddress` is the round trip) and initializes a pool of
`min_connections` to `max_connections` connections. `query` borrows a connection for one `execute`
and releases it in a `finally` (`queryUse`); `execute`, `query_at_seq` and `query_at_time` call
`query`, the last two after appending a `FOR SYSTEM_TIME AS OF` clause that adds no placeholder
(`count_atSeqSql`), so a statement built by `QueryBuilder` keeps one `?` per parameter.

A transaction scope borrows a connection for `BEGIN TRANSACTION`, the statements of its body and
the closing `COMMIT` or `ROLLBACK` of `__aexit__`, and releases it in `__aexit__`'s `finally`
(`transactionUse`). When `BEGIN` fails, `__aenter__` raises, Python does not run `__aexit__`, and
the connection stays with the scope.
-/

namespace DriftDB.Client

open Pool

/-! ### `Client.connect` -/

/-- `address.rsplit(":", 1)` unpacked into `host, port_str`: the text before and after the last
`:`, or `none` where there is no `:` and the unpacking raises `ValueError`. -/
def splitAddress (address : String) : Option (String × String) :=
  match address.data.reverse.span (· ≠ ':') with
  | (_, []) => none
  | (portRev, _ :: hostRev) => some (String.mk hostRev.reverse, String.mk portRev.reverse)

/-- `f"{host}:{port}"`, the address `Client.connect` expects. -/
def joinAddress (host port : String) : String := host ++ ":" ++ port

/-- `rsplit` splits at the last `:`, so a host that itself holds `:` comes back whole. -/
theorem splitAddress_joinAddress (host port : String) (hport : ':' ∉ port.data) :
    splitAddress (joinAddress host port) = some (host, port) := by
  have hne : ∀ c ∈ port.data.reverse, decide (c ≠ ':') = true := fun c hc => by
    simpa using ne_of_mem_of_not_mem (List.mem_reverse.mp hc) hport
  have hsplit : (joinAddress host port).data.reverse.span (· ≠ ':') =
      (port.data.reverse, ':' :: host.data.reverse) := by
    simp only [joinAddress, String.data_append, List.reverse_append, List.span_eq_take_drop,
      List.takeWhile_append_of_pos hne, List.dropWhile_append_of_pos hne]
    simp
  rw [splitAddress, hsplit]
  simp

theorem splitAddress_joinAddress_local :
    ':' ∉ "5432".data ∧ splitAddress (joinAddress "localhost" "5432") = some ("localhost", "5432") :=
  ⟨by decide, splitAddress_joinAddress "localhost" "5432" (by decide)⟩

/-- The pool `Client.connect(address, min_connections, max_connections)` creates. -/
def connectConfig (minConnections maxConnections : Int) : Config := ⟨minConnections, maxConnections⟩

/-- `Client.connect`'s defaults, `min_connections = 2` and `max_connections = 10`. -/
def defaultConfig : Config := connectConfig 2 10

/-! ### Queries -/

/-- `Client.query` as a borrower: one `execute`, then `release` in the `finally` whatever its
outcome. `execute`, `query_at_seq` and `query_at_time` borrow through it. -/
def queryUse : Use := .execute .release .release

/-- `Client.execute`: the `row_count` of the result. -/
def executeCount (result : QueryResult) : Nat := result.rowCount

/-- `query_at_seq`'s statement, `f"{sql} FOR SYSTEM_TIME AS OF @SEQ:{sequence}"`. -/
def atSeqSql (sql : String) (sequence : Int) : String :=
  sql ++ " FOR SYSTEM_TIME AS OF @SEQ:" ++ toString sequence

/-- `query_at_time`'s statement, `f"{sql} FOR SYSTEM_TIME AS OF '{timestamp}'"`, for a timestamp
string (a `datetime` is first turned into one by `isoformat()`). -/
def atTimeSql (sql timestamp : String) : String :=
  sql ++ " FOR SYSTEM_TIME AS OF '" ++ timestamp ++ "'"

/-- The time-travel clause of `query_at_seq` adds no placeholder. -/
theorem count_atSeqSql (sql : String) (sequence : Int) :
    (atSeqSql sql sequence).data.count '?' = sql.data.count '?' := by
  have hseq := List.count_eq_zero_of_not_mem (Query.mark_not_mem_int sequence)
  have hclause : " FOR SYSTEM_TIME AS OF @SEQ:".data.count '?' = 0 := by decide
  simp only [atSeqSql, String.data_append, List.count_append, hseq, hclause, add_zero]

/-! ### Transaction scopes -/

/-- A scope's body as the pool sees it: statements sent through `tx`, each continuing by its
outcome, until the body ends, normally or by an exception. -/
inductive Body
  | finish (raised : Bool)
  | execute (ok err : Body)

/-- The borrower from the end of `__aenter__`: the body, then `__aexit__`'s `COMMIT` or `ROLLBACK`
and, whatever its outcome, `release`. -/
def Body.use : Body → Use
  | .finish _ => .execute .release .release
  | .execute ok err => .execute ok.use err.use

/-- `async with client.transaction() as tx: body`: `BEGIN TRANSACTION`, then the body; when `BEGIN`
fails `__aenter__` raises and nothing releases the connection. -/
def transactionUse (body : Body) : Use := .execute body.use .keep

end DriftDB.Client
