import DriftDB.Connection

/-!
# `Transaction`

`Transaction` (client.py) binds a pooled connection in `__aenter__` (`self._conn = await
acquire()`, then `BEGIN TRANSACTION` on it) and gives it back in `__aexit__`, which sends `COMMIT`
when the body raised nothing and `ROLLBACK` otherwise, and releases the connection in a `finally`.
`execute`, `commit` and `rollback` check only that a connection is bound (`call`).

The model threads the object (`conn`) and records what it does outside itself (`Effect`): each
request it sends, on which connection, and each `release`. What `acquire()` returns and how each
`Connection.execute` goes (`Exchange`) are inputs. `scope` is the `async with` statement; `life` is
one object from `Transaction(pool)` on: calls before the scope, the scope with its body, and calls
after it.

* `scope_released`: the scope releases the connection once when `acquire()` and `BEGIN` succeed,
  whatever the body and the closing exchange do, and never otherwise. When `BEGIN` fails, Python does
  not run `__aexit__`: the connection `acquire()` returned stays bound and is never released
  (`begin_failure_leaks`).
* `life_effects`: everything a transaction object does, in order. Nothing records that the
  transaction ended: a `commit()` in the body is followed by `__aexit__`'s own `COMMIT` (the `Client`
  docstring's example sends two, `docstring_commits_twice`), and a call after the scope still sends
  on the connection the scope released.
-/

namespace DriftDB

/-- `QueryError("Transaction not started")`. -/
def notStarted : DriftError := .query "Transaction not started"

/-- How one `Connection.execute` goes: the connection is not connected, or `json.dumps` cannot
serialize a parameter (an object of type `typeName`), and nothing is sent; or the request is
written and the exchange ends with `out`. -/
inductive Exchange
  | unconnected
  | unserializable (typeName : String)
  | sent (out : Except DriftError QueryResult)

/-- What a transaction does outside itself. -/
inductive Effect
  | send (c : Nat) (request : Request)
  | release (c : Nat)

namespace Exchange

/-- What `Connection.execute` returns or raises. -/
def result : Exchange → Except DriftError QueryResult
  | unconnected => .error notConnected
  | unserializable typeName => .error (executionFailed (notSerializable typeName))
  | sent out => out

/-- The exchange returned a result. -/
def ok (x : Exchange) : Bool := x.result.toBool

/-- What the exchange sends on connection `c`. -/
def sends (x : Exchange) (c : Nat) (sql : String) (params : Option (List Value)) : List Effect :=
  match x with
  | unconnected | unserializable _ => []
  | sent _ => [.send c (request sql params)]

end Exchange

namespace Effect

/-- The connection and statement of a send. -/
def sent : Effect → Option (Nat × String)
  | send c r => some (c, r.query)
  | release _ => none

/-- The connection a release gives back. -/
def released : Effect → Option Nat
  | send _ _ => none
  | release c => some c

end Effect

/-- `execute(sql, params)`, `commit()` or `rollback()`. -/
inductive Op
  | execute (sql : String) (params : Option (List Value))
  | commit
  | rollback

namespace Op

/-- The statement the method sends. -/
def sql : Op → String
  | execute sql _ => sql
  | commit => "COMMIT"
  | rollback => "ROLLBACK"

/-- The parameters the method sends. -/
def params : Op → Option (List Value)
  | execute _ params => params
  | _ => none

end Op

/-- A method call and how its `Connection.execute` goes. -/
structure Call where
  op : Op
  exchange : Exchange

/-- What a call sends on connection `c`. -/
def Call.sends (c : Nat) (call : Call) : List Effect := call.exchange.sends c call.op.sql call.op.params

/-- The transaction object, `self._conn`, and what it has done so far. -/
structure Transaction where
  conn : Option Nat
  effects : List Effect

namespace Transaction

/-- `Transaction(pool)`. -/
def new : Transaction := ⟨none, []⟩

/-- `Connection.execute(sql, params)` on `c`. -/
def exchange (tx : Transaction) (c : Nat) (sql : String) (params : Option (List Value)) (x : Exchange) :
    Except DriftError QueryResult × Transaction :=
  (x.result, { tx with effects := tx.effects ++ x.sends c sql params })

/-- The three methods: `if not self._conn: raise QueryError("Transaction not started")`, then the
statement on the bound connection. -/
def call (tx : Transaction) (sql : String) (params : Option (List Value)) (x : Exchange) :
    Except DriftError QueryResult × Transaction :=
  match tx.conn with
  | none => (.error notStarted, tx)
  | some c => tx.exchange c sql params x

/-- `execute(sql, params)`. -/
def execute (tx : Transaction) (sql : String) (params : Option (List Value)) (x : Exchange) :
    Except DriftError QueryResult × Transaction :=
  tx.call sql params x

/-- `commit()`. -/
def commit (tx : Transaction) (x : Exchange) : Except DriftError Unit × Transaction :=
  let r := tx.call "COMMIT" none x
  (r.1.map fun _ => (), r.2)

/-- `rollback()`. -/
def rollback (tx : Transaction) (x : Exchange) : Except DriftError Unit × Transaction :=
  let r := tx.call "ROLLBACK" none x
  (r.1.map fun _ => (), r.2)

/-- One method call. -/
def perform (tx : Transaction) (c : Call) : Except DriftError Unit × Transaction :=
  match c.op with
  | .execute sql params =>
    let r := tx.execute sql params c.exchange
    (r.1.map fun _ => (), r.2)
  | .commit => tx.commit c.exchange
  | .rollback => tx.rollback c.exchange

/-- Calls in order; whoever makes them handles or ignores what they raise. -/
def calls (tx : Transaction) : List Call → Transaction
  | [] => tx
  | c :: rest => (tx.perform c).2.calls rest

/-- `__aenter__`: bind what `acquire()` returned, then send `BEGIN TRANSACTION` on it. -/
def aenter (tx : Transaction) (acquired : Except DriftError Nat) (begin : Exchange) :
    Except DriftError Unit × Transaction :=
  match acquired with
  | .error e => (.error e, tx)
  | .ok c =>
    let r := ({ tx with conn := some c } : Transaction).exchange c "BEGIN TRANSACTION" none begin
    (r.1.map fun _ => (), r.2)

/-- The statement `__aexit__` sends. -/
def closing (raised : Bool) : String := if raised then "ROLLBACK" else "COMMIT"

/-- What leaves an `async with` statement by an exception. -/
inductive Raised
  /-- Raised by the client or the pool. -/
  | error (e : DriftError)
  /-- `self._conn.execute` with no connection bound: `AttributeError`. -/
  | unbound
  /-- What the body raised, re-raised because `__aexit__` returns `None`. -/
  | body

/-- `__aexit__`: `COMMIT` when the body raised nothing, `ROLLBACK` otherwise; then, in the `finally`,
`release` if a connection is bound. -/
def aexit (tx : Transaction) (raised : Bool) (close : Exchange) : Except Raised Unit × Transaction :=
  match tx.conn with
  | none => (.error .unbound, tx)
  | some c =>
    let r := tx.exchange c (closing raised) none close
    ((r.1.map fun _ => ()).mapError .error, { r.2 with effects := r.2.effects ++ [.release c] })

/-- `async with tx: body`: when `__aenter__` raises, that leaves the statement and `__aexit__` does
not run. Otherwise the body's calls, then `__aexit__` told whether the body raised; its exception
replaces the body's, and otherwise the body's is re-raised. -/
def scope (tx : Transaction) (acquired : Except DriftError Nat) (begin : Exchange) (body : List Call)
    (raised : Bool) (close : Exchange) : Except Raised Unit × Transaction :=
  let entered := tx.aenter acquired begin
  match entered.1 with
  | .error e => (.error (.error e), entered.2)
  | .ok () =>
    let exited := (entered.2.calls body).aexit raised close
    (exited.1.bind fun _ => if raised then .error .body else .ok (), exited.2)

/-- One transaction object: calls before the scope, the scope, and calls after it. -/
def life (pre : List Call) (acquired : Except DriftError Nat) (begin : Exchange) (body : List Call)
    (raised : Bool) (close : Exchange) (post : List Call) : Transaction :=
  ((new.calls pre).scope acquired begin body raised close).2.calls post

/-! ### What the methods do -/

@[simp] theorem exchange_fst (tx : Transaction) (c : Nat) (sql : String) (params : Option (List Value))
    (x : Exchange) : (tx.exchange c sql params x).1 = x.result := rfl

@[simp] theorem exchange_snd (tx : Transaction) (c : Nat) (sql : String) (params : Option (List Value))
    (x : Exchange) : (tx.exchange c sql params x).2 = ⟨tx.conn, tx.effects ++ x.sends c sql params⟩ := rfl

/-- With no connection bound, each method raises `Transaction not started` and does nothing. -/
theorem perform_unbound {tx : Transaction} (h : tx.conn = none) (c : Call) :
    tx.perform c = (.error notStarted, tx) := by
  cases hop : c.op <;> simp [perform, hop, execute, commit, rollback, call, h, Except.map]

/-- With `d` bound, each method sends its statement on `d`. -/
theorem perform_bound {tx : Transaction} {d : Nat} (h : tx.conn = some d) (c : Call) :
    (tx.perform c).2 = ⟨some d, tx.effects ++ c.sends d⟩ := by
  cases hop : c.op <;> simp [perform, hop, execute, commit, rollback, call, h, Call.sends, Op.sql, Op.params]

theorem calls_unbound {tx : Transaction} (h : tx.conn = none) : ∀ cs, tx.calls cs = tx
  | [] => rfl
  | c :: cs => by rw [calls, perform_unbound h, calls_unbound h cs]

theorem calls_bound {tx : Transaction} {d : Nat} (h : tx.conn = some d) :
    ∀ cs, tx.calls cs = ⟨some d, tx.effects ++ cs.flatMap (Call.sends d)⟩
  | [] => by obtain ⟨_, _⟩ := tx; simp_all [calls]
  | c :: cs => by
    rw [calls, @calls_bound (tx.perform c).2 d (by rw [perform_bound h]) cs, perform_bound h]
    simp

theorem aenter_ok (tx : Transaction) (c : Nat) (begin : Exchange) :
    tx.aenter (.ok c) begin =
      (begin.result.map fun _ => (), ⟨some c, tx.effects ++ begin.sends c "BEGIN TRANSACTION" none⟩) :=
  rfl

theorem aexit_bound {tx : Transaction} {c : Nat} (h : tx.conn = some c) (raised : Bool) (close : Exchange) :
    tx.aexit raised close = ((close.result.map fun _ => ()).mapError .error,
      ⟨some c, tx.effects ++ close.sends c (closing raised) none ++ [.release c]⟩) := by
  simp [aexit, h]

/-! ### The scope -/

theorem scope_acquire_error (tx : Transaction) (e : DriftError) (begin : Exchange) (body : List Call)
    (raised : Bool) (close : Exchange) : tx.scope (.error e) begin body raised close = (.error (.error e), tx) :=
  rfl

/-- What the scope does once `acquire()` returned `c`: `BEGIN TRANSACTION`, and only when it
succeeded the body, `__aexit__`'s statement and the `release`. -/
theorem scope_acquired (tx : Transaction) (c : Nat) (begin : Exchange) (body : List Call) (raised : Bool)
    (close : Exchange) : (tx.scope (.ok c) begin body raised close).2 =
      ⟨some c, tx.effects ++ begin.sends c "BEGIN TRANSACTION" none ++
        if begin.ok then body.flatMap (Call.sends c) ++ close.sends c (closing raised) none ++ [.release c]
        else []⟩ := by
  have hbody := @calls_bound ⟨some c, tx.effects ++ begin.sends c "BEGIN TRANSACTION" none⟩ c rfl body
  simp only [scope, aenter_ok, Exchange.ok]
  rcases begin with _ | _ | ⟨e | r⟩ <;>
    simp [Exchange.result, Except.map, Except.toBool, hbody, aexit_bound]

/-! ### Releases -/

@[simp] theorem released_sends (x : Exchange) (c : Nat) (sql : String) (params : Option (List Value)) :
    (x.sends c sql params).filterMap Effect.released = [] := by
  cases x <;> rfl

@[simp] theorem released_calls (c : Nat) (cs : List Call) :
    (cs.flatMap (Call.sends c)).filterMap Effect.released = [] := by
  induction cs with
  | nil => rfl
  | cons call cs ih => simp [List.filterMap_append, Call.sends, ih]

/-- The scope releases the connection `acquire()` returned once when `BEGIN` succeeded, whatever the
body and `__aexit__`'s exchange do, and never otherwise. -/
theorem scope_released (tx : Transaction) (acquired : Except DriftError Nat) (begin : Exchange)
    (body : List Call) (raised : Bool) (close : Exchange) :
    (tx.scope acquired begin body raised close).2.effects.filterMap Effect.released =
      tx.effects.filterMap Effect.released ++
        match acquired with
        | .error _ => []
        | .ok c => if begin.ok then [c] else [] := by
  cases acquired with
  | error e => simp [scope_acquire_error]
  | ok c =>
    rw [scope_acquired]
    split <;> simp [List.filterMap_append, Effect.released]

/-- **A failed `BEGIN` leaks the connection.** When `acquire()` returned `c` and `BEGIN TRANSACTION`
fails, the `async with` raises, `c` stays bound to the object, and nothing releases it. -/
theorem begin_failure_leaks (c : Nat) (begin : Exchange) (hbegin : begin.ok = false) (body : List Call)
    (raised : Bool) (close : Exchange) :
    (Transaction.new.scope (.ok c) begin body raised close).1.toBool = false ∧
      (Transaction.new.scope (.ok c) begin body raised close).2.conn = some c ∧
      (Transaction.new.scope (.ok c) begin body raised close).2.effects.filterMap Effect.released = [] := by
  refine ⟨?_, by rw [scope_acquired], by simp [scope_acquired, hbegin, new]⟩
  rcases begin with _ | _ | ⟨e | r⟩ <;>
    simp_all [scope, aenter_ok, Exchange.ok, Exchange.result, Except.map, Except.toBool]

theorem begin_failure_leaks_rejected :
    (Exchange.sent (.error (.query "Query execution failed: Unknown error"))).ok = false ∧
      (Transaction.new.scope (.ok 0) (.sent (.error (.query "Query execution failed: Unknown error")))
          [] false .unconnected).1.toBool = false ∧
      (Transaction.new.scope (.ok 0) (.sent (.error (.query "Query execution failed: Unknown error")))
          [] false .unconnected).2.conn = some 0 ∧
      (Transaction.new.scope (.ok 0) (.sent (.error (.query "Query execution failed: Unknown error")))
          [] false .unconnected).2.effects.filterMap Effect.released = [] :=
  ⟨rfl, begin_failure_leaks 0 (.sent (.error (.query "Query execution failed: Unknown error"))) rfl [] false
    .unconnected⟩

/-! ### A whole life -/

/-- **Everything a transaction object does.** Calls made while no connection is bound raise
`Transaction not started` and send nothing. Once `acquire()` returned `c`, every request goes to `c`:
`BEGIN TRANSACTION`; when it succeeded, the body's statements, then `COMMIT` or `ROLLBACK` as the body
ended, also after a `commit()` or `rollback()` in the body, and the `release`; then the statements
of every call made after the scope. -/
theorem life_effects (pre : List Call) (acquired : Except DriftError Nat) (begin : Exchange)
    (body : List Call) (raised : Bool) (close : Exchange) (post : List Call) :
    (∀ call, Transaction.new.perform call = (.error notStarted, Transaction.new)) ∧
      (life pre acquired begin body raised close post).effects =
        match acquired with
        | .error _ => []
        | .ok c => begin.sends c "BEGIN TRANSACTION" none ++
            (if begin.ok then
              body.flatMap (Call.sends c) ++ close.sends c (closing raised) none ++ [.release c]
            else []) ++
            post.flatMap (Call.sends c) := by
  have hpre : new.calls pre = new := calls_unbound rfl pre
  refine ⟨perform_unbound rfl, ?_⟩
  rw [life, hpre]
  cases acquired with
  | error e => rw [scope_acquire_error, calls_unbound rfl]; rfl
  | ok c =>
    rw [calls_bound (by rw [scope_acquired]), scope_acquired]
    simp [new]

/-- An empty result. -/
def emptyResult : QueryResult := ⟨[], 0, [], none⟩

/-- The `Client` docstring's transaction body: two `INSERT`s, then `tx.commit()`, all answered. -/
def docstringBody : List Call :=
  [⟨.execute "INSERT INTO users VALUES (?, ?)" (some [.number "1", .string "Alice"]),
      .sent (.ok emptyResult)⟩,
    ⟨.execute "INSERT INTO users VALUES (?, ?)" (some [.number "2", .string "Bob"]),
      .sent (.ok emptyResult)⟩,
    ⟨.commit, .sent (.ok emptyResult)⟩]

/-- The `Client` docstring's transaction sends `COMMIT` twice: for `tx.commit()`, and from
`__aexit__` when the body ends. -/
theorem docstring_commits_twice :
    (Transaction.new.scope (.ok 0) (.sent (.ok emptyResult)) docstringBody false
        (.sent (.ok emptyResult))).2.effects.filterMap Effect.sent =
      [(0, "BEGIN TRANSACTION"), (0, "INSERT INTO users VALUES (?, ?)"),
        (0, "INSERT INTO users VALUES (?, ?)"), (0, "COMMIT"), (0, "COMMIT")] :=
  rfl

end Transaction

end DriftDB
