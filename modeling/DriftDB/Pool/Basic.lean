import DriftDB.Connection

/-!
# `ConnectionPool` under concurrent tasks

The pool (client.py) is shared by asyncio tasks that interleave at their `await`s. `Sys` is the
state of the pool (`_available`, `_size`, `_lock`), of the connections it created (`links`) and of
every task (`tasks`, one program counter `Pc` each); `step` is one task running from one `await`
to the next, and `ReachableBy cfg P` are the states that steps allowed by `P` reach from a
pool whose `initialize()` has run.

A task runs `initialize()`, runs `close()`, or makes a borrowing call: `acquire()`, then what the
caller does with the connection (`Use`), which is some `execute`s, each continuing by its outcome,
and then `release` or nothing. `Client.query` and the transaction scope are such calls.
`initialize()` loops `min_size` times (none when `min_size` is not positive, as `range` does):
it creates a `Connection` and awaits its `connect` (`initConnect`), with no lock and no guard;
then `_size += 1` and the `put` make the connection idle. `acquire()` has the source's three
phases: `poll` (`wait_for(get(), 1.0)`), `lock` and `connect` (the guarded create, `connect`
suspended while holding the lock), and `wait` (the unbounded `get()`). `close()` loops while
`_available` is not empty (`drain`), takes a connection with a `wait_for(get(), 0.1)`
(`drainGet`) and closes it (`closing`), its bare `except` swallowing a timeout or a failed close.
Time is not modelled: a `wait_for` may time out at any step where it has not yet completed.
`min_size` and `max_size` are Python `int`s, unchecked, so `Config` keeps them as `Int`.

`execute` is split at its `await`s: `write` puts the request on the link (`drain` cannot take it
back), unless `json.dumps` raised on a parameter first, and the task then waits for a line
(`exchange`); the line is read whole (`read`), overruns the reader's limit (`overrun`), ends at
the server's close once no line is buffered (`readEof`), or the task is cancelled (`cancel`).
`log` records, for every line read whole, the request the reading `execute` wrote and the request
the line answers.
-/

namespace DriftDB.Pool

/-- `ConnectionPool(host, port, min_size, max_size, timeout)`: the sizes the pool reads. -/
structure Config where
  minSize : Int
  maxSize : Int

/-- What a caller does with the connection `acquire()` returned: `release` it, keep it (control
left the call without a `release`), or `execute` a statement and go on by its outcome. -/
inductive Use
  | release
  | keep
  | execute (ok err : Use)

/-- Where a task is. -/
inductive Pc
  | idle
  | poll (u : Use)
  | lock (u : Use)
  | connect (c : Nat) (u : Use)
  | wait (u : Use)
  | hold (c : Nat) (u : Use)
  | exchange (c q : Nat) (ok err : Use)
  | drain
  | drainGet
  | closing (c : Nat)
  /-- In `initialize()`'s loop with `left` more connections to create. -/
  | initializing (left : Nat)
  /-- In `initialize()`, awaiting the `connect` of connection `c`, with `left` more to create. -/
  | initConnect (c left : Nat)

namespace Pc

/-- The connection a task holds, between `acquire()` and `release`. -/
def held : Pc → Option Nat
  | hold c _ => some c
  | exchange c _ _ _ => some c
  | _ => none

/-- The connection `close()` took from `_available` and is closing. -/
def closing? : Pc → Option Nat
  | closing c => some c
  | _ => none

/-- The connection a task is connecting in `conn.connect`, inside `async with self._lock`. -/
def connecting : Pc → Option Nat
  | connect c _ => some c
  | _ => none

/-- The connection `initialize()` is connecting, with no lock held. -/
def initConnecting : Pc → Option Nat
  | initConnect c _ => some c
  | _ => none

end Pc

/-- The pool, its connections and its tasks. -/
structure Sys where
  /-- `self._available`, head first. -/
  available : List Nat
  /-- `self._size`. -/
  size : Nat
  /-- `self._lock.locked()`. -/
  locked : Bool
  /-- `Connection` objects created so far: their ids are `0, …, conns - 1`. -/
  conns : Nat
  /-- Requests written so far: their ids are `0, …, requests - 1`. -/
  requests : Nat
  links : Nat → Link
  tasks : List Pc
  /-- For every line read whole: the request of the reading `execute`, the request the line answers. -/
  log : List (Nat × Nat)
  /-- The connections `close()` has closed. -/
  retired : List Nat

namespace Sys

/-- Task `t` moves to `p`. -/
def setTask (s : Sys) (t : Nat) (p : Pc) : Sys := { s with tasks := s.tasks.set t p }

/-- Connection `c`'s link changes by `f`. -/
def setLink (s : Sys) (c : Nat) (f : Link → Link) : Sys :=
  { s with links := Function.update s.links c (f (s.links c)) }

@[simp] theorem setTask_available (s : Sys) (t : Nat) (p : Pc) :
    (s.setTask t p).available = s.available := rfl
@[simp] theorem setTask_size (s : Sys) (t : Nat) (p : Pc) : (s.setTask t p).size = s.size := rfl
@[simp] theorem setTask_locked (s : Sys) (t : Nat) (p : Pc) : (s.setTask t p).locked = s.locked := rfl
@[simp] theorem setTask_conns (s : Sys) (t : Nat) (p : Pc) : (s.setTask t p).conns = s.conns := rfl
@[simp] theorem setTask_links (s : Sys) (t : Nat) (p : Pc) : (s.setTask t p).links = s.links := rfl
@[simp] theorem setTask_tasks (s : Sys) (t : Nat) (p : Pc) :
    (s.setTask t p).tasks = s.tasks.set t p := rfl
@[simp] theorem setTask_log (s : Sys) (t : Nat) (p : Pc) : (s.setTask t p).log = s.log := rfl
@[simp] theorem setTask_retired (s : Sys) (t : Nat) (p : Pc) :
    (s.setTask t p).retired = s.retired := rfl

@[simp] theorem setLink_available (s : Sys) (c : Nat) (f : Link → Link) :
    (s.setLink c f).available = s.available := rfl
@[simp] theorem setLink_size (s : Sys) (c : Nat) (f : Link → Link) : (s.setLink c f).size = s.size := rfl
@[simp] theorem setLink_locked (s : Sys) (c : Nat) (f : Link → Link) :
    (s.setLink c f).locked = s.locked := rfl
@[simp] theorem setLink_conns (s : Sys) (c : Nat) (f : Link → Link) :
    (s.setLink c f).conns = s.conns := rfl
@[simp] theorem setLink_links (s : Sys) (c : Nat) (f : Link → Link) :
    (s.setLink c f).links = Function.update s.links c (f (s.links c)) := rfl
@[simp] theorem setLink_tasks (s : Sys) (c : Nat) (f : Link → Link) :
    (s.setLink c f).tasks = s.tasks := rfl
@[simp] theorem setLink_log (s : Sys) (c : Nat) (f : Link → Link) : (s.setLink c f).log = s.log := rfl
@[simp] theorem setLink_retired (s : Sys) (c : Nat) (f : Link → Link) :
    (s.setLink c f).retired = s.retired := rfl

/-- `Connection(self.host, self.port)` in `_create_connection()`: a new object, its link fresh. -/
def create (s : Sys) : Sys :=
  { s with conns := s.conns + 1, links := Function.update s.links s.conns Link.fresh }

/-- Connection `c`'s `connect` succeeded, `self._size += 1`, and `put` makes it idle. -/
def putConnected (s : Sys) (c : Nat) : Sys :=
  { s.setLink c Link.connect with size := s.size + 1, available := s.available ++ [c] }

/-- The task `setTask` moves, if it exists, is then at its new place. -/
theorem setTask_self {s : Sys} {t : Nat} {q : Pc} (hq : s.tasks[t]? = some q) (p : Pc) :
    (s.setTask t p).tasks[t]? = some p :=
  List.getElem?_set_self (List.getElem?_eq_some_iff.mp hq).1

/-- A task set to where it is leaves the task list as it was. -/
theorem tasks_set_self {s : Sys} {t : Nat} {p : Pc} (h : s.tasks[t]? = some p) :
    s.tasks.set t p = s.tasks := by
  apply List.ext_getElem?
  intro i
  by_cases hi : t = i
  · subst hi
    rw [List.getElem?_set_self (List.getElem?_eq_some_iff.mp h).1, h]
  · rw [List.getElem?_set_ne hi]

/-- A task set to where it is leaves the pool as it was. -/
theorem setTask_eq_self {s : Sys} {t : Nat} {p : Pc} (h : s.tasks[t]? = some p) : s.setTask t p = s := by
  simp only [setTask, tasks_set_self h]

/-- Moving a task twice leaves it at the second place. -/
theorem setTask_setTask (s : Sys) (t : Nat) (p p' : Pc) :
    (s.setTask t p).setTask t p' = s.setTask t p' := by
  simp [setTask]

theorem create_setTask (s : Sys) (t : Nat) (p : Pc) :
    (s.setTask t p).create = s.create.setTask t p := rfl

theorem putConnected_setTask (s : Sys) (t : Nat) (p : Pc) (c : Nat) :
    (s.setTask t p).putConnected c = (s.putConnected c).setTask t p := rfl

end Sys

/-- The pool after `initialize()` created `k` connections (all `min_size` of them unless a
`connect` failed), with `n` tasks that have not started. -/
def initialized (k n : Nat) : Sys where
  available := List.range k
  size := k
  locked := false
  conns := k
  requests := 0
  links := fun c => if c < k then Link.fresh.connect else Link.fresh
  tasks := List.replicate n .idle
  log := []
  retired := []

/-- One step of one task, from an `await` to the next, or of the server. -/
inductive Action
  /-- Task `t` calls `acquire()` and will use the connection as `u` says. -/
  | call (t : Nat) (u : Use)
  | pollGet (t : Nat)
  | pollTimeout (t : Nat)
  | lockAcquire (t : Nat)
  | connectOk (t : Nat)
  | connectFail (t : Nat)
  | waitGet (t : Nat)
  /-- Task `t` is cancelled while it waits in `acquire()`. -/
  | abort (t : Nat)
  | release (t : Nat)
  /-- Task `t`'s `execute` writes its request; `dumped` is whether `json.dumps` serialized the
  message: when it raised, nothing is written and `execute` raises. -/
  | write (t : Nat) (dumped : Bool)
  | read (t : Nat) (line : Line)
  | overrun (t : Nat) (whole : Bool)
  | readEof (t : Nat)
  | cancel (t : Nat)
  /-- The server closes connection `c`'s stream after answering `k` of the unread requests. -/
  | hangUp (c k : Nat)
  /-- Task `t` calls `close()`. -/
  | close (t : Nat)
  | drainCheck (t : Nat)
  | drainGet (t : Nat)
  | drainTimeout (t : Nat)
  | closeConn (t : Nat)
  /-- `conn.close()` raised; `close()`'s bare `except` drops the connection and goes on. -/
  | closeConnFail (t : Nat)
  /-- Task `t` calls `initialize()`. -/
  | initStart (t : Nat)
  /-- The head of `initialize()`'s loop: create the next connection and await its `connect`, or
  return. -/
  | initNext (t : Nat)
  | initConnectOk (t : Nat)
  /-- `connect` raised: the exception leaves `initialize()`. -/
  | initConnectFail (t : Nat)

/-- The outcome of an `execute` whose line was read whole. -/
def after (line : Line) (ok err : Use) : Use :=
  match decode line with
  | .ok _ => ok
  | .error _ => err

/-- One step; `none` when the action cannot run in this state. -/
def step (cfg : Config) (s : Sys) : Action → Option Sys
  | .call t u =>
    match s.tasks[t]? with
    | some .idle => some (s.setTask t (.poll u))
    | _ => none
  | .pollGet t =>
    match s.tasks[t]?, s.available with
    | some (.poll u), c :: rest => some { s.setTask t (.hold c u) with available := rest }
    | _, _ => none
  | .pollTimeout t =>
    match s.tasks[t]? with
    | some (.poll u) => some (s.setTask t (.lock u))
    | _ => none
  | .lockAcquire t =>
    match s.tasks[t]? with
    | some (.lock u) =>
      if s.locked then none
      else if (s.size : Int) < cfg.maxSize then
        some { s.setTask t (.connect s.conns u) with
          locked := true, conns := s.conns + 1, links := Function.update s.links s.conns Link.fresh }
      else some (s.setTask t (.wait u))
    | _ => none
  | .connectOk t =>
    match s.tasks[t]? with
    | some (.connect c u) =>
      some { (s.setTask t (.hold c u)).setLink c Link.connect with size := s.size + 1, locked := false }
    | _ => none
  | .connectFail t =>
    match s.tasks[t]? with
    | some (.connect _ _) => some { s.setTask t .idle with locked := false }
    | _ => none
  | .waitGet t =>
    match s.tasks[t]?, s.available with
    | some (.wait u), c :: rest => some { s.setTask t (.hold c u) with available := rest }
    | _, _ => none
  | .abort t =>
    match s.tasks[t]? with
    | some (.poll _) | some (.lock _) | some (.wait _) => some (s.setTask t .idle)
    | _ => none
  | .release t =>
    match s.tasks[t]? with
    | some (.hold c .release) => some { s.setTask t .idle with available := s.available ++ [c] }
    | _ => none
  | .write t dumped =>
    match s.tasks[t]? with
    | some (.hold c (.execute ok err)) =>
      if (s.links c).state = .connected ∧ dumped = true then
        some { (s.setTask t (.exchange c s.requests ok err)).setLink c (·.write s.requests) with
          requests := s.requests + 1 }
      else some (s.setTask t (.hold c err))
    | _ => none
  | .read t line =>
    match s.tasks[t]? with
    | some (.exchange c q ok err) =>
      match (s.links c).inflight, (s.links c).cut with
      | h :: _, false =>
        some { (s.setTask t (.hold c (after line ok err))).setLink c Link.take with
          log := s.log ++ [(q, h)] }
      | _ :: _, true => some ((s.setTask t (.hold c err)).setLink c Link.take)
      | [], _ => none
    | _ => none
  | .overrun t whole =>
    match s.tasks[t]? with
    | some (.exchange c _ _ err) =>
      match (s.links c).inflight with
      | _ :: _ => some ((s.setTask t (.hold c err)).setLink c (if whole then Link.take else Link.cutHead))
      | [] => none
    | _ => none
  | .readEof t =>
    match s.tasks[t]? with
    | some (.exchange c _ _ err) =>
      if (s.links c).eof ∧ (s.links c).inflight = [] then some (s.setTask t (.hold c err)) else none
    | _ => none
  | .cancel t =>
    match s.tasks[t]? with
    | some (.exchange c _ _ err) => some (s.setTask t (.hold c err))
    | _ => none
  | .hangUp c k => some (s.setLink c (·.hangUp k))
  | .close t =>
    match s.tasks[t]? with
    | some .idle => some (s.setTask t .drain)
    | _ => none
  | .drainCheck t =>
    match s.tasks[t]? with
    | some .drain => some (s.setTask t (if s.available.isEmpty then .idle else .drainGet))
    | _ => none
  | .drainGet t =>
    match s.tasks[t]?, s.available with
    | some .drainGet, c :: rest => some { s.setTask t (.closing c) with available := rest }
    | _, _ => none
  | .drainTimeout t =>
    match s.tasks[t]? with
    | some .drainGet => some (s.setTask t .drain)
    | _ => none
  | .closeConn t =>
    match s.tasks[t]? with
    | some (.closing c) => some { (s.setTask t .drain).setLink c Link.close with retired := c :: s.retired }
    | _ => none
  | .closeConnFail t =>
    match s.tasks[t]? with
    | some (.closing c) => some { s.setTask t .drain with retired := c :: s.retired }
    | _ => none
  | .initStart t =>
    match s.tasks[t]? with
    | some .idle => some (s.setTask t (.initializing cfg.minSize.toNat))
    | _ => none
  | .initNext t =>
    match s.tasks[t]? with
    | some (.initializing 0) => some (s.setTask t .idle)
    | some (.initializing (left + 1)) => some (s.setTask t (.initConnect s.conns left)).create
    | _ => none
  | .initConnectOk t =>
    match s.tasks[t]? with
    | some (.initConnect c left) => some ((s.setTask t (.initializing left)).putConnected c)
    | _ => none
  | .initConnectFail t =>
    match s.tasks[t]? with
    | some (.initConnect _ _) => some (s.setTask t .idle)
    | _ => none

/-- The action is a step of `initialize()`. -/
def Action.initializes : Action → Bool
  | .initStart _ | .initNext _ | .initConnectOk _ | .initConnectFail _ => true
  | _ => false

/-- The actions in order, from `s`; `none` when one cannot run. -/
def run (cfg : Config) (s : Sys) : List Action → Option Sys
  | [] => some s
  | a :: as => (step cfg s a).bind fun s' => run cfg s' as

/-- The state `as` ends in from a pool that initialized `k` connections, with `n` tasks (the
initial pool when an action cannot run). -/
def runFrom (cfg : Config) (k n : Nat) (as : List Action) : Sys :=
  (run cfg (initialized k n) as).getD (initialized k n)

/-- The states reached from an initialized pool by steps whose actions satisfy `P`. -/
inductive ReachableBy (cfg : Config) (P : Action → Prop) : Sys → Prop
  | init (k n : Nat) : k ≤ cfg.minSize.toNat → ReachableBy cfg P (initialized k n)
  | step {s s' : Sys} (a : Action) : ReachableBy cfg P s → P a → step cfg s a = some s' →
      ReachableBy cfg P s'

/-- The states reached by any steps. -/
def Reachable (cfg : Config) (s : Sys) : Prop := ReachableBy cfg (fun _ => True) s

namespace ReachableBy

variable {cfg : Config} {P : Action → Prop}

/-- An invariant of the initial pools that every allowed step keeps holds of every reached state. -/
theorem induction {I : Sys → Prop} (hinit : ∀ k n, k ≤ cfg.minSize.toNat → I (initialized k n))
    (hstep : ∀ s a s', I s → ReachableBy cfg P s → P a → Pool.step cfg s a = some s' → I s')
    {s : Sys} (h : ReachableBy cfg P s) : I s := by
  induction h with
  | init k n hk => exact hinit k n hk
  | step a hs ha hstep' ih => exact hstep _ a _ ih hs ha hstep'

theorem of_run {s s' : Sys} (h : ReachableBy cfg P s) :
    ∀ (as : List Action), (∀ a ∈ as, P a) → run cfg s as = some s' → ReachableBy cfg P s'
  | [], _, hrun => by cases hrun; exact h
  | a :: as, has, hrun => by
    simp only [run, Option.bind_eq_some] at hrun
    obtain ⟨s₁, h₁, hrest⟩ := hrun
    exact of_run (.step a h (has a (by simp)) h₁) as (fun b hb => has b (by simp [hb])) hrest

/-- A run that goes through from an initialized pool reaches its last state. -/
theorem of_runFrom {k n : Nat} {as : List Action} (hk : k ≤ cfg.minSize.toNat) (has : ∀ a ∈ as, P a)
    (hrun : (run cfg (initialized k n) as).isSome) : ReachableBy cfg P (runFrom cfg k n as) := by
  obtain ⟨s, hs⟩ := Option.isSome_iff_exists.mp hrun
  rw [runFrom, hs]
  exact (ReachableBy.init k n hk).of_run as has hs

end ReachableBy

/-! ### What each step does -/

section spec

variable {cfg : Config} {s s' : Sys} {t : Nat}

theorem step_call {u : Use} (h : step cfg s (.call t u) = some s') :
    s.tasks[t]? = some .idle ∧ s' = s.setTask t (.poll u) := by
  simp only [step] at h
  split at h
  · cases h; exact ⟨‹_›, rfl⟩
  · cases h

theorem step_pollGet (h : step cfg s (.pollGet t) = some s') :
    ∃ u c rest, s.tasks[t]? = some (.poll u) ∧ s.available = c :: rest ∧
      s' = { s.setTask t (.hold c u) with available := rest } := by
  simp only [step] at h
  split at h
  · cases h; exact ⟨_, _, _, ‹_›, ‹_›, rfl⟩
  · cases h

theorem step_pollTimeout (h : step cfg s (.pollTimeout t) = some s') :
    ∃ u, s.tasks[t]? = some (.poll u) ∧ s' = s.setTask t (.lock u) := by
  simp only [step] at h
  split at h
  · cases h; exact ⟨_, ‹_›, rfl⟩
  · cases h

theorem step_lockAcquire (h : step cfg s (.lockAcquire t) = some s') :
    ∃ u, s.tasks[t]? = some (.lock u) ∧ s.locked = false ∧
      (((s.size : Int) < cfg.maxSize ∧ s' = { s.setTask t (.connect s.conns u) with
          locked := true, conns := s.conns + 1, links := Function.update s.links s.conns Link.fresh }) ∨
        (cfg.maxSize ≤ s.size ∧ s' = s.setTask t (.wait u))) := by
  simp only [step] at h
  split at h
  · split at h
    · cases h
    · rename_i hl
      have hl : s.locked = false := by simpa using hl
      split at h
      · cases h; exact ⟨_, ‹_›, hl, .inl ⟨‹_›, rfl⟩⟩
      · cases h; exact ⟨_, ‹_›, hl, .inr ⟨by omega, rfl⟩⟩
  · cases h

theorem step_connectOk (h : step cfg s (.connectOk t) = some s') :
    ∃ c u, s.tasks[t]? = some (.connect c u) ∧
      s' = { (s.setTask t (.hold c u)).setLink c Link.connect with
        size := s.size + 1, locked := false } := by
  simp only [step] at h
  split at h
  · cases h; exact ⟨_, _, ‹_›, rfl⟩
  · cases h

theorem step_connectFail (h : step cfg s (.connectFail t) = some s') :
    ∃ c u, s.tasks[t]? = some (.connect c u) ∧ s' = { s.setTask t .idle with locked := false } := by
  simp only [step] at h
  split at h
  · cases h; exact ⟨_, _, ‹_›, rfl⟩
  · cases h

theorem step_waitGet (h : step cfg s (.waitGet t) = some s') :
    ∃ u c rest, s.tasks[t]? = some (.wait u) ∧ s.available = c :: rest ∧
      s' = { s.setTask t (.hold c u) with available := rest } := by
  simp only [step] at h
  split at h
  · cases h; exact ⟨_, _, _, ‹_›, ‹_›, rfl⟩
  · cases h

theorem step_abort (h : step cfg s (.abort t) = some s') :
    (∃ u, s.tasks[t]? = some (.poll u) ∨ s.tasks[t]? = some (.lock u) ∨
      s.tasks[t]? = some (.wait u)) ∧ s' = s.setTask t .idle := by
  simp only [step] at h
  split at h
  · cases h; exact ⟨⟨_, .inl ‹_›⟩, rfl⟩
  · cases h; exact ⟨⟨_, .inr (.inl ‹_›)⟩, rfl⟩
  · cases h; exact ⟨⟨_, .inr (.inr ‹_›)⟩, rfl⟩
  · cases h

theorem step_release (h : step cfg s (.release t) = some s') :
    ∃ c, s.tasks[t]? = some (.hold c .release) ∧
      s' = { s.setTask t .idle with available := s.available ++ [c] } := by
  simp only [step] at h
  split at h
  · cases h; exact ⟨_, ‹_›, rfl⟩
  · cases h

theorem step_write {dumped : Bool} (h : step cfg s (.write t dumped) = some s') :
    ∃ c ok err, s.tasks[t]? = some (.hold c (.execute ok err)) ∧
      ((((s.links c).state = .connected ∧ dumped = true) ∧
          s' = { (s.setTask t (.exchange c s.requests ok err)).setLink c (fun l => l.write s.requests)
            with requests := s.requests + 1 }) ∨
        (¬((s.links c).state = .connected ∧ dumped = true) ∧ s' = s.setTask t (.hold c err))) := by
  simp only [step] at h
  split at h
  · split at h
    · cases h; exact ⟨_, _, _, ‹_›, .inl ⟨‹_›, rfl⟩⟩
    · cases h; exact ⟨_, _, _, ‹_›, .inr ⟨‹_›, rfl⟩⟩
  · cases h

theorem step_read {line : Line} (h : step cfg s (.read t line) = some s') :
    ∃ c q ok err hd rest, s.tasks[t]? = some (.exchange c q ok err) ∧
      (s.links c).inflight = hd :: rest ∧
      (((s.links c).cut = false ∧ s' = { (s.setTask t (.hold c (after line ok err))).setLink c Link.take
          with log := s.log ++ [(q, hd)] }) ∨
        ((s.links c).cut = true ∧ s' = (s.setTask t (.hold c err)).setLink c Link.take)) := by
  simp only [step] at h
  split at h
  · split at h
    · cases h; exact ⟨_, _, _, _, _, _, ‹_›, ‹_›, .inl ⟨‹_›, rfl⟩⟩
    · cases h; exact ⟨_, _, _, _, _, _, ‹_›, ‹_›, .inr ⟨‹_›, rfl⟩⟩
    · cases h
  · cases h

theorem step_overrun {whole : Bool} (h : step cfg s (.overrun t whole) = some s') :
    ∃ c q ok err, s.tasks[t]? = some (.exchange c q ok err) ∧ (s.links c).inflight ≠ [] ∧
      s' = (s.setTask t (.hold c err)).setLink c (if whole then Link.take else Link.cutHead) := by
  simp only [step] at h
  split at h
  · split at h
    · cases h; exact ⟨_, _, _, _, ‹_›, by simp [*], rfl⟩
    · cases h
  · cases h

theorem step_readEof (h : step cfg s (.readEof t) = some s') :
    ∃ c q ok err, s.tasks[t]? = some (.exchange c q ok err) ∧ (s.links c).eof = true ∧
      (s.links c).inflight = [] ∧ s' = s.setTask t (.hold c err) := by
  simp only [step] at h
  split at h
  · split at h
    · cases h; exact ⟨_, _, _, _, ‹_›, (‹_ ∧ _›).1, (‹_ ∧ _›).2, rfl⟩
    · cases h
  · cases h

theorem step_cancel (h : step cfg s (.cancel t) = some s') :
    ∃ c q ok err, s.tasks[t]? = some (.exchange c q ok err) ∧ s' = s.setTask t (.hold c err) := by
  simp only [step] at h
  split at h
  · cases h; exact ⟨_, _, _, _, ‹_›, rfl⟩
  · cases h

theorem step_hangUp {c k : Nat} (h : step cfg s (.hangUp c k) = some s') :
    s' = s.setLink c (·.hangUp k) := by
  cases h; rfl

theorem step_close (h : step cfg s (.close t) = some s') :
    s.tasks[t]? = some .idle ∧ s' = s.setTask t .drain := by
  simp only [step] at h
  split at h
  · cases h; exact ⟨‹_›, rfl⟩
  · cases h

theorem step_drainCheck (h : step cfg s (.drainCheck t) = some s') :
    s.tasks[t]? = some .drain ∧
      s' = s.setTask t (if s.available.isEmpty then .idle else .drainGet) := by
  simp only [step] at h
  split at h
  · cases h; exact ⟨‹_›, rfl⟩
  · cases h

theorem step_drainGet (h : step cfg s (.drainGet t) = some s') :
    ∃ c rest, s.tasks[t]? = some .drainGet ∧ s.available = c :: rest ∧
      s' = { s.setTask t (.closing c) with available := rest } := by
  simp only [step] at h
  split at h
  · cases h; exact ⟨_, _, ‹_›, ‹_›, rfl⟩
  · cases h

theorem step_drainTimeout (h : step cfg s (.drainTimeout t) = some s') :
    s.tasks[t]? = some .drainGet ∧ s' = s.setTask t .drain := by
  simp only [step] at h
  split at h
  · cases h; exact ⟨‹_›, rfl⟩
  · cases h

theorem step_closeConn (h : step cfg s (.closeConn t) = some s') :
    ∃ c, s.tasks[t]? = some (.closing c) ∧
      s' = { (s.setTask t .drain).setLink c Link.close with retired := c :: s.retired } := by
  simp only [step] at h
  split at h
  · cases h; exact ⟨_, ‹_›, rfl⟩
  · cases h

theorem step_closeConnFail (h : step cfg s (.closeConnFail t) = some s') :
    ∃ c, s.tasks[t]? = some (.closing c) ∧ s' = { s.setTask t .drain with retired := c :: s.retired } := by
  simp only [step] at h
  split at h
  · cases h; exact ⟨_, ‹_›, rfl⟩
  · cases h

theorem step_initStart (h : step cfg s (.initStart t) = some s') :
    s.tasks[t]? = some .idle ∧ s' = s.setTask t (.initializing cfg.minSize.toNat) := by
  simp only [step] at h
  split at h
  · cases h; exact ⟨‹_›, rfl⟩
  · cases h

theorem step_initNext (h : step cfg s (.initNext t) = some s') :
    (s.tasks[t]? = some (.initializing 0) ∧ s' = s.setTask t .idle) ∨
      ∃ left, s.tasks[t]? = some (.initializing (left + 1)) ∧
        s' = (s.setTask t (.initConnect s.conns left)).create := by
  simp only [step] at h
  split at h
  · cases h; exact .inl ⟨‹_›, rfl⟩
  · cases h; exact .inr ⟨_, ‹_›, rfl⟩
  · cases h

theorem step_initConnectOk (h : step cfg s (.initConnectOk t) = some s') :
    ∃ c left, s.tasks[t]? = some (.initConnect c left) ∧
      s' = (s.setTask t (.initializing left)).putConnected c := by
  simp only [step] at h
  split at h
  · cases h; exact ⟨_, _, ‹_›, rfl⟩
  · cases h

theorem step_initConnectFail (h : step cfg s (.initConnectFail t) = some s') :
    ∃ c left, s.tasks[t]? = some (.initConnect c left) ∧ s' = s.setTask t .idle := by
  simp only [step] at h
  split at h
  · cases h; exact ⟨_, _, ‹_›, rfl⟩
  · cases h

end spec

end DriftDB.Pool
