import DriftDB.Client

/-!
# A pool whose connections leaked

A transaction scope whose `BEGIN` fails keeps its connection for good (`Client.transactionUse`).
Once every connection the pool may have is kept so (`Starved`: nothing idle, `_size` at
`max_size`, and every task either keeps its connection or holds, connects and closes nothing), no
step gives a connection back or creates one: `Starved` holds along every run in which no task calls
`initialize()` again, and no task's holding ever changes, so every later `acquire()` waits for good
(`starved_run`). `Client.connect` calls `initialize()` once, before the pool is used; a second call
would create `min_size` more connections past `max_size`. One failed transaction on a pool of one
connection is enough (`leakedPool`).
-/

namespace DriftDB.Pool

/-- A task that keeps its connection for good, or holds, connects and closes nothing. -/
def Pc.Inert : Pc → Prop
  | .hold _ .keep | .idle | .poll _ | .lock _ | .wait _ | .drain | .drainGet => True
  | _ => False

/-- Nothing is idle, `_size` is at `max_size`, and every task is inert. -/
structure Starved (cfg : Config) (s : Sys) : Prop where
  available : s.available = []
  full : cfg.maxSize ≤ s.size
  inert : ∀ (t : Nat) (p : Pc), s.tasks[t]? = some p → p.Inert

/-- The connection task `t` holds. -/
def Sys.heldBy (s : Sys) (t : Nat) : Option Nat := s.tasks[t]?.bind Pc.held

section
variable {cfg : Config} {s s' : Sys} {t : Nat} {q p : Pc}

theorem heldBy_setTask (hq : s.tasks[t]? = some q) (hp : p.held = q.held) (t' : Nat) :
    (s.setTask t p).heldBy t' = s.heldBy t' := by
  simp only [Sys.heldBy, Sys.setTask_tasks, List.getElem?_set]
  split_ifs with h₁ h₂
  · subst h₁; simp [hq, hp]
  · exact absurd (List.getElem?_eq_some_iff.mp hq).1 h₂
  · rfl

/-- Task `t` moves between two inert program counters that hold nothing. -/
theorem Starved.setTask (hs : Starved cfg s) (hq : s.tasks[t]? = some q) (hq' : q.held = none)
    (hp : p.Inert) (hp' : p.held = none) :
    Starved cfg (s.setTask t p) ∧ ∀ t', (s.setTask t p).heldBy t' = s.heldBy t' := by
  refine ⟨⟨hs.available, hs.full, fun t' p' h => ?_⟩, heldBy_setTask hq (hp'.trans hq'.symm)⟩
  simp only [Sys.setTask_tasks, List.getElem?_set] at h
  split_ifs at h
  · cases h; exact hp
  · exact hs.inert t' p' h

/-- **A starved pool stays starved.** No step but `initialize()`'s frees or creates a connection. -/
theorem Starved.step (hs : Starved cfg s) {a : Action} (ha : a.initializes = false)
    (h : step cfg s a = some s') :
    Starved cfg s' ∧ ∀ t, s'.heldBy t = s.heldBy t := by
  have inert := hs.inert
  cases a with
  | call t u =>
    obtain ⟨hq, rfl⟩ := step_call h
    exact hs.setTask hq rfl trivial rfl
  | pollGet t =>
    obtain ⟨_, _, _, _, ha, -⟩ := step_pollGet h
    simp [hs.available] at ha
  | pollTimeout t =>
    obtain ⟨u, hq, rfl⟩ := step_pollTimeout h
    exact hs.setTask hq rfl trivial rfl
  | lockAcquire t =>
    obtain ⟨u, hq, -, ⟨hlt, -⟩ | ⟨-, rfl⟩⟩ := step_lockAcquire h
    · exact absurd hs.full (by omega)
    · exact hs.setTask hq rfl trivial rfl
  | connectOk t =>
    obtain ⟨_, _, hq, -⟩ := step_connectOk h
    exact (inert t _ hq).elim
  | connectFail t =>
    obtain ⟨_, _, hq, -⟩ := step_connectFail h
    exact (inert t _ hq).elim
  | waitGet t =>
    obtain ⟨_, _, _, _, ha, -⟩ := step_waitGet h
    simp [hs.available] at ha
  | abort t =>
    obtain ⟨⟨u, hq | hq | hq⟩, rfl⟩ := step_abort h <;> exact hs.setTask hq rfl trivial rfl
  | release t =>
    obtain ⟨_, hq, -⟩ := step_release h
    exact (inert t _ hq).elim
  | write t dumped =>
    obtain ⟨_, _, _, hq, -⟩ := step_write h
    exact (inert t _ hq).elim
  | read t line =>
    obtain ⟨_, _, _, _, _, _, hq, -⟩ := step_read h
    exact (inert t _ hq).elim
  | overrun t whole =>
    obtain ⟨_, _, _, _, hq, -⟩ := step_overrun h
    exact (inert t _ hq).elim
  | readEof t =>
    obtain ⟨_, _, _, _, hq, -⟩ := step_readEof h
    exact (inert t _ hq).elim
  | cancel t =>
    obtain ⟨_, _, _, _, hq, -⟩ := step_cancel h
    exact (inert t _ hq).elim
  | hangUp c k =>
    obtain rfl := step_hangUp h
    exact ⟨⟨hs.available, hs.full, hs.inert⟩, fun _ => rfl⟩
  | close t =>
    obtain ⟨hq, rfl⟩ := step_close h
    exact hs.setTask hq rfl trivial rfl
  | drainCheck t =>
    obtain ⟨hq, rfl⟩ := step_drainCheck h
    exact hs.setTask hq rfl (by split <;> trivial) (by split <;> rfl)
  | drainGet t =>
    obtain ⟨_, _, _, ha, -⟩ := step_drainGet h
    simp [hs.available] at ha
  | drainTimeout t =>
    obtain ⟨hq, rfl⟩ := step_drainTimeout h
    exact hs.setTask hq rfl trivial rfl
  | closeConn t =>
    obtain ⟨_, hq, -⟩ := step_closeConn h
    exact (inert t _ hq).elim
  | closeConnFail t =>
    obtain ⟨_, hq, -⟩ := step_closeConnFail h
    exact (inert t _ hq).elim
  | initStart t | initNext t | initConnectOk t | initConnectFail t => cases ha

end

/-- **Leaked connections starve the pool.** From a starved pool, every run in which `initialize()`
does not run again stays starved and no task's holding changes: no `acquire()` returns again. -/
theorem starved_run {cfg : Config} :
    ∀ {s s' : Sys} (as : List Action), Starved cfg s → (∀ a ∈ as, a.initializes = false) →
      run cfg s as = some s' → Starved cfg s' ∧ ∀ t, s'.heldBy t = s.heldBy t
  | _, _, [], hs, _, h => by cases h; exact ⟨hs, fun _ => rfl⟩
  | _, _, a :: as, hs, hno, h => by
    simp only [run, Option.bind_eq_some] at h
    obtain ⟨s₁, h₁, h₂⟩ := h
    obtain ⟨hs₁, hheld₁⟩ := hs.step (hno a (List.mem_cons_self a as)) h₁
    obtain ⟨hs', hheld'⟩ := starved_run as hs₁ (fun b hb => hno b (List.mem_cons_of_mem a hb)) h₂
    exact ⟨hs', fun t => (hheld' t).trans (hheld₁ t)⟩

/-- The server's answer to a statement it rejects. -/
def errorLine : Line := .object ⟨some "error", some "no transaction", none, none, none⟩

/-- On a pool of one connection, a transaction whose `BEGIN` the server rejects keeps the
connection; a `Client.query` then times out of the poll and finds the pool full. -/
def leakRun : List Action :=
  [.call 0 (Client.transactionUse (.finish false)), .pollGet 0, .write 0 true, .read 0 errorLine,
    .call 1 Client.queryUse, .pollTimeout 1, .lockAcquire 1]

/-- The state `leakRun` ends in. -/
def leakedPool : Sys := runFrom ⟨1, 1⟩ 1 2 leakRun

theorem starved_run_leakedPool :
    Starved ⟨1, 1⟩ leakedPool ∧ leakedPool.heldBy 1 = none ∧
      ∀ (as : List Action) (s' : Sys), (∀ a ∈ as, a.initializes = false) →
        run ⟨1, 1⟩ leakedPool as = some s' →
        Starved ⟨1, 1⟩ s' ∧ ∀ t, s'.heldBy t = leakedPool.heldBy t := by
  have hs : Starved ⟨1, 1⟩ leakedPool := by
    refine ⟨rfl, le_rfl, fun t p hp => ?_⟩
    match t, hp with
    | 0, hp => cases hp; trivial
    | 1, hp => cases hp; trivial
  exact ⟨hs, rfl, fun as _ hno h => starved_run as hs hno h⟩

end DriftDB.Pool
