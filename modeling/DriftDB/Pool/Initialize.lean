import DriftDB.Pool.Basic

/-!
# `initialize()`

`ConnectionPool(host, port, min_size, max_size, timeout)` starts with nothing created
(`initialized 0 n`). `initialize()` runs `_create_connection()` and `_available.put(conn)` for each
of `range(min_size)`, none when `min_size` is not positive: the `Connection` object is created, and
when its `connect` succeeds `_size` grows and the connection goes into `_available`; the first
`connect` that fails raises out of the loop. `ok i` says whether the `i`-th `connect` succeeds.

`initializeFrom` is the loop as one function. The pool model runs the same loop as steps of a task
(`initStart`, `initNext`, `initConnectOk`, `initConnectFail`), which other tasks may interleave with;
run alone, they end where `initializeFrom` does (`run_initSteps`). `Client.connect` runs it alone,
on a new pool: when every `connect` succeeds the pool is `initialized min_size n`, the state the
pool model's runs start from; when the `k`-th is the first to fail, `initialize()` raises with the
first `k` connections idle, the failed `Connection` object counted among those created
(`initializePool_eq`, `initialize_run`).
-/

namespace DriftDB.Pool

/-- The loop of `initialize()` for `m` more connections; the error carries the pool as the
exception leaves it. -/
def initializeFrom (ok : Nat → Bool) : Nat → Sys → Except Sys Sys
  | 0, s => .ok s
  | m + 1, s => if ok s.conns then initializeFrom ok m (s.create.putConnected s.conns) else .error s.create

/-- `initialize()` on a new pool with `n` tasks that have not started. -/
def initializePool (cfg : Config) (n : Nat) (ok : Nat → Bool) : Except Sys Sys :=
  initializeFrom ok cfg.minSize.toNat (initialized 0 n)

/-- The pool as `initialize()` leaves it, whether it returned or raised. -/
def Sys.ofExcept : Except Sys Sys → Sys
  | .ok s | .error s => s

/-- A failed `connect` leaves an initialized pool as it was, but for the object counted. -/
theorem initialized_create (k n : Nat) : (initialized k n).create = { initialized k n with conns := k + 1 } := by
  simp only [Sys.create, Sys.mk.injEq, true_and, and_true]
  refine ⟨rfl, funext fun c => ?_⟩
  by_cases hc : c = k
  · subst hc; simp [initialized]
  · exact Function.update_noteq hc _ _

/-- A successful one makes one more connection, connected and idle. -/
theorem initialized_putConnected (k n : Nat) :
    (initialized k n).create.putConnected k = initialized (k + 1) n := by
  simp only [Sys.create, Sys.putConnected, Sys.setLink, initialized, Function.update_same,
    List.range_succ, Sys.mk.injEq, true_and, and_true]
  funext c
  by_cases hc : c = k
  · subst hc; simp
  · simp only [Function.update_noteq hc]
    split_ifs <;> first | rfl | omega

theorem initializeFrom_initialized (ok : Nat → Bool) (n : Nat) :
    ∀ (m k : Nat), initializeFrom ok m (initialized k n) =
      match (List.range' k m).find? (fun i => !ok i) with
      | none => .ok (initialized (k + m) n)
      | some j => .error { initialized j n with conns := j + 1 }
  | 0, k => rfl
  | m + 1, k => by
    rw [initializeFrom, List.range'_succ, List.find?_cons, show (initialized k n).conns = k from rfl]
    cases hk : ok k
    · simp [initialized_create]
    · simp only [if_true, Bool.not_true]
      rw [initialized_putConnected, initializeFrom_initialized ok n m (k + 1), Nat.add_right_comm,
        Nat.add_assoc]

/-- The steps of task `t` in `initialize()`'s loop with `m` connections left, the next one being
connection `c`: the head of the loop, then the `connect`, until the loop ends or a `connect`
raises. -/
def initSteps (ok : Nat → Bool) (t : Nat) : Nat → Nat → List Action
  | 0, _ => [.initNext t]
  | m + 1, c => if ok c then .initNext t :: .initConnectOk t :: initSteps ok t m (c + 1)
    else [.initNext t, .initConnectFail t]

section
variable {cfg : Config} {t : Nat}

/-- One connection of the loop, as two steps: created, then connected and put. -/
theorem run_initNext_ok {s : Sys} {m : Nat} (hq : s.tasks[t]? = some (.initializing (m + 1)))
    (as : List Action) :
    run cfg s (.initNext t :: .initConnectOk t :: as) =
      run cfg ((s.create.putConnected s.conns).setTask t (.initializing m)) as := by
  have h₁ : ((s.setTask t (.initConnect s.conns m)).create).tasks[t]? = some (.initConnect s.conns m) :=
    Sys.setTask_self hq _
  simp only [run, step, hq, h₁, Option.some_bind]
  rw [Sys.create_setTask, Sys.setTask_setTask, Sys.putConnected_setTask]

/-- The loop run alone by task `t` ends where `initializeFrom` does, with `t` idle again. -/
theorem run_initSteps (ok : Nat → Bool) :
    ∀ (m : Nat) {s : Sys}, s.tasks[t]? = some (.initializing m) →
      run cfg s (initSteps ok t m s.conns) = some (Sys.ofExcept (initializeFrom ok m (s.setTask t .idle)))
  | 0, s, hq => by simp [initSteps, run, step, hq, initializeFrom, Sys.ofExcept]
  | m + 1, s, hq => by
    have hc : (s.setTask t .idle).conns = s.conns := rfl
    by_cases hok : ok s.conns
    · have hq' : (s.create.putConnected s.conns).tasks[t]? = some (.initializing (m + 1)) := hq
      rw [initSteps, if_pos hok, run_initNext_ok hq]
      refine (run_initSteps ok m (Sys.setTask_self hq' _)).trans ?_
      rw [initializeFrom, hc, if_pos hok]
      simp only [Sys.setTask_setTask, Sys.create_setTask, Sys.putConnected_setTask]
    · have h₁ : ((s.setTask t (.initConnect s.conns m)).create).tasks[t]? =
          some (.initConnect s.conns m) := Sys.setTask_self hq _
      simp only [initSteps, if_neg hok, run, step, hq, h₁, Option.some_bind, initializeFrom, hc,
        Sys.ofExcept]
      simp only [Sys.create_setTask, Sys.setTask_setTask]

end

/-- **`initialize()` as steps.** On a new pool, a task that runs `initialize()` alone ends, idle,
in the pool `initializePool` describes, whether it returned or raised. -/
theorem initialize_run (cfg : Config) {n t : Nat} (ht : t < n) (ok : Nat → Bool) :
    run cfg (initialized 0 n) (.initStart t :: initSteps ok t cfg.minSize.toNat 0) =
      some (Sys.ofExcept (initializePool cfg n ok)) := by
  have hidle : (initialized 0 n).tasks[t]? = some .idle := by simp [initialized, ht]
  have hstart : step cfg (initialized 0 n) (.initStart t) =
      some ((initialized 0 n).setTask t (.initializing cfg.minSize.toNat)) := by simp [step, hidle]
  rw [run, hstart, Option.some_bind]
  refine (run_initSteps ok _ (Sys.setTask_self hidle _)).trans ?_
  rw [Sys.setTask_setTask, Sys.setTask_eq_self hidle, initializePool]

/-- On a new pool of two tasks with `min_size = 2`, the second `connect` fails: `initialize()` raises
with connection 0 idle and two objects created. -/
theorem initialize_run_secondFails :
    0 < 2 ∧ run ⟨2, 10⟩ (initialized 0 2) (.initStart 0 :: initSteps (· == 0) 0 (2 : Int).toNat 0) =
      some (Sys.ofExcept (initializePool ⟨2, 10⟩ 2 (· == 0))) ∧
      Sys.ofExcept (initializePool ⟨2, 10⟩ 2 (· == 0)) = { initialized 1 2 with conns := 2 } := by
  refine ⟨by decide, initialize_run ⟨2, 10⟩ (by decide) (· == 0), ?_⟩
  rw [initializePool, initializeFrom_initialized]
  rfl

end DriftDB.Pool
