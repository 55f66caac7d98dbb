import DriftDB.Pool.Basic

/-!
# `close()` run alone

`close()` loops while `_available` is not empty: it takes the head with `wait_for(get(), 0.1)` and
awaits `conn.close()`, its bare `except` dropping a connection whose `close()` raised. Run alone,
with each `get()` answered at once since the queue is not empty, one pass of the loop takes the
head (`run_drain_cons`), and the whole loop (`drainRun`) takes every idle connection in queue order
and returns (`close_drains`). Afterwards `_available` is empty. Each connection whose `close()`
returned has a closed link (`closeTaken`). A connection whose `close()` raised has left the pool
with its link as it was. A connection a borrower holds is not touched. `_size` and every task are
as before.
-/

namespace DriftDB.Pool

/-- The loop of `close()` over the connections it takes, each with whether `conn.close()`
returned: check, take, close; then the check that ends the loop. -/
def drainRun (t : Nat) (oks : List Bool) : List Action :=
  oks.flatMap (fun ok => [.drainCheck t, .drainGet t, if ok then .closeConn t else .closeConnFail t]) ++
    [.drainCheck t]

/-- The links once `close()` took the connections of `taken`: those whose `close()` returned are
closed, every other link is as it was. -/
def closeTaken (links : Nat → Link) (taken : List (Nat × Bool)) (c : Nat) : Link :=
  if (c, true) ∈ taken then (links c).close else links c

theorem closeTaken_nil (links : Nat → Link) : closeTaken links [] = links := by
  funext c
  simp [closeTaken]

/-- Taking `c` first, then the rest. -/
theorem closeTaken_cons (links : Nat → Link) (c : Nat) (ok : Bool) (taken : List (Nat × Bool)) :
    closeTaken (if ok then Function.update links c (links c).close else links) taken =
      closeTaken links ((c, ok) :: taken) := by
  funext c'
  by_cases hc : c' = c
  · subst hc
    cases ok <;> simp [closeTaken, Link.close]
  · cases ok <;> simp [closeTaken, hc]

section
variable {cfg : Config} {s : Sys} {t : Nat}

/-- One pass of the loop: the check finds `_available` not empty, the `get()` takes its head `c`,
and `conn.close()` closes it or raises. -/
theorem run_drain_cons {c : Nat} {rest : List Nat} (hd : s.tasks[t]? = some .drain)
    (hs : s.available = c :: rest) (ok : Bool) (as : List Action) :
    run cfg s (.drainCheck t :: .drainGet t :: (if ok then .closeConn t else .closeConnFail t) :: as) =
      run cfg { s with
        available := rest, retired := c :: s.retired,
        links := if ok then Function.update s.links c (s.links c).close else s.links } as := by
  have ht : t < s.tasks.length := (List.getElem?_eq_some_iff.mp hd).1
  cases ok <;> simp [run, step, hd, hs, ht, Sys.setTask, Sys.setLink, Sys.tasks_set_self hd]

/-- The whole loop, one pass per idle connection, and the check that finds `_available` empty. -/
theorem run_drainRun (hd : s.tasks[t]? = some .drain) (oks : List Bool)
    (hlen : oks.length = s.available.length) :
    run cfg s (drainRun t oks) = some { s with
      tasks := s.tasks.set t .idle, available := [], retired := s.available.reverse ++ s.retired,
      links := closeTaken s.links (s.available.zip oks) } := by
  induction oks generalizing s with
  | nil =>
    have hs : s.available = [] := List.eq_nil_of_length_eq_zero hlen.symm
    simp [drainRun, run, step, hd, hs, Sys.setTask, closeTaken_nil]
  | cons ok oks ih =>
    obtain ⟨c, rest, hs⟩ := List.exists_cons_of_length_eq_add_one hlen.symm
    rw [drainRun, List.flatMap_cons, List.append_assoc, List.cons_append, List.cons_append,
      List.cons_append, List.nil_append, run_drain_cons hd hs, ← drainRun]
    refine (ih ?_ ?_).trans ?_
    · exact hd
    · simpa [hs] using hlen
    · simp [hs, closeTaken_cons]

end

/-- **`close()` run alone closes exactly the idle connections.** From any state, when an idle task
calls `close()` and no other task acts, the loop takes every connection idle in `_available`, in
queue order, whatever each `conn.close()` does, and `close()` returns. Afterwards `_available` is
empty and the connections taken are retired. Those whose `close()` returned are closed; every link
it did not take, a borrower's among them, is as it was. `_size` and the tasks are as before. -/
theorem close_drains {cfg : Config} {s : Sys} {t : Nat} (ht : s.tasks[t]? = some .idle)
    (oks : List Bool) (hlen : oks.length = s.available.length) :
    run cfg s (.close t :: drainRun t oks) = some { s with
      available := [], retired := s.available.reverse ++ s.retired,
      links := closeTaken s.links (s.available.zip oks) } := by
  have hstep : step cfg s (.close t) = some (s.setTask t .drain) := by simp [step, ht]
  rw [run, hstep, Option.some_bind, run_drainRun (Sys.setTask_self ht .drain) oks hlen]
  simp [Sys.setTask, Sys.tasks_set_self ht]

/-- Two connections, the first lent by a `release`-only borrower: `close()` closes the second and
leaves the first as it was. -/
def borrowedPool : Sys := runFrom ⟨2, 2⟩ 2 2 [.call 1 .release, .pollGet 1]

theorem close_drains_borrowedPool :
    borrowedPool.tasks[0]? = some .idle ∧ [true].length = borrowedPool.available.length ∧
      run ⟨2, 2⟩ borrowedPool (.close 0 :: drainRun 0 [true]) = some { borrowedPool with
        available := [], retired := [1], links := closeTaken borrowedPool.links [(1, true)] } :=
  ⟨rfl, rfl, close_drains rfl [true] rfl⟩

end DriftDB.Pool
