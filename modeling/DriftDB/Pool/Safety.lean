import DriftDB.Pool.Refine

/-!
# No double checkout, the capacity bound, and what `_size` counts

Consequences of `view_inv` for every reachable state, whatever the tasks interleave:
`initialize()`, also beside other calls or after `close()`, borrowing calls (`Client.query`,
transaction scopes, any caller that releases only the connection it holds, once), `close()`,
connects that fail, and cancelled waits.

* `acquire_exclusive`: each connection is in at most one place, idle in `_available`, held by a
  task, being closed by `close()`, or closed by it; so the connection a task holds is held by no
  other task, is not in `_available`, and is neither being closed nor closed. Such a connection
  is connected (`lent_connected`).
* `size_eq_places`: `_size` counts the connections in the four places, the closed ones included:
  `close()` never decrements it (`size_counts_closed`).

The capacity bound needs more: `initialize()` creates with neither lock nor guard, so it holds in
the runs where `initialize()` completed before anything else (`NoInit`), as `Client.connect`
orders them. There, with `min_size ≤ max_size`, `_size` never exceeds `max(max_size, 0)`
(`size_le_maxSize`); `max_size` itself is exceeded at once when it is negative, since `_size`
starts at `0` (`size_exceeds_negative_maxSize`). The guarded create counts as taken while it runs
(`View.Capacity`), which is what the lock buys: at most one create runs, under the lock
(`guarded_create`).
-/

namespace DriftDB.Pool

/-- In a list whose `filterMap f` has no duplicates, two entries mapped to the same value are one. -/
theorem index_eq_of_filterMap_nodup {α β : Type} {f : α → Option β} {b : β} :
    ∀ {l : List α} {i j : Nat} {p q : α}, (l.filterMap f).Nodup → l[i]? = some p → l[j]? = some q →
      f p = some b → f q = some b → i = j
  | [], _, _, _, _, _, hi, _, _, _ => by simp at hi
  | _ :: _, 0, 0, _, _, _, _, _, _, _ => rfl
  | _ :: l, 0, j + 1, _, q, hnd, hi, hj, hp, hq => by
    simp only [List.getElem?_cons_zero, Option.some.injEq, List.getElem?_cons_succ] at hi hj
    subst hi
    rw [List.filterMap_cons_some hp] at hnd
    exact absurd (List.mem_filterMap.mpr ⟨q, List.getElem?_mem hj, hq⟩) (List.nodup_cons.mp hnd).1
  | _ :: l, i + 1, 0, p, _, hnd, hi, hj, hp, hq => by
    simp only [List.getElem?_cons_zero, Option.some.injEq, List.getElem?_cons_succ] at hi hj
    subst hj
    rw [List.filterMap_cons_some hq] at hnd
    exact absurd (List.mem_filterMap.mpr ⟨p, List.getElem?_mem hi, hp⟩) (List.nodup_cons.mp hnd).1
  | _ :: l, i + 1, j + 1, _, _, hnd, hi, hj, hp, hq => by
    simp only [List.getElem?_cons_succ] at hi hj
    have hnd' : (l.filterMap f).Nodup := hnd.sublist ((List.sublist_cons_self _ l).filterMap f)
    rw [index_eq_of_filterMap_nodup hnd' hi hj hp hq]

section
variable {cfg : Config} {P : Action → Prop} {s : Sys}

/-- The four places of a reachable state, as one list without duplicates. -/
theorem places_nodup (h : ReachableBy cfg P s) :
    (s.available ++ s.tasks.filterMap Pc.held ++ s.tasks.filterMap Pc.closing? ++ s.retired).Nodup := by
  have hnd := (view_inv h).nodup
  simpa only [View.places, Sys.view, Multiset.coe_add, Multiset.coe_nodup] using hnd

theorem places_count_le (h : ReachableBy cfg P s) (c : Nat) :
    s.available.count c + (s.tasks.filterMap Pc.held).count c +
      (s.tasks.filterMap Pc.closing?).count c + s.retired.count c ≤ 1 := by
  have hle := List.nodup_iff_count_le_one.mp (places_nodup h) c
  simpa only [List.count_append] using hle

theorem held_nodup (h : ReachableBy cfg P s) : (s.tasks.filterMap Pc.held).Nodup :=
  (places_nodup h).sublist
    (((List.sublist_append_right _ _).trans (List.sublist_append_left _ _)).trans
      (List.sublist_append_left _ _))

theorem count_pos_of_task {f : Pc → Option Nat} {t c : Nat} {p : Pc} (hp : s.tasks[t]? = some p)
    (hc : f p = some c) : 0 < (s.tasks.filterMap f).count c :=
  List.count_pos_iff.mpr (List.mem_filterMap.mpr ⟨p, List.getElem?_mem hp, hc⟩)

/-- **No double checkout, no use after close.** Each connection is in at most one place; the one a
task holds is held by no other task, is not idle in `_available`, and `close()` has not taken it. -/
theorem acquire_exclusive (h : Reachable cfg s) :
    (s.available ++ s.tasks.filterMap Pc.held ++ s.tasks.filterMap Pc.closing? ++ s.retired).Nodup ∧
    ∀ (t : Nat) (p : Pc) (c : Nat), s.tasks[t]? = some p → p.held = some c →
      c ∉ s.available ∧ c ∉ s.tasks.filterMap Pc.closing? ∧ c ∉ s.retired ∧
      ∀ (t' : Nat) (p' : Pc), s.tasks[t']? = some p' → p'.held = some c → t' = t := by
  refine ⟨places_nodup h, fun t p c hp hc => ?_⟩
  have hle := places_count_le h c
  have hpos := count_pos_of_task hp hc
  refine ⟨fun ha => ?_, fun hcl => ?_, fun hr => ?_, fun t' p' hp' hc' => ?_⟩
  · have := List.count_pos_iff.mpr ha; omega
  · have := List.count_pos_iff.mpr hcl; omega
  · have := List.count_pos_iff.mpr hr; omega
  · exact index_eq_of_filterMap_nodup (held_nodup h) hp' hp hc' hc

end

/-- In `busyPool`, reached while `initialize()` ran beside two `Client.query` calls, task 1 holds
connection 1 while it waits for its response and task 2 holds connection 0. -/
theorem acquire_exclusive_busyPool :
    Reachable ⟨1, 2⟩ busyPool ∧
      busyPool.tasks[1]? = some (.exchange 1 0 .release .release) ∧
      busyPool.tasks[2]? = some (.hold 0 Client.queryUse) ∧
      (busyPool.available ++ busyPool.tasks.filterMap Pc.held ++ busyPool.tasks.filterMap Pc.closing? ++
          busyPool.retired).Nodup ∧
      ∀ (t : Nat) (p : Pc) (c : Nat), busyPool.tasks[t]? = some p → p.held = some c →
        c ∉ busyPool.available ∧ c ∉ busyPool.tasks.filterMap Pc.closing? ∧ c ∉ busyPool.retired ∧
        ∀ (t' : Nat) (p' : Pc), busyPool.tasks[t']? = some p' → p'.held = some c → t' = t :=
  ⟨busyPool_reachable, rfl, rfl, acquire_exclusive busyPool_reachable⟩

/-- **`acquire()` hands out only connected connections.** Every connection idle in `_available` or
held by a task has connected and `close()` has not closed it, so a borrower's `Connection.execute`
never raises `Not connected to server`. -/
theorem lent_connected {cfg : Config} {s : Sys} (h : Reachable cfg s) :
    (∀ c ∈ s.available, (s.links c).state = .connected) ∧
      ∀ (t : Nat) (p : Pc) (c : Nat), s.tasks[t]? = some p → p.held = some c →
        (s.links c).state = .connected :=
  ⟨fun _ hc => (view_inv h).connected (view_closedRetired h)
      (Multiset.mem_add.mpr (.inl (Multiset.mem_coe.mpr hc))),
    fun _ _ _ hp hc => (view_inv h).connected (view_closedRetired h)
      (Multiset.mem_add.mpr (.inr (mem_view hp hc)))⟩

theorem lent_connected_busyPool :
    Reachable ⟨1, 2⟩ busyPool ∧ busyPool.tasks[2]? = some (.hold 0 Client.queryUse) ∧
      ((∀ c ∈ busyPool.available, (busyPool.links c).state = .connected) ∧
        ∀ (t : Nat) (p : Pc) (c : Nat), busyPool.tasks[t]? = some p → p.held = some c →
          (busyPool.links c).state = .connected) :=
  ⟨busyPool_reachable, rfl, lent_connected busyPool_reachable⟩

/-! ### Capacity -/

/-- The actions of runs in which `initialize()` does not run again. -/
def NoInit (a : Action) : Prop := a.initializes = false

instance : DecidablePred NoInit := fun a => inferInstanceAs (Decidable (a.initializes = false))

/-- `_size` and the guarded creates in flight stay within `max_size` (or `0`) when `initialize()`
completed first. -/
theorem view_capacity {cfg : Config} {s : Sys} (hcfg : cfg.minSize ≤ cfg.maxSize)
    (h : ReachableBy cfg NoInit s) : View.Capacity cfg.maxSize.toNat s.view :=
  @ReachableBy.induction cfg NoInit (fun s => View.Capacity cfg.maxSize.toNat s.view)
    (fun k n hk => show View.Capacity cfg.maxSize.toNat (initialized k n).view by
      rw [initialized_view]; exact View.init_capacity (hk.trans (Int.toNat_le_toNat hcfg)))
    (fun _ _ _ hcap hs ha hstep =>
      View.Capacity.step (view_inv hs) hcap (view_step_of_not_initializes hstep ha)) s h

/-- **Capacity bound.** In the runs where `initialize()` completed before anything else, with
`min_size ≤ max_size`, `_size` never exceeds `max_size`, or `0` when `max_size` is negative. -/
theorem size_le_maxSize {cfg : Config} {s : Sys} (hcfg : cfg.minSize ≤ cfg.maxSize)
    (h : ReachableBy cfg NoInit s) : (s.size : Int) ≤ max cfg.maxSize 0 := by
  have hcap : s.size ≤ cfg.maxSize.toNat := Nat.le_of_add_right_le (view_capacity hcfg h)
  rw [← Int.toNat_eq_max]
  exact Int.ofNat_le.mpr hcap

/-- A pool with `min_size = 1`, `max_size = 2` and one idle connection: a `Client.query` takes it,
and a second one times out of the poll and passes the guard. -/
def createRun : List Action :=
  [.call 0 Client.queryUse, .pollGet 0, .call 1 Client.queryUse, .pollTimeout 1, .lockAcquire 1]

/-- The state `createRun` ends in: task 1 connects connection 1 under the lock. -/
def creatingPool : Sys := runFrom ⟨1, 2⟩ 1 2 createRun

/-- The state after that create succeeded: `_size` is at `max_size`. -/
def fullPool : Sys := runFrom ⟨1, 2⟩ 1 2 (createRun ++ [.connectOk 1])

theorem size_le_maxSize_fullPool :
    ((1 : Int) ≤ 2 ∧ ReachableBy ⟨1, 2⟩ NoInit fullPool) ∧ fullPool.size = 2 ∧
      (fullPool.size : Int) ≤ max 2 0 := by
  have h : ReachableBy ⟨1, 2⟩ NoInit fullPool := ReachableBy.of_runFrom le_rfl (by decide) rfl
  exact ⟨⟨by decide, h⟩, rfl, size_le_maxSize (by decide) h⟩

/-- With `min_size = max_size = -1`, which the code accepts, `_size` starts at `0` and already
exceeds `max_size`. -/
theorem size_exceeds_negative_maxSize :
    ¬ ∀ (cfg : Config) (s : Sys), cfg.minSize ≤ cfg.maxSize → ReachableBy cfg NoInit s →
      (s.size : Int) ≤ cfg.maxSize := by
  intro hall
  have h := hall ⟨-1, -1⟩ (initialized 0 1) le_rfl (.init 0 1 (Nat.zero_le _))
  revert h
  decide

/-- **The guarded create is exclusive.** When `initialize()` completed first, a task connects a new
connection only while holding the lock, at most one at a time, and `_size` plus the creates in
flight stays within `max_size` (or `0`): two acquirers that both timed out of the poll never both
pass the guard for the last free slot. -/
theorem guarded_create {cfg : Config} {s : Sys} (hcfg : cfg.minSize ≤ cfg.maxSize)
    (h : ReachableBy cfg NoInit s) :
    (s.tasks.filterMap Pc.connecting).length ≤ (if s.locked then 1 else 0) ∧
      ((s.size + (s.tasks.filterMap Pc.connecting).length : Nat) : Int) ≤ max cfg.maxSize 0 := by
  refine ⟨(view_inv h).lock, ?_⟩
  rw [← Int.toNat_eq_max]
  exact Int.ofNat_le.mpr (view_capacity hcfg h)

theorem guarded_create_creatingPool :
    ((1 : Int) ≤ 2 ∧ ReachableBy ⟨1, 2⟩ NoInit creatingPool) ∧
      creatingPool.tasks[1]? = some (.connect 1 Client.queryUse) ∧
      (creatingPool.tasks.filterMap Pc.connecting).length ≤ (if creatingPool.locked then 1 else 0) ∧
        ((creatingPool.size + (creatingPool.tasks.filterMap Pc.connecting).length : Nat) : Int) ≤
          max 2 0 := by
  have h : ReachableBy ⟨1, 2⟩ NoInit creatingPool := ReachableBy.of_runFrom le_rfl (by decide) rfl
  exact ⟨⟨by decide, h⟩, rfl, guarded_create (by decide) h⟩

/-! ### What `_size` counts -/

/-- **`_size` counts every connection in a place**, idle, held, being closed or closed. -/
theorem size_eq_places {cfg : Config} {s : Sys} (h : Reachable cfg s) :
    s.size = s.available.length + (s.tasks.filterMap Pc.held).length +
      (s.tasks.filterMap Pc.closing?).length + s.retired.length := by
  have hsize := (view_inv h).size
  simpa only [View.places, Sys.view, Multiset.card_add, Multiset.coe_card] using hsize

/-- A pool of one connection that one task closed: `close()` took the connection, closed it, and
found `_available` empty. -/
def closeRun : List Action := [.close 0, .drainCheck 0, .drainGet 0, .closeConn 0, .drainCheck 0]

/-- The state `closeRun` ends in. -/
def closedPool : Sys := runFrom ⟨1, 1⟩ 1 1 closeRun

theorem closedPool_reachable : Reachable ⟨1, 1⟩ closedPool :=
  ReachableBy.of_runFrom le_rfl (fun _ _ => trivial) rfl

theorem size_eq_places_closedPool :
    Reachable ⟨1, 1⟩ closedPool ∧
      closedPool.size = closedPool.available.length + (closedPool.tasks.filterMap Pc.held).length +
        (closedPool.tasks.filterMap Pc.closing?).length + closedPool.retired.length :=
  ⟨closedPool_reachable, size_eq_places closedPool_reachable⟩

/-- After `close()` drained a pool with nothing checked out, `_size` is still `1`: it does not
equal the number of idle and checked-out connections. -/
theorem size_counts_closed :
    ¬ ∀ s, Reachable ⟨1, 1⟩ s → s.size = s.available.length + (s.tasks.filterMap Pc.held).length := by
  intro hall
  have hs := hall closedPool closedPool_reachable
  revert hs
  decide

end DriftDB.Pool
