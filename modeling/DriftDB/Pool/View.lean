import DriftDB.Connection
import Mathlib.Data.Multiset.Nodup

/-!
# The pool as a bag of places

What the pool is for, without tasks: every connection it created is in one place, idle in
`_available`, held by a caller, being closed by `close()`, or retired (closed by `close()`), and
`_size` counts them. `View` records the places as multisets, the connections being connected
under the lock (`connects`) and by `initialize()` (`initConnects`), the lock, the number of
`Connection` objects, `_size` and each connection's `link_state`. `View.Step` lists what the pool
can do to them: lend an idle connection (`lend`), take one back (`giveBack`), let `close()` take
one (`retire`) and close it (`shut`) or, when `conn.close()` raises, drop it unclosed (`drop`),
and the three moves of the guarded create (`begin`, `finish`, `fail`). `View.Fill` lists the
three moves of `initialize()`'s create, which has neither lock nor guard; a `Move` is either.

`Inv`: each connection that ever connected is in exactly one place, the others in none
(`count`); ids from `conns` on are unused (`fresh`); the connections being connected are new and
each is connected by one create (`pending`, `pendingNodup`); at most one guarded create runs, and
only under the lock (`lock`); and `_size` is the number of places taken (`size`). `Inv.move` keeps
it along every move from `init`, and `ClosedRetired` (only `shut` closes a link) too. `Capacity`
(`_size` plus the guarded creates in flight stays within `max_size`) holds along every `Step`:
only `initialize()` can break it. Together they make every idle or held connection connected
(`Inv.connected`).
-/

namespace DriftDB.Pool

/-- The pool's places and counters. -/
@[ext]
structure View where
  available : Multiset Nat
  held : Multiset Nat
  closing : Multiset Nat
  retired : Multiset Nat
  connects : Multiset Nat
  initConnects : Multiset Nat
  locked : Bool
  conns : Nat
  size : Nat
  state : Nat → LinkState

namespace View

/-- The pool after `initialize()` connected `k` connections, `0, …, k - 1`. -/
def init (k : Nat) : View where
  available := Multiset.range k
  held := 0
  closing := 0
  retired := 0
  connects := 0
  initConnects := 0
  locked := false
  conns := k
  size := k
  state c := if c < k then .connected else .unconnected

/-- All places, one entry per connection in each. -/
def places (v : View) : Multiset Nat := v.available + v.held + v.closing + v.retired

/-- The connections being connected, by a guarded create or by `initialize()`. -/
def pending (v : View) : Multiset Nat := v.connects + v.initConnects

/-- `acquire()` returns an idle connection. -/
def lend (v : View) (c : Nat) : View :=
  { v with available := v.available.erase c, held := c ::ₘ v.held }

/-- `release(conn)`. -/
def giveBack (v : View) (c : Nat) : View :=
  { v with held := v.held.erase c, available := c ::ₘ v.available }

/-- `close()` takes an idle connection. -/
def retire (v : View) (c : Nat) : View :=
  { v with available := v.available.erase c, closing := c ::ₘ v.closing }

/-- `close()` is done with the connection it took: it is retired, its link left as it was
(`conn.close()` raised). -/
def drop (v : View) (c : Nat) : View :=
  { v with closing := v.closing.erase c, retired := c ::ₘ v.retired }

/-- `close()` closed the connection it took. -/
def shut (v : View) (c : Nat) : View := { v.drop c with state := Function.update v.state c .closed }

/-- The guard passed under the lock: a new `Connection` is being connected. -/
def begin (v : View) : View :=
  { v with connects := v.conns ::ₘ v.connects, locked := true, conns := v.conns + 1,
           state := Function.update v.state v.conns .unconnected }

/-- `connect` succeeded: `_size += 1`, the lock is released and the caller holds the connection. -/
def finish (v : View) (c : Nat) : View :=
  { v with connects := v.connects.erase c, held := c ::ₘ v.held, size := v.size + 1,
           locked := false, state := Function.update v.state c .connected }

/-- `connect` failed: the lock is released. -/
def fail (v : View) (c : Nat) : View := { v with connects := v.connects.erase c, locked := false }

/-- `initialize()` creates a `Connection` and awaits its `connect`, with no lock and no guard. -/
def initBegin (v : View) : View :=
  { v with initConnects := v.conns ::ₘ v.initConnects, conns := v.conns + 1,
           state := Function.update v.state v.conns .unconnected }

/-- `initialize()`'s `connect` succeeded: `_size += 1`, and `put` makes the connection idle. -/
def initFinish (v : View) (c : Nat) : View :=
  { v with initConnects := v.initConnects.erase c, available := c ::ₘ v.available,
           size := v.size + 1, state := Function.update v.state c .connected }

/-- `initialize()`'s `connect` raised. -/
def initFail (v : View) (c : Nat) : View := { v with initConnects := v.initConnects.erase c }

/-- What the pool can do in one step. -/
inductive Step (maxSize : Nat) : View → View → Prop
  | stutter (v : View) : Step maxSize v v
  | lend {v : View} {c : Nat} : c ∈ v.available → Step maxSize v (v.lend c)
  | giveBack {v : View} {c : Nat} : c ∈ v.held → Step maxSize v (v.giveBack c)
  | retire {v : View} {c : Nat} : c ∈ v.available → Step maxSize v (v.retire c)
  | shut {v : View} {c : Nat} : c ∈ v.closing → Step maxSize v (v.shut c)
  | drop {v : View} {c : Nat} : c ∈ v.closing → Step maxSize v (v.drop c)
  | begin {v : View} : v.locked = false → v.size < maxSize → Step maxSize v v.begin
  | finish {v : View} {c : Nat} : c ∈ v.connects → Step maxSize v (v.finish c)
  | fail {v : View} {c : Nat} : c ∈ v.connects → Step maxSize v (v.fail c)

/-- What `initialize()` can do in one step. -/
inductive Fill : View → View → Prop
  | begin (v : View) : Fill v v.initBegin
  | finish {v : View} {c : Nat} : c ∈ v.initConnects → Fill v (v.initFinish c)
  | fail {v : View} {c : Nat} : c ∈ v.initConnects → Fill v (v.initFail c)

/-- One move of the pool: a step of `acquire()`, `release()` or `close()`, or of `initialize()`. -/
def Move (maxSize : Nat) (v v' : View) : Prop := Step maxSize v v' ∨ Fill v v'

/-- The pool invariant. -/
structure Inv (v : View) : Prop where
  count : ∀ c, v.places.count c = if v.state c = .unconnected then 0 else 1
  fresh : ∀ c, v.conns ≤ c → v.state c = .unconnected
  pending : ∀ c ∈ v.pending, c < v.conns ∧ v.state c = .unconnected
  pendingNodup : v.pending.Nodup
  lock : Multiset.card v.connects ≤ if v.locked then 1 else 0
  size : v.size = Multiset.card v.places

/-- Only `close()` closes a link, and it retires the connection. -/
def ClosedRetired (v : View) : Prop := ∀ c, v.state c = .closed → c ∈ v.retired

/-- `_size` and the creates in flight stay within `max_size`. -/
def Capacity (maxSize : Nat) (v : View) : Prop := v.size + Multiset.card v.connects ≤ maxSize

/-! ### Places under each step -/

theorem places_lend {v : View} {c : Nat} (h : c ∈ v.available) : (v.lend c).places = v.places := by
  simp only [places, lend]
  rw [← Multiset.cons_erase h]
  simp [Multiset.cons_add, Multiset.add_cons]

theorem places_giveBack {v : View} {c : Nat} (h : c ∈ v.held) : (v.giveBack c).places = v.places := by
  simp only [places, giveBack]
  rw [← Multiset.cons_erase h]
  simp [Multiset.cons_add, Multiset.add_cons]

theorem places_retire {v : View} {c : Nat} (h : c ∈ v.available) :
    (v.retire c).places = v.places := by
  simp only [places, retire]
  rw [← Multiset.cons_erase h]
  simp [Multiset.cons_add, Multiset.add_cons]

theorem places_drop {v : View} {c : Nat} (h : c ∈ v.closing) : (v.drop c).places = v.places := by
  simp only [places, drop]
  rw [← Multiset.cons_erase h]
  simp [Multiset.cons_add, Multiset.add_cons]

theorem places_shut {v : View} {c : Nat} (h : c ∈ v.closing) : (v.shut c).places = v.places :=
  places_drop h

@[simp] theorem places_begin (v : View) : v.begin.places = v.places := rfl

theorem places_finish (v : View) (c : Nat) : (v.finish c).places = c ::ₘ v.places := by
  simp [places, finish, Multiset.cons_add, Multiset.add_cons]

@[simp] theorem places_fail (v : View) (c : Nat) : (v.fail c).places = v.places := rfl

@[simp] theorem places_initBegin (v : View) : v.initBegin.places = v.places := rfl

theorem places_initFinish (v : View) (c : Nat) : (v.initFinish c).places = c ::ₘ v.places := by
  simp [places, initFinish, Multiset.cons_add]

@[simp] theorem places_initFail (v : View) (c : Nat) : (v.initFail c).places = v.places := rfl

/-! ### The connections being connected under each step -/

theorem pending_begin (v : View) : v.begin.pending = v.conns ::ₘ v.pending := by
  simp [pending, View.begin, Multiset.cons_add]

theorem pending_initBegin (v : View) : v.initBegin.pending = v.conns ::ₘ v.pending := by
  simp [pending, initBegin, Multiset.add_cons]

theorem pending_finish {v : View} {c : Nat} (h : c ∈ v.connects) :
    (v.finish c).pending = v.pending.erase c := by
  simp [pending, View.finish, Multiset.erase_add_left_pos _ h]

theorem pending_fail {v : View} {c : Nat} (h : c ∈ v.connects) :
    (v.fail c).pending = v.pending.erase c := by
  simp [pending, View.fail, Multiset.erase_add_left_pos _ h]

theorem pending_initFinish {v : View} {c : Nat} (h : c ∈ v.initConnects) :
    (v.initFinish c).pending = v.pending.erase c := by
  simp [pending, initFinish, Multiset.erase_add_right_pos _ h]

theorem pending_initFail {v : View} {c : Nat} (h : c ∈ v.initConnects) :
    (v.initFail c).pending = v.pending.erase c := by
  simp [pending, initFail, Multiset.erase_add_right_pos _ h]

/-! ### The invariant along steps -/

theorem init_inv (k : Nat) : (init k).Inv := by
  refine ⟨fun c => ?_, fun c hc => ?_, fun c hc => ?_, by simp [init, pending], by simp [init],
    by simp [init, places]⟩
  · by_cases hc : c < k
    · simp [init, places, hc, Multiset.count_eq_one_of_mem (Multiset.nodup_range k) (Multiset.mem_range.2 hc)]
    · simp [init, places, hc, Multiset.count_eq_zero_of_not_mem (fun h => hc (Multiset.mem_range.1 h))]
  · have hc : k ≤ c := hc
    simp [init, Nat.not_lt.2 hc]
  · simp [init, pending] at hc

theorem init_closedRetired (k : Nat) : (init k).ClosedRetired := fun c hc => by
  by_cases hk : c < k <;> simp [init, hk] at hc

theorem init_capacity {maxSize k : Nat} (hk : k ≤ maxSize) : Capacity maxSize (init k) := by
  simpa [Capacity, init] using hk

section
variable {v : View} (hv : v.Inv)
include hv

/-- A connection in a place has connected. -/
theorem Inv.state_of_mem {c : Nat} (h : c ∈ v.places) : v.state c ≠ .unconnected := by
  intro hc
  have := hv.count c
  rw [if_pos hc, Multiset.count_eq_zero] at this
  exact this h

/-- Each connection is in at most one place. -/
theorem Inv.nodup : v.places.Nodup :=
  Multiset.nodup_iff_count_le_one.mpr fun c => by rw [hv.count c]; split <;> omega

theorem Inv.connects_le_one : Multiset.card v.connects ≤ 1 :=
  hv.lock.trans (by split <;> omega)

/-- Under the lock at most one create runs: `c` is the only one. -/
theorem Inv.connects_eq {c : Nat} (hc : c ∈ v.connects) : v.connects = {c} := by
  obtain ⟨t, ht⟩ := Multiset.exists_cons_of_mem hc
  have := hv.connects_le_one
  rw [ht, Multiset.card_cons] at this
  have ht0 : t = 0 := Multiset.card_eq_zero.mp (by omega)
  rw [ht, ht0]
  rfl

/-- The connection of a guarded create is new and not connected yet. -/
theorem Inv.of_connects {c : Nat} (h : c ∈ v.connects) : c < v.conns ∧ v.state c = .unconnected :=
  hv.pending c (Multiset.mem_add.mpr (.inl h))

/-- So is the connection `initialize()` is connecting. -/
theorem Inv.of_initConnects {c : Nat} (h : c ∈ v.initConnects) :
    c < v.conns ∧ v.state c = .unconnected :=
  hv.pending c (Multiset.mem_add.mpr (.inr h))

/-- A step that only moves connections between places keeps the invariant. -/
theorem Inv.of_moves {v' : View} (hp : v'.places = v.places) (hs : v'.state = v.state)
    (hc : v'.conns = v.conns) (hpe : v'.pending = v.pending) (hcs : v'.connects = v.connects)
    (hl : v'.locked = v.locked) (hsize : v'.size = v.size) : v'.Inv :=
  ⟨by rw [hp, hs]; exact hv.count, by rw [hc, hs]; exact hv.fresh,
    by rw [hpe, hc, hs]; exact hv.pending, by rw [hpe]; exact hv.pendingNodup,
    by rw [hcs, hl]; exact hv.lock, by rw [hsize, hp]; exact hv.size⟩

/-- A create starts: it takes the next id, which is in no place and connected by no one. -/
theorem Inv.createOne {v' : View} (hp : v'.places = v.places) (hs : v'.state = v.state)
    (hc : v'.conns = v.conns + 1) (hpe : v'.pending = v.conns ::ₘ v.pending)
    (hlock : Multiset.card v'.connects ≤ if v'.locked then 1 else 0) (hsize : v'.size = v.size) :
    v'.Inv := by
  refine ⟨by rw [hp, hs]; exact hv.count, fun d hd => ?_, fun d hd => ?_, ?_, hlock,
    by rw [hsize, hp]; exact hv.size⟩
  · rw [hs]; exact hv.fresh d (by omega)
  · rw [hpe, Multiset.mem_cons] at hd
    rw [hc, hs]
    rcases hd with rfl | hd
    · exact ⟨Nat.lt_succ_self _, hv.fresh _ le_rfl⟩
    · exact ⟨Nat.lt_succ_of_lt (hv.pending d hd).1, (hv.pending d hd).2⟩
  · rw [hpe]
    exact Multiset.nodup_cons.mpr ⟨fun h => lt_irrefl _ (hv.pending _ h).1, hv.pendingNodup⟩

/-- A create is given up: its connection leaves the ones being connected, and nothing else moves. -/
theorem Inv.dropPending {v' : View} {c : Nat} (hp : v'.places = v.places) (hs : v'.state = v.state)
    (hc : v'.conns = v.conns) (hpe : v'.pending = v.pending.erase c)
    (hlock : Multiset.card v'.connects ≤ if v'.locked then 1 else 0) (hsize : v'.size = v.size) :
    v'.Inv := by
  refine ⟨by rw [hp, hs]; exact hv.count, by rw [hc, hs]; exact hv.fresh, fun d hd => ?_, ?_, hlock,
    by rw [hsize, hp]; exact hv.size⟩
  · rw [hpe] at hd
    rw [hc, hs]
    exact hv.pending d (Multiset.mem_of_mem_erase hd)
  · rw [hpe]; exact hv.pendingNodup.erase c

/-- A create finished: its connection, new and not connected, connects and takes a place. -/
theorem Inv.connectOne {v' : View} {c : Nat} (h : c ∈ v.pending) (hp : v'.places = c ::ₘ v.places)
    (hs : v'.state = Function.update v.state c .connected) (hc : v'.conns = v.conns)
    (hpe : v'.pending = v.pending.erase c)
    (hlock : Multiset.card v'.connects ≤ if v'.locked then 1 else 0) (hsize : v'.size = v.size + 1) :
    v'.Inv := by
  obtain ⟨hlt, hunc⟩ := hv.pending c h
  refine ⟨fun d => ?_, fun d hd => ?_, fun d hd => ?_, ?_, hlock, ?_⟩
  · rw [hp, Multiset.count_cons, hv.count d, hs]
    by_cases hd : d = c
    · subst hd; simp [hunc]
    · simp [hd]
  · have hdc : d ≠ c := by omega
    rw [hs, Function.update_noteq hdc]
    exact hv.fresh d (by omega)
  · rw [hpe] at hd
    have hdc := (hv.pendingNodup.mem_erase_iff.mp hd).1
    rw [hc, hs, Function.update_noteq hdc]
    exact hv.pending d (Multiset.mem_of_mem_erase hd)
  · rw [hpe]; exact hv.pendingNodup.erase c
  · rw [hsize, hp, Multiset.card_cons, hv.size]

theorem Inv.lend {c : Nat} (h : c ∈ v.available) : (v.lend c).Inv :=
  hv.of_moves (places_lend h) rfl rfl rfl rfl rfl rfl

theorem Inv.giveBack {c : Nat} (h : c ∈ v.held) : (v.giveBack c).Inv :=
  hv.of_moves (places_giveBack h) rfl rfl rfl rfl rfl rfl

theorem Inv.retire {c : Nat} (h : c ∈ v.available) : (v.retire c).Inv :=
  hv.of_moves (places_retire h) rfl rfl rfl rfl rfl rfl

theorem Inv.drop {c : Nat} (h : c ∈ v.closing) : (v.drop c).Inv :=
  hv.of_moves (places_drop h) rfl rfl rfl rfl rfl rfl

theorem Inv.shut {c : Nat} (h : c ∈ v.closing) : (v.shut c).Inv := by
  have hc : v.state c ≠ .unconnected := hv.state_of_mem (by simp [places, h])
  refine ⟨fun d => ?_, fun d hd => ?_, fun d hd => ?_, hv.pendingNodup, hv.lock,
    by simpa [places_shut h] using hv.size⟩
  · rw [places_shut h, hv.count d]
    by_cases hd : d = c
    · subst hd; simp [View.shut, hc]
    · simp [View.shut, hd]
  · have := hv.fresh d hd
    have hdc : d ≠ c := fun e => hc (e ▸ this)
    simpa [View.shut, hdc] using this
  · have := hv.pending d hd
    have hdc : d ≠ c := fun e => hc (e ▸ this.2)
    simpa [View.shut, hdc] using this

/-- The next id is not connected yet, so marking it unconnected changes nothing. -/
theorem Inv.update_conns : Function.update v.state v.conns .unconnected = v.state :=
  Function.update_eq_self_iff.mpr (hv.fresh _ le_rfl).symm

theorem Inv.begin (hl : v.locked = false) : v.begin.Inv := by
  have hzero : v.connects = 0 := by simpa [hl] using hv.lock
  exact hv.createOne rfl hv.update_conns rfl (pending_begin v) (by simp [View.begin, hzero]) rfl

theorem Inv.finish {c : Nat} (h : c ∈ v.connects) : (v.finish c).Inv :=
  hv.connectOne (Multiset.mem_add.mpr (.inl h)) (places_finish v c) rfl rfl (pending_finish h)
    (by simp [View.finish, hv.connects_eq h]) rfl

theorem Inv.fail {c : Nat} (h : c ∈ v.connects) : (v.fail c).Inv :=
  hv.dropPending rfl rfl rfl (pending_fail h) (by simp [View.fail, hv.connects_eq h]) rfl

theorem Inv.initBegin : v.initBegin.Inv :=
  hv.createOne rfl hv.update_conns rfl (pending_initBegin v) hv.lock rfl

theorem Inv.initFinish {c : Nat} (h : c ∈ v.initConnects) : (v.initFinish c).Inv :=
  hv.connectOne (Multiset.mem_add.mpr (.inr h)) (places_initFinish v c) rfl rfl (pending_initFinish h)
    hv.lock rfl

theorem Inv.initFail {c : Nat} (h : c ∈ v.initConnects) : (v.initFail c).Inv :=
  hv.dropPending rfl rfl rfl (pending_initFail h) hv.lock rfl

/-- **The pool invariant is kept by every step.** -/
theorem Inv.step {maxSize : Nat} {v' : View} (h : Step maxSize v v') : v'.Inv := by
  cases h with
  | stutter => exact hv
  | lend hc => exact hv.lend hc
  | giveBack hc => exact hv.giveBack hc
  | retire hc => exact hv.retire hc
  | shut hc => exact hv.shut hc
  | drop hc => exact hv.drop hc
  | begin hl _ => exact hv.begin hl
  | finish hc => exact hv.finish hc
  | fail hc => exact hv.fail hc

/-- **And by every step of `initialize()`.** -/
theorem Inv.fill {v' : View} (h : Fill v v') : v'.Inv := by
  cases h with
  | begin => exact hv.initBegin
  | finish hc => exact hv.initFinish hc
  | fail hc => exact hv.initFail hc

theorem Inv.move {maxSize : Nat} {v' : View} (h : Move maxSize v v') : v'.Inv :=
  h.elim hv.step hv.fill

/-- **`_size` plus the guarded creates in flight stays within `max_size`.** -/
theorem Capacity.step {maxSize : Nat} {v' : View} (hcap : Capacity maxSize v) (h : Step maxSize v v') :
    Capacity maxSize v' := by
  unfold Capacity at hcap ⊢
  cases h with
  | stutter | lend _ | giveBack _ | retire _ | shut _ | drop _ => exact hcap
  | begin hl hlt =>
    have hzero : Multiset.card v.connects = 0 := by simpa [hl] using hv.lock
    simp only [View.begin, Multiset.card_cons]
    omega
  | finish hc =>
    have hone := hv.connects_eq hc
    simp only [View.finish, hone, Multiset.erase_singleton, Multiset.card_zero,
      Multiset.card_singleton] at hcap ⊢
    omega
  | @fail c _ =>
    have : Multiset.card (v.connects.erase c) ≤ Multiset.card v.connects := Multiset.card_erase_le
    simp only [View.fail]
    omega

/-- A connection idle or held is connected: it connected, and `close()` has not closed it. -/
theorem Inv.connected (hcr : v.ClosedRetired) {c : Nat} (hm : c ∈ v.available + v.held) :
    v.state c = .connected := by
  have hcount := hv.count c
  have hpos : 0 < (v.available + v.held).count c := Multiset.count_pos.mpr hm
  have hplaces : v.places.count c = (v.available + v.held).count c + v.closing.count c +
      v.retired.count c := by
    simp only [places, Multiset.count_add]
  cases hs : v.state c with
  | unconnected => exact absurd hs (hv.state_of_mem (Multiset.mem_add.mpr (.inl (Multiset.mem_add.mpr (.inl hm)))))
  | connected => rfl
  | closed =>
    have := Multiset.count_pos.mpr (hcr c hs)
    simp only [hs, reduceCtorEq, if_false] at hcount
    omega

end

/-- **Only `close()` closes a link**, along every step. -/
theorem ClosedRetired.step {maxSize : Nat} {v v' : View} (hcr : v.ClosedRetired) (h : Step maxSize v v') :
    v'.ClosedRetired := by
  intro d hd
  cases h with
  | stutter | lend _ | giveBack _ | retire _ | fail _ => exact hcr d hd
  | @shut c _ =>
    by_cases hdc : d = c
    · simp [View.shut, View.drop, hdc]
    · simpa [View.shut, View.drop, hdc] using hcr d (by simpa [View.shut, hdc] using hd)
  | @drop c _ => simpa [View.drop] using Or.inr (hcr d hd)
  | begin _ _ =>
    by_cases hdc : d = v.conns
    · simp [View.begin, hdc] at hd
    · exact hcr d (by simpa [View.begin, hdc] using hd)
  | @finish c _ =>
    by_cases hdc : d = c
    · simp [View.finish, hdc] at hd
    · exact hcr d (by simpa [View.finish, hdc] using hd)

/-- **And along every step of `initialize()`**, which never closes one. -/
theorem ClosedRetired.fill {v v' : View} (hcr : v.ClosedRetired) (h : Fill v v') : v'.ClosedRetired := by
  intro d hd
  cases h with
  | begin =>
    by_cases hdc : d = v.conns
    · simp [initBegin, hdc] at hd
    · exact hcr d (by simpa [initBegin, hdc] using hd)
  | @finish c _ =>
    by_cases hdc : d = c
    · simp [initFinish, hdc] at hd
    · exact hcr d (by simpa [initFinish, hdc] using hd)
  | fail _ => exact hcr d hd

theorem ClosedRetired.move {maxSize : Nat} {v v' : View} (hcr : v.ClosedRetired) (h : Move maxSize v v') :
    v'.ClosedRetired :=
  h.elim hcr.step hcr.fill

end View

end DriftDB.Pool
