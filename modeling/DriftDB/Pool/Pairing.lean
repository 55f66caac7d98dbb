import DriftDB.Pool.Safety
import DriftDB.Client

/-!
# Request/response pairing

`execute` writes its request and then reads one line; the pool hands the connection to the next
borrower with whatever is still unread on it. `log` records, for each line read whole, the request
of the reading `execute` and the request the line answers.

Two steps leave a response on the link for the next borrower: an `execute` cancelled between its
`write` and its `readline` (an outer timeout; `cancel`), and a `readline` that overruns the reader's
limit before the end of the line, which drops only the part it buffered (`overrun _ false`).
`Client.query`'s `finally` releases the connection either way, and the next borrower reads the
stale line, or its tail, as its own (`pairing_breaks`).

In runs with neither (`Clean`) the pool stays `Paired`: each idle, held or connecting connection
is `Settled` (nothing unread on its link), an `execute` waiting for its line has its own request,
and nothing else, unread, or the server closed the stream before answering it, and every line read
answers the request of the `execute` that read it (`clean_runs_paired`). The server closing a
stream keeps this: the lines it wrote before are still read, in order. The proof needs one fact of
the pool: the connection a task holds, connects or closes is idle nowhere and no other task holds
or connects it (`Sys.Owns`), so the task's steps change its link and no one else's.

Each task runs one statement at a time, as `Client.query` does and as a transaction scope does when
its body awaits each `execute` before the next: two `execute`s of one task in flight at once, as
`asyncio.gather` would run them on one connection, are not steps of this model.
-/

namespace DriftDB

namespace Link

/-- Nothing is unread on the link. -/
def Settled (l : Link) : Prop := l.Quiet

/-- Exactly the request `q` is unread on the link, or the server closed it without answering `q`;
no line was cut. -/
def Awaits (l : Link) (q : Nat) : Prop :=
  l.cut = false ∧ (l.inflight = [q] ∨ (l.eof = true ∧ l.inflight = []))

theorem Settled.write {l : Link} (h : l.Settled) (q : Nat) : (l.write q).Awaits q := by
  obtain ⟨hq, hc⟩ := h
  unfold Link.write
  split
  · exact ⟨hc, .inr ⟨‹_›, hq⟩⟩
  · exact ⟨hc, .inl (by simp [hq])⟩

theorem Settled.hangUp {l : Link} (h : l.Settled) (k : Nat) : (l.hangUp k).Settled :=
  ⟨by simp [Link.hangUp, h.1], h.2⟩

theorem Awaits.hangUp {l : Link} {q : Nat} (h : l.Awaits q) (k : Nat) : (l.hangUp k).Awaits q := by
  obtain ⟨hc, hq | ⟨-, hq⟩⟩ := h
  · cases k <;> simp [Link.hangUp, Link.Awaits, hq, hc]
  · exact ⟨hc, .inr ⟨rfl, by simp [Link.hangUp, hq]⟩⟩

/-- Reading the line, whole or cut, or finding the end of the stream, settles the link. -/
theorem Awaits.take {l : Link} {q : Nat} (h : l.Awaits q) : l.take.Settled := by
  refine ⟨?_, rfl⟩
  obtain ⟨-, hq | ⟨-, hq⟩⟩ := h <;> simp [Link.take, hq]

/-- The first unread line answers `q`. -/
theorem Awaits.head {l : Link} {q hd : Nat} {rest : List Nat} (hl : l.Awaits q)
    (hin : l.inflight = hd :: rest) : hd = q := by
  obtain ⟨-, hq | ⟨-, hq⟩⟩ := hl <;> rw [hin] at hq
  · exact (List.cons_eq_cons.mp hq).1
  · cases hq

theorem Awaits.settled_of_nil {l : Link} {q : Nat} (hl : l.Awaits q) (hin : l.inflight = []) :
    l.Settled :=
  ⟨hin, hl.1⟩

theorem fresh_settled : fresh.Settled := ⟨rfl, rfl⟩

@[simp] theorem connect_settled (l : Link) : l.connect.Settled ↔ l.Settled := Iff.rfl

/-- The server closing `c`'s stream keeps any property of links that `hangUp` keeps. -/
theorem update_hangUp {P : Link → Prop} {links : Nat → Link} {c k d : Nat}
    (hP : ∀ l, P l → P (l.hangUp k)) (hd : P (links d)) :
    P (Function.update links c ((links c).hangUp k) d) := by
  by_cases hdc : d = c
  · subst hdc
    rw [Function.update_same]
    exact hP _ hd
  · rwa [Function.update_noteq hdc]

end Link

namespace Pool

/-! ### Which steps keep the pairing -/

/-- `cancel`: an `execute` is cancelled between its `write` and its `readline`. -/
def Action.cancels : Action → Bool
  | .cancel _ => true
  | _ => false

/-- `overrun _ false`: a `readline` overran the limit and dropped only what it had buffered of the
line. -/
def Action.cuts : Action → Bool
  | .overrun _ whole => !whole
  | _ => false

/-- The actions of runs with no cancelled `execute` and no partly dropped line. -/
def Clean (a : Action) : Prop := a.cancels = false ∧ a.cuts = false

instance : DecidablePred Clean := fun _ => inferInstanceAs (Decidable (_ ∧ _))

/-- What a task expects of the link of the connection it connects, holds, or waits on. -/
def Pc.Fits (links : Nat → Link) : Pc → Prop
  | .connect c _ | .hold c _ | .initConnect c _ => (links c).Settled
  | .exchange c q _ _ => (links c).Awaits q
  | _ => True

/-- A change of links that keeps `Settled` and `Awaits` keeps what every task expects. -/
theorem Pc.fits_of_links {links links' : Nat → Link} {p : Pc}
    (hs : ∀ d, (links d).Settled → (links' d).Settled)
    (ha : ∀ d q, (links d).Awaits q → (links' d).Awaits q) (h : p.Fits links) : p.Fits links' := by
  cases p <;> first | exact hs _ h | exact ha _ _ h | trivial

/-- Changing the link of a connection a task does not hold or connect does not concern it. -/
theorem Pc.fits_update {links : Nat → Link} {c : Nat} {l : Link} {p : Pc} (hh : p.held ≠ some c)
    (hc : p.connecting ≠ some c) (hi : p.initConnecting ≠ some c) :
    p.Fits (Function.update links c l) ↔ p.Fits links := by
  cases p <;> simp_all [Pc.Fits, Pc.held, Pc.connecting, Pc.initConnecting, Function.update_noteq]

/-- Request/response pairing, as an invariant of the pool. -/
structure Paired (s : Sys) : Prop where
  available : ∀ c ∈ s.available, (s.links c).Settled
  tasks : ∀ (t : Nat) (p : Pc), s.tasks[t]? = some p → p.Fits s.links
  log : ∀ e ∈ s.log, e.1 = e.2

/-! ### Who may change a link -/

/-- Task `t` is the only task that holds or connects `c`, and `c` is not idle: a step of `t` may
change `c`'s link and no other task, nor `acquire()`, sees it. -/
def Sys.Owns (s : Sys) (t c : Nat) : Prop :=
  c ∉ s.available ∧ ∀ (t' : Nat) (p : Pc), t' ≠ t → s.tasks[t']? = some p →
    p.held ≠ some c ∧ p.connecting ≠ some c ∧ p.initConnecting ≠ some c

section
variable {cfg : Config} {P : Action → Prop} {s : Sys} {t c : Nat} {q : Pc}

theorem mem_tasks_filterMap {f : Pc → Option Nat} (hq : s.tasks[t]? = some q) (hc : f q = some c) :
    c ∈ s.tasks.filterMap f :=
  List.mem_filterMap.mpr ⟨q, List.getElem?_mem hq, hc⟩

/-- A connection that has not connected is in no place. -/
theorem unplaced (h : ReachableBy cfg P s) (hc : (s.links c).state = .unconnected) :
    c ∉ s.available ∧ ∀ (t : Nat) (p : Pc), s.tasks[t]? = some p → p.held ≠ some c := by
  have hm : c ∉ s.view.places := fun hm => (view_inv h).state_of_mem hm hc
  simp only [View.places, Sys.view, Multiset.mem_add, Multiset.mem_coe, not_or] at hm
  exact ⟨hm.1.1.1, fun t p hp hpc => hm.1.1.2 (mem_tasks_filterMap hp hpc)⟩

/-- A connection that has connected is not being connected, by `acquire()` or by `initialize()`. -/
theorem unconnecting (h : ReachableBy cfg P s) (hc : (s.links c).state ≠ .unconnected) (t : Nat)
    (p : Pc) (hp : s.tasks[t]? = some p) : p.connecting ≠ some c ∧ p.initConnecting ≠ some c :=
  ⟨fun hpc => hc ((view_inv h).of_connects (mem_view hp hpc)).2,
    fun hpc => hc ((view_inv h).of_initConnects (mem_view hp hpc)).2⟩

/-- The connections being connected, by the guarded create or by `initialize()`, are distinct. -/
theorem pending_nodup (h : ReachableBy cfg P s) :
    (s.tasks.filterMap Pc.connecting ++ s.tasks.filterMap Pc.initConnecting).Nodup := by
  have hnd := (view_inv h).pendingNodup
  simpa only [View.pending, Sys.view, Multiset.coe_add, Multiset.coe_nodup] using hnd

theorem owns_of_held (h : ReachableBy cfg P s) (hq : s.tasks[t]? = some q) (hc : q.held = some c) :
    s.Owns t c := by
  have hle := places_count_le h c
  have hpos := count_pos_of_task hq hc
  have hst : (s.links c).state ≠ .unconnected := fun hu => (unplaced h hu).2 t q hq hc
  refine ⟨fun ha => ?_, fun t' p hne hp => ⟨fun hpc => hne ?_, unconnecting h hst t' p hp⟩⟩
  · have := List.count_pos_iff.mpr ha; omega
  · exact index_eq_of_filterMap_nodup (held_nodup h) hp hq hpc hc

theorem owns_of_connecting (h : ReachableBy cfg P s) (hq : s.tasks[t]? = some q)
    (hc : q.connecting = some c) : s.Owns t c := by
  have hst : (s.links c).state = .unconnected := ((view_inv h).of_connects (mem_view hq hc)).2
  have hnd := pending_nodup h
  refine ⟨(unplaced h hst).1, fun t' p hne hp =>
    ⟨(unplaced h hst).2 t' p hp, fun hpc => hne ?_, fun hpc => ?_⟩⟩
  · exact index_eq_of_filterMap_nodup (List.nodup_append.mp hnd).1 hp hq hpc hc
  · exact List.disjoint_of_nodup_append hnd (mem_tasks_filterMap hq hc) (mem_tasks_filterMap hp hpc)

theorem owns_of_initConnecting (h : ReachableBy cfg P s) (hq : s.tasks[t]? = some q)
    (hc : q.initConnecting = some c) : s.Owns t c := by
  have hst : (s.links c).state = .unconnected := ((view_inv h).of_initConnects (mem_view hq hc)).2
  have hnd := pending_nodup h
  refine ⟨(unplaced h hst).1, fun t' p hne hp =>
    ⟨(unplaced h hst).2 t' p hp, fun hpc => ?_, fun hpc => hne ?_⟩⟩
  · exact List.disjoint_of_nodup_append hnd (mem_tasks_filterMap hp hpc) (mem_tasks_filterMap hq hc)
  · exact index_eq_of_filterMap_nodup (List.nodup_append.mp hnd).2.1 hp hq hpc hc

theorem owns_of_closing (h : ReachableBy cfg P s) (hq : s.tasks[t]? = some q)
    (hc : q.closing? = some c) : s.Owns t c := by
  have hle := places_count_le h c
  have hpos := count_pos_of_task hq hc
  have hst : (s.links c).state ≠ .unconnected := (view_inv h).state_of_mem
    (Multiset.mem_add.mpr (.inl (Multiset.mem_add.mpr (.inr (mem_view hq hc)))))
  refine ⟨fun ha => ?_, fun t' p _ hp => ⟨fun hpc => ?_, unconnecting h hst t' p hp⟩⟩
  · have := List.count_pos_iff.mpr ha; omega
  · have := count_pos_of_task hp hpc; omega

/-- The id the next create takes is nobody's yet. -/
theorem owns_fresh (h : ReachableBy cfg P s) (t : Nat) : s.Owns t s.conns := by
  have hv := view_inv h
  have hst : (s.links s.conns).state = .unconnected := hv.fresh _ le_rfl
  refine ⟨(unplaced h hst).1, fun t' p _ hp => ⟨(unplaced h hst).2 t' p hp, fun hpc => ?_, fun hpc => ?_⟩⟩
  · exact absurd (hv.of_connects (mem_view hp hpc)).1 (lt_irrefl _)
  · exact absurd (hv.of_initConnects (mem_view hp hpc)).1 (lt_irrefl _)

end

/-! ### The pairing along steps -/

section
variable {s s' : Sys} {t : Nat} {p : Pc}

theorem fits_set {links : Nat → Link}
    (hrest : ∀ (t' : Nat) (p' : Pc), t' ≠ t → s.tasks[t']? = some p' → p'.Fits links)
    (hp : p.Fits links) : ∀ (t' : Nat) (p' : Pc), (s.tasks.set t p)[t']? = some p' → p'.Fits links := by
  intro t' p' h
  rw [List.getElem?_set] at h
  split_ifs at h with h₁
  · cases h; exact hp
  · exact hrest t' p' (Ne.symm h₁) h

/-- Task `t` moves to `p` and the links stay as they are. -/
theorem Paired.retask (hs : Paired s) (hav : ∀ c ∈ s'.available, (s.links c).Settled)
    (ht : s'.tasks = s.tasks.set t p) (hl : s'.links = s.links) (hp : p.Fits s.links)
    (hlog : s'.log = s.log) : Paired s' := by
  refine ⟨by rwa [hl], ?_, by rw [hlog]; exact hs.log⟩
  rw [ht, hl]
  exact fits_set (fun t' p' _ => hs.tasks t' p') hp

/-- Task `t` moves to `p` and changes the link of a connection it owns. -/
theorem Paired.touch (hs : Paired s) {c : Nat} {l : Link} (hown : s.Owns t c)
    (ha : s'.available = s.available) (ht : s'.tasks = s.tasks.set t p)
    (hl : s'.links = Function.update s.links c l) (hp : p.Fits (Function.update s.links c l))
    (hlog : ∀ e ∈ s'.log, e.1 = e.2) : Paired s' := by
  refine ⟨fun d hd => ?_, ?_, hlog⟩
  · rw [ha] at hd
    have hdc : d ≠ c := fun e => hown.1 (e ▸ hd)
    simpa [hl, hdc] using hs.available d hd
  · rw [ht, hl]
    refine fits_set (fun t' p' hne hp' => ?_) hp
    obtain ⟨hh, hc, hi⟩ := hown.2 t' p' hne hp'
    exact (Pc.fits_update hh hc hi).mpr (hs.tasks t' p' hp')

/-- `initialize()` puts the connection it connected, settled, into `_available`. -/
theorem Paired.putConnected (hs : Paired s) {c : Nat} (hown : s.Owns t c) (hc : (s.links c).Settled)
    (hp : p.Fits (Function.update s.links c (s.links c).connect)) :
    Paired ((s.setTask t p).putConnected c) := by
  have h₁ : Paired ((s.setTask t p).setLink c Link.connect) := hs.touch hown rfl rfl rfl hp hs.log
  exact ⟨List.forall_mem_append.mpr ⟨h₁.available, by simpa [Sys.putConnected] using hc⟩, h₁.tasks,
    h₁.log⟩

/-- The server closing a stream keeps the pairing: the lines it wrote stay, in order. -/
theorem Paired.hangUp (hs : Paired s) (c k : Nat) : Paired (s.setLink c (·.hangUp k)) := by
  have hset : ∀ d, (s.links d).Settled →
      (Function.update s.links c ((s.links c).hangUp k) d).Settled :=
    fun _ => Link.update_hangUp fun _ h => h.hangUp k
  have hawait : ∀ d q, (s.links d).Awaits q →
      (Function.update s.links c ((s.links c).hangUp k) d).Awaits q :=
    fun _ q => @Link.update_hangUp (·.Awaits q) _ _ _ _ fun _ h => h.hangUp k
  exact ⟨fun d hd => hset d (hs.available d hd),
    fun t p hp => Pc.fits_of_links hset hawait (hs.tasks t p hp), hs.log⟩

end

section
variable {cfg : Config} {s s' : Sys} {a : Action}

/-- **Every clean step keeps the pairing.** -/
theorem Paired.step (hr : ReachableBy cfg Clean s) (hs : Paired s) (ha : Clean a)
    (h : step cfg s a = some s') : Paired s' := by
  have settled : ∀ {t c : Nat} {u : Use}, s.tasks[t]? = some (.hold c u) → (s.links c).Settled :=
    fun hq => hs.tasks _ _ hq
  cases a with
  | call t u =>
    obtain ⟨-, rfl⟩ := step_call h
    exact hs.retask hs.available rfl rfl trivial rfl
  | pollGet t =>
    obtain ⟨u, c, rest, -, hav, rfl⟩ := step_pollGet h
    exact hs.retask (fun d hd => hs.available d (by simp [hav, hd])) rfl rfl
      (hs.available c (by simp [hav])) rfl
  | pollTimeout t =>
    obtain ⟨u, -, rfl⟩ := step_pollTimeout h
    exact hs.retask hs.available rfl rfl trivial rfl
  | lockAcquire t =>
    obtain ⟨u, -, -, ⟨-, rfl⟩ | ⟨-, rfl⟩⟩ := step_lockAcquire h
    · exact hs.touch (owns_fresh hr t) rfl rfl rfl (by simp [Pc.Fits, Link.fresh_settled]) hs.log
    · exact hs.retask hs.available rfl rfl trivial rfl
  | connectOk t =>
    obtain ⟨c, u, hq, rfl⟩ := step_connectOk h
    exact hs.touch (owns_of_connecting hr hq rfl) rfl rfl rfl
      (by simpa [Pc.Fits] using hs.tasks t _ hq) hs.log
  | connectFail t =>
    obtain ⟨c, u, -, rfl⟩ := step_connectFail h
    exact hs.retask hs.available rfl rfl trivial rfl
  | waitGet t =>
    obtain ⟨u, c, rest, -, hav, rfl⟩ := step_waitGet h
    exact hs.retask (fun d hd => hs.available d (by simp [hav, hd])) rfl rfl
      (hs.available c (by simp [hav])) rfl
  | abort t =>
    obtain ⟨-, rfl⟩ := step_abort h
    exact hs.retask hs.available rfl rfl trivial rfl
  | release t =>
    obtain ⟨c, hq, rfl⟩ := step_release h
    exact hs.retask (List.forall_mem_append.mpr ⟨hs.available, by simpa using settled hq⟩) rfl rfl
      trivial rfl
  | write t dumped =>
    obtain ⟨c, ok, err, hq, ⟨-, rfl⟩ | ⟨-, rfl⟩⟩ := step_write h
    · exact hs.touch (owns_of_held hr hq rfl) rfl rfl rfl
        (by simpa [Pc.Fits] using (settled hq).write s.requests) hs.log
    · exact hs.retask hs.available rfl rfl (settled hq) rfl
  | read t line =>
    obtain ⟨c, q, ok, err, hd, rest, hq, hin, ⟨-, rfl⟩ | ⟨hcut, rfl⟩⟩ := step_read h
    · obtain rfl := (hs.tasks t _ hq).head hin
      exact hs.touch (owns_of_held hr hq rfl) rfl rfl rfl
        (by simpa [Pc.Fits] using (hs.tasks t _ hq).take) (List.forall_mem_append.mpr ⟨hs.log, by simp⟩)
    · simp [(hs.tasks t _ hq).1] at hcut
  | overrun t whole =>
    obtain ⟨c, q, ok, err, hq, -, rfl⟩ := step_overrun h
    obtain rfl : whole = true := by simpa [Clean, Action.cuts] using ha.2
    exact hs.touch (owns_of_held hr hq rfl) rfl rfl rfl
      (by simpa [Pc.Fits] using (hs.tasks t _ hq).take) hs.log
  | readEof t =>
    obtain ⟨c, q, ok, err, hq, -, hin, rfl⟩ := step_readEof h
    exact hs.retask hs.available rfl rfl ((hs.tasks t _ hq).settled_of_nil hin) rfl
  | cancel t => simp [Clean, Action.cancels] at ha
  | hangUp c k =>
    obtain rfl := step_hangUp h
    exact hs.hangUp c k
  | close t =>
    obtain ⟨-, rfl⟩ := step_close h
    exact hs.retask hs.available rfl rfl trivial rfl
  | drainCheck t =>
    obtain ⟨-, rfl⟩ := step_drainCheck h
    exact hs.retask hs.available rfl rfl (by split <;> trivial) rfl
  | drainGet t =>
    obtain ⟨c, rest, -, hav, rfl⟩ := step_drainGet h
    exact hs.retask (fun d hd => hs.available d (by simp [hav, hd])) rfl rfl trivial rfl
  | drainTimeout t =>
    obtain ⟨-, rfl⟩ := step_drainTimeout h
    exact hs.retask hs.available rfl rfl trivial rfl
  | closeConn t =>
    obtain ⟨c, hq, rfl⟩ := step_closeConn h
    exact hs.touch (owns_of_closing hr hq rfl) rfl rfl rfl trivial hs.log
  | closeConnFail t =>
    obtain ⟨c, -, rfl⟩ := step_closeConnFail h
    exact hs.retask hs.available rfl rfl trivial rfl
  | initStart t =>
    obtain ⟨-, rfl⟩ := step_initStart h
    exact hs.retask hs.available rfl rfl trivial rfl
  | initNext t =>
    obtain ⟨-, rfl⟩ | ⟨left, -, rfl⟩ := step_initNext h
    · exact hs.retask hs.available rfl rfl trivial rfl
    · exact hs.touch (owns_fresh hr t) rfl rfl rfl (by simp [Pc.Fits, Link.fresh_settled]) hs.log
  | initConnectOk t =>
    obtain ⟨c, left, hq, rfl⟩ := step_initConnectOk h
    exact hs.putConnected (owns_of_initConnecting hr hq rfl) (hs.tasks t _ hq) trivial
  | initConnectFail t =>
    obtain ⟨c, left, -, rfl⟩ := step_initConnectFail h
    exact hs.retask hs.available rfl rfl trivial rfl

end

end Pool

end DriftDB
