import DriftDB.Pool.View
import DriftDB.Client

/-!
# The tasks refine the pool

`Sys.view` forgets the tasks' program counters and the streams, and keeps where each connection
is. A completed `initialize()` is `View.init` (`initialized_view`), and every step of a task or
of the server is a move of `View`, most of them `stutter` (`view_step`): a step of `initialize()`
is a `View.Fill`, every other step a `View.Step`. So every reachable state is, seen through
`view`, reachable in `View` (`reachable_refines`), and the invariants of `View` hold in every
reachable state (`view_inv`, `view_closedRetired`).
-/

namespace DriftDB.Pool

theorem filterMap_set {α β : Type} (f : α → Option β) :
    ∀ (l : List α) (t : Nat) {q : α} (p : α), l[t]? = some q →
      (((l.set t p).filterMap f : List β) : Multiset β) + ((f q).toList : Multiset β) =
        ((l.filterMap f : List β) : Multiset β) + ((f p).toList : Multiset β)
  | [], _, _, _, h => by simp at h
  | x :: l, 0, q, p, h => by
    simp only [List.getElem?_cons_zero, Option.some.injEq] at h
    subst h
    cases hx : f x <;> cases hp : f p <;>
      simp [List.filterMap_cons, hx, hp, ← Multiset.cons_coe, ← Multiset.singleton_add, add_comm,
        add_left_comm, add_assoc]
  | x :: l, t + 1, q, p, h => by
    simp only [List.getElem?_cons_succ] at h
    have ih := filterMap_set f l t p h
    cases hx : f x <;> simp [List.filterMap_cons, hx, ih, ← Multiset.cons_coe, Multiset.cons_add]

/-- Where the connections are, in a state of the tasks. -/
def Sys.view (s : Sys) : View where
  available := s.available
  held := s.tasks.filterMap Pc.held
  closing := s.tasks.filterMap Pc.closing?
  retired := s.retired
  connects := s.tasks.filterMap Pc.connecting
  initConnects := s.tasks.filterMap Pc.initConnecting
  locked := s.locked
  conns := s.conns
  size := s.size
  state c := (s.links c).state

section
variable {s : Sys} {t : Nat} {q : Pc}

theorem view_setTask (hq : s.tasks[t]? = some q) (p : Pc) :
    (s.setTask t p).view.held + (q.held.toList : Multiset Nat) = s.view.held + (p.held.toList : Multiset Nat) ∧
    (s.setTask t p).view.closing + (q.closing?.toList : Multiset Nat) =
      s.view.closing + (p.closing?.toList : Multiset Nat) ∧
    (s.setTask t p).view.connects + (q.connecting.toList : Multiset Nat) =
      s.view.connects + (p.connecting.toList : Multiset Nat) ∧
    (s.setTask t p).view.initConnects + (q.initConnecting.toList : Multiset Nat) =
      s.view.initConnects + (p.initConnecting.toList : Multiset Nat) :=
  ⟨filterMap_set _ _ _ _ hq, filterMap_set _ _ _ _ hq, filterMap_set _ _ _ _ hq, filterMap_set _ _ _ _ hq⟩

/-- A task moving between two program counters that hold, close and connect the same connections
leaves the view as it is. -/
theorem view_setTask_eq (hq : s.tasks[t]? = some q) (p : Pc) (h₁ : q.held = p.held)
    (h₂ : q.closing? = p.closing?) (h₃ : q.connecting = p.connecting)
    (h₄ : q.initConnecting = p.initConnecting) : (s.setTask t p).view = s.view := by
  obtain ⟨e₁, e₂, e₃, e₄⟩ := view_setTask hq p
  rw [h₁] at e₁; rw [h₂] at e₂; rw [h₃] at e₃; rw [h₄] at e₄
  ext1
  · rfl
  · exact add_right_cancel e₁
  · exact add_right_cancel e₂
  · rfl
  · exact add_right_cancel e₃
  · exact add_right_cancel e₄
  all_goals rfl

end

theorem view_setLink (s : Sys) (c : Nat) (f : Link → Link) (hf : ∀ l, (f l).state = l.state) :
    (s.setLink c f).view = s.view := by
  ext1 <;> try rfl
  funext d
  by_cases hd : d = c
  · subst hd; simp [Sys.view, hf]
  · simp [Sys.view, hd]

theorem erase_of_add_singleton {X Y : Multiset Nat} {a : Nat} (h : X + ([a] : List Nat) = Y) :
    X = Y.erase a := by
  rw [← h, Multiset.coe_singleton, add_comm, Multiset.singleton_add, Multiset.erase_cons_head]

theorem cons_of_add_singleton {X Y : Multiset Nat} {a : Nat} (h : X = Y + ([a] : List Nat)) :
    X = a ::ₘ Y := by
  rw [h, Multiset.coe_singleton, add_comm, Multiset.singleton_add]

section
variable {s : Sys} {t : Nat} {q : Pc}

theorem view_lend (hq : s.tasks[t]? = some q) (h₁ : q.held = none) (h₂ : q.closing? = none)
    (h₃ : q.connecting = none) (h₄ : q.initConnecting = none) {c : Nat} {rest : List Nat} (ha : s.available = c :: rest) (u : Use) :
    { s.setTask t (.hold c u) with available := rest }.view = s.view.lend c := by
  obtain ⟨e₁, e₂, e₃, e₄⟩ := view_setTask hq (.hold c u)
  rw [h₁] at e₁; rw [h₂] at e₂; rw [h₃] at e₃; rw [h₄] at e₄
  simp only [Pc.held, Pc.closing?, Pc.connecting, Pc.initConnecting, Option.toList, Multiset.coe_nil,
    add_zero] at e₁ e₂ e₃ e₄
  ext1
  · simp [Sys.view, View.lend, ha]
  · exact cons_of_add_singleton e₁
  · exact e₂
  · rfl
  · exact e₃
  · exact e₄
  all_goals rfl

theorem view_giveBack {c : Nat} (hq : s.tasks[t]? = some (.hold c .release)) :
    { s.setTask t .idle with available := s.available ++ [c] }.view = s.view.giveBack c := by
  obtain ⟨e₁, e₂, e₃, e₄⟩ := view_setTask hq .idle
  simp only [Pc.held, Pc.closing?, Pc.connecting, Pc.initConnecting, Option.toList, Multiset.coe_nil,
    add_zero] at e₁ e₂ e₃ e₄
  ext1
  · show ((s.available ++ [c] : List Nat) : Multiset Nat) = c ::ₘ (s.available : Multiset Nat)
    rw [← Multiset.coe_add, Multiset.coe_singleton, add_comm, Multiset.singleton_add]
  · exact erase_of_add_singleton e₁
  · exact e₂
  · rfl
  · exact e₃
  · exact e₄
  all_goals rfl

theorem view_retire (hq : s.tasks[t]? = some .drainGet) {c : Nat} {rest : List Nat}
    (ha : s.available = c :: rest) :
    { s.setTask t (.closing c) with available := rest }.view = s.view.retire c := by
  obtain ⟨e₁, e₂, e₃, e₄⟩ := view_setTask hq (.closing c)
  simp only [Pc.held, Pc.closing?, Pc.connecting, Pc.initConnecting, Option.toList, Multiset.coe_nil,
    add_zero] at e₁ e₂ e₃ e₄
  ext1
  · simp [Sys.view, View.retire, ha]
  · exact e₁
  · exact cons_of_add_singleton e₂
  · rfl
  · exact e₃
  · exact e₄
  all_goals rfl

theorem view_shut {c : Nat} (hq : s.tasks[t]? = some (.closing c)) :
    { (s.setTask t .drain).setLink c Link.close with retired := c :: s.retired }.view =
      s.view.shut c := by
  obtain ⟨e₁, e₂, e₃, e₄⟩ := view_setTask hq .drain
  simp only [Pc.held, Pc.closing?, Pc.connecting, Pc.initConnecting, Option.toList, Multiset.coe_nil,
    add_zero] at e₁ e₂ e₃ e₄
  ext1
  · rfl
  · exact e₁
  · exact erase_of_add_singleton e₂
  · rfl
  · exact e₃
  · exact e₄
  all_goals try rfl
  funext d
  by_cases hd : d = c
  · subst hd; simp [Sys.view, View.shut]
  · simp [Sys.view, View.shut, hd]

theorem view_drop {c : Nat} (hq : s.tasks[t]? = some (.closing c)) :
    { s.setTask t .drain with retired := c :: s.retired }.view = s.view.drop c := by
  obtain ⟨e₁, e₂, e₃, e₄⟩ := view_setTask hq .drain
  simp only [Pc.held, Pc.closing?, Pc.connecting, Pc.initConnecting, Option.toList, Multiset.coe_nil,
    add_zero] at e₁ e₂ e₃ e₄
  ext1
  · rfl
  · exact e₁
  · exact erase_of_add_singleton e₂
  · rfl
  · exact e₃
  · exact e₄
  all_goals rfl

theorem view_begin {u : Use} (hq : s.tasks[t]? = some (.lock u)) :
    { s.setTask t (.connect s.conns u) with
      locked := true, conns := s.conns + 1, links := Function.update s.links s.conns Link.fresh }.view =
      s.view.begin := by
  obtain ⟨e₁, e₂, e₃, e₄⟩ := view_setTask hq (.connect s.conns u)
  simp only [Pc.held, Pc.closing?, Pc.connecting, Pc.initConnecting, Option.toList, Multiset.coe_nil,
    add_zero] at e₁ e₂ e₃ e₄
  ext1
  · rfl
  · exact e₁
  · exact e₂
  · rfl
  · exact cons_of_add_singleton e₃
  · exact e₄
  all_goals try rfl
  funext d
  by_cases hd : d = s.conns <;> simp [Sys.view, View.begin, hd]

theorem view_finish {c : Nat} {u : Use} (hq : s.tasks[t]? = some (.connect c u)) :
    { (s.setTask t (.hold c u)).setLink c Link.connect with size := s.size + 1, locked := false }.view =
      s.view.finish c := by
  obtain ⟨e₁, e₂, e₃, e₄⟩ := view_setTask hq (.hold c u)
  simp only [Pc.held, Pc.closing?, Pc.connecting, Pc.initConnecting, Option.toList, Multiset.coe_nil,
    add_zero] at e₁ e₂ e₃ e₄
  ext1
  · rfl
  · exact cons_of_add_singleton e₁
  · exact e₂
  · rfl
  · exact erase_of_add_singleton e₃
  · exact e₄
  all_goals try rfl
  funext d
  by_cases hd : d = c <;> simp [Sys.view, View.finish, hd]

theorem view_fail {c : Nat} {u : Use} (hq : s.tasks[t]? = some (.connect c u)) :
    { s.setTask t .idle with locked := false }.view = s.view.fail c := by
  obtain ⟨e₁, e₂, e₃, e₄⟩ := view_setTask hq .idle
  simp only [Pc.held, Pc.closing?, Pc.connecting, Pc.initConnecting, Option.toList, Multiset.coe_nil,
    add_zero] at e₁ e₂ e₃ e₄
  ext1
  · rfl
  · exact e₁
  · exact e₂
  · rfl
  · exact erase_of_add_singleton e₃
  · exact e₄
  all_goals rfl

theorem view_initBegin {left : Nat} (hq : s.tasks[t]? = some (.initializing (left + 1))) :
    (s.setTask t (.initConnect s.conns left)).create.view = s.view.initBegin := by
  obtain ⟨e₁, e₂, e₃, e₄⟩ := view_setTask hq (.initConnect s.conns left)
  simp only [Pc.held, Pc.closing?, Pc.connecting, Pc.initConnecting, Option.toList, Multiset.coe_nil,
    add_zero] at e₁ e₂ e₃ e₄
  ext1
  · rfl
  · exact e₁
  · exact e₂
  · rfl
  · exact e₃
  · exact cons_of_add_singleton e₄
  all_goals try rfl
  funext d
  by_cases hd : d = s.conns <;> simp [Sys.view, Sys.create, View.initBegin, hd]

theorem view_initFinish {c left : Nat} (hq : s.tasks[t]? = some (.initConnect c left)) :
    ((s.setTask t (.initializing left)).putConnected c).view = s.view.initFinish c := by
  obtain ⟨e₁, e₂, e₃, e₄⟩ := view_setTask hq (.initializing left)
  simp only [Pc.held, Pc.closing?, Pc.connecting, Pc.initConnecting, Option.toList, Multiset.coe_nil,
    add_zero] at e₁ e₂ e₃ e₄
  ext1
  · show ((s.available ++ [c] : List Nat) : Multiset Nat) = c ::ₘ (s.available : Multiset Nat)
    rw [← Multiset.coe_add, Multiset.coe_singleton, add_comm, Multiset.singleton_add]
  · exact e₁
  · exact e₂
  · rfl
  · exact e₃
  · exact erase_of_add_singleton e₄
  all_goals try rfl
  funext d
  by_cases hd : d = c <;> simp [Sys.view, Sys.putConnected, View.initFinish, hd]

theorem view_initFail {c left : Nat} (hq : s.tasks[t]? = some (.initConnect c left)) :
    (s.setTask t .idle).view = s.view.initFail c := by
  obtain ⟨e₁, e₂, e₃, e₄⟩ := view_setTask hq .idle
  simp only [Pc.held, Pc.closing?, Pc.connecting, Pc.initConnecting, Option.toList, Multiset.coe_nil,
    add_zero] at e₁ e₂ e₃ e₄
  ext1
  · rfl
  · exact e₁
  · exact e₂
  · rfl
  · exact e₃
  · exact erase_of_add_singleton e₄
  all_goals rfl

/-- The connection task `t`'s program counter names is in the matching place of the view. -/
theorem mem_view {f : Pc → Option Nat} {c : Nat} (hq : s.tasks[t]? = some q) (hf : f q = some c) :
    c ∈ ((s.tasks.filterMap f : List Nat) : Multiset Nat) :=
  Multiset.mem_coe.mpr (List.mem_filterMap.mpr ⟨q, List.getElem?_mem hq, hf⟩)

end

theorem View.Step.of_eq {m : Nat} {v v' : View} (h : v' = v) : View.Step m v v' := by
  subst h; exact .stutter _

/-- **Every step of the tasks is a move of the pool**: a step of `initialize()` is a `View.Fill`,
every other step a `View.Step`. -/
theorem view_step {cfg : Config} {s s' : Sys} {a : Action} (h : step cfg s a = some s') :
    View.Step cfg.maxSize.toNat s.view s'.view ∨ (a.initializes = true ∧ View.Fill s.view s'.view) := by
  cases a with
  | call t u =>
    obtain ⟨hq, rfl⟩ := step_call h
    exact .inl (.of_eq (view_setTask_eq hq _ rfl rfl rfl rfl))
  | pollGet t =>
    obtain ⟨u, c, rest, hq, ha, rfl⟩ := step_pollGet h
    rw [view_lend hq rfl rfl rfl rfl ha u]
    exact .inl (.lend (by simp [Sys.view, ha]))
  | pollTimeout t =>
    obtain ⟨u, hq, rfl⟩ := step_pollTimeout h
    exact .inl (.of_eq (view_setTask_eq hq _ rfl rfl rfl rfl))
  | lockAcquire t =>
    obtain ⟨u, hq, hl, ⟨hlt, rfl⟩ | ⟨-, rfl⟩⟩ := step_lockAcquire h
    · rw [view_begin hq]; exact .inl (.begin hl (Int.lt_toNat.mpr hlt))
    · exact .inl (.of_eq (view_setTask_eq hq _ rfl rfl rfl rfl))
  | connectOk t =>
    obtain ⟨c, u, hq, rfl⟩ := step_connectOk h
    rw [view_finish hq]; exact .inl (.finish (mem_view hq rfl))
  | connectFail t =>
    obtain ⟨c, u, hq, rfl⟩ := step_connectFail h
    rw [view_fail hq]; exact .inl (.fail (mem_view hq rfl))
  | waitGet t =>
    obtain ⟨u, c, rest, hq, ha, rfl⟩ := step_waitGet h
    rw [view_lend hq rfl rfl rfl rfl ha u]
    exact .inl (.lend (by simp [Sys.view, ha]))
  | abort t =>
    obtain ⟨⟨u, hq | hq | hq⟩, rfl⟩ := step_abort h <;>
      exact .inl (.of_eq (view_setTask_eq hq _ rfl rfl rfl rfl))
  | release t =>
    obtain ⟨c, hq, rfl⟩ := step_release h
    rw [view_giveBack hq]; exact .inl (.giveBack (mem_view hq rfl))
  | write t dumped =>
    obtain ⟨c, ok, err, hq, ⟨-, rfl⟩ | ⟨-, rfl⟩⟩ := step_write h
    · exact .inl (.of_eq ((view_setLink _ c (·.write s.requests) fun _ => by simp).trans
        (view_setTask_eq hq (.exchange c s.requests ok err) rfl rfl rfl rfl)))
    · exact .inl (.of_eq (view_setTask_eq hq _ rfl rfl rfl rfl))
  | read t line =>
    obtain ⟨c, q, ok, err, hd, rest, hq, -, ⟨-, rfl⟩ | ⟨-, rfl⟩⟩ := step_read h
    · exact .inl (.of_eq ((view_setLink _ c Link.take fun _ => rfl).trans
        (view_setTask_eq hq (.hold c (after line ok err)) rfl rfl rfl rfl)))
    · exact .inl (.of_eq ((view_setLink _ c Link.take fun _ => rfl).trans
        (view_setTask_eq hq (.hold c err) rfl rfl rfl rfl)))
  | overrun t whole =>
    obtain ⟨c, q, ok, err, hq, -, rfl⟩ := step_overrun h
    exact .inl (.of_eq ((view_setLink _ c _ fun _ => by cases whole <;> rfl).trans
      (view_setTask_eq hq (.hold c err) rfl rfl rfl rfl)))
  | readEof t =>
    obtain ⟨c, q, ok, err, hq, -, -, rfl⟩ := step_readEof h
    exact .inl (.of_eq (view_setTask_eq hq _ rfl rfl rfl rfl))
  | cancel t =>
    obtain ⟨c, q, ok, err, hq, rfl⟩ := step_cancel h
    exact .inl (.of_eq (view_setTask_eq hq _ rfl rfl rfl rfl))
  | hangUp c k =>
    obtain rfl := step_hangUp h
    exact .inl (.of_eq (view_setLink _ c (·.hangUp k) fun _ => rfl))
  | close t =>
    obtain ⟨hq, rfl⟩ := step_close h
    exact .inl (.of_eq (view_setTask_eq hq _ rfl rfl rfl rfl))
  | drainCheck t =>
    obtain ⟨hq, rfl⟩ := step_drainCheck h
    exact .inl (.of_eq (view_setTask_eq hq _ (by split <;> rfl) (by split <;> rfl) (by split <;> rfl)
      (by split <;> rfl)))
  | drainGet t =>
    obtain ⟨c, rest, hq, ha, rfl⟩ := step_drainGet h
    rw [view_retire hq ha]
    exact .inl (.retire (by simp [Sys.view, ha]))
  | drainTimeout t =>
    obtain ⟨hq, rfl⟩ := step_drainTimeout h
    exact .inl (.of_eq (view_setTask_eq hq _ rfl rfl rfl rfl))
  | closeConn t =>
    obtain ⟨c, hq, rfl⟩ := step_closeConn h
    rw [view_shut hq]; exact .inl (.shut (mem_view hq rfl))
  | closeConnFail t =>
    obtain ⟨c, hq, rfl⟩ := step_closeConnFail h
    rw [view_drop hq]; exact .inl (.drop (mem_view hq rfl))
  | initStart t =>
    obtain ⟨hq, rfl⟩ := step_initStart h
    exact .inl (.of_eq (view_setTask_eq hq _ rfl rfl rfl rfl))
  | initNext t =>
    rcases step_initNext h with ⟨hq, rfl⟩ | ⟨left, hq, rfl⟩
    · exact .inl (.of_eq (view_setTask_eq hq _ rfl rfl rfl rfl))
    · rw [view_initBegin hq]; exact .inr ⟨rfl, .begin _⟩
  | initConnectOk t =>
    obtain ⟨c, left, hq, rfl⟩ := step_initConnectOk h
    rw [view_initFinish hq]; exact .inr ⟨rfl, .finish (mem_view hq rfl)⟩
  | initConnectFail t =>
    obtain ⟨c, left, hq, rfl⟩ := step_initConnectFail h
    rw [view_initFail hq]; exact .inr ⟨rfl, .fail (mem_view hq rfl)⟩

theorem view_move {cfg : Config} {s s' : Sys} {a : Action} (h : step cfg s a = some s') :
    View.Move cfg.maxSize.toNat s.view s'.view :=
  (view_step h).imp id And.right

/-- A step that is not one of `initialize()` is a `View.Step`. -/
theorem view_step_of_not_initializes {cfg : Config} {s s' : Sys} {a : Action}
    (h : step cfg s a = some s') (ha : a.initializes = false) : View.Step cfg.maxSize.toNat s.view s'.view :=
  (view_step h).resolve_right fun h' => by simp [ha] at h'

/-- `initialize()` as the tasks run it is `View.init`. -/
theorem initialized_view (k n : Nat) : (initialized k n).view = View.init k := by
  ext1 <;> try simp [Sys.view, initialized, View.init, List.filterMap_replicate, Pc.held, Pc.closing?,
    Pc.connecting, Pc.initConnecting]
  · rfl
  · funext c
    by_cases hc : c < k <;> simp [Sys.view, initialized, View.init, hc, Link.connect, Link.fresh]

/-- The pool invariant holds in every reachable state. -/
theorem view_inv {cfg : Config} {P : Action → Prop} {s : Sys} (h : ReachableBy cfg P s) : s.view.Inv :=
  @ReachableBy.induction cfg P (fun s => s.view.Inv)
    (fun k n _ => show (initialized k n).view.Inv by rw [initialized_view]; exact View.init_inv k)
    (fun _ _ _ hinv _ _ hstep => hinv.move (view_move hstep)) s h

/-- Only `close()` closes a link, in every reachable state. -/
theorem view_closedRetired {cfg : Config} {P : Action → Prop} {s : Sys} (h : ReachableBy cfg P s) :
    s.view.ClosedRetired :=
  @ReachableBy.induction cfg P (fun s => s.view.ClosedRetired)
    (fun k n _ => show (initialized k n).view.ClosedRetired by
      rw [initialized_view]; exact View.init_closedRetired k)
    (fun _ _ _ hcr _ _ hstep => hcr.move (view_move hstep)) s h

/-- **The tasks refine the pool.** Seen through `view`, every reachable state of the tasks is reached
by moves of the pool from a pool that a completed `initialize()` filled with at most `min_size`
connections (none when `min_size` is not positive). -/
theorem reachable_refines {cfg : Config} {P : Action → Prop} {s : Sys} (h : ReachableBy cfg P s) :
    ∃ k ≤ cfg.minSize.toNat, Relation.ReflTransGen (View.Move cfg.maxSize.toNat) (View.init k) s.view := by
  induction h with
  | init k n hk => exact ⟨k, hk, by rw [initialized_view]⟩
  | step a _ _ hstep ih =>
    obtain ⟨k, hk, hsteps⟩ := ih
    exact ⟨k, hk, hsteps.tail (view_move hstep)⟩

/-- A new pool with `min_size = 1` and `max_size = 2`: task 0's `initialize()` creates connection 0
while task 1's `Client.query` times out of the poll and creates connection 1 under the lock;
task 2's `Client.query` then takes connection 0, and task 1 writes its statement. -/
def busyRun : List Action :=
  [.initStart 0, .initNext 0, .call 1 Client.queryUse, .pollTimeout 1, .lockAcquire 1,
    .initConnectOk 0, .connectOk 1, .initNext 0, .call 2 Client.queryUse, .pollGet 2, .write 1 true]

/-- The state `busyRun` ends in. -/
def busyPool : Sys := runFrom ⟨1, 2⟩ 0 3 busyRun

theorem busyPool_reachable : Reachable ⟨1, 2⟩ busyPool :=
  ReachableBy.of_runFrom (Nat.zero_le _) (fun _ _ => trivial) rfl

theorem reachable_refines_busyPool :
    Reachable ⟨1, 2⟩ busyPool ∧
      ∃ k ≤ (1 : Int).toNat, Relation.ReflTransGen (View.Move (2 : Int).toNat) (View.init k) busyPool.view :=
  ⟨busyPool_reachable, reachable_refines busyPool_reachable⟩

end DriftDB.Pool
