import SpiEthernet.Proofs.Interrupt.Drain

/-!
# The handler and the lock

What a board does by itself when it lets the interrupt through depends on the lock. While the
lock is held, the handler only leaves a request behind (`Habit.locked`); while it is free, the
handler drains on the bench, where nothing happens by itself (`Habit.bench`); and whatever the
state of the board, it exchanges no frames but those of a drain (`Habit.free`).

* `handle_ends` : on a free lock the handler carries out one drain.
* `service_ends` : serving the requests ends, because every request needs an event of its own.
-/

namespace SpiEthernet

/-! ## The bench -/

/-- On a bench nothing happens by itself. -/
def Habit.bench : Habit Bench where
  ok bench := bench.endpoint.chip.Steady
  between _ := False
  called _ := False
  steady h := h
  isQuiet h := Frame.isQuiet_of_false h
  called_rewire _ _ := Iff.rfl
  turn h _ := Endpoint.steady_turn h _
  held h := h
  restore {x} before h := by
    cases before with
    | false => exact ⟨(), x, rfl, h, ⟨[], .refl⟩, id⟩
    | true => exact ⟨(), _, rfl, h, ⟨[], Endpoint.Passes.refl.mask false⟩, id⟩
  record {x} notice h := ⟨(), _, rfl, h, rfl, id⟩

/-! ## Events and assertions still to be noticed -/

namespace Chip

/-- How many assertions of the interrupt line there can still be: one for every event to come,
and the one that has not been noticed. -/
def load (chip : Chip) : Nat := chip.queue.length + chip.edge.toNat

/-- A frame needs an event to assert the interrupt line. -/
theorem load_afterFrame {chip : Chip} (h : chip.Ordinary) : chip.afterFrame.load ≤ chip.load := by
  have hqueue : chip.afterFrame.queue = chip.beforeEvents.queue :=
    queue_of_casing h.casing_afterFrame.1
  have hedge : chip.afterFrame.edge.toNat ≤ 1 := Bool.toNat_le _
  unfold load
  rw [hqueue]
  by_cases hdue : chip.dueEvents = []
  · have hsame : chip.afterFrame = chip.beforeEvents := by
      rw [afterFrame, hdue]
      rfl
    have hlength : chip.beforeEvents.queue.length ≤ chip.queue.length :=
      List.length_filter_le _ _
    have hkept : chip.afterFrame.edge = chip.edge := by
      rw [hsame]
      rfl
    rw [hkept]
    omega
  · obtain ⟨scheduled, hs⟩ := List.exists_mem_of_ne_nil _ hdue
    obtain ⟨hmem, hisdue⟩ := List.mem_filter.1 hs
    have hlength : chip.beforeEvents.queue.length < chip.queue.length := by
      refine List.length_filter_lt_length_iff_exists.2 ⟨scheduled, hmem, ?_⟩
      simp [hisdue]
    omega

theorem load_serve {chip : Chip} (h : chip.Ordinary) {frame : Frame} (hf : frame.IsLocal) :
    (chip.serve frame).2.afterFrame.load ≤ chip.load := by
  have hsame : (chip.serve frame).2.load = chip.load := by
    cases habsent : chip.absent with
    | none =>
      unfold load
      rw [queue_of_casing (casing_serve habsent hf), edge_serve habsent hf]
    | some fill => rw [serve_absent habsent]
  rw [← hsame]
  exact load_afterFrame (h.serve frame)

end Chip

namespace Board

/-- How many requests to drain there can still be. -/
def load (board : Board) : Nat := board.chip.load + board.deferred.toNat

/-- The board with another chip. -/
def withChip (board : Board) (chip : Chip) : Board :=
  { board with bench := { board.bench with endpoint := { board.bench.endpoint with chip } } }

theorem chip_withChip (board : Board) (chip : Chip) (controller : Controller) :
    Device.chip ⟨board.withChip chip, controller⟩ = chip := rfl

theorem onChip_eq {α : Type} (action : LinkM Chip α) (board : Board) :
    onChip action board =
      (action board.chip).map fun (a, chip) => (a, board.withChip chip) := by
  obtain ⟨⟨⟨chip, selected, frame, masked, trace⟩, journal⟩, hooked, handled, shared, deferred⟩ :=
    board
  show (((action chip >>= _) >>= _) >>= _) = _
  cases hrun : action chip with
  | error fault =>
    show _ = (action chip).map _
    rw [hrun]
    rfl
  | ok result =>
    show _ = (action chip).map _
    rw [hrun]
    rfl

theorem onChip_ends {α : Type} {action : LinkM Chip α} {board : Board} {a : α} {chip : Chip}
    (h : action board.chip = .ok (a, chip)) :
    Ends (onChip action) board fun _ board' => board' = board.withChip chip := by
  refine ⟨a, _, ?_, rfl⟩
  rw [onChip_eq, h]
  rfl

/-! ## Letting the interrupt through -/

/-- The board with the interrupt let through and the assertion of its line noticed. -/
def noticed (board : Board) : Board :=
  { board with bench := { board.bench with endpoint := board.bench.endpoint.unmask.takeEdge.2 } }

/-- The board with its handler about to run. -/
def alerted (board : Board) : Board := { board.noticed with handled := board.handled + 1 }

theorem unmask_eq (board : Board) :
    unmask board = if board.chip.edge && board.hooked then
      handle board.alerted else .ok ((), board.noticed) := by
  obtain ⟨⟨⟨chip, selected, frame, masked, trace⟩, journal⟩, hooked, handled, shared, deferred⟩ :=
    board
  obtain ⟨memory, absent, latches, latency, resetBusy, edge, transactions, queue, sent, replies⟩ :=
    chip
  cases edge <;> cases hooked <;> rfl

theorem handle_locked {board : Board} (h : board.shared.locked = true) :
    handle board = .ok ((), { board with deferred := true }) := by
  obtain ⟨bench, hooked, handled, ⟨locked, value⟩, deferred⟩ := board
  cases h
  rfl

/-- Whether the interrupt line will call the handler when the interrupt is let through. -/
def calls (board : Board) : Bool := board.chip.edge && board.hooked

/-- On a lock that is held, letting the interrupt through leaves a request if the handler is
called. -/
theorem unmask_locked {board : Board} (h : board.shared.locked = true) :
    unmask board = .ok ((), { board.noticed with
      handled := if board.calls then board.handled + 1 else board.handled
      deferred := board.calls || board.deferred }) := by
  rw [unmask_eq]
  show (if board.calls then _ else _) = _
  cases board.calls with
  | false => rfl
  | true => exact handle_locked (show board.alerted.shared.locked = true from h)

/-- An assertion of the line that leaves a request is not counted twice. -/
theorem load_unmask_le (board : Board) :
    ({ board.noticed with
      handled := if board.calls then board.handled + 1 else board.handled
      deferred := board.calls || board.deferred } : Board).load ≤ board.load := by
  show board.chip.queue.length + false.toNat + (board.calls || board.deferred).toNat ≤
    board.chip.queue.length + board.chip.edge.toNat + board.deferred.toNat
  unfold calls
  cases board.chip.edge <;> cases board.hooked <;> cases board.deferred <;> simp

/-- On a free lock the handler does what a drain on the bench does. -/
theorem handle_unlocked {board : Board} {controller : Controller}
    (hshared : board.shared = Spinlock.new (some controller)) :
    handle board = (drain (⟨board.bench, controller⟩ : Device Bench)).map fun r =>
      ((), { board with
        bench := r.2.board
        shared := Spinlock.new (some r.2.controller)
        deferred := false }) := by
  obtain ⟨bench, hooked, handled, shared, deferred⟩ := board
  cases hshared
  show (drain ⟨bench, controller⟩ >>= _) = _
  cases drain (⟨bench, controller⟩ : Device Bench) <;> rfl

theorem handle_free {board : Board} {controller : Controller} {Q : UInt8 → Device Bench → Prop}
    (hshared : board.shared = Spinlock.new (some controller))
    (h : Ends drain ⟨board.bench, controller⟩ Q) :
    Ends handle board fun _ board' => ∃ seen device, Q seen device ∧
      board' = { board with
        bench := device.board
        shared := Spinlock.new (some device.controller)
        deferred := false } := by
  obtain ⟨seen, device, hrun, hQ⟩ := h
  refine ⟨(), _, ?_, seen, device, hQ, rfl⟩
  rw [handle_unlocked hshared, hrun]
  rfl

/-- On a free lock the handler carries out one drain. -/
theorem handle_ends {board : Board} {controller : Controller} (h : board.chip.Steady)
    (hshared : board.shared = Spinlock.new (some controller)) :
    Ends handle board fun _ board' => ∃ device o,
      Habit.bench.Drained drainPassLimit ⟨board.bench, controller⟩ o device ∧
        device.board.endpoint.chip.Steady ∧
        board' = { board with
          bench := device.board
          shared := Spinlock.new (some device.controller)
          deferred := false } := by
  refine (handle_free hshared (Habit.bench.drain_ends ⟨board.bench, controller⟩ h)).mono ?_
  rintro _ _ ⟨_, device, ⟨hok, o, hdrained⟩, rfl⟩
  exact ⟨device, o, hdrained, hok, rfl⟩

/-- A handler without a controller to drain only forgets the request. -/
theorem handle_none {board : Board} (hlock : board.shared.locked = false)
    (hnone : board.shared.value = none) :
    handle board = .ok ((), { board with deferred := false }) := by
  obtain ⟨bench, hooked, handled, ⟨locked, value⟩, deferred⟩ := board
  cases hlock
  cases hnone
  rfl

theorem restore_eq (before : Bool) (board : Board) :
    (SerialLink.restoreInterrupt before : LinkM Board Unit) board =
      if before then unmask board else .ok ((), board) := by
  cases before <;> rfl

end Board

/-! ## While the lock is held -/

/-- While the lock is held, the handler only leaves requests behind, and there are no more of
them to come than `requests`. -/
def Habit.locked (requests : Nat) : Habit Board where
  ok board := board.shared.locked = true ∧ board.chip.Steady ∧ board.load ≤ requests
  between _ := False
  called board := board.hooked = true → board.deferred = true
  steady h := h.2.1
  isQuiet h := Frame.isQuiet_of_false h
  called_rewire _ _ := Iff.rfl
  turn {x frame} h hf := by
    obtain ⟨hlock, hsteady, hload⟩ := h
    refine ⟨hlock, Endpoint.steady_turn hsteady frame, Nat.le_trans ?_ hload⟩
    exact Nat.add_le_add_right (Chip.load_serve hsteady.ordinary hf) _
  held h := h
  restore {x} before h := by
    obtain ⟨hlock, hsteady, hload⟩ := h
    cases before with
    | false => exact ⟨(), x, rfl, ⟨hlock, hsteady, hload⟩, ⟨[], .refl⟩, id⟩
    | true =>
      refine ⟨(), _, Board.unmask_locked hlock, ⟨hlock, hsteady.of_casing rfl, ?_⟩,
        ⟨[], (Endpoint.Passes.refl.mask false).notice⟩, ?_⟩
      · exact Nat.le_trans x.load_unmask_le hload
      · rintro halarm
        right
        intro hhooked
        show (x.calls || x.deferred) = true
        rcases halarm with hedge | hcalled
        · have hedge : x.chip.edge = true := hedge
          have hhooked : x.hooked = true := hhooked
          rw [Board.calls, hedge, hhooked]
          rfl
        · rw [hcalled hhooked, Bool.or_true]
  record {x} notice h := ⟨(), _, rfl, h, rfl, id⟩

/-! ## Whatever the state of the lock -/

namespace Board

/-- Whatever the state of the lock, letting the interrupt through does nothing to the bench but to
notice the line and to drain. -/
theorem unmask_ensures {c : Prop} {I : Bench → Prop} {board : Board}
    (hnoticed : I board.noticed.bench)
    (hdrain : ∀ controller, Ensures c drain ⟨board.noticed.bench, controller⟩ fun _ device =>
      I device.board) : Ensures c unmask board fun _ board' => I board'.bench := by
  by_cases hcalls : (board.chip.edge && board.hooked) = true
  · have heq : unmask board = handle board.alerted := by rw [unmask_eq, if_pos hcalls]
    by_cases hlock : board.shared.locked = true
    · have hlock : board.alerted.shared.locked = true := hlock
      exact Ends.ensures ⟨(), _, heq.trans (handle_locked hlock), hnoticed⟩
    · have hfree : board.shared.locked = false := by simpa using hlock
      have hfree : board.alerted.shared.locked = false := hfree
      cases hvalue : board.alerted.shared.value with
      | none => exact Ends.ensures ⟨(), _, heq.trans (handle_none hfree hvalue), hnoticed⟩
      | some controller =>
        have hshared : board.alerted.shared = Spinlock.new (some controller) := by
          rw [Spinlock.new, ← hfree, ← hvalue]
        exact Ensures.of_map (heq.trans (handle_unlocked hshared)) (hdrain controller)
  · refine Ends.ensures ⟨(), _, ?_, hnoticed⟩
    rw [unmask_eq, if_neg hcalls]

/-- Whatever the state of the board, letting the interrupt through exchanges no frames but those
of a drain. -/
theorem unmask_passes {board : Board} (h : board.chip.Steady) :
    Ends unmask board fun _ board' => board'.chip.Steady ∧
      ∃ o, board.bench.endpoint.Passes Frame.IsQuiet o board'.bench.endpoint := by
  have hnoticed : board.bench.endpoint.Passes Frame.IsQuiet [] board.noticed.bench.endpoint :=
    (Endpoint.Passes.refl.mask false).notice
  have hsteady : board.noticed.bench.endpoint.chip.Steady := h.of_casing rfl
  refine (unmask_ensures (c := True) (I := fun bench => bench.endpoint.chip.Steady ∧
    ∃ o, board.bench.endpoint.Passes Frame.IsQuiet o bench.endpoint) ⟨hsteady, [], hnoticed⟩
      fun controller => Ends.ensures ?_).ends trivial
  refine (Habit.bench.drain_ends ⟨board.noticed.bench, controller⟩ hsteady).mono ?_
  rintro _ device ⟨hok, o, hdrained⟩
  exact ⟨hok, o, hnoticed.trans hdrained.passes⟩

end Board

/-- Whatever the state of a board, it exchanges no frames by itself but those of a drain. -/
def Habit.free : Habit Board where
  ok board := board.chip.Steady
  between := Frame.IsQuiet
  called _ := True
  steady h := h
  isQuiet h := h
  called_rewire _ _ := Iff.rfl
  turn h _ := Endpoint.steady_turn h _
  held h := h
  restore {x} before h := by
    cases before with
    | false => exact ⟨(), x, rfl, h, ⟨[], .refl⟩, id⟩
    | true =>
      refine (Board.unmask_passes h).mono ?_
      rintro _ x' ⟨hok, hpasses⟩
      exact ⟨hok, hpasses, fun _ => .inr trivial⟩
  record {x} notice h := ⟨(), _, rfl, h, rfl, id⟩

/-! ## Serving requests -/

namespace Board

/-- A board whose lock is held. -/
structure Held (board : Board) : Prop where
  locked : board.shared.locked = true
  steady : board.chip.Steady

theorem Held.ok {board : Board} (h : board.Held) : (Habit.locked board.load).ok board :=
  ⟨h.locked, h.steady, Nat.le_refl _⟩

/-- What serving requests does: drains, one after the other. -/
inductive Served : Device Board → List Occurrence → Device Board → Prop where
  | done (device : Device Board) (h : device.board.deferred = false) : Served device [] device
  | drain {start middle now : Device Board} {o o' : List Occurrence} {requests : Nat}
    (hok : (Habit.locked requests).ok { start.board with deferred := false })
    (h : (Habit.locked requests).Drained drainPassLimit
      ⟨{ start.board with deferred := false }, start.controller⟩ o middle)
    (h' : Served middle o' now) : Served start (o ++ o') now

theorem load_lt_patience (board : Board) : board.load < Host.patience board := by
  have := Bool.toNat_le board.chip.edge
  have := Bool.toNat_le board.deferred
  show board.chip.queue.length + board.chip.edge.toNat + board.deferred.toNat < _
  rw [Wired.patience_eq, Chip.patience]
  show _ < _ + board.chip.queue.length + 10000
  omega

theorem serviceOnce_false {device : Device Board} (h : device.board.deferred = false) :
    serviceOnce device = .ok (some (), device) := by
  obtain ⟨⟨bench, hooked, handled, shared, deferred⟩, controller⟩ := device
  cases h
  rfl

/-- Serving a request is a drain, and leaves one request less to come. -/
theorem serviceOnce_true {device : Device Board} (hheld : device.board.Held)
    (h : device.board.deferred = true) :
    Ends serviceOnce device fun r device' => r = none ∧ device'.board.Held ∧
      device'.board.load < device.board.load ∧ ∃ o requests,
        (Habit.locked requests).ok { device.board with deferred := false } ∧
        (Habit.locked requests).Drained drainPassLimit
          ⟨{ device.board with deferred := false }, device.controller⟩ o device' := by
  obtain ⟨board, controller⟩ := device
  have hok : (Habit.locked ({ board with deferred := false } : Board).load).ok
      { board with deferred := false } := Held.ok ⟨hheld.locked, hheld.steady⟩
  have hless : ({ board with deferred := false } : Board).load < board.load := by
    show board.chip.load + false.toNat < board.chip.load + board.deferred.toNat
    rw [h]
    exact Nat.lt_succ_self _
  refine Ends.bind (R := fun d d' => d = ⟨board, controller⟩ ∧ d' = ⟨board, controller⟩)
    ⟨_, _, rfl, rfl, rfl⟩ ?_
  rintro _ _ ⟨rfl, rfl⟩
  rw [if_pos h]
  refine Ends.bind (R := fun _ d => d = ⟨{ board with deferred := false }, controller⟩)
    ⟨_, _, rfl, rfl⟩ ?_
  rintro _ _ rfl
  refine Ends.bind (Habit.drain_ends _ ⟨{ board with deferred := false }, controller⟩ hok) ?_
  rintro _ device' ⟨hok', o, hdrained⟩
  exact Ends.pure ⟨rfl, ⟨hok'.1, hok'.2.1⟩, Nat.lt_of_le_of_lt hok'.2.2 hless, o, _, hok, hdrained⟩

/-- Serving the requests ends with none left. -/
theorem service_ends {device : Device Board} (hheld : device.board.Held) :
    Ends service device fun _ device' => device'.board.Held ∧ device'.board.deferred = false ∧
      ∃ o, Served device o device' := by
  refine Ends.bind (R := fun bound d => bound = Host.patience device.board ∧ device = d)
    (Ends.patience ⟨rfl, rfl⟩) ?_
  rintro _ _ ⟨rfl, rfl⟩
  -- the run up to now is kept as what remains to be prefixed to the rest of it
  refine (Ends.pollWithin
    (I := fun d => d.board.Held ∧
      ∀ o' now, Served d o' now → ∃ o, Served device o now)
    (μ := fun d => d.board.load)
    (Q := fun _ d => d.board.Held ∧ d.board.deferred = false ∧ ∃ o, Served device o d)
    ?_ _ device ⟨hheld, fun o' _ h => ⟨o', h⟩⟩ (load_lt_patience _))
  rintro d ⟨hd, hprefix⟩
  cases hdeferred : d.board.deferred with
  | false =>
    refine ⟨some (), d, serviceOnce_false hdeferred, hd, hdeferred, ?_⟩
    exact hprefix [] d (.done d hdeferred)
  | true =>
    refine (serviceOnce_true hd hdeferred).mono ?_
    rintro r d' ⟨rfl, hd', hless, o, requests, hok, hdrained⟩
    refine ⟨⟨hd', fun o' now h => ?_⟩, hless⟩
    exact hprefix _ now (.drain hok hdrained h)

end Board

end SpiEthernet
