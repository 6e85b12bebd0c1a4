import SpiEthernet.Proofs.Interrupt.Handler

/-!
# Taking and giving back the lock

Whoever takes the lock of a shared controller serves the requests left meanwhile before the lock
is given back. What a call does is therefore its body, followed by drains until no request is
left; the rest of the board is put back as it was found.

* `withShared_ends` : a call is its body, and then the requests are served.
* `onInterrupt_ends` : a call of the handler by hand serves at least one request.
* `keeps_locked` : a call keeps of the bench what its body and drains keep.
-/

namespace SpiEthernet

namespace Board

variable {α : Type} {board : Board} {controller : Controller}

/-- A board whose lock is free and that shares a controller. -/
structure Shares (board : Board) (controller : Controller) : Prop where
  shared : board.shared = Spinlock.new (some controller)
  steady : board.chip.Steady

/-- The board with its lock taken. -/
def taken (board : Board) : Board := { board with shared := board.shared.tryLock.2 }

/-- The board with its lock given back, and a controller stored behind it. -/
def released (board : Board) (controller : Controller) : Board :=
  { board with shared := (board.shared.store (some controller)).unlock }

theorem Shares.held (h : board.Shares controller) : board.taken.Held := ⟨rfl, h.steady⟩

theorem Shares.released_taken (h : board.Shares controller) :
    board.taken.released controller = board := by
  obtain ⟨bench, hooked, handled, shared, deferred⟩ := board
  obtain ⟨hshared, -⟩ := h
  cases hshared
  rfl

theorem Held.released (h : board.Held) (controller : Controller) :
    (board.released controller).Shares controller := ⟨rfl, h.steady⟩

/-! ## Holding the lock -/

theorem holding_eq (body : DeviceM Board α) :
    holding controller body board = (body ⟨board.taken, controller⟩).map fun (a, device) =>
      (a, device.board.released device.controller) := by
  show (body ⟨board.taken, controller⟩ >>= _) = _
  cases body ⟨board.taken, controller⟩ <;> rfl

theorem holding_ends {body : DeviceM Board α} {Q : α → Device Board → Prop}
    (h : Ends body ⟨board.taken, controller⟩ Q) :
    Ends (holding controller body) board fun a board' =>
      ∃ device, Q a device ∧ board' = device.board.released device.controller := by
  obtain ⟨a, device, hbody, hQ⟩ := h
  refine ⟨a, _, ?_, device, hQ, rfl⟩
  rw [holding_eq, hbody]
  rfl

/-- A computation that has been carried out under the lock, until no request was left. -/
structure Relieved (start : Device Board) (board : Board) : Prop where
  deferred : board.deferred = false
  served : ∃ o device, Served start o device ∧ device.board.Held ∧
    board = device.board.released device.controller

theorem holding_service_ends (h : board.Shares controller) :
    Ends (holding controller service) board fun _ board' =>
      Relieved ⟨board.taken, controller⟩ board' := by
  refine (holding_ends (service_ends h.held)).mono ?_
  rintro _ board' ⟨device, ⟨hheld, hdeferred, o, hserved⟩, rfl⟩
  exact ⟨hdeferred, o, device, hserved, hheld, rfl⟩

/-- Catching up serves the requests that are waiting. -/
theorem catchUp_ends (h : board.Shares controller) :
    Ends catchUp board fun _ board' => Relieved ⟨board.taken, controller⟩ board' := by
  refine Ends.get_bind ?_
  cases hdeferred : board.deferred with
  | false =>
    refine Ends.pure ⟨hdeferred, [], _, .done _ hdeferred, h.held, ?_⟩
    exact h.released_taken.symm
  | true =>
    rw [h.shared]
    exact holding_service_ends h

/-- Behind its body a call serves the requests; when that is done, nothing is left to catch up
with. -/
theorem withShared_eq {body : DeviceM Board α} {a : α} {now last : Device Board}
    (hshared : board.shared = Spinlock.new (some controller))
    (hbody : body ⟨board.taken, controller⟩ = .ok (a, now))
    (hservice : service now = .ok ((), last)) (hdeferred : last.board.deferred = false) :
    withShared body board = .ok (some a, last.board.released last.controller) := by
  have hheld : holding controller (do
      let result ← body
      service
      return result) board = .ok (a, last.board.released last.controller) := by
    rw [holding_eq]
    show ((body _ >>= _) : Except Fault _).map _ = _
    rw [hbody]
    show ((service now >>= _) : Except Fault _).map _ = _
    rw [hservice]
    rfl
  have hnone : catchUp (last.board.released last.controller) =
      .ok ((), last.board.released last.controller) := by
    obtain ⟨⟨bench, hooked, handled, shared, deferred⟩, controller⟩ := last
    cases hdeferred
    rfl
  obtain ⟨bench, hooked, handled, shared, deferred⟩ := board
  cases hshared
  show (holding controller _ _ >>= _) = _
  rw [hheld]
  show (catchUp _ >>= _) = _
  rw [hnone]
  rfl

/-- A call is its body, and then the requests left meanwhile are served. -/
theorem withShared_ends {body : DeviceM Board α} {Q : α → Device Board → Prop}
    (h : board.Shares controller)
    (hbody : Ends body ⟨board.taken, controller⟩ fun a device => device.board.Held ∧ Q a device) :
    Ends (withShared body) board fun r board' =>
      ∃ a device, r = some a ∧ Q a device ∧ Relieved device board' := by
  obtain ⟨a, device, hrun, hheld, hQ⟩ := hbody
  obtain ⟨_, now, hservice, hheld', hdeferred, o, hserved⟩ := service_ends hheld
  exact ⟨some a, _, withShared_eq h.shared hrun hservice hdeferred, a, device, rfl, hQ, hdeferred,
    o, now, hserved, hheld', rfl⟩

/-- Under the lock, a call of the handler by hand only leaves a request. -/
theorem onInterrupt_locked {board : Board} (h : board.shared.locked = true) :
    onInterrupt board = .ok ((), { board with deferred := true }) := by
  obtain ⟨bench, hooked, handled, ⟨locked, value⟩, deferred⟩ := board
  cases h
  rfl

/-- On a free lock, a call of the handler by hand serves the request that it leaves. -/
theorem onInterrupt_free {last : Device Board}
    (hshared : board.shared = Spinlock.new (some controller))
    (hservice : service ⟨{ board.taken with deferred := true }, controller⟩ = .ok ((), last)) :
    onInterrupt board = .ok ((), last.board.released last.controller) := by
  have hheld : holding controller service { board with deferred := true } =
      .ok ((), last.board.released last.controller) := by
    rw [holding_eq]
    exact congrArg (Except.map _) hservice
  rw [← hheld]
  obtain ⟨bench, hooked, handled, shared, deferred⟩ := board
  cases hshared
  rfl

/-- A call of the handler by hand serves at least the request that it leaves itself. -/
theorem onInterrupt_ends (h : board.Shares controller) :
    Ends onInterrupt board fun _ board' =>
      Relieved ⟨{ board.taken with deferred := true }, controller⟩ board' := by
  refine Ends.bind (R := fun _ board' => board' = { board with deferred := true })
    ⟨_, _, rfl, rfl⟩ ?_
  rintro _ _ rfl
  have hrequested : Shares { board with deferred := true } controller := ⟨h.shared, h.steady⟩
  exact catchUp_ends hrequested

/-! ## What holds on the bench -/

section Bench

variable {I : Bench → Prop}

theorem keeps_holding {body : DeviceM Board α}
    (h : Keeps (fun d : Device Board => I d.board.bench) body) :
    Keeps (fun board => I board.bench) (holding controller body) := by
  intro board a board' hI hrun
  rw [holding_eq] at hrun
  cases hr : body ⟨board.taken, controller⟩ with
  | error fault =>
    rw [hr] at hrun
    cases hrun
  | ok r =>
    rw [hr] at hrun
    cases hrun
    exact h ⟨board.taken, controller⟩ r.1 r.2 hI hr

theorem keeps_setDeferred (value : Bool) :
    Keeps (fun board => I board.bench) (setDeferred value) := by
  intro board _ board' hI hrun
  cases hrun
  exact hI

section Drain

variable (hdrain : Keeps (fun d : Device Board => I d.board.bench) drain)

include hdrain

theorem keeps_service : Keeps (fun d : Device Board => I d.board.bench) service := by
  have honce : Keeps (fun d : Device Board => I d.board.bench) serviceOnce := by
    refine Keeps.get_bind fun device => ?_
    refine Keeps.ite (Keeps.bind (Keeps.onLink (keeps_setDeferred _)) fun _ => ?_) (Keeps.pure _)
    exact Keeps.bind hdrain fun _ => Keeps.pure _
  exact Keeps.bind Keeps.patience fun bound => Keeps.pollWithin honce (Keeps.fault _) bound

theorem keeps_catchUp : Keeps (fun board => I board.bench) catchUp := by
  refine Keeps.get_bind fun board => ?_
  split
  · split
    · exact keeps_holding (keeps_service hdrain)
    · exact keeps_setDeferred _
  · exact Leads.pure fun _ => id

theorem keeps_onInterrupt : Keeps (fun board => I board.bench) onInterrupt :=
  Keeps.bind (keeps_setDeferred true) fun _ => keeps_catchUp hdrain

/-- A call under the lock keeps of the bench what its body and drains keep. -/
theorem keeps_locked {body : DeviceM Board α}
    (hbody : Keeps (fun d : Device Board => I d.board.bench) body) :
    Keeps (fun board => I board.bench) (withShared body) := by
  refine Keeps.get_bind fun board => ?_
  refine Keeps.guarded (Keeps.fault _) ?_
  cases board.shared.value with
  | none => exact Leads.pure fun _ => id
  | some controller =>
    refine Keeps.bind (keeps_holding ?_) fun result => ?_
    · exact Keeps.bind hbody fun _ => Keeps.bind (keeps_service hdrain) fun _ => Keeps.pure _
    · exact Keeps.bind (keeps_catchUp hdrain) fun _ => Keeps.pure _

end Drain

end Bench

end Board

/-! ## A board to begin with -/

/-- A board with a chip that has just been powered up, the handler connected to the interrupt
line, and a driver shared that has done nothing yet. -/
def Board.pristine : Board :=
  { Board.new none ⟨none, .off⟩ with
    hooked := true
    shared := Spinlock.new (some Controller.new) }

theorem Board.shares_pristine : Board.pristine.Shares Controller.new :=
  ⟨rfl, rfl, fun _ => nofun⟩

end SpiEthernet
