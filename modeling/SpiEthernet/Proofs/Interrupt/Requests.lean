import SpiEthernet.Proofs.Interrupt.Endurance
import SpiEthernet.Proofs.Interrupt.Sharing
import SpiEthernet.Proofs.Operation.Device

/-!
# Requests are served before the lock is given back

Whoever holds the lock of a shared controller may be interrupted at any time: the handler is
entered when the interrupt is let through with the line asserted, or it is called by hand. It then
leaves a request and returns. Behind the body of a call, and behind every drain, requests are
looked for again, and the lock is given back only when there is none. A request is taken back
before the drain that serves it begins, so a request left during a drain is served by a later one.

* `Orderly` : what may be done under the lock, which is everything but to meddle with the lock and
  the requests.
* `Enters` : the handler is entered on the way.
* `Rounds` : the drains that are carried out one after the other.
* `requests_honoured` : every request left under the lock is served by a drain that begins later.
-/

namespace SpiEthernet

namespace Board

/-! ## What may be done under the lock -/

/-- A property of a board that does not break, whatever is done to the chip and the link, to the
connection of the handler, or by the handler. -/
structure Natural (I : Board → Prop) : Prop where
  ordinary {board : Board} (h : I board) : board.chip.Ordinary
  bench {board : Board} {bench : Bench} (h : I board)
    (hordinary : bench.endpoint.chip.Ordinary) : I { board with bench }
  hook {board : Board} (hooked : Bool) (h : I board) : I { board with hooked }
  unmask : Keeps I Board.unmask
  onInterrupt : Keeps I Board.onInterrupt

theorem Natural.robust {I : Board → Prop} (h : Natural I) : Robust (fun _ => True) I := by
  refine Robust.of_calls (fun _ => trivial) ?mask (fun before => ?restore)
    (fun frame _ => ?exchange) fun notice => ?record
  case mask =>
    intro board _ _ hI hrun
    rw [Wired.mask_eq] at hrun
    cases hrun
    exact h.bench hI (h.ordinary hI)
  case restore =>
    intro board _ _ hI hrun
    rw [restore_eq] at hrun
    cases before with
    | false =>
      cases hrun
      exact hI
    | true => exact h.unmask board _ _ hI hrun
  case exchange =>
    intro board _ _ hI hrun
    rw [exchange_turn (h.ordinary hI)] at hrun
    cases hrun
    exact h.bench hI ((h.ordinary hI).serve frame).afterFrame
  case record =>
    intro board _ _ hI hrun
    cases hrun
    exact h.bench hI (h.ordinary hI)

/-- A computation under the lock that leaves the lock and the requests to the handler: whatever
else it does to the chip, the link and the controller, no natural property breaks. -/
def Orderly {α : Type} (body : DeviceM Board α) : Prop :=
  ∀ I, Natural I → Keeps (fun d : Device Board => I d.board) body

namespace Orderly

variable {α β : Type}

theorem pure (a : α) : Orderly (Pure.pure a) := fun _ _ => Keeps.pure a

theorem bind {body : DeviceM Board α} {k : α → DeviceM Board β} (h : Orderly body)
    (hk : ∀ a, Orderly (k a)) : Orderly (body >>= k) :=
  fun I hI => Keeps.bind (h I hI) fun a => hk a I hI

/-- All operations of the driver are orderly, a reset among them. -/
theorem perform (operation : DeviceOperation) : Orderly operation.perform :=
  fun _ hI => hI.robust.performAny operation

theorem performAll (operations : List DeviceOperation) :
    Orderly (DeviceOperation.performAll operations) :=
  fun I hI => Keeps.mapM fun operation _ => perform operation I hI

/-- The handler may be called by hand. -/
theorem onInterrupt : Orderly (onLink Board.onInterrupt) := fun _ hI => Keeps.onLink hI.onInterrupt

/-- The interrupt may be let through. -/
theorem unmask : Orderly (onLink Board.unmask) := fun _ hI => Keeps.onLink hI.unmask

/-- Anything may happen to the chip, and be planned for it, but that its memory is
overwritten. -/
theorem onChip {action : LinkM Chip α} (h : Keeps Chip.Ordinary action) :
    Orderly (onLink (Board.onChip action)) := by
  refine fun I hI => Keeps.onLink fun board a board' hboard hrun => ?_
  rw [onChip_eq] at hrun
  cases hr : action board.chip with
  | error fault =>
    rw [hr] at hrun
    cases hrun
  | ok result =>
    rw [hr] at hrun
    cases hrun
    exact hI.bench hboard (h board.chip result.1 result.2 (hI.ordinary hboard) hr)

end Orderly

/-! ## Requests that are left under the lock -/

/-- A held lock stays held, and a request that has been left stays left. -/
theorem natural_sealed (requested : Prop) :
    Natural fun board => board.Sealed ∧ (requested → board.deferred = true) where
  ordinary h := h.1.ordinary
  bench h hordinary := ⟨⟨h.1.locked, hordinary⟩, h.2⟩
  hook _ h := ⟨⟨h.1.locked, h.1.ordinary⟩, h.2⟩
  unmask board _ _ h hrun := by
    rw [unmask_locked h.1.locked] at hrun
    cases hrun
    exact ⟨⟨h.1.locked, h.1.ordinary⟩, fun hr => Bool.or_eq_true_iff.2 (.inr (h.2 hr))⟩
  onInterrupt board _ _ h hrun := by
    rw [onInterrupt_locked h.1.locked] at hrun
    cases hrun
    exact ⟨⟨h.1.locked, h.1.ordinary⟩, fun _ => rfl⟩

variable {α : Type} {start now middle last : Device Board} {rounds : List (Device Board)}

theorem Orderly.sealed {body : DeviceM Board α} {a : α} (h : Orderly body)
    (hsealed : start.board.Sealed) (hrun : body start = .ok (a, now)) : now.board.Sealed :=
  (h _ (natural_sealed False) start a now ⟨hsealed, False.elim⟩ hrun).1

theorem Orderly.requested {body : DeviceM Board α} {a : α} (h : Orderly body)
    (hsealed : start.board.Sealed) (hdeferred : start.board.deferred = true)
    (hrun : body start = .ok (a, now)) : now.board.deferred = true :=
  (h _ (natural_sealed True) start a now ⟨hsealed, fun _ => hdeferred⟩ hrun).2 trivial

/-- The ways in which the handler is entered: the interrupt is let through with its line asserted
and the handler connected, or the handler is called by hand. -/
inductive Entry (board : Board) : LinkM Board Unit → Prop where
  | line (h : board.calls = true) : Entry board Board.unmask
  | hand : Entry board Board.onInterrupt

/-- A held lock does not make the handler wait: it leaves a request and returns. -/
theorem Entry.leaves {board : Board} {entry : LinkM Board Unit} (h : Entry board entry)
    (hlocked : board.shared.locked = true) : Ends entry board fun _ board' =>
      board'.shared = board.shared ∧ board'.chip.queue = board.chip.queue ∧
        board'.deferred = true := by
  cases h with
  | line hcalls =>
    refine ⟨_, _, unmask_locked hlocked, rfl, rfl, ?_⟩
    exact Bool.or_eq_true_iff.2 (.inl hcalls)
  | hand => exact ⟨_, _, onInterrupt_locked hlocked, rfl, rfl, rfl⟩

/-- On its way from a state, the computation enters the handler: its run is one that does
something, enters the handler, and does something else. -/
def Enters (body : DeviceM Board α) (start : Device Board) : Prop :=
  ∃ (first : DeviceM Board Unit) (rest : DeviceM Board α) (middle : Device Board)
    (entry : LinkM Board Unit), Orderly first ∧ Orderly rest ∧ first start = .ok ((), middle) ∧
      Entry middle.board entry ∧ body start = (do onLink entry; rest) middle

/-- A computation that is written with an entry of the handler in it enters the handler. -/
theorem enters_of_bind {first : DeviceM Board Unit} {rest : DeviceM Board α}
    {entry : LinkM Board Unit} (hfirst : Orderly first) (hrest : Orderly rest)
    (hmiddle : first start = .ok ((), middle)) (hentry : Entry middle.board entry) :
    Enters (do first; onLink entry; rest) start := by
  refine ⟨first, rest, middle, entry, hfirst, hrest, hmiddle, hentry, ?_⟩
  show (first start >>= _) = _
  rw [hmiddle]
  rfl

/-- A request that was left on the way is still there in the end. -/
theorem Enters.requested {body : DeviceM Board α} {a : α} (h : Enters body start)
    (hsealed : start.board.Sealed) (hrun : body start = .ok (a, now)) :
    now.board.deferred = true := by
  obtain ⟨first, rest, middle, entry, hfirst, hrest, hmiddle, hentry, hbody⟩ := h
  have hsealed' := hfirst.sealed hsealed hmiddle
  obtain ⟨_, board, hboard, hshared, hqueue, hdeferred⟩ := hentry.leaves hsealed'.locked
  have hheld : board.Sealed := ⟨hshared ▸ hsealed'.locked, by
    unfold Chip.Ordinary
    rw [hqueue]
    exact hsealed'.ordinary⟩
  have hentered : onLink entry middle = .ok ((), ⟨board, middle.controller⟩) := by
    show (entry middle.board >>= _) = _
    rw [hboard]
    rfl
  have htail : rest ⟨board, middle.controller⟩ = .ok (a, now) := by
    rw [← hrun, hbody]
    show _ = (onLink entry middle >>= _)
    rw [hentered]
    rfl
  have hstart : (⟨board, middle.controller⟩ : Device Board).board.Sealed := hheld
  exact hrest.requested hstart hdeferred htail

/-! ## Rounds of drains -/

/-- The device with a request taken back that is about to be served. -/
def accepted (device : Device Board) : Device Board :=
  ⟨{ device.board with deferred := false }, device.controller⟩

/-- Drains one after the other, each for a request that was waiting, until none is. They are
listed by the states in which they begin. -/
inductive Rounds : Device Board → List (Device Board) → Device Board → Prop where
  | idle (device : Device Board) (h : device.board.deferred = false) : Rounds device [] device
  | drain {start middle now : Device Board} {seen : UInt8} {rounds : List (Device Board)}
    (h : start.board.deferred = true)
    (hrun : SpiEthernet.drain (accepted start) = .ok (seen, middle))
    (hrest : Rounds middle rounds now) : Rounds start (accepted start :: rounds) now

theorem Rounds.ne_nil (h : Rounds start rounds now) (hdeferred : start.board.deferred = true) :
    rounds ≠ [] := by
  cases h with
  | idle _ hidle =>
    rw [hdeferred] at hidle
    cases hidle
  | drain => exact List.cons_ne_nil _ _

theorem Rounds.deferred (h : Rounds start rounds now) : now.board.deferred = false := by
  induction h with
  | idle _ h => exact h
  | drain _ _ _ ih => exact ih

theorem drain_sealed (h : start.board.Sealed) : Ends drain start fun _ d =>
    d.board.Sealed ∧ d.board.load ≤ start.board.load :=
  (sturdy_sealed start.board.load).drain start ⟨h, Nat.le_refl _⟩

/-- A request that is left while a drain runs is served by another drain. -/
theorem Rounds.later (h : Rounds start rounds now) (hsealed : start.board.Sealed) (i : Nat)
    (hi : i < rounds.length) (henters : Enters SpiEthernet.drain rounds[i]) :
    i + 1 < rounds.length := by
  induction h generalizing i with
  | idle => exact absurd hi (Nat.not_lt_zero i)
  | @drain start middle now seen rounds hdeferred hrun hrest ih =>
    have hstart : (accepted start).board.Sealed := ⟨hsealed.locked, hsealed.ordinary⟩
    have hmiddle := (drain_sealed hstart).run_eq hrun
    rw [List.length_cons]
    cases i with
    | zero =>
      have hleft := henters.requested hstart hrun
      have := List.length_pos_iff.2 (hrest.ne_nil hleft)
      omega
    | succ i =>
      have := ih hmiddle.1 i (Nat.lt_of_succ_lt_succ hi) henters
      omega

/-- Serving the requests is so many drains, no more than there can be requests. -/
theorem service_rounds {device : Device Board} (h : device.board.Sealed) :
    Ends service device fun _ now => now.board.Sealed ∧ ∃ rounds, Rounds device rounds now ∧
      rounds.length ≤ device.board.load := by
  refine Ends.bind (R := fun bound d => bound = Host.patience device.board ∧ device = d)
    (Ends.patience ⟨rfl, rfl⟩) ?_
  rintro _ _ ⟨rfl, rfl⟩
  -- the drains up to now are kept as what remains to be prefixed to the other ones
  refine (Ends.pollWithin
    (I := fun d => d.board.Sealed ∧ ∀ rounds now, Rounds d rounds now →
      ∃ all, Rounds device all now ∧ all.length + d.board.load ≤
        rounds.length + device.board.load)
    (μ := fun d => d.board.load)
    (Q := fun _ d => d.board.Sealed ∧ ∃ rounds, Rounds device rounds d ∧
      rounds.length ≤ device.board.load)
    ?_ _ device ⟨h, fun rounds now hrounds => ⟨rounds, hrounds, Nat.le_refl _⟩⟩
    (load_lt_patience _))
  rintro d ⟨hd, hprefix⟩
  cases hdeferred : d.board.deferred with
  | false =>
    obtain ⟨all, hall, hlength⟩ := hprefix [] d (.idle d hdeferred)
    refine ⟨some (), d, serviceOnce_false hdeferred, hd, all, hall, ?_⟩
    rw [List.length_nil] at hlength
    omega
  | true =>
    have haccepted : (accepted d).board.Sealed := ⟨hd.locked, hd.ordinary⟩
    have hless : (accepted d).board.load + 1 = d.board.load := by
      show d.board.chip.load + false.toNat + 1 = d.board.chip.load + d.board.deferred.toNat
      rw [hdeferred]
      rfl
    obtain ⟨seen, d', hrun, hsealed, hload⟩ := drain_sealed haccepted
    refine ⟨none, d', ?_, ⟨hsealed, fun rounds now hrounds => ?_⟩, by omega⟩
    · show (if d.board.deferred = true then _ else _ : DeviceM Board (Option Unit)) d = _
      rw [if_pos hdeferred]
      show (SpiEthernet.drain (accepted d) >>= _) = _
      rw [hrun]
      rfl
    · obtain ⟨all, hall, hlength⟩ := hprefix _ now (.drain hdeferred hrun hrounds)
      refine ⟨all, hall, ?_⟩
      rw [List.length_cons] at hlength
      omega

/-! ## Calls -/

/-- A board that shares a controller whose lock is free, with a chip or without one. -/
structure Lends (board : Board) (controller : Controller) : Prop where
  shared : board.shared = Spinlock.new (some controller)
  ordinary : board.chip.Ordinary

/-- A call that held the lock served the requests of a device, and then gave the lock back. -/
structure Honoured (start : Device Board) (rounds : List (Device Board)) (board : Board) :
    Prop where
  /-- What the call did in the end is drains, and nothing else. -/
  served : ∃ last, Rounds start rounds last ∧ board = last.board.released last.controller
  /-- There are no more than two drains more than events were to come. -/
  length : rounds.length ≤ start.board.chip.queue.length + 2
  /-- When the handler is entered during one of the drains, there is another one behind it. -/
  later (i : Nat) (hi : i < rounds.length) (h : Enters drain rounds[i]) : i + 1 < rounds.length
  deferred : board.deferred = false
  lends : ∃ controller, board.Lends controller

theorem load_le (board : Board) : board.load ≤ board.chip.queue.length + 2 := by
  have := Bool.toNat_le board.chip.edge
  have := Bool.toNat_le board.deferred
  show board.chip.queue.length + board.chip.edge.toNat + board.deferred.toNat ≤ _
  omega

/-- Serving the requests before the lock is given back honours them. -/
theorem service_honours {device : Device Board} (h : device.board.Sealed) :
    ∃ rounds last, service device = .ok ((), last) ∧ Rounds device rounds last ∧
      Honoured device rounds (last.board.released last.controller) := by
  obtain ⟨_, last, hrun, hsealed, rounds, hrounds, hlength⟩ := service_rounds h
  exact ⟨rounds, last, hrun, hrounds, ⟨last, hrounds, rfl⟩,
    Nat.le_trans hlength device.board.load_le, hrounds.later h, hrounds.deferred,
    last.controller, rfl, hsealed.ordinary⟩

variable {board : Board} {controller : Controller}

/-- When the interrupt is let through on a free lock with its line asserted, the handler drains
once, on the bench, where nothing is let through meanwhile. -/
theorem unmask_honours (h : board.Lends controller) : ∃ board', unmask board = .ok ((), board') ∧
    if board.calls then
      ∃ seen device, drain ⟨board.noticed.bench, controller⟩ = .ok (seen, device) ∧
        board'.bench = device.board ∧ board'.deferred = false ∧
        board'.Lends device.controller
    else board' = board.noticed := by
  rw [unmask_eq]
  show ∃ board', (if board.calls then _ else _) = _ ∧ _
  split
  · next hcalls =>
    have hordinary : board.noticed.bench.endpoint.chip.Ordinary := h.ordinary
    have hdrain : Ends drain ⟨board.noticed.bench, controller⟩ fun seen device =>
        drain ⟨board.noticed.bench, controller⟩ = .ok (seen, device) ∧
          device.board.endpoint.chip.Ordinary :=
      (sturdy_bench.drain ⟨board.noticed.bench, controller⟩ hordinary).with_run
    obtain ⟨_, board', hrun, seen, device, ⟨hdrain, hordinary⟩, rfl⟩ :=
      handle_free (show board.alerted.shared = _ from h.shared) hdrain
    exact ⟨_, hrun, seen, device, hdrain, rfl, rfl, rfl, hordinary⟩
  · exact ⟨_, rfl, rfl⟩

/-- Every request to drain is honoured before the lock is given back. A held lock does not make the
handler wait. Behind the body of a call, the requests are served by drains that come to an end, of
which there is one at least if the handler has been entered during the body, and another one behind
every drain during which it has been. The same holds of a call of the handler by hand, which leaves
a request itself; and if the interrupt is let through while nobody holds the lock, the handler
drains at once. When the call returns, the lock is free and no request is left. -/
theorem requests_honoured {α : Type} {body : DeviceM Board α} {a : α} {now : Device Board}
    (h : board.Lends controller) (hbody : Orderly body)
    (hrun : body ⟨board.taken, controller⟩ = .ok (a, now)) :
    (∀ busy : Board, busy.shared.locked = true →
      onInterrupt busy = .ok ((), { busy with deferred := true }) ∧
        handle busy = .ok ((), { busy with deferred := true })) ∧
    (∃ rounds board', withShared body board = .ok (some a, board') ∧
      Honoured now rounds board' ∧ (Enters body ⟨board.taken, controller⟩ → rounds ≠ [])) ∧
    (∃ rounds board', onInterrupt board = .ok ((), board') ∧
      Honoured ⟨{ board.taken with deferred := true }, controller⟩ rounds board' ∧
        rounds ≠ []) ∧
    ∃ board', unmask board = .ok ((), board') ∧
      if board.calls then
        ∃ seen device, drain ⟨board.noticed.bench, controller⟩ = .ok (seen, device) ∧
          board'.bench = device.board ∧ board'.deferred = false ∧
          board'.Lends device.controller
      else board' = board.noticed := by
  have htaken : board.taken.Sealed := ⟨rfl, h.ordinary⟩
  have hsealed : now.board.Sealed := hbody.sealed htaken hrun
  refine ⟨fun busy hlocked => ⟨onInterrupt_locked hlocked, handle_locked hlocked⟩, ?_, ?_,
    unmask_honours h⟩
  · obtain ⟨rounds, last, hservice, hrounds, hhonoured⟩ := service_honours hsealed
    refine ⟨rounds, _, withShared_eq h.shared hrun hservice hrounds.deferred, hhonoured, ?_⟩
    exact fun henters => hrounds.ne_nil (henters.requested htaken hrun)
  · have hrequested : (⟨{ board.taken with deferred := true }, controller⟩ :
        Device Board).board.Sealed := ⟨rfl, h.ordinary⟩
    obtain ⟨rounds, last, hservice, hrounds, hhonoured⟩ := service_honours hrequested
    exact ⟨rounds, _, onInterrupt_free h.shared hservice, hhonoured, hrounds.ne_nil rfl⟩

theorem lends_pristine : Board.pristine.Lends Controller.new := ⟨rfl, nofun⟩

/-- A body that is interrupted: a flag is to be raised later, the handler is called by hand, and
then the chip is looked at. -/
def interrupted : DeviceM Board Outcome := do
  onLink (Board.onChip (modify (·.schedule 2 (.socketInterrupt 1 SocketFlag.received))))
  onLink Board.onInterrupt
  (DeviceOperation.socket 1 .status).perform

theorem orderly_schedule {delay : Nat} {event : Event} (h : event.isOrdinary) :
    Orderly (onLink (Board.onChip (modify (·.schedule delay event)))) := by
  refine Orderly.onChip fun chip _ _ hchip hrun => ?_
  cases hrun
  intro scheduled hmem
  rcases List.mem_append.1 hmem with hmem | hmem
  · exact hchip scheduled hmem
  · rw [List.mem_singleton.1 hmem]
    exact h

theorem enters_interrupted (start : Device Board) : Enters interrupted start := by
  have hplanned : onLink (Board.onChip (modify (·.schedule 2
      (.socketInterrupt 1 SocketFlag.received)))) start = .ok ((), ⟨start.board.withChip
        (start.board.chip.schedule 2 (.socketInterrupt 1 SocketFlag.received)),
        start.controller⟩) := by
    show (Board.onChip _ start.board >>= _) = _
    rw [onChip_eq]
    rfl
  exact enters_of_bind (orderly_schedule rfl) (Orderly.perform _) hplanned .hand

theorem requests_honoured_interrupted : ∃ answer now rounds board',
    interrupted ⟨Board.pristine.taken, Controller.new⟩ = .ok (answer, now) ∧
      withShared interrupted Board.pristine = .ok (some answer, board') ∧
      Honoured now rounds board' ∧ rounds ≠ [] := by
  have hends : (interrupted ⟨Board.pristine.taken, Controller.new⟩).isOk = true := by
    decide +kernel
  have horderly : Orderly interrupted := Orderly.bind (orderly_schedule rfl) fun _ =>
    Orderly.bind Orderly.onInterrupt fun _ => Orderly.perform _
  cases hrun : interrupted ⟨Board.pristine.taken, Controller.new⟩ with
  | error fault =>
    rw [hrun] at hends
    cases hends
  | ok result =>
    obtain ⟨-, ⟨rounds, board', hcall, hhonoured, hserved⟩, -⟩ :=
      requests_honoured lends_pristine horderly hrun
    exact ⟨result.1, result.2, rounds, board', rfl, hcall, hhonoured,
      hserved (enters_interrupted _)⟩

end Board

end SpiEthernet
