import SpiEthernet.Proofs.Interrupt.Ledger
import SpiEthernet.Proofs.Interrupt.Sharing

/-!
# No interrupt flag is lost, invented or delivered twice

A shared controller is worked on by errands: calls that take the lock and carry out operations,
calls of the handler by hand, polls that bypass the lock, and things that happen to the chip. Each
errand leaves a ledger. Whether or not the handler is connected to the interrupt line, and
whatever is still to happen to the chip, the ledgers of all errands so far account for every flag
of every source.

* `keep_ends` : one errand ends and leaves a ledger that accounts for the flags.
* `flags_conserved` : a run that begins with all flags clear keeps its ledger in balance, between
  the errands and between the operations of an errand.
-/

namespace SpiEthernet

/-! ## Errands -/

/-- Something done to a board that shares a controller, or to its chip. -/
inductive Errand where
  /-- Takes the lock and carries out operations on the controller. -/
  | hold (operations : List DeviceOperation)
  /-- Calls the handler by hand. -/
  | interrupt
  /-- Reads a register without the lock. -/
  | poll (address : UInt16)
  /-- Lets an event happen after some more frames. -/
  | schedule (delay : Nat) (event : Event)
  /-- Lets an event happen at once. -/
  | raise (event : Event)

namespace Errand

/-- Whether an errand only collects, and only lets ordinary events happen. -/
def IsCollecting : Errand → Prop
  | hold operations => ∀ operation ∈ operations, operation.isCollecting
  | interrupt | poll _ => True
  | schedule _ event | raise event => event.isOrdinary

/-- Carries out an errand and returns the answers of its operations. -/
def perform : Errand → LinkM Board (List (DeviceOperation × Outcome))
  | hold operations => do
    let outcomes ← Board.withShared (DeviceOperation.performAll operations)
    return operations.zip (outcomes.getD [])
  | interrupt => do
    Board.onInterrupt
    return []
  | poll address => do
    let _ ← readByte address
    return []
  | schedule delay event => do
    Board.onChip (modify (·.schedule delay event))
    return []
  | raise event => do
    Board.onChip fun chip => do return ((), ← chip.apply event)
    return []

/-- What has happened to the chip during an errand. -/
def occurrences (errand : Errand) (before after : Board) : List Occurrence :=
  match errand with
  | raise event => [before.chip.occurrence event]
  | _ => after.bench.endpoint.occurrencesSince before.bench.endpoint

/-- Carries out an errand and keeps its ledger. -/
def keep (errand : Errand) : LinkM Board Ledger := do
  let before ← get
  let answers ← errand.perform
  return ⟨answers, errand.occurrences before (← get)⟩

/-- Carries out errands one after the other and keeps the ledger. -/
def keepAll : List Errand → LinkM Board Ledger
  | [] => return .empty
  | errand :: rest => do
    let first ← errand.keep
    return first ++ (← keepAll rest)

end Errand

/-! ## What the board does by itself -/

namespace Board

variable {board : Board} {controller : Controller}

/-- Serving requests moves flags, but takes none out. -/
theorem Served.accounted {start now : Device Board} {o : List Occurrence}
    (h : Served start o now) :
    Endpoint.Accounted [] start.board.bench.endpoint start.controller.sticky
      now.board.bench.endpoint now.controller.sticky := by
  induction h with
  | done => exact .refl
  | drain hok h _ ih =>
    have hfirst := h.accounted (fun _ => id) hok [] fun _ _ => nofun
    exact hfirst.trans ih

/-- A board that shares a controller, in a state reached from an earlier one. -/
def Follows (answers : List (DeviceOperation × Outcome)) (start : Device Board) (board : Board) :
    Prop :=
  ∃ controller, board.Shares controller ∧ Endpoint.Accounted answers start.board.bench.endpoint
    start.controller.sticky board.bench.endpoint controller.sticky

theorem Relieved.follows {start : Device Board} (h : Relieved start board) :
    Follows [] start board := by
  obtain ⟨-, o, device, hserved, hheld, rfl⟩ := h
  exact ⟨_, hheld.released _, hserved.accounted⟩

/-- Letting the interrupt through may move flags, but takes none out. -/
theorem unmask_follows (h : board.Shares controller) :
    Ends unmask board fun _ board' => Follows [] ⟨board, controller⟩ board' := by
  have hnoticed : Endpoint.Accounted [] board.bench.endpoint controller.sticky
      board.noticed.bench.endpoint controller.sticky :=
    ⟨[], (Endpoint.Passes.refl.mask false).notice, .refl⟩
  have hsteady : board.noticed.chip.Steady := h.steady.of_casing rfl
  unfold Ends
  rw [unmask_eq]
  split
  · obtain ⟨_, board', hrun, device, o, hdrained, hok, rfl⟩ :=
      handle_ends (show board.alerted.chip.Steady from hsteady) h.shared
    have hmoved := hdrained.accounted (fun _ => id) hsteady [] fun _ _ => nofun
    exact ⟨(), _, hrun, device.controller, ⟨rfl, hok⟩, hnoticed.trans hmoved⟩
  · exact ⟨(), _, rfl, controller, ⟨h.shared, hsteady⟩, hnoticed⟩

/-- A read without the lock may call the handler, which takes no flag out. -/
theorem readByte_follows (h : board.Shares controller) (address : UInt16) :
    Ends (readByte address) board fun _ board' => Follows [] ⟨board, controller⟩ board' := by
  let frame := Frame.read address
  let turned : Board := Wired.rewire (board.bench.endpoint.held.turn frame).2 board
  have hmask := Wired.mask_eq board
  have hturn : exchange frame (Wired.rewire board.bench.endpoint.held board) =
      .ok ((board.bench.endpoint.held.turn frame).1, turned) :=
    Wired.exchange_eq _ frame h.steady
  have hshares : turned.Shares controller :=
    ⟨h.shared, Endpoint.steady_turn_held h.steady frame⟩
  have hpasses : board.bench.endpoint.Passes (fun f => f.direction = .read) _
      turned.bench.endpoint := (Endpoint.Passes.refl.mask true).turn frame rfl
  have hfirst : Endpoint.Accounted [] board.bench.endpoint controller.sticky
      turned.bench.endpoint controller.sticky :=
    .of_passes hpasses h.steady (fun _ hf => (Frame.isQuiet_of_read hf).isLocal)
      (fun source _ hf => Frame.spares_of_read hf source) fun _ _ => nofun
  refine Ends.bind (R := fun _ x => x = Wired.rewire board.bench.endpoint.held board)
    ⟨_, _, hmask, rfl⟩ ?_
  rintro before _ rfl
  refine Ends.bind (R := fun _ x => x = turned) ⟨_, _, hturn, rfl⟩ ?_
  rintro value _ rfl
  refine Ends.bind (R := fun _ x => Follows [] ⟨board, controller⟩ x) ?_
    fun _ _ hfollows => Ends.pure hfollows
  unfold Ends
  rw [restore_eq]
  cases before with
  | false => exact ⟨(), _, rfl, controller, hshares, hfirst⟩
  | true =>
    obtain ⟨_, board', hrun, controller', hshares', hrest⟩ := unmask_follows hshares
    exact ⟨(), board', hrun, controller', hshares', hfirst.trans hrest⟩

end Board

/-! ## One errand -/

namespace Errand

variable {board : Board} {controller : Controller}

/-- A ledger accounts for what has become of the flags on a board. -/
def Kept (board : Board) (controller : Controller) (ledger : Ledger) (board' : Board) : Prop :=
  ∃ controller', board'.Shares controller' ∧
    ledger.Accounts board.chip controller.sticky board'.chip controller'.sticky

/-- The ledger of an errand holds its answers and what has happened meanwhile. -/
theorem keep_of_perform {errand : Errand} {P : List (DeviceOperation × Outcome) → Board → Prop}
    (h : Ends errand.perform board P) :
    Ends errand.keep board fun ledger board' =>
      P ledger.answers board' ∧ ledger.occurrences = errand.occurrences board board' :=
  Ends.get_bind (Ends.bind h fun _ _ hP => Ends.get_bind (Ends.pure ⟨hP, rfl⟩))

/-- Errands that only exchange frames. -/
theorem keep_of_follows {errand : Errand}
    (hevent : ∀ before after, errand.occurrences before after =
      after.bench.endpoint.occurrencesSince before.bench.endpoint)
    (h : Ends errand.perform board fun answers board' =>
      Board.Follows answers ⟨board, controller⟩ board') :
    Ends errand.keep board fun ledger board' => Kept board controller ledger board' := by
  refine Ends.get_bind (Ends.bind h ?_)
  rintro answers board' ⟨controller', hshares, o, hpasses, haccounts⟩
  refine Ends.get_bind (Ends.pure ⟨controller', hshares, ?_⟩)
  rw [hevent, hpasses.occurrencesSince]
  exact haccounts

/-- A call collects what its operations say, and serves the requests left meanwhile. -/
theorem hold_follows (h : board.Shares controller) {operations : List DeviceOperation}
    (hops : ∀ operation ∈ operations, operation.isCollecting) :
    Ends (hold operations).perform board fun answers board' =>
      Board.Follows answers ⟨board, controller⟩ board' := by
  have hbody := (Habit.locked board.taken.load).performAll_accounted (fun _ => id) hops
    ⟨board.taken, controller⟩ h.held.ok
  refine Ends.bind (Board.withShared_ends (Q := fun outcomes device =>
    Endpoint.Accounted (operations.zip outcomes) board.bench.endpoint controller.sticky
      device.board.bench.endpoint device.controller.sticky) h (hbody.mono ?_)) ?_
  · rintro outcomes device ⟨-, hok, haccounted⟩
    exact ⟨⟨hok.1, hok.2.1⟩, haccounted⟩
  · rintro _ board' ⟨outcomes, device, rfl, haccounted, hrelieved⟩
    obtain ⟨controller', hshares, hrest⟩ := hrelieved.follows
    have hall := haccounted.trans hrest
    rw [List.append_nil] at hall
    exact Ends.pure ⟨controller', hshares, hall⟩

/-- Errands that only touch the chip. -/
theorem chip_ends {action : LinkM Chip Unit} {chip : Chip}
    (h : action board.chip = .ok ((), chip)) :
    Ends (do Board.onChip action; return ([] : List (DeviceOperation × Outcome))) board
      fun answers board' => answers = [] ∧ board' = board.withChip chip :=
  Ends.bind (Board.onChip_ends h) fun _ _ hboard => Ends.pure ⟨rfl, hboard⟩

/-- What is raised happens at once. -/
theorem raise_ends {event : Event} (hevent : event.isOrdinary) :
    Ends (raise event).perform board fun answers board' =>
      answers = [] ∧ board' = board.withChip (board.chip.happen event) := by
  refine chip_ends ?_
  show (do return ((), ← board.chip.apply event) : Except Fault (Unit × Chip)) = _
  rw [board.chip.apply_eq_happen hevent]
  rfl

/-- What happens at once is in the ledger. -/
theorem keep_raise (h : board.Shares controller) {event : Event} (hevent : event.isOrdinary) :
    Ends (raise event).keep board fun ledger board' => Kept board controller ledger board' := by
  refine Ends.get_bind (Ends.bind (raise_ends hevent) ?_)
  rintro _ _ ⟨rfl, rfl⟩
  refine Ends.get_bind (Ends.pure ⟨controller, ⟨h.shared, ?_⟩, ?_⟩)
  · exact h.steady.of_casing (board.chip.casing_happen hevent)
  · exact Ledger.Accounts.of_flow (fun _ => Flow.of_happen hevent) fun _ _ => nofun

/-- What is to happen later is not in the ledger yet. -/
theorem keep_schedule (h : board.Shares controller) (delay : Nat) {event : Event}
    (hevent : event.isOrdinary) :
    Ends (schedule delay event).keep board fun ledger board' =>
      Kept board controller ledger board' := by
  have hrun : (modify (·.schedule delay event) : LinkM Chip Unit) board.chip =
      .ok ((), board.chip.schedule delay event) := rfl
  refine Ends.get_bind (Ends.bind (chip_ends hrun) ?_)
  rintro _ _ ⟨rfl, rfl⟩
  refine Ends.get_bind (Ends.pure ⟨controller, ⟨h.shared, h.steady.schedule delay hevent⟩, ?_⟩)
  have hsame : board.bench.endpoint.Passes Frame.IsLocal [] board.bench.endpoint := .refl
  have hnone : (board.withChip (board.chip.schedule delay event)).bench.endpoint.occurrencesSince
      board.bench.endpoint = [] := hsame.occurrencesSince
  show Ledger.Accounts ⟨[], Endpoint.occurrencesSince _ _⟩ _ _ _ _
  rw [hnone]
  exact Ledger.Accounts.of_flow (fun _ => Flow.refl) fun _ _ => nofun

/-- One errand ends, and leaves a ledger that accounts for the flags. -/
theorem keep_ends (h : board.Shares controller) {errand : Errand} (he : errand.IsCollecting) :
    Ends errand.keep board fun ledger board' => Kept board controller ledger board' := by
  cases errand with
  | hold operations => exact keep_of_follows (fun _ _ => rfl) (hold_follows h he)
  | interrupt =>
    refine keep_of_follows (fun _ _ => rfl) (Ends.bind (Board.onInterrupt_ends h) ?_)
    rintro _ board' hrelieved
    exact Ends.pure hrelieved.follows
  | poll address =>
    refine keep_of_follows (fun _ _ => rfl) (Ends.bind (Board.readByte_follows h address) ?_)
    rintro _ board' hfollows
    exact Ends.pure hfollows
  | schedule delay event => exact keep_schedule h delay he
  | raise event => exact keep_raise h he

/-- A run of errands ends, and leaves a ledger that accounts for the flags. -/
theorem keepAll_ends {errands : List Errand} (he : ∀ errand ∈ errands, errand.IsCollecting) :
    ∀ {board : Board} {controller : Controller}, board.Shares controller →
      Ends (keepAll errands) board fun ledger board' => Kept board controller ledger board' := by
  induction errands with
  | nil => intro board controller h; exact Ends.pure ⟨controller, h, .refl⟩
  | cons errand errands ih =>
    intro board controller h
    refine Ends.bind (keep_ends h (he errand List.mem_cons_self)) ?_
    rintro first middle ⟨controller', hshares, haccounts⟩
    refine Ends.bind (ih (fun e hm => he e (List.mem_cons_of_mem _ hm)) hshares) ?_
    rintro rest now ⟨controller'', hshares', haccounts'⟩
    exact Ends.pure ⟨controller'', hshares', haccounts.trans haccounts'⟩

end Errand

/-! ## While nobody shares the controller -/

/-- While no controller is shared, the handler only forgets requests. -/
def Habit.unshared : Habit Board where
  ok board := board.shared = Spinlock.new none ∧ board.chip.Steady
  between _ := False
  called _ := True
  steady h := h.2
  isQuiet h := Frame.isQuiet_of_false h
  called_rewire _ _ := Iff.rfl
  turn h _ := ⟨h.1, Endpoint.steady_turn h.2 _⟩
  held h := h
  restore {x} before h := by
    cases before with
    | false => exact ⟨(), x, rfl, h, ⟨[], .refl⟩, id⟩
    | true =>
      have hsame : x.bench.endpoint.Passes (fun _ => False) [] x.bench.endpoint := .refl
      have hnoticed : x.bench.endpoint.Passes (fun _ => False) [] x.noticed.bench.endpoint :=
        (hsame.mask false).notice
      have hlock : x.alerted.shared.locked = false ∧ x.alerted.shared.value = none := by
        rw [show x.alerted.shared = _ from h.1]
        exact ⟨rfl, rfl⟩
      show Ends Board.unmask x _
      unfold Ends
      rw [Board.unmask_eq]
      split
      · exact ⟨(), _, Board.handle_none hlock.1 hlock.2, ⟨h.1, h.2.of_casing rfl⟩,
          ⟨[], hnoticed⟩, fun _ => .inr trivial⟩
      · exact ⟨(), _, rfl, ⟨h.1, h.2.of_casing rfl⟩, ⟨[], hnoticed⟩, fun _ => .inr trivial⟩
  record {x} notice h := ⟨(), _, rfl, h, rfl, id⟩

/-! ## All flags -/

/-- Whatever collecting operations are carried out next on a device, they end, and the ledger
continued by them is in balance. -/
def Ledger.Continues (ledger : Ledger) (board : Board) (controller : Controller) : Prop :=
  ∀ operations : List DeviceOperation, (∀ operation ∈ operations, operation.isCollecting) →
    Ends (DeviceOperation.performAll operations) ⟨board, controller⟩ fun outcomes device =>
      outcomes.length = operations.length ∧
        (ledger ++ ⟨operations.zip outcomes,
          device.board.bench.endpoint.occurrencesSince board.bench.endpoint⟩).Balanced
            device.board.chip device.controller.sticky

theorem Ledger.continues_of_accounts {ledger : Ledger} {H : Habit Board}
    (hH : ∀ frame, ¬H.between frame) {chip : Chip} {flags : StickyFlags} {board : Board}
    {controller : Controller} (h : ledger.Accounts chip flags board.chip controller.sticky)
    (hok : H.ok board) (hchip : ∀ source, chip.flagsOf source = 0)
    (hflags : ∀ source, flags.flagsOf source = 0) : ledger.Continues board controller := by
  intro operations hops
  refine Ends.mono (H.performAll_accounted hH hops ⟨board, controller⟩ hok) ?_
  rintro outcomes device ⟨hlength, -, o, hpasses, haccounts⟩
  refine ⟨hlength, ?_⟩
  have hsince : device.board.bench.endpoint.occurrencesSince board.bench.endpoint = o :=
    hpasses.occurrencesSince
  rw [hsince]
  exact (h.trans haccounts).balanced hflags hchip

/-- Begun with all flags clear, the ledger of what is done to a controller stays in balance
between any two operations: for each source of flags, those that were taken out, those the driver
keeps and those raised in the chip are together exactly the flags that have been raised, and no
flag was taken out more often than it was raised. This holds of a controller that is used
directly, and of one that is shared with the handler, between the errands and within a call. -/
theorem flags_conserved {board : Board} {controller : Controller} (hsteady : board.chip.Steady)
    (hchip : ∀ source, board.chip.flagsOf source = 0)
    (hflags : ∀ source, controller.sticky.flagsOf source = 0) :
    (board.shared = Spinlock.new none → Ledger.empty.Continues board controller) ∧
      (board.shared = Spinlock.new (some controller) →
        ∀ errands : List Errand, (∀ errand ∈ errands, errand.IsCollecting) →
          Ends (Errand.keepAll errands) board fun ledger board' => ∃ controller',
            board'.shared = Spinlock.new (some controller') ∧
              ledger.Balanced board'.chip controller'.sticky ∧
              ledger.Continues board'.taken controller') := by
  constructor
  · intro hnone
    exact Ledger.continues_of_accounts (H := Habit.unshared) (fun _ => id) .refl
      ⟨hnone, hsteady⟩ hchip hflags
  · intro hshared errands he
    refine (Errand.keepAll_ends he ⟨hshared, hsteady⟩).mono ?_
    rintro ledger board' ⟨controller', hshares, haccounts⟩
    refine ⟨controller', hshares.shared, haccounts.balanced hflags hchip, ?_⟩
    exact Ledger.continues_of_accounts (H := Habit.locked board'.taken.load) (fun _ => id)
      haccounts hshares.held.ok hchip hflags

/-- Two flags of a socket are raised while the handler drains, and taken out by a call. -/
theorem flags_conserved_pristine :
    Ends (Errand.keepAll [.schedule 1 (.socketInterrupt 2 SocketFlag.connected),
        .raise (.socketInterrupt 2 SocketFlag.received), .interrupt,
        .hold [.drain, .socket 2 (.takeFlags 0xFF)]]) Board.pristine
      fun ledger board' => ∃ controller',
        board'.shared = Spinlock.new (some controller') ∧
          ledger.Balanced board'.chip controller'.sticky ∧
          ledger.Continues board'.taken controller' := by
  refine (flags_conserved Board.shares_pristine.steady (fun source => ?_) fun source => ?_).2 rfl
    _ ?_
  · cases source with
    | socket s => exact Chip.byteOf_new none s rfl
    | chip =>
      show (Chip.new none).stored &&& _ = 0
      rw [Chip.stored_new, UInt8.zero_and]
  · cases source with
    | socket s =>
      revert s
      decide
    | chip => rfl
  · intro errand he
    simp only [List.mem_cons, List.not_mem_nil, or_false] at he
    rcases he with rfl | rfl | rfl | rfl
    · rfl
    · rfl
    · trivial
    · show ∀ operation ∈ _, _
      decide

end SpiEthernet
