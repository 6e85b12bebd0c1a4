import SpiEthernet.Chip.Endpoint
import SpiEthernet.Controller.Command
import SpiEthernet.Spinlock

/-!
# A board with an interrupt handler

A bench is a simulated chip with a journal and nothing else: an asserted interrupt line stays
asserted. A board adds an interrupt handler and a controller that the handler shares with the
foreground behind a lock.

When the interrupt is let through and the line has been asserted, the handler runs, once for
each assertion. It never waits for the lock. If the lock is free it drains the shared
controller's chip at once; if not, it leaves a request behind, and whoever holds the lock drains
before giving it back. While the handler itself drains, the line is left alone until the next
time the interrupt is let through, so handlers do not nest.
-/

namespace SpiEthernet

/-! ## The bench -/

/-- A simulated chip with a journal. -/
structure Bench where
  endpoint : Endpoint
  journal : Journal

namespace Bench

variable {α : Type}

/-- Runs a computation on the chip's end of the serial link. -/
def onEndpoint (action : LinkM Endpoint α) : LinkM Bench α := fun ⟨endpoint, journal⟩ => do
  let (result, endpoint) ← action endpoint
  return (result, ⟨endpoint, journal⟩)

/-- Runs a computation on the journal. -/
def onJournal (action : Journal → α × Journal) : LinkM Bench α :=
  fun ⟨endpoint, journal⟩ =>
    let (result, journal) := action journal
    return (result, ⟨endpoint, journal⟩)

instance : Host Bench where
  select := onEndpoint (modify Endpoint.select)
  deselect := onEndpoint fun endpoint => do return ((), ← endpoint.deselect)
  transfer byte := onEndpoint (modifyGet (·.transfer byte))
  maskInterrupt := onEndpoint (modifyGet Endpoint.mask)
  restoreInterrupt before := onEndpoint (if before then modify Endpoint.unmask else pure ())
  record notice := onJournal fun journal => ((), journal.record notice)
  patience bench := bench.endpoint.chip.patience

theorem onEndpoint_modify (f : Endpoint → Endpoint) (bench : Bench) :
    onEndpoint (modify f) bench = .ok ((), { bench with endpoint := f bench.endpoint }) := rfl

theorem onEndpoint_modifyGet (f : Endpoint → α × Endpoint) (bench : Bench) :
    onEndpoint (modifyGet f) bench =
      .ok ((f bench.endpoint).1, { bench with endpoint := (f bench.endpoint).2 }) := rfl

/-- A frame clocked byte by byte is served once and then counted. -/
theorem exchange_eq (frame : Frame) (bench : Bench) :
    exchange frame bench =
      (bench.endpoint.select.clock frame.bytes).2.deselect.map fun endpoint =>
        ((bench.endpoint.select.clock frame.bytes).1, { bench with endpoint }) := by
  simp only [exchange, bind, StateT.bind, Except.bind, SerialLink.select, SerialLink.transfer,
    SerialLink.deselect, onEndpoint_modify, onEndpoint_modifyGet]
  simp only [onEndpoint, Frame.bytes, Endpoint.clock, List.foldl]
  generalize Endpoint.deselect _ = ended
  cases ended <;> rfl

end Bench

/-! ## The board -/

/-- A bench with an interrupt handler and a shared controller. -/
structure Board where
  bench : Bench
  /-- Whether the handler is connected to the interrupt line. -/
  hooked : Bool
  /-- How often the line has called the handler. -/
  handled : Nat
  /-- The controller that the handler and the foreground share. -/
  shared : Spinlock (Option Controller)
  /-- Whether the handler has left a request to drain. -/
  deferred : Bool

namespace Board

variable {α : Type}

/-- A board on which nothing has happened. -/
def new (absent : Option UInt8) (logging : Logging) : Board where
  bench := ⟨Endpoint.new absent, Journal.empty logging⟩
  hooked := false
  handled := 0
  shared := Spinlock.new none
  deferred := false

/-- Runs a computation on the bench, during which the interrupt line is left alone. -/
def onBench (action : LinkM Bench α) : LinkM Board α :=
  fun ⟨bench, hooked, handled, shared, deferred⟩ => do
    let (result, bench) ← action bench
    return (result, ⟨bench, hooked, handled, shared, deferred⟩)

/-- The chip of a board. -/
def chip (board : Board) : Chip := board.bench.endpoint.chip

/-- Runs a computation on the chip. -/
def onChip (action : LinkM Chip α) : LinkM Board α :=
  onBench <| Bench.onEndpoint fun ⟨chip, selected, frame, masked, trace⟩ => do
    let (result, chip) ← action chip
    return (result, ⟨chip, selected, frame, masked, trace⟩)

/-! ## The handler -/

/-- What the handler does when the interrupt line calls it. -/
def handle : LinkM Board Unit := fun ⟨bench, hooked, handled, shared, _⟩ =>
  if shared.locked then return ((), ⟨bench, hooked, handled, shared, true⟩)
  else
    match shared.value with
    | none => return ((), ⟨bench, hooked, handled, shared, false⟩)
    | some controller => do
      let (_, device) ← drain ⟨bench, controller⟩
      return ((), ⟨device.board, hooked, handled, Spinlock.new (some device.controller), false⟩)

/-- Counts a call of the handler. -/
def countCall : LinkM Board Unit := modify fun board => { board with handled := board.handled + 1 }

/-- Lets the interrupt through, which calls the handler if the line has been asserted. -/
def unmask : LinkM Board Unit := do
  onBench (SerialLink.restoreInterrupt true)
  if ← onBench (Bench.onEndpoint (modifyGet Endpoint.takeEdge)) then
    if (← get).hooked then
      countCall
      handle

instance : Host Board where
  select := onBench SerialLink.select
  deselect := onBench SerialLink.deselect
  transfer byte := onBench (SerialLink.transfer byte)
  maskInterrupt := onBench SerialLink.maskInterrupt
  restoreInterrupt before := if before then unmask else pure ()
  record notice := onBench (Host.record notice)
  patience board := Host.patience board.bench

/-! ## Sharing the controller -/

/-- Sets whether a request to drain is waiting. -/
def setDeferred (value : Bool) : LinkM Board Unit :=
  modify fun board => { board with deferred := value }

/-- Drains if a request is waiting, and says when none is. -/
def serviceOnce : DeviceM Board (Option Unit) := do
  if (← get).board.deferred then
    onLink (setDeferred false)
    let _ ← drain
    return none
  return some ()

/-- Drains until no request is waiting. -/
def service : DeviceM Board Unit := do
  pollWithin serviceOnce (← patience)

/-- Runs a computation on a controller while its lock is held. -/
def holding (controller : Controller) (body : DeviceM Board α) : LinkM Board α :=
  fun ⟨bench, hooked, handled, shared, deferred⟩ => do
    let board : Board := ⟨bench, hooked, handled, shared.tryLock.2, deferred⟩
    let (result, ⟨⟨bench, hooked, handled, shared, deferred⟩, controller⟩) ←
      body ⟨board, controller⟩
    return (result,
      ⟨bench, hooked, handled, (shared.store (some controller)).unlock, deferred⟩)

/-- Serves a waiting request if the lock is free. A request nobody can serve is dropped. -/
def catchUp : LinkM Board Unit := do
  let board ← get
  if board.deferred && !board.shared.locked then
    match board.shared.value with
    | some controller => holding controller service
    | none => setDeferred false

/-- Calls the handler by hand. -/
def onInterrupt : LinkM Board Unit := do
  setDeferred true
  catchUp

/-- Runs a computation on the shared controller, if there is one, and serves the requests left
meanwhile before the lock is given back. -/
def withShared (body : DeviceM Board α) : LinkM Board (Option α) := do
  let board ← get
  if board.shared.locked then throwThe Fault .stalled
  match board.shared.value with
  | none => return none
  | some controller =>
    let result ← holding controller do
      let result ← body
      service
      return result
    catchUp
    return some result

/-- Shares a controller. -/
def install (controller : Controller) : LinkM Board Unit :=
  modify fun board => { board with shared := board.shared.store (some controller) }

/-- Stops sharing a controller. -/
def takeShared : LinkM Board (Option Controller) :=
  modifyGet fun board => (board.shared.value, { board with shared := board.shared.store none })

end Board

end SpiEthernet
