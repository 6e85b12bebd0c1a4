import SpiEthernet.Config
import SpiEthernet.Link
import SpiEthernet.Sticky

/-!
# The controller and its device

The controller is what the driver remembers about one chip: the ports its sockets were opened
with, the next port to hand out, and the interrupt flags it has collected. A device is a
controller together with the board that leads to its chip; the driver's operations are
computations on a device.

An operation that can fail is an `Attempt`: a failure ends it, and what it has done to the
device until then stays done. Waiting is polling with a bound taken from the board.

* `toNat_nextPort_takePort` : the ports handed out run through 49152 to 65535 and start again.
-/

namespace SpiEthernet

/-! ## State -/

/-- What the driver remembers about a chip. -/
structure Controller where
  /-- The port each socket was opened with, or zero. -/
  localPorts : Vector UInt16 4
  /-- The next port for a socket opened without one. -/
  nextPort : UInt16
  /-- The interrupt flags collected from the chip. -/
  sticky : StickyFlags
  /-- The destination last reported as unreachable. -/
  unreachable : Option (Ipv4 × UInt16)
deriving DecidableEq, Repr

namespace Controller

/-- The memory of a driver that has done nothing yet. -/
def new : Controller where
  localPorts := Vector.replicate 4 0
  nextPort := firstEphemeralPort
  sticky := StickyFlags.empty
  unreachable := none

/-- Remembers the port of a socket. -/
def setLocalPort (controller : Controller) (s : SocketId) (value : UInt16) : Controller :=
  { controller with localPorts := controller.localPorts.set s value s.isLt }

/-- Hands out a port; after the last one the first comes again. -/
def takePort (controller : Controller) : UInt16 × Controller :=
  let current := controller.nextPort
  (current, { controller with
    nextPort := if current = 65535 then firstEphemeralPort else current + 1 })

theorem toNat_nextPort_takePort (controller : Controller) :
    controller.takePort.2.nextPort.toNat =
      if controller.nextPort.toNat = 65535 then 49152 else controller.nextPort.toNat + 1 := by
  have := controller.nextPort.toNat_lt
  simp only [takePort, ← UInt16.toNat_inj]
  split
  · next h => simp_all [firstEphemeralPort]
  · next h =>
    simp only [UInt16.reduceToNat] at h
    rw [if_neg h, UInt16.toNat_add]
    simp only [UInt16.reduceToNat]
    omega

/-- Changes the collected flags. -/
def mapSticky (controller : Controller) (f : StickyFlags → StickyFlags) : Controller :=
  { controller with sticky := f controller.sticky }

/-- Takes collected flags of a socket. -/
def takeFlags (controller : Controller) (s : SocketId) (mask : UInt8) : UInt8 × Controller :=
  let (bits, sticky) := controller.sticky.takeSocket s mask
  (bits, { controller with sticky })

/-- Takes a collected global flag. -/
def takeGlobal (controller : Controller) (bit : UInt8) : Bool × Controller :=
  let (taken, sticky) := controller.sticky.takeGlobal bit
  (taken, { controller with sticky })

/-- Forgets everything about a socket. -/
def forget (controller : Controller) (s : SocketId) : Controller :=
  (controller.mapSticky (·.clearSocket s)).setLocalPort s 0

end Controller

/-- A controller and the board that leads to its chip. -/
structure Device (σ : Type) where
  board : σ
  controller : Controller

/-! ## Computations -/

/-- Computations on a device. -/
abbrev DeviceM (σ : Type) := StateT (Device σ) (Except Fault)

/-- Computations on a device that can fail. -/
abbrev Attempt (σ : Type) := ExceptT Error (DeviceM σ)

variable {σ α : Type}

/-- Runs a computation on the board of a device. -/
def onLink (action : LinkM σ α) : DeviceM σ α := fun ⟨board, controller⟩ => do
  let (result, board) ← action board
  return (result, ⟨board, controller⟩)

/-- Runs a computation on the controller of a device. -/
def onController (action : Controller → α × Controller) : DeviceM σ α :=
  fun ⟨board, controller⟩ =>
    let (result, controller) := action controller
    return (result, ⟨board, controller⟩)

/-- Changes the controller of a device. -/
def changeController (f : Controller → Controller) : DeviceM σ Unit :=
  onController fun controller => ((), f controller)

/-- A computation that cannot fail, as one that can. -/
def sure (action : DeviceM σ α) : Attempt σ α := ExceptT.lift action

/-- Ends an attempt with a failure. -/
def fail (cause : Error) : Attempt σ α := throwThe Error cause

/-- Adds a remark to the board's journal. -/
def note [Host σ] (notice : Notice) : DeviceM σ Unit := onLink (Host.record notice)

/-! ## Waiting -/

/-- Repeats a step until it gives a result, at most a number of times. -/
def pollWithin {m : Type → Type} [Monad m] [MonadExceptOf Fault m] (step : m (Option α)) :
    Nat → m α
  | 0 => throwThe Fault .stalled
  | bound + 1 => do
    match ← step with
    | some result => return result
    | none => pollWithin step bound

/-- The number of polls after which waiting on a device is of no use. -/
def patience [Host σ] : DeviceM σ Nat := fun device =>
  return (Host.patience device.board, device)

end SpiEthernet
