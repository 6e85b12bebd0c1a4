import SpiEthernet.Chip.Access
import SpiEthernet.Frame

/-!
# The chip's end of the serial link

A frame starts when the chip is selected and takes effect with its fourth byte. It counts when
the chip is deselected, provided it had exactly four bytes; then the events that are due happen.
What each frame did is kept in a trace.

* `clock_bytes` : four bytes clocked into a selected chip are served as the frame they spell.
* `serve_write`, `serve_read` : what serving a frame does.
-/

namespace SpiEthernet

/-! ## State -/

/-- One access to the chip, as it was seen on the link. -/
structure Access where
  direction : Direction
  address : UInt16
  data : UInt8
  /-- Whether the interrupt was held back. -/
  masked : Bool
deriving DecidableEq, Repr

/-- A chip with the state of its serial link. -/
structure Endpoint where
  chip : Chip
  selected : Bool
  /-- The bytes clocked in since the chip was selected. -/
  frame : List UInt8
  /-- Whether the interrupt is held back. -/
  masked : Bool
  trace : Array Access

namespace Endpoint

/-- An idle link to a chip that has just been powered up, or to none. -/
def new (absent : Option UInt8) : Endpoint where
  chip := Chip.new absent
  selected := false
  frame := []
  masked := false
  trace := #[]

/-! ## The select line -/

/-- Drives the select line low. -/
def select (endpoint : Endpoint) : Endpoint := { endpoint with selected := true, frame := [] }

/-- Drives the select line high. -/
def deselect (endpoint : Endpoint) : Except Fault Endpoint := do
  let ⟨chip, _, frame, masked, trace⟩ := endpoint
  let chip ← if frame.length = 4 then chip.countFrame else pure chip
  return ⟨chip, false, [], masked, trace⟩

/-! ## Clocking bytes -/

/-- Carries out the access that four bytes stand for and returns the byte of the data phase. An
unknown first byte does nothing. -/
def serve (endpoint : Endpoint) (code high low data : UInt8) : UInt8 × Endpoint :=
  let ⟨chip, selected, frame, masked, trace⟩ := endpoint
  let address := word high low
  if code = Direction.write.code then
    let entry : Access := ⟨.write, address, data, masked⟩
    (0, ⟨chip.write address data, selected, frame, masked, trace.push entry⟩)
  else if code = Direction.read.code then
    let (value, chip) := chip.read address
    let entry : Access := ⟨.read, address, value, masked⟩
    (value, ⟨chip, selected, frame, masked, trace.push entry⟩)
  else (0, endpoint)

/-- Clocks a byte in and returns the byte clocked out. -/
def transfer (endpoint : Endpoint) (byte : UInt8) : UInt8 × Endpoint :=
  if endpoint.selected then
    let frame := endpoint.frame ++ [byte]
    let endpoint := { endpoint with frame }
    match frame with
    | [code, high, low, data] => endpoint.serve code high low data
    | _ => (0, endpoint)
  else (0, endpoint)

/-! ## The interrupt -/

/-- Holds the interrupt back and says whether it was let through before. -/
def mask (endpoint : Endpoint) : Bool × Endpoint :=
  (!endpoint.masked, { endpoint with masked := true })

/-- Lets the interrupt through. -/
def unmask (endpoint : Endpoint) : Endpoint := { endpoint with masked := false }

/-- Clears the mark of an assertion of the interrupt line and says whether there was one. -/
def takeEdge (endpoint : Endpoint) : Bool × Endpoint :=
  let ⟨chip, selected, frame, masked, trace⟩ := endpoint
  (chip.edge, ⟨{ chip with edge := false }, selected, frame, masked, trace⟩)

/-! ## Whole frames -/

/-- Clocks bytes in one after the other and returns the last byte clocked out. -/
def clock (endpoint : Endpoint) (bytes : List UInt8) : UInt8 × Endpoint :=
  bytes.foldl (fun (_, endpoint) byte => endpoint.transfer byte) (0, endpoint)

theorem clock_bytes (endpoint : Endpoint) (frame : Frame) :
    endpoint.select.clock frame.bytes =
      { endpoint with selected := true, frame := frame.bytes }.serve frame.direction.code
        (highByte frame.address) (lowByte frame.address) frame.data := by
  simp [clock, Frame.bytes, transfer, select]

theorem serve_write (endpoint : Endpoint) (address : UInt16) (data : UInt8) :
    endpoint.serve Direction.write.code (highByte address) (lowByte address) data =
      (0, { endpoint with
        chip := endpoint.chip.write address data
        trace := endpoint.trace.push ⟨.write, address, data, endpoint.masked⟩ }) := by
  simp [serve]

theorem serve_read (endpoint : Endpoint) (address : UInt16) :
    endpoint.serve Direction.read.code (highByte address) (lowByte address) 0 =
      ((endpoint.chip.read address).1, { endpoint with
        chip := (endpoint.chip.read address).2
        trace := endpoint.trace.push
          ⟨.read, address, (endpoint.chip.read address).1, endpoint.masked⟩ }) := by
  simp [serve, Direction.code]

end Endpoint

end SpiEthernet
