import SpiEthernet.Error
import SpiEthernet.Frame
import SpiEthernet.Notice

/-!
# The serial link

What the driver asks of the board it runs on: the chip-select line, the exchange of one byte,
and a way to hold back the chip's interrupt. On top of it stand whole transactions. A
transaction holds the interrupt back once, clocks its frames one after the other, and then lets
the interrupt through again if it was let through before; an empty transaction touches nothing.

The state of the board is a parameter throughout, so whatever holds here holds for every board.
-/

namespace SpiEthernet

/-- Computations on a board with state `σ`. -/
abbrev LinkM (σ : Type) := StateT σ (Except Fault)

/-- A board's side of the serial link. -/
class SerialLink (σ : Type) where
  /-- Drives the chip-select line low. -/
  select : LinkM σ Unit
  /-- Drives the chip-select line high. -/
  deselect : LinkM σ Unit
  /-- Clocks one byte out and returns the byte clocked in. -/
  transfer : UInt8 → LinkM σ UInt8
  /-- Holds the interrupt back and says whether it was let through before. -/
  maskInterrupt : LinkM σ Bool
  /-- Undoes `maskInterrupt`, given its answer. -/
  restoreInterrupt : Bool → LinkM σ Unit

/-- A board that also keeps a journal and bounds how long waiting can be of use. -/
class Host (σ : Type) extends SerialLink σ where
  /-- Adds a remark to the journal. -/
  record : Notice → LinkM σ Unit
  /-- A number of polls after which nothing new will be seen. -/
  patience : σ → Nat

open SerialLink

variable {σ : Type} [SerialLink σ]

/-! ## Frames and transactions -/

/-- Clocks one frame with the chip selected and returns the byte of its data phase. -/
def exchange (frame : Frame) : LinkM σ UInt8 := do
  select
  let _ ← transfer frame.direction.code
  let _ ← transfer (highByte frame.address)
  let _ ← transfer (lowByte frame.address)
  let reply ← transfer frame.data
  deselect
  return reply

/-- Runs a computation with the interrupt held back. -/
def critical {α : Type} (body : LinkM σ α) : LinkM σ α := do
  let before ← maskInterrupt
  let result ← body
  restoreInterrupt before
  return result

/-- Clocks a list of frames as one transaction and returns their replies. -/
def transact (frames : List Frame) : LinkM σ (List UInt8) :=
  match frames with
  | [] => return []
  | frames => critical (frames.mapM exchange)

/-! ## Bytes and blocks -/

/-- Writes bytes to consecutive addresses. -/
def writeBlock (address : UInt16) (data : List UInt8) : LinkM σ Unit := do
  let _ ← transact (Frame.writes address data)

/-- Reads bytes from consecutive addresses. -/
def readBlock (address : UInt16) (count : Nat) : LinkM σ (List UInt8) :=
  transact (Frame.reads address count)

/-- Writes one byte. -/
def writeByte (address : UInt16) (value : UInt8) : LinkM σ Unit := do
  let _ ← critical (exchange (Frame.write address value))

/-- Reads one byte. -/
def readByte (address : UInt16) : LinkM σ UInt8 :=
  critical (exchange (Frame.read address))

/-! ## Words and addresses -/

/-- Writes a word, high byte first, as two transactions. -/
def writeWord (address value : UInt16) : LinkM σ Unit := do
  writeByte address (highByte value)
  writeByte (address + 1) (lowByte value)

/-- Reads a word, high byte first, as two transactions. -/
def readWord (address : UInt16) : LinkM σ UInt16 := do
  let high ← readByte address
  let low ← readByte (address + 1)
  return word high low

/-- Reads an IPv4 address. -/
def readIpv4 (address : UInt16) : LinkM σ Ipv4 := do
  return Ipv4.ofOctets (← readBlock address 4)

/-- Reads an Ethernet address. -/
def readMac (address : UInt16) : LinkM σ Mac := do
  return Mac.ofOctets (← readBlock address 6)

end SpiEthernet
