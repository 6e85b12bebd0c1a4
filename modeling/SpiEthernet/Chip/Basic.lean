import SpiEthernet.Chip.Event
import SpiEthernet.Chip.Memory
import SpiEthernet.Flags

/-!
# The simulated chip

The state of a W5100: memory, what it keeps per socket beside its registers, the interrupt line,
a count of completed frames, and the events still to come. A chip can also be absent, in which
case every read gives the same byte and every write is lost.

This file holds the state and its small parts; `SpiEthernet.Chip.Access` reads and writes
registers, and `SpiEthernet.Chip.Endpoint` puts the chip behind the serial link.
-/

namespace SpiEthernet

/-! ## State -/

/-- What the chip keeps for a socket beside the socket's registers. -/
structure SocketLatch where
  /-- The transmit pointer as of the last transmission, which is what reads of it return. -/
  txWrite : UInt16 := 0
  /-- The receive pointer the chip has accepted. -/
  rxRead : UInt16 := 0
  /-- The reads of the command register that still show the last command. -/
  busy : Nat := 0
  /-- Whether transmissions time out. -/
  timesOut : Bool := false
deriving DecidableEq, Repr

/-- A simulated chip. -/
structure Chip where
  memory : Memory
  /-- The byte every read gives if there is no chip. -/
  absent : Option UInt8
  latches : Vector SocketLatch 4
  /-- The reads of a command register that show a new command. -/
  commandLatency : UInt8
  /-- The reads of the mode register that still show the reset bit. -/
  resetBusy : Nat
  /-- Whether the interrupt line has been asserted and not yet noticed. -/
  edge : Bool
  /-- The number of completed frames. -/
  transactions : Nat
  /-- The events to come, in the order in which they were added. -/
  queue : List Scheduled
  sent : List SentPacket
  /-- The replies to the packets to come, one for each; no packet after them is answered. -/
  replies : List (Option ReplyRule)

namespace Chip

/-! ## Power-up -/

/-- The memory of a chip after a reset. -/
def resetMemory : Memory :=
  let common := (((Memory.zero.writeWord CommonRegister.retryTime.address.toNat 2000).write
    CommonRegister.retryCount.address.toNat 8).write
    CommonRegister.txMemorySize.address.toNat equalShares).write
    CommonRegister.rxMemorySize.address.toNat equalShares
  SocketId.all.foldl
    (fun memory s =>
      memory.writeWord (SocketRegister.txFree.address s).toNat (UInt16.ofNat ringSize))
    common

/-- Sets memory and latches to what they are after a reset. -/
def powerOn (chip : Chip) : Chip :=
  { chip with memory := resetMemory, latches := Vector.replicate 4 {} }

/-- A chip that has just been powered up, or the lack of one. -/
def new (absent : Option UInt8) : Chip where
  memory := resetMemory
  absent
  latches := Vector.replicate 4 {}
  commandLatency := 1
  resetBusy := 0
  edge := false
  transactions := 0
  queue := []
  sent := []
  replies := []

/-! ## Registers in memory -/

/-- The byte a socket's register holds in memory. -/
def byteOf (chip : Chip) (register : SocketRegister) (s : SocketId) : UInt8 :=
  chip.memory.read (register.address s).toNat

/-- The word a socket's register holds in memory. -/
def wordOf (chip : Chip) (register : SocketRegister) (s : SocketId) : UInt16 :=
  chip.memory.readWord (register.address s).toNat

/-- Puts a byte into a socket's register in memory. -/
def setByteOf (chip : Chip) (register : SocketRegister) (s : SocketId) (value : UInt8) : Chip :=
  { chip with memory := chip.memory.write (register.address s).toNat value }

/-- Puts a word into a socket's register in memory. -/
def setWordOf (chip : Chip) (register : SocketRegister) (s : SocketId) (value : UInt16) : Chip :=
  { chip with memory := chip.memory.writeWord (register.address s).toNat value }

/-- Changes what is kept for a socket. -/
def mapLatch (chip : Chip) (s : SocketId) (f : SocketLatch → SocketLatch) : Chip :=
  { chip with latches := chip.latches.set s (f chip.latches[s]) s.isLt }

/-- Puts a status into a socket's status register. -/
def setStatus (chip : Chip) (s : SocketId) (status : SocketStatus) : Chip :=
  chip.setByteOf .status s status.raw

/-- Sets all ring pointers of a socket; both rings are empty then. -/
def setPointers (chip : Chip) (s : SocketId) (tx rx : UInt16) : Chip :=
  let chip := chip.mapLatch s fun latch => { latch with txWrite := tx, rxRead := rx }
  let chip := (chip.setWordOf .txWrite s tx).setWordOf .txRead s tx
  let chip := (chip.setWordOf .rxWrite s rx).setWordOf .rxRead s rx
  (chip.setWordOf .txFree s (UInt16.ofNat ringSize)).setWordOf .rxSize s 0

/-- Recomputes how many received bytes have not been accepted back. -/
def updateRxSize (chip : Chip) (s : SocketId) : Chip :=
  chip.setWordOf .rxSize s (chip.wordOf .rxWrite s - chip.latches[s].rxRead)

/-! ## The interrupt line -/

/-- The bits of the sockets that have a flag raised. -/
def socketInterrupts (chip : Chip) : UInt8 :=
  SocketId.all.foldl
    (fun bits s => if chip.byteOf .interrupt s ≠ 0 then bits ||| s.interruptBit else bits) 0

/-- The value of the interrupt register: its stored bits, and a bit for every socket that has a
flag raised. -/
def interrupts (chip : Chip) : UInt8 :=
  chip.memory.read CommonRegister.interrupt.address.toNat ||| chip.socketInterrupts

/-- Asserts the interrupt line if an enabled bit is set. -/
def assertLine (chip : Chip) : Chip :=
  if chip.interrupts &&& chip.memory.read CommonRegister.interruptMask.address.toNat ≠ 0 then
    { chip with edge := true }
  else chip

/-- Raises flags of a socket. -/
def raiseSocket (chip : Chip) (s : SocketId) (bits : UInt8) : Chip :=
  (chip.setByteOf .interrupt s (chip.byteOf .interrupt s ||| bits)).assertLine

/-- Raises global flags. -/
def raiseGlobal (chip : Chip) (bits : UInt8) : Chip :=
  let address := CommonRegister.interrupt.address.toNat
  { chip with
    memory := chip.memory.write address
      (chip.memory.read address ||| (bits &&& InterruptFlag.global)) }.assertLine

/-! ## Arrivals -/

/-- Stores bytes in a socket's receive ring, or drops them all if they do not fit. -/
def store (chip : Chip) (s : SocketId) (bytes : List UInt8) : Chip :=
  if (chip.wordOf .rxSize s).toNat + bytes.length > ringSize then chip
  else
    let pointer := chip.wordOf .rxWrite s
    let chip := { chip with memory := chip.memory.writeRing (rxBase s).toNat pointer bytes }
    ((chip.setWordOf .rxWrite s (pointer + UInt16.ofNat bytes.length)).updateRxSize s).raiseSocket
      s SocketFlag.received

/-- Stores a datagram with its header in a socket's receive ring. -/
def storeDatagram (chip : Chip) (s : SocketId) (framing : Framing) (source : Ipv4)
    (sourcePort : UInt16) (payload : List UInt8) : Chip :=
  chip.store s (framing.header ⟨source, sourcePort, payload.length⟩ ++ payload)

/-- The chip after an event. -/
def apply (chip : Chip) : Event → Except Fault Chip
  | .socketInterrupt s bits => .ok (chip.raiseSocket s bits)
  | .globalInterrupt bits => .ok (chip.raiseGlobal bits)
  | .udp s source sourcePort payload => .ok (chip.storeDatagram s .udp source sourcePort payload)
  | .tcp s data => .ok (chip.store s data)
  | .ipRaw s source payload => .ok (chip.storeDatagram s .ipRaw source 0 payload)
  | .macRaw s frame => .ok (chip.storeDatagram s .macRaw Ipv4.unspecified 0 frame)
  | .setWord address value =>
    if address.toNat + 1 < memorySize then
      .ok { chip with memory := chip.memory.writeWord address.toNat value }
    else .error (.outOfRange address)
  | .setStatus s status => .ok (chip.setStatus s status)

/-- Whether an event is due. -/
def isDue (chip : Chip) (scheduled : Scheduled) : Bool := scheduled.due ≤ chip.transactions

/-- Lets events happen one after the other. -/
def applyAll (chip : Chip) : List Scheduled → Except Fault Chip
  | [] => .ok chip
  | scheduled :: rest => do (← chip.apply scheduled.event).applyAll rest

/-- Goes over the queue from a place on. An event that is due is taken out, which moves the next
one to its place, and happens; any other event is passed over. -/
def settleFrom (chip : Chip) (place : Nat) : Nat → Except Fault Chip
  | 0 => .error .stalled
  | bound + 1 =>
    match chip.queue[place]? with
    | none => .ok chip
    | some scheduled =>
      if chip.isDue scheduled then do
        let chip ← { chip with queue := chip.queue.eraseIdx place }.apply scheduled.event
        chip.settleFrom place bound
      else chip.settleFrom (place + 1) bound

/-- Lets every event that is due happen. Each step of the scan takes an event out or passes one
over, so it ends within one step for each event and a last one. -/
def settle (chip : Chip) : Except Fault Chip := chip.settleFrom 0 (chip.queue.length + 1)

/-- Counts a completed frame and lets the events that are due happen. -/
def countFrame (chip : Chip) : Except Fault Chip :=
  { chip with transactions := chip.transactions + 1 }.settle

/-- Adds an event that happens once some more frames have been completed. The frame with which it
is due is counted in 64 bits. -/
def schedule (chip : Chip) (delay : Nat) (event : Event) : Chip :=
  { chip with queue := chip.queue ++ [⟨(chip.transactions + delay) % UInt64.size, event⟩] }

/-- A number of polls after which no event to come can show anything new. -/
def patience (chip : Chip) : Nat :=
  chip.queue.foldl (fun most scheduled => max most (scheduled.due - chip.transactions)) 0
    + chip.queue.length + 10000

/-! ## Looking inside -/

/-- The byte at an address, which has to lie in the chip's memory. -/
def peek (chip : Chip) (address : UInt16) : Except Fault UInt8 :=
  if address.toNat < memorySize then .ok (chip.memory.read address.toNat)
  else .error (.outOfRange address)

/-- The word at an address; both bytes have to lie in the chip's memory. -/
def peekWord (chip : Chip) (address : UInt16) : Except Fault UInt16 :=
  if address.toNat + 1 < memorySize then .ok (chip.memory.readWord address.toNat)
  else .error (.outOfRange address)

/-- Stores a byte in memory. -/
def poke (chip : Chip) (address : UInt16) (value : UInt8) : Chip :=
  { chip with memory := chip.memory.write address.toNat value }

/-- Changes the byte at an address, which has to lie in the chip's memory. -/
def pokeByte (chip : Chip) (address : UInt16) (value : UInt8) : Except Fault Chip :=
  if address.toNat < memorySize then .ok (chip.poke address value)
  else .error (.outOfRange address)

/-- Changes the word at an address; both bytes have to lie in the chip's memory. -/
def pokeWord (chip : Chip) (address value : UInt16) : Except Fault Chip :=
  chip.apply (.setWord address value)

/-- The bytes of a socket's transmit ring from a pointer on. -/
def txRing (chip : Chip) (s : SocketId) (pointer : UInt16) (count : Nat) : List UInt8 :=
  chip.memory.readRing (txBase s).toNat pointer count

end Chip

end SpiEthernet
