import SpiEthernet.Chip.Basic

/-!
# Reading and writing registers

Most addresses are plain memory. A few behave: the mode register resets the chip, the interrupt
registers are cleared by writing ones, a command register runs a command and shows it for a
while, and a socket's transmit pointer reads back as it was at the last transmission.
-/

namespace SpiEthernet

namespace Chip

/-! ## Transmission -/

/-- The bytes between a socket's transmit pointers, with where they are to go. -/
def stagedPacket (chip : Chip) (s : SocketId) : SentPacket where
  socket := s
  destination := Ipv4.ofOctets
    ((List.range 4).map fun i => chip.memory.read ((SocketRegister.peerIp.address s).toNat + i))
  destinationPort := chip.wordOf .peerPort s
  payload :=
    let start := chip.wordOf .txRead s
    chip.memory.readRing (txBase s).toNat start (chip.wordOf .txWrite s - start).toNat

/-- Lets the peer reply to a packet. -/
def answer (chip : Chip) (packet : SentPacket) : Chip :=
  match chip.replies with
  | [] => chip
  | none :: rest => { chip with replies := rest }
  | some rule :: rest => { chip with replies := rest }.schedule rule.delay (rule.event packet)

/-- Releases the staged bytes of a socket and makes the transmit pointer readable. -/
def releaseTx (chip : Chip) (s : SocketId) : Chip :=
  let pointer := chip.wordOf .txWrite s
  (((chip.setWordOf .txRead s pointer).mapLatch s fun latch =>
    { latch with txWrite := pointer }).setWordOf .txFree s (UInt16.ofNat ringSize))

/-- Ends a transmission that nobody answered; a TCP socket is closed by it. -/
def failTransmit (chip : Chip) (s : SocketId) : Chip :=
  let chip := chip.raiseSocket s SocketFlag.timeout
  if SocketMode.ofRegister? (chip.byteOf .mode s) = some .tcp then chip.setStatus s .closed
  else chip

/-- Transmits the staged bytes of a socket. -/
def transmit (chip : Chip) (s : SocketId) : Chip :=
  let packet := chip.stagedPacket s
  let chip := chip.releaseTx s
  if chip.latches[s].timesOut then chip.failTransmit s
  else
    let chip := (chip.raiseSocket s SocketFlag.sendOk).answer packet
    { chip with sent := chip.sent ++ [packet] }

/-! ## Commands -/

/-- The status of a socket opened with the given mode register. -/
def openedStatus (mode : UInt8) : SocketStatus :=
  match SocketMode.ofRegister? mode with
  | some .tcp => .init
  | some .udp => .udp
  | some .ipRaw => .ipRaw
  | some .macRaw => .macRaw
  | _ => .closed

/-- A chip shows a socket as open in the mode that its driver expects to see. -/
theorem openedStatus_of_mode {raw : UInt8} {mode : SocketMode}
    (h : SocketMode.ofRegister? raw = some mode) : openedStatus raw = mode.openStatus := by
  unfold openedStatus
  rw [h]
  cases mode <;> rfl

/-- Carries out a command. -/
def run (chip : Chip) (s : SocketId) : SocketCommand → Chip
  | .open => (chip.setStatus s (openedStatus (chip.byteOf .mode s))).setPointers s 0 0
  | .listen => chip.setStatus s .listen
  | .connect => (chip.setStatus s .established).raiseSocket s SocketFlag.connected
  | .disconnect => (chip.setStatus s .closed).raiseSocket s SocketFlag.disconnected
  | .close => (chip.setStatus s .closed).setByteOf .interrupt s 0
  | .send | .sendMac | .sendKeep => chip.transmit s
  | .receive =>
    let pointer := chip.wordOf .rxRead s
    (chip.mapLatch s fun latch => { latch with rxRead := pointer }).updateRxSize s

/-- Takes a command code; an unknown one is shown like a command but does nothing. -/
def command (chip : Chip) (s : SocketId) (code : UInt8) : Chip :=
  let latency := chip.commandLatency.toNat
  let chip := chip.setByteOf .command s code
  let chip := chip.mapLatch s fun latch => { latch with busy := latency }
  match SocketCommand.ofCode? code with
  | some command => chip.run s command
  | none => chip

/-! ## Addresses -/

/-- The socket and the offset in its block that an address stands for, if any. -/
def locate (address : UInt16) : Option (SocketId × UInt16) :=
  if h : 0x0400 ≤ address.toNat ∧ address.toNat < 0x0800 then
    some (⟨(address.toNat - 0x0400) / 0x0100, by omega⟩, UInt16.ofNat (address.toNat % 0x0100))
  else none

theorem locate_address (register : SocketRegister) (s : SocketId) :
    locate (register.address s) = some (s, register.offset) := by
  revert s
  cases register <;> decide

/-- Reads a byte of a socket's block. -/
def readSocket (chip : Chip) (s : SocketId) (offset address : UInt16) : UInt8 × Chip :=
  if offset = SocketRegister.command.offset then
    let busy := chip.latches[s].busy
    if 0 < busy then
      (chip.memory.read address.toNat, chip.mapLatch s fun latch => { latch with busy := busy - 1 })
    else (0, chip)
  else if offset = SocketRegister.txWrite.offset then (highByte chip.latches[s].txWrite, chip)
  else if offset = SocketRegister.txWrite.offset + 1 then (lowByte chip.latches[s].txWrite, chip)
  else (chip.memory.read address.toNat, chip)

/-- Reads a byte from a chip that is there. -/
def readPresent (chip : Chip) (address : UInt16) : UInt8 × Chip :=
  if address = CommonRegister.mode.address ∧ 0 < chip.resetBusy then
    (chip.memory.read address.toNat ||| ModeFlag.reset,
      { chip with resetBusy := chip.resetBusy - 1 })
  else if address = CommonRegister.interrupt.address then (chip.interrupts, chip)
  else
    match locate address with
    | some (s, offset) => chip.readSocket s offset address
    | none => (chip.memory.read address.toNat, chip)

/-- Reads a byte. -/
def read (chip : Chip) (address : UInt16) : UInt8 × Chip :=
  match chip.absent with
  | some fill => (fill, chip)
  | none => chip.readPresent address

/-- Clears the bits of a byte in memory that are set in `value`. -/
def clearBits (chip : Chip) (address : UInt16) (value : UInt8) : Chip :=
  chip.poke address (chip.memory.read address.toNat &&& ~~~value)

/-- Writes a byte to a chip that is there. -/
def writePresent (chip : Chip) (address : UInt16) (value : UInt8) : Chip :=
  if address = CommonRegister.mode.address then
    if value &&& ModeFlag.reset ≠ 0 then { chip.powerOn with resetBusy := 3 }
    else chip.poke address value
  else if address = CommonRegister.interrupt.address then
    chip.clearBits address (value &&& InterruptFlag.global)
  else
    match locate address with
    | some (s, offset) =>
      if offset = SocketRegister.interrupt.offset then chip.clearBits address value
      else if offset = SocketRegister.command.offset then chip.command s value
      else chip.poke address value
    | none => chip.poke address value

/-- Writes a byte. -/
def write (chip : Chip) (address : UInt16) (value : UInt8) : Chip :=
  match chip.absent with
  | some _ => chip
  | none => chip.writePresent address value

end Chip

end SpiEthernet
