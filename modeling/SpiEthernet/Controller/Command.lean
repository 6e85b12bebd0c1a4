import SpiEthernet.Controller.Basic

/-!
# Commands and interrupts

A command is written to a socket's command register, and it is accepted once the register reads
zero. Interrupts are collected in passes: each pass reads the interrupt register, moves the
flags of every socket it names into the sticky flags and clears exactly those in the chip; the
last pass is the first that reads zero. A line that never gets quiet is given up after 64
passes.
-/

namespace SpiEthernet

variable {σ : Type} [Host σ]

/-! ## Commands -/

/-- Whether a socket's command register reads zero. -/
def commandAccepted (s : SocketId) : DeviceM σ (Option Unit) := do
  let value ← onLink (readByte (SocketRegister.command.address s))
  return if value = 0 then some () else none

/-- Gives a socket a command and waits until the chip has accepted it. -/
def issue (s : SocketId) (command : SocketCommand) : DeviceM σ Unit := do
  onLink (writeByte (SocketRegister.command.address s) command.code)
  pollWithin (commandAccepted s) (← patience)
  note (.commandDone s command)

/-- The status of a socket. -/
def status (s : SocketId) : DeviceM σ SocketStatus := do
  let raw ← onLink (readByte (SocketRegister.status.address s))
  return SocketStatus.ofByte raw

/-! ## Collecting interrupts -/

/-- The passes after which a busy interrupt line is given up. -/
def drainPassLimit : Nat := 64

/-- Moves the flags of a socket out of the chip, if the interrupt register names the socket. -/
def drainSocket (seen : UInt8) (s : SocketId) : DeviceM σ Unit := do
  if hasBits seen s.interruptBit then
    let raw ← onLink (readByte (SocketRegister.interrupt.address s))
    if raw ≠ 0 then
      changeController (·.mapSticky (·.recordSocket s raw))
      onLink (writeByte (SocketRegister.interrupt.address s) raw)

/-- Remembers the destination that the chip reports as unreachable. -/
def latchUnreachable : DeviceM σ Unit := do
  let ip ← onLink (readIpv4 CommonRegister.unreachableIp.address)
  let destinationPort ← onLink (readWord CommonRegister.unreachablePort.address)
  note (.unreachable ip destinationPort)
  changeController fun controller => { controller with unreachable := some (ip, destinationPort) }

/-- Moves the global flags out of the chip. -/
def drainGlobal (seen : UInt8) : DeviceM σ Unit := do
  if hasBits seen InterruptFlag.unreachable then latchUnreachable
  if hasBits seen InterruptFlag.conflict then note .addressConflict
  changeController (·.mapSticky (·.recordGlobal seen))
  let global := seen &&& InterruptFlag.global
  if global ≠ 0 then onLink (writeByte CommonRegister.interrupt.address global)

/-- Runs passes until one reads zero, and returns all bits read, added to `seen`. -/
def drainPasses (seen : UInt8) : Nat → DeviceM σ UInt8
  | 0 => do
    note (.lineBusy drainPassLimit)
    return seen
  | passes + 1 => do
    let current ← onLink (readByte CommonRegister.interrupt.address)
    if current = 0 then return seen
    SocketId.all.forM (drainSocket current)
    drainGlobal current
    drainPasses (seen ||| current) passes

/-- Moves all interrupt flags out of the chip and returns every bit of the interrupt register
that was seen. -/
def drain : DeviceM σ UInt8 := drainPasses 0 drainPassLimit

end SpiEthernet
