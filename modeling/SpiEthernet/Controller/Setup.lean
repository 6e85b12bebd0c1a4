import SpiEthernet.Controller.Command

/-!
# Reset and network settings

A reset writes the reset bit and waits for the chip to drop it, divides the ring memory evenly,
and checks that the chip kept the division. Only then are interrupts enabled and everything the
driver remembers forgotten; a reset that fails leaves the driver's memory alone.
-/

namespace SpiEthernet

variable {σ : Type} [Host σ]

/-! ## Reset -/

/-- The interrupts enabled after a reset. -/
def enabledInterrupts : UInt8 :=
  InterruptFlag.sockets ||| InterruptFlag.conflict ||| InterruptFlag.unreachable

/-- Reads the mode register until the reset bit is gone, and says whether that happened within
a number of reads. -/
def resetFinished : Nat → DeviceM σ Bool
  | 0 => return false
  | polls + 1 => do
    let mode ← onLink (readByte CommonRegister.mode.address)
    if hasBits mode ModeFlag.reset then resetFinished polls else return true

/-- Whether the chip shows the division of memory that a reset programs. -/
def probe : DeviceM σ Bool := do
  return (← onLink (readByte CommonRegister.txMemorySize.address)) == equalShares

/-- Resets the chip and forgets everything about it. -/
def init : Attempt σ Unit := do
  sure (onLink (writeByte CommonRegister.mode.address ModeFlag.reset))
  if !(← sure (resetFinished resetPollLimit)) then
    sure (note (.resetStuck resetPollLimit))
    fail .resetTimeout
  sure (onLink (writeByte CommonRegister.txMemorySize.address equalShares))
  sure (onLink (writeByte CommonRegister.rxMemorySize.address equalShares))
  if !(← sure probe) then
    sure (note .layoutMismatch)
    fail .notResponding
  sure (onLink (writeByte CommonRegister.interruptMask.address enabledInterrupts))
  sure (changeController fun _ => Controller.new)
  sure (note .ready)

/-! ## Addresses -/

/-- Sets the chip's Ethernet address. -/
def setMac (mac : Mac) : DeviceM σ Unit :=
  onLink (writeBlock CommonRegister.hardwareAddress.address mac.octets)

/-- Sets the chip's IPv4 address. -/
def setIp (ip : Ipv4) : DeviceM σ Unit :=
  onLink (writeBlock CommonRegister.ipAddress.address ip.octets)

/-- Sets the chip's gateway. -/
def setGateway (gateway : Ipv4) : DeviceM σ Unit :=
  onLink (writeBlock CommonRegister.gateway.address gateway.octets)

/-- Sets the chip's subnet mask. -/
def setSubnet (subnet : Ipv4) : DeviceM σ Unit :=
  onLink (writeBlock CommonRegister.subnet.address subnet.octets)

/-- Sets all addresses of the chip. -/
def configure (config : NetConfig) : DeviceM σ Unit := do
  setMac config.mac
  setIp config.ip
  setGateway config.gateway
  setSubnet config.subnet
  note (.configured config.ip config.gateway config.subnet)

/-- The addresses a chip reports. -/
structure NetworkReport where
  mac : Mac
  ip : Ipv4
  gateway : Ipv4
  subnet : Ipv4
deriving DecidableEq, Repr

/-- Reads the addresses of the chip. -/
def network : DeviceM σ NetworkReport := do
  let mac ← onLink (readMac CommonRegister.hardwareAddress.address)
  let ip ← onLink (readIpv4 CommonRegister.ipAddress.address)
  let gateway ← onLink (readIpv4 CommonRegister.gateway.address)
  let subnet ← onLink (readIpv4 CommonRegister.subnet.address)
  return { mac, ip, gateway, subnet }

/-! ## Retransmission -/

/-- Sets when and how often the chip sends again. -/
def setRetry (retry : RetryConfig) : DeviceM σ Unit := do
  onLink (writeWord CommonRegister.retryTime.address retry.timeout)
  onLink (writeByte CommonRegister.retryCount.address retry.count)

/-- Reads when and how often the chip sends again. -/
def retry : DeviceM σ RetryConfig := do
  let timeout ← onLink (readWord CommonRegister.retryTime.address)
  let count ← onLink (readByte CommonRegister.retryCount.address)
  return { timeout, count }

end SpiEthernet
