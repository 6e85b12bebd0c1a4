import SpiEthernet.Controller.Ring

/-!
# The life of a socket

Finding a free slot, opening and closing it, connecting and listening, a socket's options, and
waiting for a transmission to end. The end of a transmission is always read from the sticky
flags, so it does not matter who moved the flags out of the chip.
-/

namespace SpiEthernet

variable {σ : Type} [Host σ]

/-! ## Slots -/

/-- The first of some sockets that is free for a new owner. -/
def firstReusable : List SocketId → Attempt σ SocketId
  | [] => fail .noFreeSocket
  | s :: rest => do
    if (← sure (status s)).isReusable then return s else firstReusable rest

/-- The first socket that is free for a new owner. -/
def allocate : Attempt σ SocketId := firstReusable SocketId.all

/-- The port a socket was opened with. -/
def localPort (s : SocketId) : DeviceM σ UInt16 :=
  onController fun controller => (controller.localPorts[s], controller)

/-! ## Opening and closing -/

/-- Closes a socket at once and forgets everything about it. -/
def close (s : SocketId) : DeviceM σ Unit := do
  issue s .close
  onLink (writeByte (SocketRegister.interrupt.address s) 0xFF)
  changeController (·.forget s)

/-- The wanted port, or the next one to hand out where none is wanted. -/
def choosePort (wanted : UInt16) : DeviceM σ UInt16 :=
  if wanted = 0 then onController Controller.takePort else pure wanted

/-- Programs mode and port of a closed socket, opens it, and returns the port and the status
the socket shows then. -/
def openClosed (s : SocketId) (mode : SocketMode) (flags : UInt8) (wanted : UInt16) :
    DeviceM σ (UInt16 × SocketStatus) := do
  onLink (writeByte (SocketRegister.mode.address s) (mode.code ||| flags))
  let chosen ← choosePort wanted
  onLink (writeWord (SocketRegister.sourcePort.address s) chosen)
  issue s .open
  return (chosen, ← status s)

/-- Opens a socket anew and returns its port. A socket that does not show the status of its
mode afterwards is closed again. Opening in the closed mode is closing. -/
def openSocket (s : SocketId) (mode : SocketMode) (flags : UInt8) (wanted : UInt16) :
    Attempt σ UInt16 := do
  sure (close s)
  if mode = .closed then return 0
  let (chosen, shown) ← sure (openClosed s mode flags wanted)
  if shown ≠ mode.openStatus then
    sure (note (.openFailed s mode shown))
    sure (close s)
    fail (.unexpectedStatus shown.raw)
  sure (changeController (·.setLocalPort s chosen))
  sure (note (.opened s mode chosen))
  return chosen

/-! ## Connections -/

/-- Sets where a socket sends to. -/
def setDestination (s : SocketId) (ip : Ipv4) (destinationPort : UInt16) : DeviceM σ Unit := do
  onLink (writeBlock (SocketRegister.peerIp.address s) ip.octets)
  onLink (writeWord (SocketRegister.peerPort.address s) destinationPort)

/-- Starts a connection; how it goes on shows in the socket's status. -/
def connect (s : SocketId) (ip : Ipv4) (destinationPort : UInt16) : Attempt σ Unit := do
  if ip.isUnusable || destinationPort = 0 then fail .invalidAddress
  sure (setDestination s ip destinationPort)
  sure (issue s .connect)

/-- Waits for a connection from outside, which a socket can only do right after opening. -/
def listen (s : SocketId) : Attempt σ Unit := do
  let shown ← sure (status s)
  if shown ≠ .init then fail (.unexpectedStatus shown.raw)
  sure (issue s .listen)

/-- Starts the orderly end of a connection. -/
def disconnect (s : SocketId) : DeviceM σ Unit := issue s .disconnect

/-! ## Options -/

/-- Sets the protocol number of a raw IP socket, which counts from the next opening on. -/
def setProtocol (s : SocketId) (number : UInt8) : DeviceM σ Unit :=
  onLink (writeByte (SocketRegister.protocol.address s) number)

/-- Sets the type of service of outgoing packets. -/
def setTypeOfService (s : SocketId) (value : UInt8) : DeviceM σ Unit :=
  onLink (writeByte (SocketRegister.typeOfService.address s) value)

/-- Sets the time to live of outgoing packets. -/
def setTimeToLive (s : SocketId) (value : UInt8) : DeviceM σ Unit :=
  onLink (writeByte (SocketRegister.timeToLive.address s) value)

/-- Sets the largest segment of a TCP socket. -/
def setSegmentSize (s : SocketId) (value : UInt16) : DeviceM σ Unit :=
  onLink (writeWord (SocketRegister.segmentSize.address s) value)

/-- Sets the Ethernet address a multicast socket sends to. -/
def setDestinationMac (s : SocketId) (mac : Mac) : DeviceM σ Unit :=
  onLink (writeBlock (SocketRegister.peerHardwareAddress.address s) mac.octets)

/-! ## Interrupt flags -/

/-- The sticky flags of a socket, which stay where they are. -/
def stickyFlags (s : SocketId) : DeviceM σ UInt8 :=
  onController fun controller => (controller.sticky.socket s, controller)

/-- Takes sticky flags of a socket. -/
def takeFlags (s : SocketId) (mask : UInt8) : DeviceM σ UInt8 :=
  onController (·.takeFlags s mask)

/-- Takes a global sticky flag and says whether it was set. -/
def takeGlobal (bit : UInt8) : DeviceM σ Bool := onController (·.takeGlobal bit)

/-- The destination last reported as unreachable. -/
def unreachable : DeviceM σ (Option (Ipv4 × UInt16)) :=
  onController fun controller => (controller.unreachable, controller)

/-! ## The end of a transmission -/

/-- Drops what is left of earlier transmissions. -/
def clearSendFlags (s : SocketId) : DeviceM σ Unit := do
  let _ ← drain
  let _ ← takeFlags s SocketFlag.sendEnd

/-- Looks once whether a transmission has ended. A transmission that failed closes a TCP
socket. -/
def sendEnded (s : SocketId) (tcp : Bool) : Attempt σ (Option Unit) := do
  let _ ← sure drain
  let flags ← sure (takeFlags s SocketFlag.sendEnd)
  if hasBits flags SocketFlag.sendOk then return some ()
  if hasBits flags SocketFlag.timeout then
    sure (note (.sendTimedOut s))
    if tcp then sure (close s)
    fail .sendTimeout
  if tcp then
    if (← sure (status s)) = .closed then
      sure (close s)
      fail .connectionClosed
  return none

/-- Waits until a transmission has ended. -/
def awaitSent (s : SocketId) (tcp : Bool) : Attempt σ Unit := do
  pollWithin (sendEnded s tcp) (← sure patience)

end SpiEthernet
