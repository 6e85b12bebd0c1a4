import SpiEthernet.Controller.Socket
import SpiEthernet.Datagram

/-!
# Datagrams

UDP datagrams are built piece by piece in the transmit ring or sent in one go; raw datagrams
are always sent in one go. A received datagram is read in two steps: its header, whose layout
follows the socket's protocol, and then its payload, of which the caller may want only a part.
-/

namespace SpiEthernet

variable {σ : Type} [Host σ]

/-! ## Sending -/

/-- Begins a datagram by setting its destination. -/
def startDatagram (s : SocketId) (ip : Ipv4) (destinationPort : UInt16) : Attempt σ Unit := do
  if ip = Ipv4.unspecified || destinationPort = 0 then fail .invalidAddress
  sure (setDestination s ip destinationPort)

/-- Stages as much of the data as fits, `offset` bytes into the datagram being built, and
returns how much that is. -/
def buffer (s : SocketId) (offset : UInt16) (data : List UInt8) : Attempt σ Nat := do
  let free := (← sure (freeTx s)).toNat - offset.toNat
  let fitting := data.take free
  stage s offset fitting
  return fitting.length

/-- Transmits the datagram that was built. -/
def sendDatagram (s : SocketId) : Attempt σ Unit := do
  sure (clearSendFlags s)
  sure (issue s .send)
  awaitSent s false

/-- Refuses data that do not fit into the transmit ring, and stages the others. -/
def stageWhole (s : SocketId) (data : List UInt8) : Attempt σ Unit := do
  let free := (← sure (freeTx s)).toNat
  if data.length > free then fail (.insufficientSpace data.length free)
  stage s 0 data

/-- Sends one datagram and returns its length. -/
def sendTo (s : SocketId) (data : List UInt8) (ip : Ipv4) (destinationPort : UInt16) :
    Attempt σ Nat := do
  startDatagram s ip destinationPort
  stageWhole s data
  sendDatagram s
  return data.length

/-- Runs an attempt and closes a socket if it fails. -/
def closingOnFailure {α : Type} (s : SocketId) (action : Attempt σ α) : Attempt σ α :=
  tryCatchThe Error action fun cause => do
    sure (close s)
    fail cause

/-- Sends data on a raw socket to whatever destination is set, and returns their length. A
transmission that fails closes the socket. -/
def sendRaw (s : SocketId) (data : List UInt8) : Attempt σ Nat := do
  stageWhole s data
  closingOnFailure s (sendDatagram s)
  return data.length

/-- Sends one raw IP datagram and returns its length. -/
def sendRawTo (s : SocketId) (data : List UInt8) (ip : Ipv4) : Attempt σ Nat := do
  if ip = Ipv4.unspecified then fail .invalidAddress
  sure (onLink (writeBlock (SocketRegister.peerIp.address s) ip.octets))
  sendRaw s data

/-! ## Receiving -/

/-- Takes the header of the next datagram, if there is one. A length beyond what is pending
is cut down to it. -/
def receiveHeader (s : SocketId) : Attempt σ (Option DatagramInfo) := do
  let framing := Framing.ofRegister (← sure (onLink (readByte (SocketRegister.mode.address s))))
  let pending := (← sure (pendingRx s)).toNat
  if pending < framing.headerLength then return none
  let info := framing.decode (← fetch s framing.headerLength false)
  sure (issue s .receive)
  return some { info with length := min info.length (pending - framing.headerLength) }

/-- Takes the next datagram, if there is one, and returns its description with the first `room`
bytes of its payload. The rest of the payload is dropped. -/
def receiveFrom (s : SocketId) (room : Nat) : Attempt σ (Option (DatagramInfo × List UInt8)) := do
  let some info ← receiveHeader s | return none
  let count := min info.length room
  let bytes ← fetch s count false
  sure (skip s (UInt16.ofNat (info.length - count)))
  sure (issue s .receive)
  return some (info, bytes)

/-- Takes the next datagram, if there is one, into the caller's buffer. Where its payload ends, the
buffer stays as it was. -/
def receiveInto (s : SocketId) (buffer : List UInt8) :
    Attempt σ (Option DatagramInfo × List UInt8) := do
  let some (info, bytes) ← receiveFrom s buffer.length | return (none, buffer)
  return (some info, fill buffer (.ok bytes))

end SpiEthernet
