import SpiEthernet.Datagram
import SpiEthernet.Socket.Id

/-!
# What happens to the chip from outside

Packets that arrive, interrupts that are raised and registers that change by themselves, each
either at once or when a number of frames has been completed; and the packets that leave the
chip, with the replies a peer makes to them.
-/

namespace SpiEthernet

/-! ## Events -/

/-- Something that happens to the chip from outside. -/
inductive Event where
  /-- Raises flags of one socket. -/
  | socketInterrupt (s : SocketId) (bits : UInt8)
  /-- Raises global flags. -/
  | globalInterrupt (bits : UInt8)
  /-- A UDP datagram arrives. -/
  | udp (s : SocketId) (source : Ipv4) (sourcePort : UInt16) (payload : List UInt8)
  /-- A stretch of a TCP stream arrives. -/
  | tcp (s : SocketId) (data : List UInt8)
  /-- A raw IP datagram arrives. -/
  | ipRaw (s : SocketId) (source : Ipv4) (payload : List UInt8)
  /-- An Ethernet frame arrives. -/
  | macRaw (s : SocketId) (frame : List UInt8)
  /-- A word of memory changes. -/
  | setWord (address value : UInt16)
  /-- A socket's status changes. -/
  | setStatus (s : SocketId) (status : SocketStatus)
deriving DecidableEq, Repr

/-- An event with the frame count at which it is due. -/
structure Scheduled where
  due : Nat
  event : Event
deriving DecidableEq, Repr

/-! ## Packets that leave -/

/-- A datagram or segment the chip has transmitted. -/
structure SentPacket where
  socket : SocketId
  destination : Ipv4
  destinationPort : UInt16
  payload : List UInt8
deriving DecidableEq, Repr

/-- How a peer replies to a packet. -/
structure ReplyRule where
  /-- The frames until the reply arrives. -/
  delay : Nat
  source : Ipv4
  sourcePort : UInt16
  payload : List UInt8
  /-- If given, the reply begins with the packet's first word plus this number. -/
  idOffset : Option UInt16
deriving DecidableEq, Repr

/-- The payload of the reply to a packet. The first word is filled in only where both the
packet and the reply have one. -/
def ReplyRule.payloadFor (rule : ReplyRule) (packet : SentPacket) : List UInt8 :=
  match rule.idOffset, rule.payload, packet.payload with
  | some offset, _ :: _ :: rest, high :: low :: _ => wordBytes (word high low + offset) ++ rest
  | _, payload, _ => payload

/-- The reply to a packet as an event. -/
def ReplyRule.event (rule : ReplyRule) (packet : SentPacket) : Event :=
  .udp packet.socket rule.source rule.sourcePort (rule.payloadFor packet)

end SpiEthernet
