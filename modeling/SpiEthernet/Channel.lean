import SpiEthernet.Controller.Packet
import SpiEthernet.Controller.Stream

/-!
# UDP channels

A channel holds one socket open for UDP. Outgoing datagrams are begun, written to any number of
times and ended; incoming datagrams are selected one at a time and read in pieces. What is left
unread of a datagram is skipped when the next one is selected, so no byte of one datagram is
ever read as part of another.
-/

namespace SpiEthernet

/-! ## State -/

/-- A socket open for UDP with the datagrams it is working on. -/
structure Channel where
  socket : SocketId
  localPort : UInt16
  /-- The bytes written to the outgoing datagram, if one was begun. -/
  written : Option UInt16
  /-- The unread bytes of the incoming datagram. -/
  remaining : Nat
  /-- Where the incoming datagram came from. -/
  remote : Ipv4 × UInt16
deriving DecidableEq, Repr

/-- A channel that has neither sent nor received anything. -/
def Channel.fresh (socket : SocketId) (localPort : UInt16) : Channel :=
  { socket, localPort, written := none, remaining := 0, remote := (Ipv4.unspecified, 0) }

/-- Computations on a channel. -/
abbrev ChannelM (σ : Type) := StateT Channel (DeviceM σ)

/-- Computations on a channel that can fail. -/
abbrev ChannelAttempt (σ : Type) := ExceptT Error (ChannelM σ)

namespace Channel

variable {σ α : Type}

/-- Runs a computation on the device of a channel, given the channel's socket. -/
def onSocket (action : SocketId → Attempt σ α) : ChannelAttempt σ α :=
  ExceptT.mk fun channel => do
    let result ← (action channel.socket).run
    return (result, channel)

/-- The channel a computation runs on. -/
def current : ChannelAttempt σ Channel := ExceptT.lift get

/-- Changes the channel. -/
def change (f : Channel → Channel) : ChannelAttempt σ Unit := ExceptT.lift (modify f)

/-- Ends a computation on a channel with a failure. -/
def failWith (cause : Error) : ChannelAttempt σ α := throwThe Error cause

variable [Host σ]

/-! ## Opening -/

/-- Opens a free socket for UDP. -/
def begin (wanted : UInt16) : Attempt σ Channel := do
  let s ← allocate
  return fresh s (← openSocket s .udp 0 wanted)

/-- Opens a free socket for the datagrams of a multicast group. The group's addresses are set
before the socket is opened. -/
def beginMulticast (group : Ipv4) (wanted : UInt16) : Attempt σ Channel := do
  if !group.isMulticast then fail .invalidAddress
  let s ← allocate
  startDatagram s group wanted
  sure (setDestinationMac s group.multicastMac)
  let chosen ← openSocket s .udp OptionFlag.multicast wanted
  sure (note (.joined s group))
  return fresh s chosen

/-! ## Sending -/

/-- Begins a datagram; one that was begun before and not ended is forgotten. -/
def beginPacket (ip : Ipv4) (destinationPort : UInt16) : ChannelAttempt σ Unit := do
  onSocket fun s => startDatagram s ip destinationPort
  change fun channel => { channel with written := some 0 }

/-- Adds to the datagram that was begun as much of the data as fits, and returns how much that
is. It is a failure if nothing fits of data that are not empty. -/
def writePacket (data : List UInt8) : ChannelAttempt σ Nat := do
  let some offset := (← current).written | failWith .noPacket
  let count ← onSocket fun s => buffer s offset data
  if count = 0 && !data.isEmpty then
    let free := (← onSocket fun s => sure (freeTx s)).toNat - offset.toNat
    failWith (.insufficientSpace data.length free)
  change fun channel => { channel with written := some (offset + UInt16.ofNat count) }
  return count

/-- Writes pieces, at most `fuel` of them, until all of the data is written. -/
def writeRest (data : List UInt8) : Nat → ChannelAttempt σ Unit
  | 0 => return ()
  | fuel + 1 => do
    if !data.isEmpty then
      let count ← writePacket data
      writeRest (data.drop count) fuel

/-- Adds all of the data to the datagram that was begun, piece by piece, or fails at the first
piece of which nothing fits. Each piece has at least one byte, so there are no more pieces than
bytes. -/
def writeAll (data : List UInt8) : ChannelAttempt σ Unit := writeRest data data.length

/-- Transmits the datagram that was begun. -/
def endPacket : ChannelAttempt σ Unit := do
  if (← current).written.isNone then failWith .noPacket
  change fun channel => { channel with written := none }
  onSocket sendDatagram

/-- Transmits the datagram that was begun, if there is one. -/
def flush : ChannelAttempt σ Unit := do
  if (← current).written.isSome then endPacket

/-! ## Receiving -/

/-- Drops what is unread of the incoming datagram. -/
def skipRest : ChannelAttempt σ Unit := do
  let remaining := (← current).remaining
  if 0 < remaining then
    onSocket fun s => sure do
      skip s (UInt16.ofNat remaining)
      issue s .receive
    change fun channel => { channel with remaining := 0 }

/-- Goes on to the next incoming datagram and returns its length, or zero if there is none. -/
def parsePacket : ChannelAttempt σ Nat := do
  skipRest
  let some info ← onSocket receiveHeader | return 0
  change fun channel =>
    { channel with remaining := info.length, remote := (info.source, info.sourcePort) }
  return info.length

/-- Reads the next bytes of the incoming datagram, at most `room` many. -/
def readPacket (room : Nat) : ChannelAttempt σ (List UInt8) := do
  let count := min (← current).remaining room
  if count = 0 then return []
  let bytes ← onSocket fun s => do
    let bytes ← fetch s count false
    sure (issue s .receive)
    return bytes
  change fun channel => { channel with remaining := channel.remaining - count }
  return bytes

/-- The next unread byte of the incoming datagram, which stays where it is. -/
def peekPacket : ChannelAttempt σ (Option UInt8) := do
  if (← current).remaining = 0 then return none
  onSocket peekByte

/-- The status of the channel's socket. -/
def shown : ChannelAttempt σ SocketStatus := onSocket fun s => sure (status s)

/-! ## Use -/

/-- Runs a computation on a channel and closes the channel's socket afterwards. -/
def useChannel (channel : Channel) (action : ChannelM σ α) : DeviceM σ α := do
  let (result, channel) ← action channel
  close channel.socket
  return result

end Channel

end SpiEthernet
