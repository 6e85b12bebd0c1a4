import SpiEthernet.Channel
import SpiEthernet.Operation.Socket

/-!
# Operations on a channel

The operations of a UDP channel as data. Its byte-stream side shares them: a write appends to
the datagram that was begun, and a read takes from the datagram that was selected.
-/

namespace SpiEthernet

/-- An operation on a UDP channel. -/
inductive ChannelOperation where
  | status
  | beginPacket (ip : Ipv4) (destinationPort : UInt16)
  | writePacket (data : List UInt8)
  | writeAll (data : List UInt8)
  | endPacket
  | flush
  | parsePacket
  | readPacket (room : Nat)
  | peek
  | available
  | readReady
  | remote
deriving DecidableEq, Repr

variable {σ α : Type} [Host σ]

/-- The outcome of a computation on a channel that can fail. -/
def attemptingOn (f : α → Outcome) (action : ChannelAttempt σ α) : ChannelM σ Outcome := do
  return Outcome.ofResult f (← action.run)

/-- The outcome of a look at the channel. -/
def looking (f : Channel → Outcome) : ChannelM σ Outcome := do
  return f (← get)

/-- Carries out an operation on a channel. -/
def ChannelOperation.perform : ChannelOperation → ChannelM σ Outcome
  | status => attemptingOn .status Channel.shown
  | beginPacket ip destinationPort => attemptingOn quietly (Channel.beginPacket ip destinationPort)
  | writePacket data => attemptingOn .number (Channel.writePacket data)
  | writeAll data => attemptingOn quietly (Channel.writeAll data)
  | endPacket => attemptingOn quietly Channel.endPacket
  | flush => attemptingOn quietly Channel.flush
  | parsePacket => attemptingOn .number Channel.parsePacket
  | readPacket room => attemptingOn .bytes (Channel.readPacket room)
  | peek => attemptingOn (Outcome.ofOption ofByte) Channel.peekPacket
  | available => looking fun channel => .number channel.remaining
  | readReady => looking fun channel => .flag (0 < channel.remaining)
  | remote => looking fun channel => .endpoint channel.remote.1 channel.remote.2

end SpiEthernet
