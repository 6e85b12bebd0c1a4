import SpiEthernet.Controller.Socket

/-!
# TCP streams

Sending waits for room in the transmit ring, stages at most a ring's worth of the data, and
waits for the chip to report the segment as sent. Receiving takes what has arrived, tells
"nothing yet" from "nothing any more", and releases what it took.
-/

namespace SpiEthernet

variable {σ : Type} [Host σ]

/-! ## Sending -/

/-- Looks once whether there is room for some bytes, on a socket that can still send. -/
def roomFor (s : SocketId) (needed : Nat) : Attempt σ (Option Unit) := do
  let free ← sure (freeTx s)
  let shown ← sure (status s)
  if !shown.canSend then
    fail (if shown = .closed then .connectionClosed else .unexpectedStatus shown.raw)
  return if needed ≤ free.toNat then some () else none

/-- Sends a prefix of the data, at most as long as a ring, and returns its length. -/
def send (s : SocketId) (data : List UInt8) : Attempt σ Nat := do
  let accepted := data.take ringSize
  if accepted.isEmpty then return 0
  pollWithin (roomFor s accepted.length) (← sure patience)
  sure (clearSendFlags s)
  stage s 0 accepted
  sure (issue s .send)
  awaitSent s true
  return accepted.length

/-! ## Receiving -/

/-- Whether a socket without pending bytes in the given status will never have any again. -/
def SocketStatus.isExhausted : SocketStatus → Bool
  | listen | closed | closeWait => true
  | _ => false

/-- Takes received bytes, at most `room` many. The answer is `none` while there is nothing to
take, and the empty list once the peer has closed and nothing is left. -/
def receive (s : SocketId) (room : Nat) : Attempt σ (Option (List UInt8)) := do
  let available := (← sure (pendingRx s)).toNat
  if available = 0 then
    return if (← sure (status s)).isExhausted then some [] else none
  if room = 0 then return none
  let bytes ← fetch s (min available room) false
  sure (issue s .receive)
  return some bytes

/-- The next received byte, which stays where it is. -/
def peekByte (s : SocketId) : Attempt σ (Option UInt8) := do
  if (← sure (pendingRx s)) = 0 then return none
  return (← fetch s 1 true).head?

end SpiEthernet
