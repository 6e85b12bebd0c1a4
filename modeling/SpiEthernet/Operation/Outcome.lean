import SpiEthernet.Controller.Setup
import SpiEthernet.Datagram

/-!
# Outcomes

What an operation answers. Operations are listed as data in the modules beside this one, so that
a run of them is a list, and their answers are values of one type.
-/

namespace SpiEthernet

/-- The answer of an operation. -/
inductive Outcome where
  /-- Done, with nothing to say. -/
  | done
  /-- There is nothing to answer with. -/
  | absent
  | flag (value : Bool)
  | number (value : Nat)
  | numbers (values : List UInt8)
  | bytes (data : List UInt8)
  | address (ip : Ipv4)
  | endpoint (ip : Ipv4) (number : UInt16)
  | report (report : NetworkReport)
  | retry (config : RetryConfig)
  | status (status : SocketStatus)
  | datagram (info : DatagramInfo) (data : List UInt8)
  | channel (s : SocketId) (localPort : UInt16)
  | failed (cause : Error)
  | unresolved (cause : ResolveError)
  /-- The operation needs a controller and there is none. -/
  | noController
  /-- The board could not go on. -/
  | fault (fault : Fault)
deriving DecidableEq, Repr

namespace Outcome

/-- The outcome of an answer that may be missing. -/
def ofOption {α : Type} (f : α → Outcome) : Option α → Outcome
  | some value => f value
  | none => absent

/-- The outcome of a result that may be a failure. -/
def ofResult {α : Type} (f : α → Outcome) : Except Error α → Outcome
  | .ok value => f value
  | .error cause => failed cause

end Outcome

end SpiEthernet
