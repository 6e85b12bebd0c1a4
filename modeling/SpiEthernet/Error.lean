import SpiEthernet.Word

/-!
# Failures

Every way in which a call of the driver or of the resolver can fail, with the text a user
reads, and the coarse class that byte-stream interfaces report. Failures are causes: the text
is written in one place only.

A `Fault` is of another kind. It is no answer of the driver: the simulated board was asked for
memory it does not have, or a wait was given up because nothing scheduled could end it.
-/

namespace SpiEthernet

/-! ## The resolver's failures -/

/-- Why a name was not resolved. -/
inductive ResolveError where
  | timeout
  | invalidServer
  | invalidHostname
  | serverFailure (code : UInt8)
  | notFound
  | noAddress
  | noSocket
  | sendFailed
deriving DecidableEq, Repr

/-- The text of a resolver failure. -/
def ResolveError.message : ResolveError → String
  | timeout => "query timed out"
  | invalidServer => "no DNS server configured"
  | invalidHostname => "invalid hostname"
  | serverFailure code => s!"server error (rcode {code.toNat})"
  | notFound => "domain not found"
  | noAddress => "no A record in answer"
  | noSocket => "no free socket"
  | sendFailed => "query send failed"

/-! ## The driver's failures -/

/-- Why a call of the driver failed. -/
inductive Error where
  | notResponding
  | resetTimeout
  | invalidSocket (index : UInt8)
  | noFreeSocket
  | unexpectedStatus (raw : UInt8)
  | invalidAddress
  | insufficientSpace (requested free : Nat)
  | transferTooLarge (length capacity : Nat)
  | sendTimeout
  | connectionClosed
  | noPacket
  | resolve (cause : ResolveError)
deriving DecidableEq, Repr

/-- The coarse classes of failure that byte-stream interfaces know. -/
inductive FailureClass where
  | connectionReset
  | timedOut
  | invalidInput
  | notConnected
  | outOfMemory
  | other
deriving DecidableEq, Repr

namespace Error

/-- The text of a failure. -/
def message : Error → String
  | notResponding => "W5100 not responding"
  | resetTimeout => "W5100 reset did not complete"
  | invalidSocket index => s!"Invalid socket index {index.toNat}"
  | noFreeSocket => "No free socket"
  | unexpectedStatus raw => s!"Unexpected socket status 0x{hexBytes [raw]}"
  | invalidAddress => "Invalid destination address"
  | insufficientSpace requested free => s!"TX buffer full: need {requested} bytes, {free} free"
  | transferTooLarge length capacity => s!"Transfer of {length} bytes exceeds {capacity} byte ring"
  | sendTimeout => "Send timed out"
  | connectionClosed => "Connection closed"
  | noPacket => "No packet in progress"
  | resolve cause => s!"DNS: {cause.message}"

/-- The class a failure is reported under. -/
def failureClass : Error → FailureClass
  | connectionClosed => .connectionReset
  | sendTimeout => .timedOut
  | invalidAddress | invalidSocket _ | transferTooLarge _ _ => .invalidInput
  | noPacket => .notConnected
  | insufficientSpace _ _ => .outOfMemory
  | _ => .other

end Error

/-! ## Faults of the simulated board -/

/-- Why a computation on the simulated board has no result. -/
inductive Fault where
  /-- An access to chip memory at an address past its end. -/
  | outOfRange (address : UInt16)
  /-- A wait that no scheduled event can end. -/
  | stalled
deriving DecidableEq, Repr

end SpiEthernet
