import SpiEthernet.Controller.Packet
import SpiEthernet.Controller.Stream
import SpiEthernet.Operation.Outcome

/-!
# Operations on a device

The driver's operations as data: those on one socket, and those on the chip as a whole.
-/

namespace SpiEthernet

/-! ## Operations on one socket -/

/-- An operation on a socket. -/
inductive SocketOperation where
  | status
  | issue (command : SocketCommand)
  | stickyFlags
  | takeFlags (mask : UInt8)
  | freeTx
  | pendingRx
  | stage (offset : UInt16) (data : List UInt8)
  | fetch (count : Nat) (stay : Bool)
  | skip (count : UInt16)
  | localPort
  | openSocket (mode : SocketMode) (flags : UInt8) (wanted : UInt16)
  | close
  | disconnect
  | connect (ip : Ipv4) (destinationPort : UInt16)
  | listen
  | setProtocol (number : UInt8)
  | setTypeOfService (value : UInt8)
  | setTimeToLive (value : UInt8)
  | setSegmentSize (value : UInt16)
  | setDestinationMac (mac : Mac)
  | send (data : List UInt8)
  | receive (room : Nat)
  | peek
  | sendTo (data : List UInt8) (ip : Ipv4) (destinationPort : UInt16)
  | receiveFrom (room : Nat)
  | startDatagram (ip : Ipv4) (destinationPort : UInt16)
  | buffer (offset : UInt16) (data : List UInt8)
  | sendDatagram
  | sendRawTo (data : List UInt8) (ip : Ipv4)
  | sendRaw (data : List UInt8)
deriving DecidableEq, Repr

variable {σ α : Type} [Host σ]

/-- The outcome of a computation that cannot fail. -/
def answering (f : α → Outcome) (action : DeviceM σ α) : DeviceM σ Outcome := do
  return f (← action)

/-- The outcome of a computation that can fail. -/
def attempting (f : α → Outcome) (action : Attempt σ α) : DeviceM σ Outcome := do
  return Outcome.ofResult f (← action.run)

/-- The outcome that has nothing to say. -/
def quietly : Unit → Outcome := fun _ => .done

/-- The outcome of a byte. -/
def ofByte (value : UInt8) : Outcome := .number value.toNat

/-- The outcome of a word. -/
def ofWord (value : UInt16) : Outcome := .number value.toNat

/-- Carries out an operation on a socket. -/
def SocketOperation.perform (s : SocketId) : SocketOperation → DeviceM σ Outcome
  | status => answering .status (SpiEthernet.status s)
  | issue command => answering quietly (SpiEthernet.issue s command)
  | stickyFlags => answering ofByte (SpiEthernet.stickyFlags s)
  | takeFlags mask => answering ofByte (SpiEthernet.takeFlags s mask)
  | freeTx => answering ofWord (SpiEthernet.freeTx s)
  | pendingRx => answering ofWord (SpiEthernet.pendingRx s)
  | stage offset data => attempting quietly (SpiEthernet.stage s offset data)
  | fetch count stay => attempting .bytes (SpiEthernet.fetch s count stay)
  | skip count => answering quietly (SpiEthernet.skip s count)
  | localPort => answering ofWord (SpiEthernet.localPort s)
  | openSocket mode flags wanted => attempting ofWord (SpiEthernet.openSocket s mode flags wanted)
  | close => answering quietly (SpiEthernet.close s)
  | disconnect => answering quietly (SpiEthernet.disconnect s)
  | connect ip destinationPort => attempting quietly (SpiEthernet.connect s ip destinationPort)
  | listen => attempting quietly (SpiEthernet.listen s)
  | setProtocol number => answering quietly (SpiEthernet.setProtocol s number)
  | setTypeOfService value => answering quietly (SpiEthernet.setTypeOfService s value)
  | setTimeToLive value => answering quietly (SpiEthernet.setTimeToLive s value)
  | setSegmentSize value => answering quietly (SpiEthernet.setSegmentSize s value)
  | setDestinationMac mac => answering quietly (SpiEthernet.setDestinationMac s mac)
  | send data => attempting .number (SpiEthernet.send s data)
  | receive room => attempting (Outcome.ofOption .bytes) (SpiEthernet.receive s room)
  | peek => attempting (Outcome.ofOption ofByte) (SpiEthernet.peekByte s)
  | sendTo data ip destinationPort =>
    attempting .number (SpiEthernet.sendTo s data ip destinationPort)
  | receiveFrom room =>
    attempting (Outcome.ofOption fun (info, data) => .datagram info data)
      (SpiEthernet.receiveFrom s room)
  | startDatagram ip destinationPort =>
    attempting quietly (SpiEthernet.startDatagram s ip destinationPort)
  | buffer offset data => attempting .number (SpiEthernet.buffer s offset data)
  | sendDatagram => attempting quietly (SpiEthernet.sendDatagram s)
  | sendRawTo data ip => attempting .number (SpiEthernet.sendRawTo s data ip)
  | sendRaw data => attempting .number (SpiEthernet.sendRaw s data)

/-! ## Operations on the chip as a whole -/

/-- An operation of the driver. -/
inductive DeviceOperation where
  | init
  | probe
  | configure (config : NetConfig)
  | network
  | setMac (mac : Mac)
  | setIp (ip : Ipv4)
  | setGateway (gateway : Ipv4)
  | setSubnet (subnet : Ipv4)
  | setRetry (config : RetryConfig)
  | retry
  | unreachable
  | drain
  | takeGlobal (bit : UInt8)
  | allocate
  | socket (s : SocketId) (operation : SocketOperation)
  /-- An operation that names something that does not exist. -/
  | invalid (cause : Error)
deriving DecidableEq, Repr

/-- Carries out an operation of the driver. -/
def DeviceOperation.perform : DeviceOperation → DeviceM σ Outcome
  | init => attempting quietly SpiEthernet.init
  | probe => answering .flag SpiEthernet.probe
  | configure config => answering quietly (SpiEthernet.configure config)
  | network => answering .report SpiEthernet.network
  | setMac mac => answering quietly (SpiEthernet.setMac mac)
  | setIp ip => answering quietly (SpiEthernet.setIp ip)
  | setGateway gateway => answering quietly (SpiEthernet.setGateway gateway)
  | setSubnet subnet => answering quietly (SpiEthernet.setSubnet subnet)
  | setRetry config => answering quietly (SpiEthernet.setRetry config)
  | retry => answering .retry SpiEthernet.retry
  | unreachable =>
    answering (Outcome.ofOption fun (ip, destinationPort) => .endpoint ip destinationPort)
      SpiEthernet.unreachable
  | drain => answering ofByte SpiEthernet.drain
  | takeGlobal bit => answering .flag (SpiEthernet.takeGlobal bit)
  | allocate => attempting (fun s => .number s.val) SpiEthernet.allocate
  | socket s operation => operation.perform s
  | invalid cause => return .failed cause

/-- Carries out operations of the driver one after the other. -/
def DeviceOperation.performAll (operations : List DeviceOperation) : DeviceM σ (List Outcome) :=
  operations.mapM perform

end SpiEthernet
