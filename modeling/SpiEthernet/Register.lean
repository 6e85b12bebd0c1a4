import SpiEthernet.Socket.Id

/-!
# The register map

The chip's registers by what they hold, with the address and width of each. The common
registers lie at fixed addresses; each socket has a block of its own in which the socket
registers lie at the same offsets. Behind them lie the four transmit rings and the four receive
rings, 2048 bytes each.

* `SocketRegister.toNat_address` : the address of a socket register as a number.
-/

namespace SpiEthernet

/-! ## Geometry -/

/-- The first socket register block. -/
def socketBlockBase : UInt16 := 0x0400

/-- The distance between socket register blocks. -/
def socketBlockStride : UInt16 := 0x0100

/-- The start of the transmit rings. -/
def txMemoryBase : UInt16 := 0x4000

/-- The start of the receive rings. -/
def rxMemoryBase : UInt16 := 0x6000

/-- The size of one socket's ring in bytes. -/
def ringSize : Nat := 2048

/-- The bits of a ring pointer that select a byte of the ring. -/
def ringMask : Nat := ringSize - 1

/-- The memory-size setting that gives every socket 2048 bytes each way. -/
def equalShares : UInt8 := 0x55

/-- The place of a ring pointer in its ring. -/
def ringOffset (pointer : UInt16) : Nat := pointer.toNat % ringSize

/-- The address of the first byte of a socket's transmit ring. -/
def txBase (s : SocketId) : UInt16 := txMemoryBase + UInt16.ofNat (ringSize * s.val)

/-- The address of the first byte of a socket's receive ring. -/
def rxBase (s : SocketId) : UInt16 := rxMemoryBase + UInt16.ofNat (ringSize * s.val)

theorem ringOffset_lt (pointer : UInt16) : ringOffset pointer < 2048 :=
  Nat.mod_lt _ (by decide)

theorem toNat_txBase (s : SocketId) : (txBase s).toNat = 0x4000 + 2048 * s.val := by
  revert s
  decide

theorem toNat_rxBase (s : SocketId) : (rxBase s).toNat = 0x6000 + 2048 * s.val := by
  revert s
  decide

theorem txBase_add_size_le (s : SocketId) : (txBase s).toNat + 2048 ≤ 0x8000 := by
  revert s
  decide

theorem rxBase_add_size_le (s : SocketId) : (rxBase s).toNat + 2048 ≤ 0x8000 := by
  revert s
  decide

/-! ## Common registers -/

/-- The registers that exist once. -/
inductive CommonRegister where
  | mode
  | gateway
  | subnet
  | hardwareAddress
  | ipAddress
  | interrupt
  | interruptMask
  | retryTime
  | retryCount
  | rxMemorySize
  | txMemorySize
  | pppoeAuthentication
  | pppTimer
  | pppMagic
  | unreachableIp
  | unreachablePort
deriving DecidableEq, Repr

namespace CommonRegister

/-- All common registers in the order of their addresses. -/
def all : List CommonRegister :=
  [mode, gateway, subnet, hardwareAddress, ipAddress, interrupt, interruptMask, retryTime,
    retryCount, rxMemorySize, txMemorySize, pppoeAuthentication, pppTimer, pppMagic,
    unreachableIp, unreachablePort]

/-- The address of the first byte of a register. -/
def address : CommonRegister → UInt16
  | mode => 0x0000
  | gateway => 0x0001
  | subnet => 0x0005
  | hardwareAddress => 0x0009
  | ipAddress => 0x000F
  | interrupt => 0x0015
  | interruptMask => 0x0016
  | retryTime => 0x0017
  | retryCount => 0x0019
  | rxMemorySize => 0x001A
  | txMemorySize => 0x001B
  | pppoeAuthentication => 0x001C
  | pppTimer => 0x0028
  | pppMagic => 0x0029
  | unreachableIp => 0x002A
  | unreachablePort => 0x002E

/-- The width of a register in bytes. -/
def width : CommonRegister → Nat
  | gateway | subnet | ipAddress | unreachableIp => 4
  | hardwareAddress => 6
  | retryTime | pppoeAuthentication | unreachablePort => 2
  | _ => 1

/-- The data sheet's name of a register. -/
def name : CommonRegister → String
  | mode => "MR"
  | gateway => "GAR"
  | subnet => "SUBR"
  | hardwareAddress => "SHAR"
  | ipAddress => "SIPR"
  | interrupt => "IR"
  | interruptMask => "IMR"
  | retryTime => "RTR"
  | retryCount => "RCR"
  | rxMemorySize => "RMSR"
  | txMemorySize => "TMSR"
  | pppoeAuthentication => "PATR"
  | pppTimer => "PTIMER"
  | pppMagic => "PMAGIC"
  | unreachableIp => "UIPR"
  | unreachablePort => "UPORT"

end CommonRegister

/-! ## Socket registers -/

/-- The registers that every socket has. -/
inductive SocketRegister where
  | mode
  | command
  | interrupt
  | status
  | sourcePort
  | peerHardwareAddress
  | peerIp
  | peerPort
  | segmentSize
  | protocol
  | typeOfService
  | timeToLive
  | txFree
  | txRead
  | txWrite
  | rxSize
  | rxRead
  | rxWrite
deriving DecidableEq, Repr

namespace SocketRegister

/-- All socket registers in the order of their offsets. -/
def all : List SocketRegister :=
  [mode, command, interrupt, status, sourcePort, peerHardwareAddress, peerIp, peerPort,
    segmentSize, protocol, typeOfService, timeToLive, txFree, txRead, txWrite, rxSize, rxRead,
    rxWrite]

/-- The offset of a register in its socket's block. -/
def offset : SocketRegister → UInt16
  | mode => 0x00
  | command => 0x01
  | interrupt => 0x02
  | status => 0x03
  | sourcePort => 0x04
  | peerHardwareAddress => 0x06
  | peerIp => 0x0C
  | peerPort => 0x10
  | segmentSize => 0x12
  | protocol => 0x14
  | typeOfService => 0x15
  | timeToLive => 0x16
  | txFree => 0x20
  | txRead => 0x22
  | txWrite => 0x24
  | rxSize => 0x26
  | rxRead => 0x28
  | rxWrite => 0x2A

/-- The width of a register in bytes. -/
def width : SocketRegister → Nat
  | mode | command | interrupt | status | protocol | typeOfService | timeToLive => 1
  | peerHardwareAddress => 6
  | peerIp => 4
  | _ => 2

/-- The data sheet's name of a register. -/
def name : SocketRegister → String
  | mode => "MR"
  | command => "CR"
  | interrupt => "IR"
  | status => "SR"
  | sourcePort => "PORT"
  | peerHardwareAddress => "DHAR"
  | peerIp => "DIPR"
  | peerPort => "DPORT"
  | segmentSize => "MSSR"
  | protocol => "PROTO"
  | typeOfService => "TOS"
  | timeToLive => "TTL"
  | txFree => "TX_FSR"
  | txRead => "TX_RD"
  | txWrite => "TX_WR"
  | rxSize => "RX_RSR"
  | rxRead => "RX_RD"
  | rxWrite => "RX_WR"

/-- The address of the first byte of a socket's register. -/
def address (register : SocketRegister) (s : SocketId) : UInt16 :=
  socketBlockBase + UInt16.ofNat s.val * socketBlockStride + register.offset

theorem toNat_address (register : SocketRegister) (s : SocketId) :
    (register.address s).toNat = 0x0400 + 0x0100 * s.val + register.offset.toNat := by
  revert s
  cases register <;> decide

end SocketRegister

/-! ## Registers in general -/

/-- Any register of the chip. -/
inductive Register where
  | common (register : CommonRegister)
  | socket (s : SocketId) (register : SocketRegister)
deriving DecidableEq, Repr

namespace Register

/-- The address of the first byte of a register. -/
def address : Register → UInt16
  | common register => register.address
  | socket s register => register.address s

/-- The width of a register in bytes. -/
def width : Register → Nat
  | common register => register.width
  | socket _ register => register.width

/-- The data sheet's name of a register. -/
def name : Register → String
  | common register => register.name
  | socket _ register => register.name

/-- The common registers in the order of their addresses. -/
def allCommon : List Register := CommonRegister.all.map .common

/-- The registers of one socket in the order of their addresses. -/
def allOf (s : SocketId) : List Register := SocketRegister.all.map (.socket s)

end Register

end SpiEthernet
