/-!
# Flag bytes

Several registers are sets of flags in one byte. The flags of a register have names; the other
bits of the byte mean nothing but are kept as they are. A `FlagSet` lists the named flags in
their order of declaration, and the registers' own flags follow.
-/

namespace SpiEthernet

/-! ## Named bits -/

/-- The named flags of a register, each with its bit. -/
structure FlagSet where
  flags : List (String × UInt8)

namespace FlagSet

/-- The union of all named flags. -/
def all (set : FlagSet) : UInt8 := set.flags.foldl (fun bits flag => bits ||| flag.2) 0

/-- The named bits of a byte alone. -/
def truncate (set : FlagSet) (bits : UInt8) : UInt8 := bits &&& set.all

/-- Whether a byte has named bits only. -/
def isExact (set : FlagSet) (bits : UInt8) : Bool := set.truncate bits == bits

/-- The names of the flags set in a byte. -/
def names (set : FlagSet) (bits : UInt8) : List String :=
  (set.flags.filter fun flag => bits &&& flag.2 == flag.2).map (·.1)

end FlagSet

/-- Whether every bit of `mask` is set in `bits`. -/
def hasBits (bits mask : UInt8) : Bool := bits &&& mask == mask

/-! ## The mode register -/

namespace ModeFlag

/-- Software reset, which the chip clears by itself. -/
def reset : UInt8 := 0x80

/-- The flags of the mode register. -/
def known : FlagSet :=
  ⟨[("RST", reset), ("PB", 0x10), ("PPPOE", 0x08), ("AI", 0x02), ("IND", 0x01)]⟩

end ModeFlag

/-! ## The interrupt register and its mask -/

namespace InterruptFlag

/-- An address conflict on the network. -/
def conflict : UInt8 := 0x80

/-- A destination reported as unreachable. -/
def unreachable : UInt8 := 0x40

/-- A closed PPPoE connection. -/
def pppoe : UInt8 := 0x20

/-- The bits that stand for the four sockets. -/
def sockets : UInt8 := 0x0F

/-- The bits that are cleared by writing them to the interrupt register. -/
def global : UInt8 := conflict ||| unreachable ||| pppoe

/-- The global bits that the driver keeps until they are taken. -/
def sticky : UInt8 := conflict ||| unreachable

/-- The flags of the interrupt register. -/
def known : FlagSet :=
  ⟨[("CONFLICT", conflict), ("UNREACH", unreachable), ("PPPOE", pppoe),
    ("S3", 0x08), ("S2", 0x04), ("S1", 0x02), ("S0", 0x01)]⟩

end InterruptFlag

/-! ## A socket's interrupt register -/

namespace SocketFlag

/-- A datagram or segment has been transmitted. -/
def sendOk : UInt8 := 0x10

/-- The peer never answered a transmission. -/
def timeout : UInt8 := 0x08

/-- Bytes have arrived. -/
def received : UInt8 := 0x04

/-- The connection has ended. -/
def disconnected : UInt8 := 0x02

/-- The connection is up. -/
def connected : UInt8 := 0x01

/-- The two ways a transmission can end. -/
def sendEnd : UInt8 := sendOk ||| timeout

/-- The flags of a socket's interrupt register. -/
def known : FlagSet :=
  ⟨[("SEND_OK", sendOk), ("TIMEOUT", timeout), ("RECV", received),
    ("DISCON", disconnected), ("CON", connected)]⟩

end SocketFlag

/-! ## The option bits of a socket's mode register -/

namespace OptionFlag

/-- Multicast datagrams. -/
def multicast : UInt8 := 0x80

/-- Acknowledgements without delay. -/
def noDelay : UInt8 := 0x20

/-- The option bits of a socket's mode register. -/
def known : FlagSet := ⟨[("MULTI", multicast), ("ND", noDelay)]⟩

end OptionFlag

end SpiEthernet
