import SpiEthernet.Dotted
import SpiEthernet.Word

/-!
# Network and hardware addresses

IPv4 addresses with their dotted text, Ethernet addresses, and the few questions the driver
asks about them: whether a destination can be reached at all, whether it is a multicast group,
and which Ethernet address stands for a group.

Dotted text is read strictly: four non-empty runs of decimal digits, three dots, nothing else.
Leading zeros are allowed, and a run is given up as soon as its value passes 255, so a 16-bit
accumulator is enough however long the text is.
-/

namespace SpiEthernet

/-! ## IPv4 addresses -/

/-- An IPv4 address, by its four octets. -/
structure Ipv4 where
  a : UInt8
  b : UInt8
  c : UInt8
  d : UInt8
deriving DecidableEq, Repr, Inhabited

namespace Ipv4

/-- The address no host has, 0.0.0.0. -/
def unspecified : Ipv4 := ⟨0, 0, 0, 0⟩

/-- The address of every host on the wire, 255.255.255.255. -/
def broadcast : Ipv4 := ⟨255, 255, 255, 255⟩

/-- The octets in wire order. -/
def octets (ip : Ipv4) : List UInt8 := [ip.a, ip.b, ip.c, ip.d]

/-- The address in the first four bytes, where zero stands for a missing byte. -/
def ofOctets (bytes : List UInt8) : Ipv4 :=
  ⟨bytes.getD 0 0, bytes.getD 1 0, bytes.getD 2 0, bytes.getD 3 0⟩

@[simp] theorem ofOctets_octets (ip : Ipv4) : ofOctets ip.octets = ip := rfl

@[simp] theorem length_octets (ip : Ipv4) : ip.octets.length = 4 := rfl

/-- Whether the address is 224.0.0.0 or above and below 240.0.0.0. -/
def isMulticast (ip : Ipv4) : Bool := 224 ≤ ip.a && ip.a < 240

/-- Whether no connection or datagram to a single host can go to the address. -/
def isUnusable (ip : Ipv4) : Bool := ip == unspecified || ip == broadcast

/-- The first address of the /24 network an address lies in. -/
def firstHost (ip : Ipv4) : Ipv4 := { ip with d := 1 }

/-! ## Dotted text -/

/-- The dotted decimal text of an address. -/
def toText (ip : Ipv4) : String :=
  ".".intercalate (ip.octets.map fun octet => toString octet.toNat)

instance : ToString Ipv4 := ⟨toText⟩

/-- Whether a byte is an ASCII digit. -/
def isDigit (byte : UInt8) : Bool := 48 ≤ byte && byte ≤ 57

/-- What has been read of a dotted text: the octets whose runs of digits have ended, the value of
the run that is being read, and whether it has begun. -/
structure Scan where
  octets : List UInt8 := []
  value : UInt16 := 0
  begun : Bool := false
deriving DecidableEq, Repr

/-- Reads one byte more. A digit continues the run and a dot ends it; three dots are the most
there can be, and none of them may follow an empty run. -/
def Scan.next? (scan : Scan) (byte : UInt8) : Option Scan :=
  if isDigit byte then
    let value := scan.value * 10 + (byte - 48).toUInt16
    if value > 255 then none else some { scan with value, begun := true }
  else if byte = dot then
    if !scan.begun || scan.octets.length ≥ 3 then none
    else some { octets := scan.octets ++ [scan.value.toUInt8] }
  else none

/-- The address, if the text ends in its fourth run of digits. -/
def Scan.finish? (scan : Scan) : Option Ipv4 :=
  if !scan.begun || scan.octets.length ≠ 3 then none
  else some (ofOctets (scan.octets ++ [scan.value.toUInt8]))

/-- The address a dotted text names, read in one pass. -/
def parse? (text : List UInt8) : Option Ipv4 := do
  let scan ← text.foldlM Scan.next? {}
  scan.finish?

end Ipv4

/-! ## Ethernet addresses -/

/-- An Ethernet address, by its six octets. -/
structure Mac where
  a : UInt8
  b : UInt8
  c : UInt8
  d : UInt8
  e : UInt8
  f : UInt8
deriving DecidableEq, Repr, Inhabited

namespace Mac

/-- The octets in wire order. -/
def octets (mac : Mac) : List UInt8 := [mac.a, mac.b, mac.c, mac.d, mac.e, mac.f]

/-- The address in the first six bytes, where zero stands for a missing byte. -/
def ofOctets (bytes : List UInt8) : Mac :=
  let byte i := bytes.getD i 0
  ⟨byte 0, byte 1, byte 2, byte 3, byte 4, byte 5⟩

@[simp] theorem ofOctets_octets (mac : Mac) : ofOctets mac.octets = mac := rfl

@[simp] theorem length_octets (mac : Mac) : mac.octets.length = 6 := rfl

end Mac

/-- The Ethernet group of an IPv4 group: a fixed first half, then the low 23 bits of the
address. -/
def Ipv4.multicastMac (group : Ipv4) : Mac :=
  ⟨0x01, 0x00, 0x5E, group.b &&& 0x7F, group.c, group.d⟩

end SpiEthernet
