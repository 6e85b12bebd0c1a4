import SpiEthernet.Address
import SpiEthernet.Socket.State

/-!
# Datagrams in a receive ring

In front of every datagram it stores, the chip writes a short header whose layout follows the
socket's protocol: source, port and length for UDP, source and length for raw IP, and for raw
Ethernet only a length that counts itself. This file holds the writer and the reader of these
headers side by side.

* `Framing.decode_header` : the reader gives back what the writer was given, for every payload
  whose length fits into the header.
-/

namespace SpiEthernet

/-- The three layouts of a datagram header. -/
inductive Framing where
  | udp
  | ipRaw
  | macRaw
deriving DecidableEq, Repr

/-- Where a received datagram came from and how long it is. -/
structure DatagramInfo where
  source : Ipv4
  sourcePort : UInt16
  length : Nat
deriving DecidableEq, Repr

namespace Framing

/-- The layout that a socket's mode register selects; every mode that is not raw counts as
UDP. -/
def ofRegister (value : UInt8) : Framing :=
  match SocketMode.ofRegister? value with
  | some .ipRaw => ipRaw
  | some .macRaw => macRaw
  | _ => udp

/-- The length of a header in bytes. -/
def headerLength : Framing → Nat
  | udp => 8
  | ipRaw => 6
  | macRaw => 2

/-- The header of a datagram. -/
def header (framing : Framing) (info : DatagramInfo) : List UInt8 :=
  match framing with
  | udp => info.source.octets ++ wordBytes info.sourcePort ++ wordBytes (UInt16.ofNat info.length)
  | ipRaw => info.source.octets ++ wordBytes (UInt16.ofNat info.length)
  | macRaw => wordBytes (UInt16.ofNat (info.length + 2))

/-- What a header says. Raw datagrams have port 0, and raw Ethernet frames no source. -/
def decode (framing : Framing) (bytes : List UInt8) : DatagramInfo :=
  let wordAt i := word (bytes.getD i 0) (bytes.getD (i + 1) 0)
  match framing with
  | udp => ⟨Ipv4.ofOctets bytes, wordAt 4, (wordAt 6).toNat⟩
  | ipRaw => ⟨Ipv4.ofOctets bytes, 0, (wordAt 4).toNat⟩
  | macRaw => ⟨Ipv4.unspecified, 0, (wordAt 0).toNat - 2⟩

/-- What remains of a datagram's description in a header of the given layout. -/
def describe (framing : Framing) (info : DatagramInfo) : DatagramInfo :=
  match framing with
  | udp => info
  | ipRaw => { info with sourcePort := 0 }
  | macRaw => { info with source := Ipv4.unspecified, sourcePort := 0 }

@[simp] theorem length_header (framing : Framing) (info : DatagramInfo) :
    (framing.header info).length = framing.headerLength := by
  cases framing <;> rfl

theorem decode_header (framing : Framing) (info : DatagramInfo) (h : info.length + 2 < 65536) :
    framing.decode (framing.header info) = framing.describe info := by
  have h16 : info.length % 65536 = info.length := Nat.mod_eq_of_lt (by omega)
  have h16' : (info.length + 2) % 65536 = info.length + 2 := Nat.mod_eq_of_lt (by omega)
  cases framing <;> cases info with
  | mk source sourcePort length =>
    simp_all [decode, header, describe, wordBytes, Ipv4.octets, Ipv4.ofOctets] <;> omega

end Framing

end SpiEthernet
