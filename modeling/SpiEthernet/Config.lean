import SpiEthernet.Address

/-!
# Settings

The addresses a chip is configured with, its retransmission settings, and the fixed numbers of
the protocols on top.
-/

namespace SpiEthernet

/-! ## Fixed numbers -/

/-- The port name servers listen on. -/
def dnsPort : UInt16 := 53

/-- The largest reply a name server sends in one datagram. -/
def dnsMaxMessage : Nat := 512

/-- How long a resolution usually waits, in milliseconds. -/
def defaultResolveTimeout : Int := 5000

/-- The first port handed out to sockets opened without one. -/
def firstEphemeralPort : UInt16 := 49152

/-- How often the reset bit is read before a reset is given up. -/
def resetPollLimit : Nat := 10000

/-! ## Addresses -/

/-- The static addresses of a chip. -/
structure NetConfig where
  mac : Mac
  ip : Ipv4
  gateway : Ipv4
  subnet : Ipv4
  /-- The name server to use, which is not written to the chip. -/
  dns : Ipv4
deriving DecidableEq, Repr

namespace NetConfig

/-- The usual settings of a /24 network: its first host is both gateway and name server. -/
def new (mac : Mac) (ip : Ipv4) : NetConfig :=
  { mac, ip, gateway := ip.firstHost, subnet := ⟨255, 255, 255, 0⟩, dns := ip.firstHost }

/-- The same settings with another gateway. -/
def withGateway (config : NetConfig) (gateway : Ipv4) : NetConfig := { config with gateway }

/-- The same settings with another subnet mask. -/
def withSubnet (config : NetConfig) (subnet : Ipv4) : NetConfig := { config with subnet }

/-- The same settings with another name server. -/
def withDns (config : NetConfig) (dns : Ipv4) : NetConfig := { config with dns }

end NetConfig

/-! ## Retransmission -/

/-- When and how often the chip sends again. -/
structure RetryConfig where
  /-- The time between two attempts, in tenths of a millisecond. -/
  timeout : UInt16
  /-- The attempts after which the chip reports a timeout. -/
  count : UInt8
deriving DecidableEq, Repr

namespace RetryConfig

/-- The settings after a reset: 200 milliseconds and eight attempts. -/
def default : RetryConfig := ⟨2000, 8⟩

/-- The settings for a time in milliseconds, cut off at what the register can hold. -/
def ofMillis (millis : Nat) (count : UInt8) : RetryConfig :=
  ⟨UInt16.ofNat (min (millis * 10) 65535), count⟩

end RetryConfig

end SpiEthernet
