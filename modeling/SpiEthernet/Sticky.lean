import SpiEthernet.Flags
import SpiEthernet.Socket.Id

/-!
# Sticky interrupt flags

The driver moves the chip's interrupt flags into this record and clears them in the chip. A flag
stays here until somebody takes it, however often it is raised meanwhile; taking some flags
leaves the others alone.

* `socket_recordSocket`, `socket_takeSocket` : what the flags of a socket are afterwards.
-/

namespace SpiEthernet

/-- The flags collected and not yet taken: one byte per socket, and one for the whole chip. -/
structure StickyFlags where
  sockets : Vector UInt8 4
  global : UInt8
deriving DecidableEq, Repr

namespace StickyFlags

/-- No flag at all. -/
def empty : StickyFlags := ⟨Vector.replicate 4 0, 0⟩

/-- The flags of a socket. -/
def socket (flags : StickyFlags) (s : SocketId) : UInt8 := flags.sockets[s]

/-- Sets the flags of a socket to a given byte. -/
def setSocket (flags : StickyFlags) (s : SocketId) (bits : UInt8) : StickyFlags :=
  { flags with sockets := flags.sockets.set s bits s.isLt }

/-- Adds flags of a socket. -/
def recordSocket (flags : StickyFlags) (s : SocketId) (bits : UInt8) : StickyFlags :=
  flags.setSocket s (flags.socket s ||| bits)

/-- Adds the global flags among the bits of the interrupt register. -/
def recordGlobal (flags : StickyFlags) (bits : UInt8) : StickyFlags :=
  { flags with global := flags.global ||| (bits &&& InterruptFlag.sticky) }

/-- Takes those flags of a socket that are in the mask. -/
def takeSocket (flags : StickyFlags) (s : SocketId) (mask : UInt8) : UInt8 × StickyFlags :=
  (flags.socket s &&& mask, flags.setSocket s (flags.socket s &&& ~~~mask))

/-- Takes a global flag and says whether it was set. -/
def takeGlobal (flags : StickyFlags) (bit : UInt8) : Bool × StickyFlags :=
  (flags.global &&& bit != 0, { flags with global := flags.global &&& ~~~bit })

/-- Forgets the flags of a socket. -/
def clearSocket (flags : StickyFlags) (s : SocketId) : StickyFlags := flags.setSocket s 0

@[simp] theorem socket_setSocket_self (flags : StickyFlags) (s : SocketId) (bits : UInt8) :
    (flags.setSocket s bits).socket s = bits := by
  simp [socket, setSocket]

theorem socket_setSocket_of_ne (flags : StickyFlags) {s t : SocketId} (bits : UInt8)
    (h : s ≠ t) : (flags.setSocket s bits).socket t = flags.socket t := by
  simp [socket, setSocket, SocketId.getElem_set_of_ne _ _ h]

@[simp] theorem socket_recordSocket (flags : StickyFlags) (s : SocketId) (bits : UInt8) :
    (flags.recordSocket s bits).socket s = flags.socket s ||| bits := by
  simp [recordSocket]

@[simp] theorem socket_takeSocket (flags : StickyFlags) (s : SocketId) (mask : UInt8) :
    (flags.takeSocket s mask).2.socket s = flags.socket s &&& ~~~mask := by
  simp [takeSocket]

end StickyFlags

end SpiEthernet
