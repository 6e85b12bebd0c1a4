import SpiEthernet.Word

/-!
# Frames

Every access to the chip is one frame of four bytes: what to do, the address with its high byte
first, and a data byte. A block is a run of frames whose addresses count up, from the last
address on to the first.
-/

namespace SpiEthernet

/-- What a frame does. -/
inductive Direction where
  | read
  | write
deriving DecidableEq, Repr

/-- The first byte of a frame. -/
def Direction.code : Direction → UInt8
  | read => 0x0F
  | write => 0xF0

/-- One access to the chip. -/
structure Frame where
  direction : Direction
  address : UInt16
  data : UInt8
deriving DecidableEq, Repr

namespace Frame

/-- The frame that writes a byte. -/
def write (address : UInt16) (data : UInt8) : Frame := ⟨.write, address, data⟩

/-- The frame that reads a byte; its own data byte is zero. -/
def read (address : UInt16) : Frame := ⟨.read, address, 0⟩

/-- The bytes of a frame in wire order. -/
def bytes (frame : Frame) : List UInt8 :=
  [frame.direction.code, highByte frame.address, lowByte frame.address, frame.data]

/-- The same frame one address further, where the last address is followed by the first. -/
def next (frame : Frame) : Frame := { frame with address := frame.address + 1 }

/-- The same frame with another data byte. -/
def withData (frame : Frame) (data : UInt8) : Frame := { frame with data }

/-- The frames that write a list of bytes from an address on. -/
def writes (address : UInt16) (data : List UInt8) : List Frame :=
  data.mapIdx fun i byte => write (address + UInt16.ofNat i) byte

/-- The frames that read a number of bytes from an address on. -/
def reads (address : UInt16) (count : Nat) : List Frame :=
  (List.range count).map fun i => read (address + UInt16.ofNat i)

@[simp] theorem length_writes (address : UInt16) (data : List UInt8) :
    (writes address data).length = data.length := by
  simp [writes]

@[simp] theorem length_reads (address : UInt16) (count : Nat) :
    (reads address count).length = count := by
  simp [reads]

/-! ## Changes to a frame -/

/-- A change to a frame that is used again. -/
inductive Change where
  | advance
  | setData (data : UInt8)

/-- The frame after a change. -/
def apply (frame : Frame) : Change → Frame
  | .advance => frame.next
  | .setData data => frame.withData data

/-- The frame itself and the frames after each of some changes. -/
def history (frame : Frame) : List Change → List Frame
  | [] => [frame]
  | change :: changes => frame :: (frame.apply change).history changes

end Frame

end SpiEthernet
