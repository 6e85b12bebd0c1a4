import SpiEthernet.Register

/-!
# The chip's memory

Registers and rings lie in one memory of 32 KiB. Reading past its end gives zero and writing
there changes nothing. Words are stored high byte first; a ring is a stretch of 2048 bytes that
is entered through a free-running pointer, whose place in the ring is its remainder.

* `read_write_self`, `read_write_of_ne` : what a read finds after a write.
* `length_readRing` : a ring can be read for any number of bytes, going round as often as needed.
-/

namespace SpiEthernet

/-- The number of bytes in the chip's memory. -/
def memorySize : Nat := 0x8000

/-- The contents of the chip's memory. -/
structure Memory where
  cells : Vector UInt8 0x8000
deriving DecidableEq

namespace Memory

/-- Memory full of zeros. -/
def zero : Memory := ⟨Vector.replicate 0x8000 0⟩

/-! ## Bytes -/

/-- The byte at an address. -/
def read (memory : Memory) (address : Nat) : UInt8 := memory.cells[address]?.getD 0

/-- The memory with another byte at an address. -/
def write (memory : Memory) (address : Nat) (value : UInt8) : Memory :=
  ⟨memory.cells.setIfInBounds address value⟩

@[simp] theorem read_zero (address : Nat) : zero.read address = 0 := by
  simp [read, zero, Vector.getElem?_replicate]
  split <;> rfl

theorem read_write_self (memory : Memory) {address : Nat} (value : UInt8)
    (h : address < 0x8000) : (memory.write address value).read address = value := by
  simp [read, write, h]

theorem read_write_of_ne (memory : Memory) {address other : Nat} (value : UInt8)
    (h : address ≠ other) : (memory.write address value).read other = memory.read other := by
  simp [read, write, Vector.getElem?_setIfInBounds_ne h]

theorem read_of_le (memory : Memory) {address : Nat} (h : 0x8000 ≤ address) :
    memory.read address = 0 := by
  simp [read, Vector.getElem?_eq_none h]

/-- Two memories with the same bytes are the same. -/
theorem ext_read {first second : Memory}
    (h : ∀ address, first.read address = second.read address) : first = second := by
  cases first with
  | mk a =>
    cases second with
    | mk b =>
      congr
      apply Vector.ext
      intro i hi
      have := h i
      simpa [read, hi] using this

/-! ## Words -/

/-- The word whose high byte is at an address. -/
def readWord (memory : Memory) (address : Nat) : UInt16 :=
  word (memory.read address) (memory.read (address + 1))

/-- The memory with another word at an address. -/
def writeWord (memory : Memory) (address : Nat) (value : UInt16) : Memory :=
  (memory.write address (highByte value)).write (address + 1) (lowByte value)

theorem readWord_writeWord_self (memory : Memory) {address : Nat} (value : UInt16)
    (h : address + 1 < 0x8000) : (memory.writeWord address value).readWord address = value := by
  rw [readWord, writeWord, read_write_of_ne _ _ (by omega), read_write_self _ _ (by omega),
    read_write_self _ _ h, word_highByte_lowByte]

theorem read_writeWord_of_ne (memory : Memory) {address other : Nat} (value : UInt16)
    (h : address ≠ other) (h' : address + 1 ≠ other) :
    (memory.writeWord address value).read other = memory.read other := by
  rw [writeWord, read_write_of_ne _ _ h', read_write_of_ne _ _ h]

/-! ## Rings -/

/-- The bytes of a ring from a pointer on. -/
def readRing (memory : Memory) (base : Nat) (pointer : UInt16) (count : Nat) : List UInt8 :=
  (List.range count).map fun i => memory.read (base + ringOffset (pointer + UInt16.ofNat i))

/-- Stores bytes in a ring from a pointer on. -/
def writeRing (memory : Memory) (base : Nat) (pointer : UInt16) : List UInt8 → Memory
  | [] => memory
  | byte :: bytes =>
    (memory.write (base + ringOffset pointer) byte).writeRing base (pointer + 1) bytes

@[simp] theorem length_readRing (memory : Memory) (base : Nat) (pointer : UInt16) (count : Nat) :
    (memory.readRing base pointer count).length = count := by
  simp [readRing]

theorem readRing_congr {first second : Memory} {base : Nat}
    (h : ∀ place < 2048, first.read (base + place) = second.read (base + place)) (pointer : UInt16)
    (count : Nat) : first.readRing base pointer count = second.readRing base pointer count :=
  List.map_congr_left fun _ _ => h _ (ringOffset_lt _)

theorem read_writeRing_of_outside (memory : Memory) (base : Nat) (pointer : UInt16)
    (bytes : List UInt8) {address : Nat} (h : address < base ∨ base + 2048 ≤ address) :
    (memory.writeRing base pointer bytes).read address = memory.read address := by
  induction bytes generalizing memory pointer with
  | nil => rfl
  | cons byte bytes ih =>
    have := ringOffset_lt pointer
    rw [writeRing, ih, read_write_of_ne _ _ (by omega)]

end Memory

end SpiEthernet
