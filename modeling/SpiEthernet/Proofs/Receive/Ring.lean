import SpiEthernet.Controller.Ring
import SpiEthernet.Proofs.Interrupt.Flags

/-!
# Bytes in a receive ring

A socket's receive ring is 2048 bytes of memory, and the place of a byte is found from the
pointer behind which it stands. Bytes that are stored behind others touch none of them as long as
all of them fit, wherever the pointer stands and however often it has gone round.

* `read_writeRing` : what a place in a ring holds after bytes have been stored.
* `memory_pushed`, `wordOf_pushed` : what the chip holds after bytes have arrived.
-/

namespace SpiEthernet

/-! ## Places -/

theorem ringOffset_add (pointer : UInt16) (i : Nat) :
    ringOffset (pointer + UInt16.ofNat i) = (ringOffset pointer + i) % 2048 := by
  simp only [ringOffset, ringSize, UInt16.toNat_add, UInt16.toNat_ofNat']
  omega

theorem add_one_add_ofNat (pointer : UInt16) (i : Nat) :
    pointer + 1 + UInt16.ofNat i = pointer + UInt16.ofNat (i + 1) := by
  rw [UInt16.ofNat_add, UInt16.add_comm (UInt16.ofNat i), ← UInt16.add_assoc]
  rfl

/-- A block that starts at a pointer's place stays in order up to the end of the ring. -/
theorem toNat_ringAddress_add {base pointer : UInt16} (hbase : base.toNat + 2048 ≤ 0x8000)
    {count i : Nat} (hi : i < untilEnd pointer count) :
    (ringAddress base pointer + UInt16.ofNat i).toNat =
      base.toNat + ringOffset (pointer + UInt16.ofNat i) := by
  have hend := ringOffset_add_untilEnd_le pointer count
  rw [ringOffset_add, ringAddress, UInt16.toNat_add, UInt16.toNat_add, UInt16.toNat_ofNat',
    UInt16.toNat_ofNat']
  omega

/-- What is left of a block behind the end of the ring stands at its start. -/
theorem toNat_base_add {base pointer : UInt16} (hbase : base.toNat + 2048 ≤ 0x8000)
    {count i : Nat} (hcount : count ≤ 2048) (hi : i < count - untilEnd pointer count) :
    (base + UInt16.ofNat i).toNat =
      base.toNat + ringOffset (pointer + UInt16.ofNat (untilEnd pointer count + i)) := by
  have hplace := ringOffset_lt pointer
  have hsplit : untilEnd pointer count = min count (2048 - ringOffset pointer) := rfl
  rw [ringOffset_add, UInt16.toNat_add, UInt16.toNat_ofNat']
  omega

/-- The bytes stored are found where they were stored, and the rest of the ring as it was. -/
theorem Memory.read_writeRing {base : Nat} (hbase : base + 2048 ≤ 0x8000) (bytes : List UInt8) :
    ∀ (memory : Memory) (pointer : UInt16) {i : Nat}, bytes.length ≤ 2048 → i < 2048 →
      (memory.writeRing base pointer bytes).read (base + ringOffset (pointer + UInt16.ofNat i)) =
        bytes[i]?.getD (memory.read (base + ringOffset (pointer + UInt16.ofNat i))) := by
  induction bytes with
  | nil => intro memory pointer i _ _; rfl
  | cons byte bytes ih =>
    intro memory pointer i hlength hi
    rw [List.length_cons] at hlength
    have hzero : pointer = pointer + UInt16.ofNat 0 := (UInt16.add_zero pointer).symm
    have hplace := ringOffset_lt pointer
    rw [writeRing]
    cases i with
    | zero =>
      -- the first byte stands a whole round but one behind the place of the others
      have hlast : ringOffset (pointer + UInt16.ofNat 0) =
          ringOffset (pointer + 1 + UInt16.ofNat 2047) := by
        rw [add_one_add_ofNat, ringOffset_add, ringOffset_add]
        omega
      rw [hlast, ih _ _ (by omega) (by omega), ← hlast, ← hzero,
        List.getElem?_eq_none (by omega), read_write_self _ _ (by omega)]
      rfl
    | succ i =>
      have hne : ringOffset pointer ≠ ringOffset (pointer + UInt16.ofNat (i + 1)) := by
        rw [ringOffset_add]
        omega
      rw [← add_one_add_ofNat, ih _ _ (by omega) (by omega), add_one_add_ofNat,
        read_write_of_ne _ _ (by omega)]
      rfl

namespace Chip

variable (chip : Chip) (s : SocketId) (bytes : List UInt8)

/-! ## What arrivals change -/

theorem casing_pushed : (chip.pushed s bytes).casing = chip.casing := by
  rw [pushed, casing_updateRxSize, casing_setWordOf]
  rfl

theorem latches_pushed : (chip.pushed s bytes).latches = chip.latches := by
  rw [pushed, updateRxSize, latches_setWordOf, latches_setWordOf]

theorem memory_pushed {address : Nat} (h : 0x0800 ≤ address) :
    (chip.pushed s bytes).memory.read address =
      (chip.memory.writeRing (rxBase s).toNat (chip.wordOf .rxWrite s) bytes).read address := by
  rw [pushed, updateRxSize, read_setWordOf_of_outside _ _ _ rfl (.inr h),
    read_setWordOf_of_outside _ _ _ rfl (.inr h)]

theorem wordOf_pushed (t : SocketId) {r : SocketRegister} (hw : r.width = 2) :
    (chip.pushed s bytes).wordOf r t =
      if r = .rxSize ∧ t = s then
        chip.wordOf .rxWrite s + UInt16.ofNat bytes.length - chip.latches[s].rxRead
      else if r = .rxWrite ∧ t = s then chip.wordOf .rxWrite s + UInt16.ofNat bytes.length
      else chip.wordOf r t := by
  have hbase := toNat_rxBase s
  have hmem := r.address_mem t
  have hring : Chip.wordOf
      { chip with
        memory := chip.memory.writeRing (rxBase s).toNat (chip.wordOf .rxWrite s) bytes } r t =
      chip.wordOf r t := by
    show word _ _ = word _ _
    rw [Memory.read_writeRing_of_outside _ _ _ _ (by omega),
      Memory.read_writeRing_of_outside _ _ _ _ (by omega)]
  rw [pushed, updateRxSize, wordOf_setWordOf _ _ _ _ rfl hw]
  by_cases hsize : r = .rxSize ∧ t = s
  · rw [if_pos ⟨hsize.1.symm, hsize.2.symm⟩, if_pos hsize, wordOf_setWordOf _ _ _ _ rfl rfl,
      if_pos ⟨rfl, rfl⟩, latches_setWordOf]
  · rw [if_neg fun h => hsize ⟨h.1.symm, h.2.symm⟩, if_neg hsize, wordOf_setWordOf _ _ _ _ rfl hw,
      hring]
    by_cases hwrite : r = .rxWrite ∧ t = s
    · rw [if_pos ⟨hwrite.1.symm, hwrite.2.symm⟩, if_pos hwrite]
    · rw [if_neg fun h => hwrite ⟨h.1.symm, h.2.symm⟩, if_neg hwrite]

end Chip

end SpiEthernet
