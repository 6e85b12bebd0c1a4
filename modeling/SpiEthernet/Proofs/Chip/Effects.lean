import SpiEthernet.Proofs.Chip.Registers

/-!
# What an access to the chip does

Reading and writing go through nested tests on the address. Here the outcomes are listed once, as
the few things an access to a chip that is there can do, so that a proof about accesses has one
case for each of them and never looks at the tests.

* `readEffect`, `writeEffect` : every access does one of the listed things.
* `casing_read`, `casing_write` : what no access changes, transmissions apart.
-/

namespace SpiEthernet

namespace Chip

/-! ## Which address is which -/

theorem eq_address_of_locate {address : UInt16} {s : SocketId} {r : SocketRegister}
    (h : locate address = some (s, r.offset)) : address = r.address s := by
  unfold locate at h
  split at h
  · next hb =>
    obtain ⟨hs, ho⟩ := Prod.mk.inj (Option.some.inj h)
    have hs := congrArg Fin.val hs
    have ho := congrArg UInt16.toNat ho
    apply UInt16.toNat_inj.mp
    rw [SocketRegister.toNat_address]
    simp only [UInt16.toNat_ofNat'] at hs ho
    omega
  · cases h

/-! ## Reading -/

/-- What a read of a chip that is there can answer, and the chip afterwards. -/
inductive ReadEffect (chip : Chip) (address : UInt16) : UInt8 → Chip → Prop where
  /-- The mode register of a chip that is still resetting. -/
  | resetting (ha : address = CommonRegister.mode.address) (value : UInt8) (busy : Nat) :
    ReadEffect chip address value { chip with resetBusy := busy }
  /-- The interrupt register. -/
  | interrupts (ha : address = CommonRegister.interrupt.address) :
    ReadEffect chip address chip.interrupts chip
  /-- A command register that still shows its command. -/
  | busy (s : SocketId) (ha : address = SocketRegister.command.address s)
    (hb : 0 < chip.latches[s].busy) (value : UInt8) :
    ReadEffect chip address value
      (chip.mapLatch s fun latch => { latch with busy := chip.latches[s].busy - 1 })
  /-- A command register whose command has been accepted. -/
  | accepted (s : SocketId) (ha : address = SocketRegister.command.address s)
    (hb : chip.latches[s].busy = 0) : ReadEffect chip address 0 chip
  /-- A transmit pointer, which reads as it was at the last transmission. -/
  | txWrite (s : SocketId) (ha : address = SocketRegister.txWrite.address s ∨
    address = SocketRegister.txWrite.address s + 1) (value : UInt8) :
    ReadEffect chip address value chip
  /-- Plain memory. -/
  | memory : ReadEffect chip address (chip.memory.read address.toNat) chip

theorem read_eq_readPresent {chip : Chip} (h : chip.absent = none) (address : UInt16) :
    chip.read address = chip.readPresent address := by
  rw [read, h]

theorem address_add_one_of_locate {address : UInt16} {s : SocketId}
    (h : locate address = some (s, SocketRegister.txWrite.offset + 1)) :
    address = SocketRegister.txWrite.address s + 1 := by
  unfold locate at h
  split at h
  · next hb =>
    obtain ⟨hs, ho⟩ := Prod.mk.inj (Option.some.inj h)
    have hs := congrArg Fin.val hs
    have ho := congrArg UInt16.toNat ho
    have hoff : (SocketRegister.txWrite.offset + 1).toNat = 0x25 := rfl
    have hoff' : SocketRegister.txWrite.offset.toNat = 0x24 := rfl
    apply UInt16.toNat_inj.mp
    rw [UInt16.toNat_add, SocketRegister.toNat_address]
    rw [hoff, UInt16.toNat_ofNat'] at ho
    simp only [UInt16.reduceToNat] at hs ⊢
    omega
  · cases h

theorem readEffect {chip : Chip} (h : chip.absent = none) (address : UInt16) :
    ReadEffect chip address (chip.read address).1 (chip.read address).2 := by
  rw [read_eq_readPresent h, readPresent]
  split
  · next hm => exact .resetting hm.1 _ _
  split
  · next hi => exact .interrupts hi
  split
  · next s offset hl =>
    unfold readSocket
    split
    · next ho =>
      have ha := eq_address_of_locate (r := .command) (ho ▸ hl)
      dsimp only
      split
      · next hb => exact .busy s ha hb _
      · next hb => exact .accepted s ha (by omega)
    split
    · next ho => exact .txWrite s (.inl (eq_address_of_locate (r := .txWrite) (ho ▸ hl))) _
    split
    · next ho => exact .txWrite s (.inr (address_add_one_of_locate (ho ▸ hl))) _
    · exact .memory
  · exact .memory

/-! ## Writing -/

/-- What a write to a chip that is there can do. -/
inductive WriteEffect (chip : Chip) (address : UInt16) (value : UInt8) : Chip → Prop where
  /-- The chip is reset. -/
  | reset (ha : address = CommonRegister.mode.address) :
    WriteEffect chip address value { chip.powerOn with resetBusy := 3 }
  /-- Stored interrupt flags are cleared. -/
  | clearGlobal (ha : address = CommonRegister.interrupt.address) :
    WriteEffect chip address value (chip.clearBits address (value &&& InterruptFlag.global))
  /-- Flags of a socket are cleared. -/
  | clearSocket (s : SocketId) (ha : address = SocketRegister.interrupt.address s) :
    WriteEffect chip address value
      (chip.setByteOf .interrupt s (chip.byteOf .interrupt s &&& ~~~value))
  /-- A socket takes a command. -/
  | command (s : SocketId) (ha : address = SocketRegister.command.address s) :
    WriteEffect chip address value (chip.command s value)
  /-- Plain memory changes. -/
  | memory (hi : address ≠ CommonRegister.interrupt.address)
    (hs : ∀ s, address ≠ SocketRegister.interrupt.address s)
    (hc : ∀ s, address ≠ SocketRegister.command.address s) :
    WriteEffect chip address value (chip.poke address value)

theorem writeEffect {chip : Chip} (h : chip.absent = none) (address : UInt16) (value : UInt8) :
    WriteEffect chip address value (chip.write address value) := by
  rw [write, h]
  show WriteEffect chip address value (chip.writePresent address value)
  unfold writePresent
  split
  · next hm =>
    subst hm
    split
    · exact .reset rfl
    · exact .memory (by decide) (by decide) (by decide)
  split
  · next hi => exact .clearGlobal hi
  · next hi =>
    split
    · next s offset hl =>
      split
      · next ho =>
        have ha := eq_address_of_locate (r := .interrupt) (ho ▸ hl)
        subst ha
        exact .clearSocket s rfl
      · next hni =>
        split
        · next ho => exact .command s (eq_address_of_locate (r := .command) (ho ▸ hl))
        · next hnc =>
          refine .memory hi ?_ ?_
          · intro t ht
            rw [ht, locate_address] at hl
            exact hni (Prod.mk.inj (Option.some.inj hl)).2.symm
          · intro t ht
            rw [ht, locate_address] at hl
            exact hnc (Prod.mk.inj (Option.some.inj hl)).2.symm
    · next hl =>
      refine .memory hi ?_ ?_
      · intro t ht
        rw [ht, locate_address] at hl
        cases hl
      · intro t ht
        rw [ht, locate_address] at hl
        cases hl

/-- Writing the interrupt register clears stored flags. -/
theorem write_interrupt {chip : Chip} (h : chip.absent = none) (value : UInt8) :
    chip.write CommonRegister.interrupt.address value =
      chip.clearBits CommonRegister.interrupt.address (value &&& InterruptFlag.global) := by
  rw [write, h]
  rfl

/-- Writing a socket's interrupt register clears flags of the socket. -/
theorem write_socketInterrupt {chip : Chip} (h : chip.absent = none) (s : SocketId)
    (value : UInt8) :
    chip.write (SocketRegister.interrupt.address s) value =
      chip.setByteOf .interrupt s (chip.byteOf .interrupt s &&& ~~~value) := by
  have heffect := writeEffect h (SocketRegister.interrupt.address s) value
  generalize chip.write (SocketRegister.interrupt.address s) value = after at *
  cases heffect with
  | reset ha => exact absurd ha (SocketRegister.address_ne_of_lt _ _ (by decide))
  | clearGlobal ha => exact absurd ha (SocketRegister.address_ne_of_lt _ _ (by decide))
  | clearSocket t ha => rw [(SocketRegister.address_inj ha).2]
  | command t ha => cases (SocketRegister.address_inj ha).1
  | memory _ hs => exact absurd rfl (hs s)

/-- Writing a command register gives the socket a command. -/
theorem write_command {chip : Chip} (h : chip.absent = none) (s : SocketId) (value : UInt8) :
    chip.write (SocketRegister.command.address s) value = chip.command s value := by
  have heffect := writeEffect h (SocketRegister.command.address s) value
  generalize chip.write (SocketRegister.command.address s) value = after at *
  cases heffect with
  | reset ha => exact absurd ha (SocketRegister.address_ne_of_lt _ _ (by decide))
  | clearGlobal ha => exact absurd ha (SocketRegister.address_ne_of_lt _ _ (by decide))
  | clearSocket t ha => cases (SocketRegister.address_inj ha).1
  | command t ha => rw [(SocketRegister.address_inj ha).2]
  | memory _ _ hc => exact absurd rfl (hc s)

/-- Writing any other socket register changes the register's first byte. -/
theorem write_register {chip : Chip} (h : chip.absent = none) {r : SocketRegister}
    (s : SocketId) (value : UInt8) (hi : r ≠ .interrupt) (hc : r ≠ .command) :
    chip.write (r.address s) value = chip.setByteOf r s value := by
  have heffect := writeEffect h (r.address s) value
  generalize chip.write (r.address s) value = after at *
  cases heffect with
  | reset ha => exact absurd ha (SocketRegister.address_ne_of_lt _ _ (by decide))
  | clearGlobal ha => exact absurd ha (SocketRegister.address_ne_of_lt _ _ (by decide))
  | clearSocket t ha => exact absurd (SocketRegister.address_inj ha).1 hi
  | command t ha => exact absurd (SocketRegister.address_inj ha).1 hc
  | memory => rfl

/-- Writing the second byte of a socket register only changes that byte. -/
theorem write_register_succ {chip : Chip} (h : chip.absent = none) {r : SocketRegister}
    (hw : r.width = 2) (s : SocketId) (value : UInt8) :
    chip.write (r.address s + 1) value = chip.poke (r.address s + 1) value := by
  have hmem := (r.address_mem s).1
  have hsucc := SocketRegister.toNat_address_succ hw s
  have hne : ∀ address : UInt16, address.toNat < 0x0400 → r.address s + 1 ≠ address := by
    rintro address hlt rfl
    omega
  have heffect := writeEffect h (r.address s + 1) value
  generalize chip.write (r.address s + 1) value = after at *
  cases heffect with
  | reset ha => exact absurd ha (hne _ (by decide))
  | clearGlobal ha => exact absurd ha (hne _ (by decide))
  | clearSocket t ha => exact absurd ha (SocketRegister.address_succ_ne hw _ _ _)
  | command t ha => exact absurd ha (SocketRegister.address_succ_ne hw _ _ _)
  | memory => rfl

/-! ## What accesses leave alone -/

/-- A chip without its registers, its rings and its interrupt line: what is left is whether it is
there, its count of frames, and its plans. -/
def casing (chip : Chip) : Chip :=
  { chip with
    memory := Memory.zero, latches := Vector.replicate 4 {}, resetBusy := 0, edge := false,
    sent := [] }

section Casing

variable (chip : Chip) (s : SocketId)

@[simp] theorem casing_setByteOf (r : SocketRegister) (value : UInt8) :
    (chip.setByteOf r s value).casing = chip.casing := rfl

@[simp] theorem casing_setWordOf (r : SocketRegister) (value : UInt16) :
    (chip.setWordOf r s value).casing = chip.casing := rfl

@[simp] theorem casing_mapLatch (f : SocketLatch → SocketLatch) :
    (chip.mapLatch s f).casing = chip.casing := rfl

@[simp] theorem casing_poke (address : UInt16) (value : UInt8) :
    (chip.poke address value).casing = chip.casing := rfl

theorem casing_change (memory : Memory) (latches : Vector SocketLatch 4) (resetBusy : Nat) :
    { chip with memory, latches, resetBusy }.casing = chip.casing := rfl

theorem casing_reset : { chip.powerOn with resetBusy := 3 }.casing = chip.casing := by
  rw [powerOn]
  exact chip.casing_change _ _ _

@[simp] theorem casing_assertLine : chip.assertLine.casing = chip.casing := by
  unfold assertLine
  split <;> rfl

@[simp] theorem casing_raiseSocket (bits : UInt8) :
    (chip.raiseSocket s bits).casing = chip.casing := by
  rw [raiseSocket, casing_assertLine, casing_setByteOf]

@[simp] theorem casing_raiseGlobal (bits : UInt8) :
    (chip.raiseGlobal bits).casing = chip.casing := by
  rw [raiseGlobal, casing_assertLine]
  rfl

@[simp] theorem casing_setStatus (status : SocketStatus) :
    (chip.setStatus s status).casing = chip.casing := by
  rw [setStatus, casing_setByteOf]

@[simp] theorem casing_setPointers (tx rx : UInt16) :
    (chip.setPointers s tx rx).casing = chip.casing := by
  simp only [setPointers, casing_setWordOf, casing_mapLatch]

@[simp] theorem casing_updateRxSize : (chip.updateRxSize s).casing = chip.casing := by
  rw [updateRxSize, casing_setWordOf]

@[simp] theorem casing_store (bytes : List UInt8) : (chip.store s bytes).casing = chip.casing := by
  unfold store
  split
  · rfl
  · rw [casing_raiseSocket, casing_updateRxSize, casing_setWordOf]
    rfl

@[simp] theorem casing_releaseTx : (chip.releaseTx s).casing = chip.casing := by
  simp only [releaseTx, casing_setWordOf, casing_mapLatch]

@[simp] theorem casing_failTransmit : (chip.failTransmit s).casing = chip.casing := by
  simp only [failTransmit]
  split
  · rw [casing_setStatus, casing_raiseSocket]
  · rw [casing_raiseSocket]

end Casing

section Same

variable {chip chip' : Chip} (h : chip.casing = chip'.casing)

include h

theorem absent_of_casing : chip.absent = chip'.absent := by
  show chip.casing.absent = chip'.casing.absent
  rw [h]

theorem queue_of_casing : chip.queue = chip'.queue := by
  show chip.casing.queue = chip'.casing.queue
  rw [h]

theorem transactions_of_casing : chip.transactions = chip'.transactions := by
  show chip.casing.transactions = chip'.casing.transactions
  rw [h]

end Same

theorem ReadEffect.edge_eq {chip after : Chip} {address : UInt16} {value : UInt8}
    (h : ReadEffect chip address value after) : after.edge = chip.edge := by
  cases h <;> rfl

theorem ReadEffect.casing_eq {chip after : Chip} {address : UInt16} {value : UInt8}
    (h : ReadEffect chip address value after) : after.casing = chip.casing := by
  cases h <;> rfl

theorem casing_read {chip : Chip} (h : chip.absent = none) (address : UInt16) :
    (chip.read address).2.casing = chip.casing :=
  (readEffect h address).casing_eq

/-- The commands that put bytes on the network. -/
def transmits : SocketCommand → Bool
  | .send | .sendMac | .sendKeep => true
  | _ => false

theorem casing_run (chip : Chip) (s : SocketId) {command : SocketCommand}
    (h : transmits command = false) : (chip.run s command).casing = chip.casing := by
  cases command with
  | send | sendMac | sendKeep => cases h
  | «open» => rw [run, casing_setPointers, casing_setStatus]
  | listen => rw [run, casing_setStatus]
  | connect | disconnect => rw [run, casing_raiseSocket, casing_setStatus]
  | close => rw [run, casing_setByteOf, casing_setStatus]
  | receive => rw [run, casing_updateRxSize, casing_mapLatch]

theorem casing_command (chip : Chip) (s : SocketId) {code : UInt8}
    (h : ∀ command, SocketCommand.ofCode? code = some command → transmits command = false) :
    (chip.command s code).casing = chip.casing := by
  simp only [command]
  split
  · next c hc => rw [casing_run _ _ (h c hc), casing_mapLatch, casing_setByteOf]
  · rw [casing_mapLatch, casing_setByteOf]

/-- A write changes no more than registers, rings and the interrupt line, unless it makes a
socket transmit. -/
theorem casing_write {chip : Chip} (h : chip.absent = none) {address : UInt16} {value : UInt8}
    (hq : ∀ s command, address = SocketRegister.command.address s →
      SocketCommand.ofCode? value = some command → transmits command = false) :
    (chip.write address value).casing = chip.casing := by
  have heffect := writeEffect h address value
  generalize chip.write address value = after at *
  cases heffect with
  | reset => exact chip.casing_reset
  | clearGlobal => rw [clearBits, casing_poke]
  | memory => rw [casing_poke]
  | clearSocket s => rw [casing_setByteOf]
  | command s ha => exact casing_command chip s fun command hc => hq s command ha hc

end Chip

end SpiEthernet
