import SpiEthernet.Chip.Access

/-!
# Registers do not overlap

Every register has its own bytes of memory, so a write to one register shows in no other. The
statements here are about the parts of the chip's state that hold registers; what the driver's
accesses and the events do to them follows by simplification.

* `address_disjoint` : the bytes of two different socket registers are disjoint.
* `byteOf_setByteOf`, `wordOf_setWordOf` : a register holds what was last put into it.
* `read_setByteOf_of_outside` : a register's bytes lie in its socket's block and nowhere else.
* `wordOf_powerOn`, `byteOf_new` : what registers hold after a reset.
-/

namespace SpiEthernet

/-! ## Addresses -/

namespace SocketRegister

theorem offset_disjoint {r r' : SocketRegister} (h : r ≠ r') :
    r.offset.toNat + r.width ≤ r'.offset.toNat ∨ r'.offset.toNat + r'.width ≤ r.offset.toNat := by
  cases r <;> cases r' <;> first | exact absurd rfl h | decide

theorem offset_add_width_le (r : SocketRegister) : r.offset.toNat + r.width ≤ 0x2C := by
  cases r <;> decide

/-- The bytes of two different socket registers are disjoint. -/
theorem address_disjoint {r r' : SocketRegister} {s s' : SocketId} (h : ¬(r = r' ∧ s = s')) :
    (r.address s).toNat + r.width ≤ (r'.address s').toNat ∨
      (r'.address s').toNat + r'.width ≤ (r.address s).toNat := by
  rw [toNat_address, toNat_address]
  have hr := r.offset_add_width_le
  have hr' := r'.offset_add_width_le
  by_cases hs : s = s'
  · subst hs
    have hne : r ≠ r' := fun e => h ⟨e, rfl⟩
    rcases offset_disjoint hne with hd | hd
    · left; omega
    · right; omega
  · have : s.val ≠ s'.val := fun e => hs (Fin.ext e)
    omega

theorem address_disjoint_of_ne {r r' : SocketRegister} (h : r ≠ r') (s s' : SocketId) :
    (r.address s).toNat + r.width ≤ (r'.address s').toNat ∨
      (r'.address s').toNat + r'.width ≤ (r.address s).toNat :=
  address_disjoint fun hsame => h hsame.1

theorem width_pos (r : SocketRegister) : 0 < r.width := by
  cases r <;> decide

/-- Socket registers lie between the common registers and the rings. -/
theorem address_mem (r : SocketRegister) (s : SocketId) :
    0x0400 ≤ (r.address s).toNat ∧ (r.address s).toNat + r.width ≤ 0x0800 := by
  have := r.offset_add_width_le
  have := s.isLt
  rw [toNat_address]
  omega

theorem address_ne_of_lt (r : SocketRegister) (s : SocketId) {address : UInt16}
    (h : address.toNat < 0x0400) : r.address s ≠ address := by
  rintro rfl
  have := (r.address_mem s).1
  omega

/-- An address belongs to one socket register at most. -/
theorem address_inj {r r' : SocketRegister} {s s' : SocketId} (h : r.address s = r'.address s') :
    r = r' ∧ s = s' := by
  by_cases hsame : r = r' ∧ s = s'
  · exact hsame
  · have hd := address_disjoint hsame
    have hp := r.width_pos
    have hp' := r'.width_pos
    rw [h] at hd
    omega

theorem toNat_address_add (r : SocketRegister) (s : SocketId) {i : Nat} (hi : i < r.width) :
    (r.address s + UInt16.ofNat i).toNat = (r.address s).toNat + i := by
  have := (r.address_mem s).2
  rw [UInt16.toNat_add, UInt16.toNat_ofNat']
  omega

theorem toNat_address_succ {r : SocketRegister} (hw : r.width = 2) (s : SocketId) :
    (r.address s + 1).toNat = (r.address s).toNat + 1 :=
  r.toNat_address_add s (i := 1) (by omega)

theorem address_succ_lt {r : SocketRegister} (hw : r.width = 2) (s : SocketId) :
    (r.address s).toNat + 1 < 0x0800 := by
  have := (r.address_mem s).2
  omega

/-- The second byte of a register is the first byte of none. -/
theorem address_succ_ne {r : SocketRegister} (hw : r.width = 2) (s : SocketId)
    (r' : SocketRegister) (t : SocketId) : r.address s + 1 ≠ r'.address t := by
  intro he
  have h := congrArg UInt16.toNat he
  rw [toNat_address_succ hw] at h
  have hp := r'.width_pos
  by_cases hsame : r = r' ∧ s = t
  · obtain ⟨rfl, rfl⟩ := hsame
    omega
  · have hd := address_disjoint hsame
    omega

end SocketRegister

namespace Chip

variable (chip : Chip) (s s' : SocketId)

/-! ## The parts of the state that hold registers -/

/-- The flags the chip stores in its interrupt register. -/
def stored : UInt8 := chip.memory.read CommonRegister.interrupt.address.toNat

/-- The interrupts that are enabled. -/
def enabled : UInt8 := chip.memory.read CommonRegister.interruptMask.address.toNat

@[simp] theorem byteOf_setByteOf (r r' : SocketRegister) (value : UInt8) :
    (chip.setByteOf r s value).byteOf r' s' =
      if r = r' ∧ s = s' then value else chip.byteOf r' s' := by
  have hm := r.address_mem s
  have hp := r.width_pos
  have hp' := r'.width_pos
  split
  · next h =>
    obtain ⟨rfl, rfl⟩ := h
    exact Memory.read_write_self _ _ (by omega)
  · next h =>
    have := SocketRegister.address_disjoint h
    exact Memory.read_write_of_ne _ _ (by omega)

@[simp] theorem byteOf_setWordOf {r r' : SocketRegister} (value : UInt16) (hw : r.width = 2)
    (h : r ≠ r') : (chip.setWordOf r s value).byteOf r' s' = chip.byteOf r' s' := by
  have hp' := r'.width_pos
  have hd := SocketRegister.address_disjoint_of_ne h s s'
  exact Memory.read_writeWord_of_ne _ _ (by omega) (by omega)

@[simp] theorem wordOf_setByteOf {r r' : SocketRegister} (value : UInt8) (hw : r'.width = 2)
    (h : r ≠ r') : (chip.setByteOf r s value).wordOf r' s' = chip.wordOf r' s' := by
  have hp := r.width_pos
  have hd := SocketRegister.address_disjoint_of_ne h s s'
  show word _ _ = word _ _
  rw [setByteOf, Memory.read_write_of_ne _ _ (by omega), Memory.read_write_of_ne _ _ (by omega)]

@[simp] theorem wordOf_setWordOf {r r' : SocketRegister} (value : UInt16) (hw : r.width = 2)
    (hw' : r'.width = 2) : (chip.setWordOf r s value).wordOf r' s' =
      if r = r' ∧ s = s' then value else chip.wordOf r' s' := by
  have hm := r.address_mem s
  split
  · next h =>
    obtain ⟨rfl, rfl⟩ := h
    exact Memory.readWord_writeWord_self _ _ (by omega)
  · next h =>
    have hd := SocketRegister.address_disjoint h
    show word _ _ = word _ _
    rw [setWordOf, Memory.read_writeWord_of_ne _ _ (by omega) (by omega),
      Memory.read_writeWord_of_ne _ _ (by omega) (by omega)]

/-! ## Registers and the rest of memory -/

theorem read_setByteOf_of_outside (r : SocketRegister) (value : UInt8) {address : Nat}
    (h : address < 0x0400 ∨ 0x0800 ≤ address) :
    (chip.setByteOf r s value).memory.read address = chip.memory.read address := by
  have := r.address_mem s
  have := r.width_pos
  exact Memory.read_write_of_ne _ _ (by omega)

theorem read_setWordOf_of_outside {r : SocketRegister} (value : UInt16) (hw : r.width = 2)
    {address : Nat} (h : address < 0x0400 ∨ 0x0800 ≤ address) :
    (chip.setWordOf r s value).memory.read address = chip.memory.read address := by
  have := r.address_mem s
  exact Memory.read_writeWord_of_ne _ _ (by omega) (by omega)

@[simp] theorem stored_setByteOf (r : SocketRegister) (value : UInt8) :
    (chip.setByteOf r s value).stored = chip.stored :=
  chip.read_setByteOf_of_outside s r value (by decide)

@[simp] theorem enabled_setByteOf (r : SocketRegister) (value : UInt8) :
    (chip.setByteOf r s value).enabled = chip.enabled :=
  chip.read_setByteOf_of_outside s r value (by decide)

@[simp] theorem stored_setWordOf {r : SocketRegister} (value : UInt16) (hw : r.width = 2) :
    (chip.setWordOf r s value).stored = chip.stored :=
  chip.read_setWordOf_of_outside s value hw (by decide)

@[simp] theorem enabled_setWordOf {r : SocketRegister} (value : UInt16) (hw : r.width = 2) :
    (chip.setWordOf r s value).enabled = chip.enabled :=
  chip.read_setWordOf_of_outside s value hw (by decide)

/-! ## Latches and the interrupt line -/

@[simp] theorem latches_mapLatch_self (f : SocketLatch → SocketLatch) :
    (chip.mapLatch s f).latches[s] = f chip.latches[s] := by
  simp [mapLatch]

theorem latches_mapLatch_of_ne {s s' : SocketId} (f : SocketLatch → SocketLatch) (h : s ≠ s') :
    (chip.mapLatch s f).latches[s'] = chip.latches[s'] := by
  simp [mapLatch, SocketId.getElem_set_of_ne _ _ h]

@[simp] theorem byteOf_mapLatch (r : SocketRegister) (f : SocketLatch → SocketLatch) :
    (chip.mapLatch s f).byteOf r s' = chip.byteOf r s' := rfl

@[simp] theorem wordOf_mapLatch (r : SocketRegister) (f : SocketLatch → SocketLatch) :
    (chip.mapLatch s f).wordOf r s' = chip.wordOf r s' := rfl

@[simp] theorem latches_setByteOf (r : SocketRegister) (value : UInt8) :
    (chip.setByteOf r s value).latches = chip.latches := rfl

@[simp] theorem latches_setWordOf (r : SocketRegister) (value : UInt16) :
    (chip.setWordOf r s value).latches = chip.latches := rfl

@[simp] theorem edge_setByteOf (r : SocketRegister) (value : UInt8) :
    (chip.setByteOf r s value).edge = chip.edge := rfl

@[simp] theorem edge_setWordOf (r : SocketRegister) (value : UInt16) :
    (chip.setWordOf r s value).edge = chip.edge := rfl

@[simp] theorem edge_mapLatch (f : SocketLatch → SocketLatch) :
    (chip.mapLatch s f).edge = chip.edge := rfl

@[simp] theorem latches_assertLine : chip.assertLine.latches = chip.latches := by
  unfold assertLine
  split <;> rfl

@[simp] theorem latches_raiseSocket (bits : UInt8) :
    (chip.raiseSocket s bits).latches = chip.latches := by
  rw [raiseSocket, latches_assertLine, latches_setByteOf]

@[simp] theorem latches_raiseGlobal (bits : UInt8) :
    (chip.raiseGlobal bits).latches = chip.latches := by
  rw [raiseGlobal, latches_assertLine]

@[simp] theorem latches_store (bytes : List UInt8) :
    (chip.store s bytes).latches = chip.latches := by
  unfold store
  split
  · rfl
  · rw [latches_raiseSocket, updateRxSize, latches_setWordOf, latches_setWordOf]

/-- Setting the pointers of a socket sets its pointers and its sizes, and no other word. -/
theorem wordOf_setPointers (chip : Chip) (s t : SocketId) (tx rx : UInt16) {r : SocketRegister}
    (hw : r.width = 2) : (chip.setPointers s tx rx).wordOf r t =
      if s = t then
        match r with
        | .txRead | .txWrite => tx
        | .rxRead | .rxWrite => rx
        | .txFree => UInt16.ofNat ringSize
        | .rxSize => 0
        | _ => chip.wordOf r t
      else chip.wordOf r t := by
  have hset (c : Chip) (r' : SocketRegister) (value : UInt16) (hw' : r'.width = 2) :
      (c.setWordOf r' s value).wordOf r t = if r' = r ∧ s = t then value else c.wordOf r t :=
    wordOf_setWordOf c s t value hw' hw
  simp only [setPointers]
  rw [hset _ _ _ rfl, hset _ _ _ rfl, hset _ _ _ rfl, hset _ _ _ rfl, hset _ _ _ rfl,
    hset _ _ _ rfl, wordOf_mapLatch]
  by_cases hst : s = t
  · cases r <;> simp [hst]
  · simp [hst]

/-! ## A chip that has been reset -/

/-- Outside the registers that a reset sets, the memory is zero after it. -/
theorem read_resetMemory {address : Nat} (hcommon : address < 0x17 ∨ 0x1B < address)
    (hsocket : ∀ t, (SocketRegister.txFree.address t).toNat ≠ address ∧
      (SocketRegister.txFree.address t).toNat + 1 ≠ address) :
    resetMemory.read address = 0 := by
  have hretry : CommonRegister.retryTime.address.toNat = 0x17 := rfl
  have hcount : CommonRegister.retryCount.address.toNat = 0x19 := rfl
  have htx : CommonRegister.txMemorySize.address.toNat = 0x1B := rfl
  have hrx : CommonRegister.rxMemorySize.address.toNat = 0x1A := rfl
  have hfold : ∀ (sockets : List SocketId) (memory : Memory), memory.read address = 0 →
      (sockets.foldl (fun memory t => memory.writeWord
        (SocketRegister.txFree.address t).toNat (UInt16.ofNat ringSize)) memory).read
          address = 0 := by
    intro sockets
    induction sockets with
    | nil => intro memory hmemory; exact hmemory
    | cons t sockets ih =>
      intro memory hmemory
      refine ih _ ?_
      rw [Memory.read_writeWord_of_ne _ _ (hsocket t).1 (hsocket t).2, hmemory]
  refine hfold _ _ ?_
  rw [Memory.read_write_of_ne _ _ (by omega), Memory.read_write_of_ne _ _ (by omega),
    Memory.read_write_of_ne _ _ (by omega),
    Memory.read_writeWord_of_ne _ _ (by omega) (by omega), Memory.read_zero]

/-- On a chip that has just been powered up, every socket register of one byte is zero. -/
theorem byteOf_new (absent : Option UInt8) (s : SocketId) {r : SocketRegister}
    (hr : r.width = 1) : (new absent).byteOf r s = 0 := by
  have hmem := r.address_mem s
  refine read_resetMemory (by omega) fun t => ?_
  have hne : SocketRegister.txFree ≠ r := by
    rintro rfl
    cases hr
  have hdisjoint := SocketRegister.address_disjoint_of_ne hne t s
  have hw : SocketRegister.txFree.width = 2 := rfl
  omega

/-- A chip that has just been powered up has no flag of its own raised. -/
theorem stored_new (absent : Option UInt8) : (new absent).stored = 0 := by
  have hi : CommonRegister.interrupt.address.toNat = 0x15 := rfl
  refine read_resetMemory (by omega) fun t => ?_
  have hmem := SocketRegister.txFree.address_mem t
  omega

/-- After a reset all pointers are zero, and the transmit rings are free. -/
theorem wordOf_powerOn (chip : Chip) (s : SocketId) {r : SocketRegister} (hr : r.width = 2) :
    chip.powerOn.wordOf r s = if r = .txFree then UInt16.ofNat ringSize else 0 := by
  have hmem := r.address_mem s
  split
  · next hfree =>
    subst hfree
    -- what is written for the other sockets lies elsewhere
    have hfold : ∀ (sockets : List SocketId) (memory : Memory), s ∈ sockets ∨
        memory.readWord (SocketRegister.txFree.address s).toNat = UInt16.ofNat ringSize →
          (sockets.foldl (fun memory t => memory.writeWord
            (SocketRegister.txFree.address t).toNat (UInt16.ofNat ringSize)) memory).readWord
              (SocketRegister.txFree.address s).toNat = UInt16.ofNat ringSize := by
      intro sockets
      induction sockets with
      | nil => exact fun memory hmemory => hmemory.resolve_left List.not_mem_nil
      | cons t sockets ih =>
        intro memory hmemory
        refine ih _ ?_
        by_cases hts : t = s
        · subst hts
          exact .inr (Memory.readWord_writeWord_self _ _ (by omega))
        · have hd := SocketRegister.address_disjoint
            fun hsame : SocketRegister.txFree = .txFree ∧ t = s => hts hsame.2
          refine (hmemory.imp (fun hin => ?_) fun hword => ?_)
          · exact (List.mem_cons.1 hin).resolve_left (Ne.symm hts)
          · rw [Memory.readWord, Memory.read_writeWord_of_ne _ _ (by omega) (by omega),
              Memory.read_writeWord_of_ne _ _ (by omega) (by omega)]
            exact hword
    exact hfold SocketId.all _ (.inl (SocketId.mem_all s))
  · next hother =>
    have hplace {i : Nat} (hi : i < 2) :
        resetMemory.read ((r.address s).toNat + i) = 0 := by
      refine read_resetMemory (by omega) fun t => ?_
      have hd := SocketRegister.address_disjoint_of_ne (Ne.symm hother) t s
      have hw : SocketRegister.txFree.width = 2 := rfl
      omega
    show word (resetMemory.read ((r.address s).toNat + 0)) (resetMemory.read _) = 0
    rw [hplace (by decide), hplace (by decide)]
    rfl

end Chip

end SpiEthernet
