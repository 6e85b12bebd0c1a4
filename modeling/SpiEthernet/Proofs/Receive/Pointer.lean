import SpiEthernet.Proofs.Receive.Inlet

/-!
# The receive pointer

The driver moves its receive pointer behind the bytes it has read, one byte of the pointer after
the other, and then gives the command that releases what the pointer has passed. Between the two
the pointer is ahead of the inlet's start by the bytes that were passed.

* `Carries.writeHigh`, `Carries.writeLow` : moving the pointer touches nothing else.
* `Carries.release` : what was passed leaves the ring, and nothing else does.
* `carries_setPointers` : a ring whose pointers have been set is empty.
-/

namespace SpiEthernet

/-! ## Moving the pointer -/

namespace Inlet

variable (inlet : Inlet)

/-- The inlet with the driver's pointer elsewhere. -/
def moveTo (pointer : UInt16) : Inlet := { inlet with cursor := pointer }

/-- The inlet without some bytes, up to the driver's pointer. -/
def release (count : Nat) : Inlet :=
  { inlet with released := inlet.cursor, bytes := inlet.bytes.drop count }

/-- The driver's pointer has passed some bytes that have not been released. -/
structure Passed (count : Nat) : Prop where
  le : count ≤ inlet.bytes.length
  cursor : inlet.cursor = inlet.released + UInt16.ofNat count

theorem length_le_push (bytes : List UInt8) :
    inlet.bytes.length ≤ (inlet.push bytes).bytes.length := by
  rw [push, List.length_append]
  exact Nat.le_add_right _ _

variable {inlet} {count : Nat}

theorem Passed.push (h : inlet.Passed count) (bytes : List UInt8) :
    (inlet.push bytes).Passed count :=
  ⟨Nat.le_trans h.le (length_le_push _ _), h.cursor⟩

theorem Passed.advance (h : inlet.Passed count) {more : Nat}
    (hmore : count + more ≤ inlet.bytes.length) :
    (inlet.moveTo (inlet.cursor + UInt16.ofNat more)).Passed (count + more) := by
  refine ⟨hmore, ?_⟩
  show inlet.cursor + UInt16.ofNat more = inlet.released + UInt16.ofNat (count + more)
  rw [h.cursor, UInt16.ofNat_add, UInt16.add_assoc]

/-- Bytes that are in the ring stay where they are when others arrive. -/
theorem take_drop_push {skipped : Nat} (h : skipped + count ≤ inlet.bytes.length)
    (bytes : List UInt8) :
    ((inlet.push bytes).bytes.drop skipped).take count =
      (inlet.bytes.drop skipped).take count := by
  rw [push, List.drop_append_of_le_length (by omega),
    List.take_append_of_le_length (by rw [List.length_drop]; omega)]

end Inlet

namespace Chip.Carries

variable {chip : Chip} {s : SocketId} {inlet : Inlet}

theorem wrote (h : chip.Carries s inlet) {address : Nat} (value : UInt8)
    (ha : address = (SocketRegister.rxRead.address s).toNat ∨
      address = (SocketRegister.rxRead.address s).toNat + 1) :
    Chip.Carries { chip with memory := chip.memory.write address value } s (inlet.moveTo
      (Chip.wordOf { chip with memory := chip.memory.write address value } .rxRead s)) := by
  have hwidth : SocketRegister.rxRead.width = 2 := rfl
  have hword {r : SocketRegister} (hr : SocketRegister.rxRead ≠ r) (hw : r.width = 2) :
      Chip.wordOf { chip with memory := chip.memory.write address value } r s =
        chip.wordOf r s := by
    have hd := SocketRegister.address_disjoint_of_ne hr s s
    show word _ _ = word _ _
    rw [Memory.read_write_of_ne _ _ (by omega), Memory.read_write_of_ne _ _ (by omega)]
  have hmem := SocketRegister.rxRead.address_mem s
  have hbase := toNat_rxBase s
  refine ⟨h.steady.of_casing rfl, h.released, rfl, ?_, ?_, h.fits, fun i hi => ?_⟩
  · exact (hword (by decide) rfl).trans h.size
  · exact (hword (by decide) rfl).trans h.write
  · exact (Memory.read_write_of_ne _ _ (by omega)).trans (h.ring i hi)

theorem writeHigh (h : chip.Carries s inlet) (value : UInt8) :
    (chip.write (SocketRegister.rxRead.address s) value).Carries s
      (inlet.moveTo (word value (lowByte inlet.cursor))) := by
  have hmem := SocketRegister.rxRead.address_mem s
  have hwrote := h.wrote value (.inl rfl)
  have hcursor : Chip.wordOf
      { chip with
        memory := chip.memory.write (SocketRegister.rxRead.address s).toNat value } .rxRead s =
      word value (lowByte inlet.cursor) := by
    show word _ _ = _
    rw [Memory.read_write_self _ _ (by omega), Memory.read_write_of_ne _ _ (by omega), ← h.cursor,
      wordOf, Memory.readWord, lowByte_word]
  rw [hcursor] at hwrote
  rw [write_register h.steady.present s value (by decide) (by decide)]
  exact hwrote

theorem writeLow (h : chip.Carries s inlet) (value : UInt8) :
    (chip.write (SocketRegister.rxRead.address s + 1) value).Carries s
      (inlet.moveTo (word (highByte inlet.cursor) value)) := by
  have hmem := SocketRegister.rxRead.address_mem s
  have hwidth : SocketRegister.rxRead.width = 2 := rfl
  have hwrote := h.wrote value (.inr rfl)
  have hcursor : Chip.wordOf
      { chip with
        memory := chip.memory.write ((SocketRegister.rxRead.address s).toNat + 1) value } .rxRead
        s = word (highByte inlet.cursor) value := by
    show word _ _ = _
    rw [Memory.read_write_self _ _ (by omega), Memory.read_write_of_ne _ _ (by omega), ← h.cursor,
      wordOf, Memory.readWord, highByte_word]
  rw [hcursor] at hwrote
  rw [write_register_succ h.steady.present rfl, poke, SocketRegister.toNat_address_succ rfl]
  exact hwrote

/-- Releasing makes room for exactly the bytes that were passed. -/
theorem receive (h : chip.Carries s inlet) {count : Nat} (hpassed : inlet.Passed count) :
    (chip.run s .receive).Carries s (inlet.release count) := by
  have hlength : (inlet.release count).bytes.length = inlet.bytes.length - count :=
    List.length_drop
  have hle := hpassed.le
  have hfits := h.fits
  have hbase := toNat_rxBase s
  -- the end of the received bytes stays where it is
  have hend : inlet.cursor + UInt16.ofNat (inlet.release count).bytes.length =
      chip.wordOf .rxWrite s := by
    rw [h.write, hpassed.cursor, UInt16.add_assoc, ← UInt16.ofNat_add, hlength,
      Nat.add_sub_cancel' hle]
  have hlatch : (chip.run s .receive).latches[s].rxRead = chip.wordOf .rxRead s := by
    rw [run, updateRxSize, latches_setWordOf, latches_mapLatch_self]
  have hmemory : (chip.run s .receive).memory =
      (chip.setWordOf .rxSize s (UInt16.ofNat (inlet.release count).bytes.length)).memory := by
    rw [run, updateRxSize, latches_mapLatch_self, wordOf_mapLatch, ← hend, h.cursor,
      UInt16.add_comm, UInt16.add_sub_cancel]
    rfl
  have hword {r : SocketRegister} (hw : r.width = 2) : (chip.run s .receive).wordOf r s =
      if SocketRegister.rxSize = r ∧ s = s then UInt16.ofNat (inlet.release count).bytes.length
      else chip.wordOf r s := by
    rw [wordOf, hmemory]
    exact chip.wordOf_setWordOf s s _ rfl hw
  refine ⟨h.steady.run s .receive, hlatch.trans h.cursor, ?_, ?_, ?_, by omega, fun i hi => ?_⟩
  · rw [hword rfl, if_neg (by simp)]
    exact h.cursor
  · rw [hword rfl, if_pos ⟨rfl, rfl⟩]
  · rw [hword rfl, if_neg (by simp)]
    exact hend.symm
  · have hplace : (inlet.release count).released + UInt16.ofNat i =
        inlet.released + UInt16.ofNat (count + i) := by
      rw [UInt16.ofNat_add, ← UInt16.add_assoc, ← hpassed.cursor]
      rfl
    rw [hplace, hmemory, read_setWordOf_of_outside _ _ _ rfl (.inr (by omega))]
    exact (h.ring (count + i) (by omega)).trans List.getElem_drop.symm

theorem release (h : chip.Carries s inlet) {count : Nat} (hpassed : inlet.Passed count) :
    (chip.write (SocketRegister.command.address s) SocketCommand.receive.code).Carries s
      (inlet.release count) := by
  have hgiven : ((chip.setByteOf .command s SocketCommand.receive.code).mapLatch s
      fun latch => { latch with busy := chip.commandLatency.toNat }).Carries s inlet := by
    refine (h.same (chip.sameInlet_setByteOf s s _ (by decide) rfl) (casing_setByteOf _ _ _ _)).same
      ⟨rfl, ?_, fun _ => rfl, fun _ => rfl⟩ (casing_mapLatch _ _ _)
    rw [latches_mapLatch_self]
  have hreceived := hgiven.receive hpassed
  rw [write_command h.steady.present]
  simp only [command, SocketCommand.ofCode?_code]
  exact hreceived

end Chip.Carries

/-! ## Empty rings -/

/-- The inlet without any bytes. -/
def Inlet.empty (framing : Framing) (pointer : UInt16) : Inlet := ⟨framing, pointer, pointer, []⟩

namespace Chip

variable {chip : Chip} {s : SocketId} {framing : Framing}

theorem byteOf_setPointers (tx rx : UInt16) {r : SocketRegister} (hw : r.width = 1) :
    (chip.setPointers s tx rx).byteOf r s = chip.byteOf r s := by
  have hne : ∀ {r' : SocketRegister}, r'.width = 2 → r' ≠ r := by
    rintro r' hw' rfl
    rw [hw] at hw'
    cases hw'
  simp only [setPointers]
  rw [byteOf_setWordOf _ _ _ _ rfl (hne rfl), byteOf_setWordOf _ _ _ _ rfl (hne rfl),
    byteOf_setWordOf _ _ _ _ rfl (hne rfl), byteOf_setWordOf _ _ _ _ rfl (hne rfl),
    byteOf_setWordOf _ _ _ _ rfl (hne rfl), byteOf_setWordOf _ _ _ _ rfl (hne rfl),
    byteOf_mapLatch]

/-- Setting the pointers of a socket empties its ring, wherever they are set to. -/
theorem carries_setPointers (hsteady : chip.Steady) (tx rx : UInt16) :
    (chip.setPointers s tx rx).Carries s (.empty framing rx) := by
  have hword {r : SocketRegister} (hw : r.width = 2) := chip.wordOf_setPointers s s tx rx hw
  refine ⟨hsteady.of_casing (chip.casing_setPointers s tx rx), ?_, (hword rfl).trans (if_pos rfl),
    (hword rfl).trans (if_pos rfl), ?_, Nat.zero_le _, fun i hi => absurd hi (Nat.not_lt_zero i)⟩
  · simp only [setPointers, latches_setWordOf, latches_mapLatch_self]
    rfl
  · exact ((hword rfl).trans (if_pos rfl)).trans (UInt16.add_zero rx).symm

theorem holds_setPointers (hsteady : chip.Steady) (tx rx : UInt16)
    (hmode : Framing.ofRegister (chip.byteOf .mode s) = framing)
    (hsuits : ∀ scheduled ∈ chip.queue, scheduled.event.suits s framing) :
    (chip.setPointers s tx rx).Holds s (.empty framing rx) := by
  refine (carries_setPointers hsteady tx rx).holds (fun scheduled hs => hsuits scheduled ?_) ?_
  · rwa [queue_of_casing (chip.casing_setPointers s tx rx)] at hs
  · rw [byteOf_setPointers tx rx rfl]
    exact hmode

end Chip

end SpiEthernet
