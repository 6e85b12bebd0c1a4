import SpiEthernet.Proofs.Interrupt.Flags

/-!
# What events change

An event raises flags, sets a status, or puts bytes into a receive ring and counts them. Whatever
else is in memory it leaves alone: every register of the driver, the transmit rings, and what
belongs to the receive rings of other sockets.

* `read_happen` : the places that an event does not change.
* `read_address_happen` : the registers that an event does not change.
-/

namespace SpiEthernet

/-- Whether an event changes the status of a socket. -/
def Event.setsStatus (s : SocketId) : Event → Bool
  | .setStatus t _ => t = s
  | _ => false

/-- A place of memory that changes when a socket receives something: the registers that say how
far the socket's receive ring is filled, and the ring itself. -/
def SocketId.ReceivesAt (s : SocketId) (address : Nat) : Prop :=
  (0x0426 + 0x0100 * s.val ≤ address ∧ address < 0x0428 + 0x0100 * s.val) ∨
    (0x042A + 0x0100 * s.val ≤ address ∧ address < 0x042C + 0x0100 * s.val) ∨
    (0x6000 + 0x0800 * s.val ≤ address ∧ address < 0x6800 + 0x0800 * s.val)

namespace Chip

variable {chip : Chip} {event : Event} {address : Nat}

/-! ## Places -/

theorem read_assertLine (chip : Chip) (address : Nat) :
    chip.assertLine.memory.read address = chip.memory.read address := by
  rw [memory_assertLine]

theorem read_raiseSocket (chip : Chip) (t : SocketId) (bits : UInt8)
    (h : address ≠ (SocketRegister.interrupt.address t).toNat) :
    (chip.raiseSocket t bits).memory.read address = chip.memory.read address := by
  rw [raiseSocket, read_assertLine]
  exact Memory.read_write_of_ne _ _ h.symm

/-- Bytes that arrive change nothing but the ring they are put into, and what is counted about
it. -/
theorem read_pushed_of_outside (chip : Chip) (t : SocketId) (bytes : List UInt8)
    (h : ¬t.ReceivesAt address) :
    (chip.pushed t bytes).memory.read address = chip.memory.read address := by
  have hsize := SocketRegister.rxSize.toNat_address t
  have hwrite := SocketRegister.rxWrite.toNat_address t
  have hoffset : SocketRegister.rxSize.offset.toNat = 0x26 := rfl
  have hoffset' : SocketRegister.rxWrite.offset.toNat = 0x2A := rfl
  have hbase := toNat_rxBase t
  unfold SocketId.ReceivesAt at h
  rw [pushed, updateRxSize, setWordOf, Memory.read_writeWord_of_ne _ _ (by omega) (by omega),
    setWordOf, Memory.read_writeWord_of_ne _ _ (by omega) (by omega)]
  exact Memory.read_writeRing_of_outside _ _ _ _ (by omega)

/-- An event changes no more than flags, a status, and what belongs to the receive ring it brings
bytes to. -/
theorem read_happen (h : event.isOrdinary)
    (hglobal : address ≠ CommonRegister.interrupt.address.toNat)
    (hflags : ∀ t, address ≠ (SocketRegister.interrupt.address t).toNat)
    (hstatus : ∀ t, event.setsStatus t → address ≠ (SocketRegister.status.address t).toNat)
    (hring : ∀ t bytes, event.delivery? = some (t, bytes) → ¬t.ReceivesAt address) :
    (chip.happen event).memory.read address = chip.memory.read address := by
  cases hd : event.delivery? with
  | some delivery =>
    obtain ⟨t, bytes⟩ := delivery
    rw [happen_of_delivery hd]
    by_cases hfits : chip.fits t bytes
    · rw [store_of_fits _ _ hfits, read_raiseSocket _ _ _ (hflags t)]
      exact chip.read_pushed_of_outside t bytes (hring t bytes hd)
    · rw [store_of_not_fits _ _ hfits]
  | none =>
    cases event with
    | socketInterrupt t bits => exact chip.read_raiseSocket t bits (hflags t)
    | globalInterrupt bits =>
      show (chip.raiseGlobal bits).memory.read address = _
      rw [raiseGlobal, read_assertLine]
      exact Memory.read_write_of_ne _ _ hglobal.symm
    | setStatus t status =>
      exact Memory.read_write_of_ne _ _ (hstatus t (decide_eq_true rfl)).symm
    | setWord => cases h
    | udp | tcp | ipRaw | macRaw => cases hd

/-! ## Registers -/

section Register

variable {r : SocketRegister} {s : SocketId} (hi : r ≠ .interrupt) (hsize : r ≠ .rxSize)
  (hwrite : r ≠ .rxWrite) (h : event.isOrdinary)
  (hstatus : r = .status → event.setsStatus s = false)

include hi hsize hwrite h hstatus

/-- Beside the flags, the status, and what says how far a receive ring is filled, no register is
changed by an event. -/
theorem read_address_happen {i : Nat} (hwidth : i < r.width) :
    (chip.happen event).memory.read ((r.address s).toNat + i) =
      chip.memory.read ((r.address s).toNat + i) := by
  have hmem := r.address_mem s
  have hother {r' : SocketRegister} (hr' : r ≠ r') (t : SocketId) :
      (r.address s).toNat + r.width ≤ (r'.address t).toNat ∨
        (r'.address t).toNat + r'.width ≤ (r.address s).toNat :=
    SocketRegister.address_disjoint_of_ne hr' s t
  refine read_happen h ?_ (fun t => ?_) (fun t ht => ?_) fun t _ _ hreceives => ?_
  · have hcommon : CommonRegister.interrupt.address.toNat = 0x15 := rfl
    omega
  · have hpos := SocketRegister.interrupt.width_pos
    have hd := hother hi t
    omega
  · have hpos := SocketRegister.status.width_pos
    have hd : ¬(r = .status ∧ s = t) := by
      rintro ⟨hr, rfl⟩
      rw [hstatus hr] at ht
      cases ht
    have hd := SocketRegister.address_disjoint hd
    omega
  · have hd := hother hsize t
    have hd' := hother hwrite t
    have hw : SocketRegister.rxSize.width = 2 := rfl
    have hw' : SocketRegister.rxWrite.width = 2 := rfl
    have hoffset : SocketRegister.rxSize.offset.toNat = 0x26 := rfl
    have hoffset' : SocketRegister.rxWrite.offset.toNat = 0x2A := rfl
    rw [SocketRegister.rxSize.toNat_address] at hd
    rw [SocketRegister.rxWrite.toNat_address] at hd'
    unfold SocketId.ReceivesAt at hreceives
    omega

theorem byteOf_happen : (chip.happen event).byteOf r s = chip.byteOf r s :=
  read_address_happen hi hsize hwrite h hstatus r.width_pos

end Register

end Chip

end SpiEthernet
