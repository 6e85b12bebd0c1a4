import SpiEthernet.Proofs.Send.Range

/-!
# Where a socket sends to

The destination of a socket is six bytes of its block. When it is set, those six bytes are different
and no other byte is, so what has been staged on the socket is to leave for the new destination as
it is.

* `Memory.redirected` : the memory when a socket's destination has been set.
* `stagedPacket_of_redirected` : what is staged keeps its bytes.
* `setDestination_rewritten` : setting a destination does this to the chip's memory.
-/

namespace SpiEthernet

/-! ## In memory -/

namespace Memory

variable (memory : Memory) (s : SocketId) (ip : Ipv4)

/-- The memory when the address that a socket sends to has been set. The registers stand in the
first 2048 bytes, so the octets are stored as in a ring that begins there. -/
def addressed : Memory := memory.writeRing 0 (SocketRegister.peerIp.address s) ip.octets

/-- The memory when the address and the port that a socket sends to have been set. -/
def redirected (port : UInt16) : Memory :=
  (memory.addressed s ip).writeWord (SocketRegister.peerPort.address s).toNat port

variable {memory s ip}

theorem ringOffset_peerIp {i : Nat} (hi : i < 4) :
    ringOffset (SocketRegister.peerIp.address s + UInt16.ofNat i) =
      (SocketRegister.peerIp.address s).toNat + i := by
  have hmem := SocketRegister.peerIp.address_mem s
  have hwidth : SocketRegister.peerIp.width = 4 := rfl
  rw [ringOffset_add]
  show (_ % 2048 + i) % 2048 = _
  omega

theorem read_addressed {i : Nat} (hi : i < ip.octets.length) :
    (memory.addressed s ip).read ((SocketRegister.peerIp.address s).toNat + i) = ip.octets[i] := by
  have hlength := ip.length_octets
  have hread := read_writeRing (show 0 + 2048 ≤ 0x8000 by decide) ip.octets memory
    (SocketRegister.peerIp.address s) (i := i) (by omega) (by omega)
  rwa [Nat.zero_add, ringOffset_peerIp (by omega), List.getElem?_eq_getElem hi] at hread

theorem read_addressed_of_outside {address : Nat}
    (h : address < (SocketRegister.peerIp.address s).toNat ∨
      (SocketRegister.peerIp.address s).toNat + 4 ≤ address) :
    (memory.addressed s ip).read address = memory.read address := by
  refine read_writeRing_of_ne _ _ _ _ fun i hi => ?_
  rw [Ipv4.length_octets] at hi
  rw [ringOffset_peerIp hi]
  omega

/-- A word that is written where it stands changes nothing. -/
theorem writeWord_readWord {place : Nat} (h : place + 1 < 0x8000) :
    memory.writeWord place (memory.readWord place) = memory := by
  refine ext_read fun address => ?_
  rw [read_writeWord _ h, readWord, highByte_word, lowByte_word]
  split
  · next ha => rw [ha]
  split
  · next ha => rw [ha]
  · rfl

theorem readWord_addressed_of_outside {place : Nat}
    (h : place + 1 < (SocketRegister.peerIp.address s).toNat ∨
      (SocketRegister.peerIp.address s).toNat + 4 ≤ place) :
    (memory.addressed s ip).readWord place = memory.readWord place := by
  rw [readWord, readWord, read_addressed_of_outside (by omega),
    read_addressed_of_outside (by omega)]

theorem toNat_peerPort (s : SocketId) : (SocketRegister.peerPort.address s).toNat =
    (SocketRegister.peerIp.address s).toNat + 4 := by
  rw [SocketRegister.toNat_address, SocketRegister.toNat_address]
  rfl

theorem read_redirected_of_outside {port : UInt16} {address : Nat}
    (h : address < (SocketRegister.peerIp.address s).toNat ∨
      (SocketRegister.peerIp.address s).toNat + 6 ≤ address) :
    (memory.redirected s ip port).read address = memory.read address := by
  have hport := toNat_peerPort s
  rw [redirected, read_writeWord_of_ne _ _ (by omega) (by omega),
    read_addressed_of_outside (by omega)]

/-- The words behind the destination are as they were. -/
theorem readWord_redirected {r : SocketRegister} (hr : 0x12 ≤ r.offset.toNat) {port : UInt16} :
    (memory.redirected s ip port).readWord (r.address s).toNat =
      memory.readWord (r.address s).toNat := by
  have hip := SocketRegister.peerIp.toNat_address s
  have hplace := r.toNat_address s
  rw [show SocketRegister.peerIp.offset.toNat = 0x0C from rfl] at hip
  rw [readWord, readWord, read_redirected_of_outside (by omega),
    read_redirected_of_outside (by omega)]

/-- Where the port is not set, it stays what it is. -/
theorem redirected_self :
    memory.redirected s ip (memory.readWord (SocketRegister.peerPort.address s).toNat) =
      memory.addressed s ip := by
  have hport := toNat_peerPort s
  have hbound := SocketRegister.address_succ_lt (r := .peerPort) rfl s
  have hkept : (memory.addressed s ip).readWord (SocketRegister.peerPort.address s).toNat =
      memory.readWord (SocketRegister.peerPort.address s).toNat :=
    readWord_addressed_of_outside (.inr (Nat.le_of_eq hport.symm))
  rw [redirected, ← hkept, writeWord_readWord (by omega)]

end Memory

/-- What is staged on a socket whose destination has been set leaves for that destination. -/
theorem Chip.stagedPacket_of_redirected {chip chip' : Chip} {s : SocketId} {ip : Ipv4}
    {port : UInt16} (h : chip'.memory = chip.memory.redirected s ip port) :
    chip'.stagedPacket s =
      { chip.stagedPacket s with destination := ip, destinationPort := port } := by
  have hport := Memory.toNat_peerPort s
  have hbound := SocketRegister.address_succ_lt (r := .peerPort) rfl s
  have hbase := toNat_txBase s
  have hword {r : SocketRegister} (hr : 0x12 ≤ r.offset.toNat) :
      chip'.wordOf r s = chip.wordOf r s := by
    show chip'.memory.readWord _ = _
    rw [h, Memory.readWord_redirected hr]
    rfl
  have hring : ∀ place < 2048, chip'.memory.read ((txBase s).toNat + place) =
      chip.memory.read ((txBase s).toNat + place) := fun place _ => by
    rw [h, Memory.read_redirected_of_outside (by omega)]
  have hdestination : (chip'.stagedPacket s).destination = ip := by
    refine Chip.destination_eq fun i hi => ?_
    have hlength := ip.length_octets
    rw [h, Memory.redirected, Memory.read_writeWord_of_ne _ _ (by omega) (by omega),
      Memory.read_addressed hi]
  have hdestinationPort : chip'.wordOf .peerPort s = port := by
    show chip'.memory.readWord _ = _
    rw [h, Memory.redirected, Memory.readWord_writeWord_self _ _ (by omega)]
  simp only [Chip.stagedPacket] at hdestination ⊢
  rw [hdestination, hdestinationPort, hword (r := .txRead) (by decide),
    hword (r := .txWrite) (by decide), Memory.readRing_congr hring]

/-! ## On a device -/

section Device

variable {σ : Type} [Host σ] [Wired σ]

namespace Habit

variable {H : Habit σ} {s : SocketId} {start device : Device σ} {memory : Memory} (hH : H.Calm)

include hH

theorem setAddress_rewritten (h : H.Rewritten start memory device) (ip : Ipv4) :
    Ends (onLink (writeBlock (SocketRegister.peerIp.address s) ip.octets)) device
      fun _ now => H.Rewritten start (memory.addressed s ip) now := by
  refine writeRing_rewritten hH h (s := s) (fun i hi => ?_) fun i hi => ?_
  · rw [SocketRegister.peerIp.toNat_address_add s hi, Nat.zero_add, Memory.ringOffset_peerIp hi]
  · rw [SocketRegister.peerIp.toNat_address_add s hi]
    exact s.transmitsAt_register rfl hi

theorem setDestination_rewritten (h : H.Rewritten start memory device) (ip : Ipv4) (port : UInt16) :
    Ends (setDestination s ip port) device fun _ now =>
      H.Rewritten start (memory.redirected s ip port) now := by
  refine Ends.bind (setAddress_rewritten hH h ip) ?_
  exact fun _ d1 h1 => writeWord_rewritten hH h1 rfl rfl port

end Habit

end Device

end SpiEthernet
