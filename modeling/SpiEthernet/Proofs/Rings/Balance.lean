import SpiEthernet.Proofs.Receive.Passage
import SpiEthernet.Proofs.Rings.Pointers

/-!
# Balanced rings

The transmit ring of a socket is balanced if the bytes between its pointers are no more than the
ring holds, and the read pointer is what the chip gives back for the write pointer. The receive ring
is balanced if its size is the distance of its pointers and no more than the ring holds, and the
read pointer is the one that the chip has accepted. Every frame keeps a ring balanced unless it
writes to one of the ring's pointers, and so does everything that arrives.

* `BalancedTx.of_effect`, `BalancedRx.of_effect` : frames that avoid the pointers of a ring.
* `BalancedTx.afterFrame`, `BalancedRx.afterFrame` : events.
* `BalancedTx.offers`, `BalancedRx.passing` : what a balanced ring holds.
-/

namespace SpiEthernet

namespace Chip

/-! ## Balance -/

/-- The transmit pointer as the chip gives it back. -/
def readBack (chip : Chip) (s : SocketId) : UInt16 :=
  word (chip.read (SocketRegister.txWrite.address s)).1
    (chip.read (SocketRegister.txWrite.address s + 1)).1

/-- The transmit ring of a socket is balanced. -/
structure BalancedTx (chip : Chip) (s : SocketId) : Prop where
  sent : chip.wordOf .txRead s = chip.readBack s
  staged : (chip.wordOf .txWrite s - chip.wordOf .txRead s).toNat ≤ ringSize
  free : (chip.wordOf .txFree s).toNat ≤ ringSize

/-- The receive ring of a socket is balanced. -/
structure BalancedRx (chip : Chip) (s : SocketId) : Prop where
  size : chip.wordOf .rxSize s = chip.wordOf .rxWrite s - chip.wordOf .rxRead s
  fits : (chip.wordOf .rxSize s).toNat ≤ ringSize
  accepted : chip.wordOf .rxRead s = chip.latches[s].rxRead

variable {chip chip' : Chip} {s : SocketId} {frame : Frame}

theorem readBack_eq (h : chip.absent = none) : chip.readBack s = chip.latches[s].txWrite := by
  rw [readBack, (read_txWrite h).1, (read_txWrite h).2, word_highByte_lowByte]

/-! ## Empty rings -/

theorem Emptied.balancedTx (h : chip.Emptied s) (hpresent : chip.absent = none) :
    chip.BalancedTx s := by
  have htxRead : chip.wordOf .txRead s = 0 := h.pointers (by decide)
  refine ⟨?_, ?_, ?_⟩
  · rw [readBack_eq hpresent, h.txWrite, htxRead]
  · rw [htxRead, h.pointers (r := .txWrite) (by decide)]
    decide
  · rw [h.free]
    decide

theorem Emptied.balancedRx (h : chip.Emptied s) : chip.BalancedRx s := by
  have hrxSize : chip.wordOf .rxSize s = 0 := h.pointers (by decide)
  have hrxRead : chip.wordOf .rxRead s = 0 := h.pointers (by decide)
  refine ⟨?_, ?_, ?_⟩
  · rw [hrxSize, hrxRead, h.pointers (r := .rxWrite) (by decide)]
    rfl
  · rw [hrxSize]
    decide
  · rw [hrxRead, h.rxRead]

/-! ## Frames -/

theorem BalancedTx.of_effect (h : chip.BalancedTx s) (hpresent : chip.absent = none)
    (hpresent' : chip'.absent = none) (heffect : chip.PointerEffect s frame chip')
    (hfree : frame.Avoids .txFree s) (hread : frame.Avoids .txRead s)
    (hwrite : frame.Avoids .txWrite s) : chip'.BalancedTx s := by
  have hsent := h.sent
  rw [readBack_eq hpresent] at hsent
  cases heffect with
  | kept htx _ hwords =>
    have htxRead := hwords _ rfl hread
    refine ⟨?_, ?_, ?_⟩
    · rw [readBack_eq hpresent', htx, htxRead, hsent]
    · rw [hwords _ rfl hwrite, htxRead]
      exact h.staged
    · rw [hwords _ rfl hfree]
      exact h.free
  | emptied _ hemptied => exact hemptied.balancedTx hpresent'
  | sent htx _ hwords =>
    have htxRead : chip'.wordOf .txRead s = chip.wordOf .txWrite s := hwords _ rfl
    have htxWrite : chip'.wordOf .txWrite s = chip.wordOf .txWrite s := hwords _ rfl
    have hroom : chip'.wordOf .txFree s = UInt16.ofNat ringSize := hwords _ rfl
    refine ⟨?_, ?_, ?_⟩
    · rw [readBack_eq hpresent', htx, htxRead]
    · rw [htxWrite, htxRead, UInt16.sub_self]
      decide
    · rw [hroom]
      decide
  | received htx _ hwords =>
    have htxRead : chip'.wordOf .txRead s = chip.wordOf .txRead s := hwords _ rfl
    have htxWrite : chip'.wordOf .txWrite s = chip.wordOf .txWrite s := hwords _ rfl
    have hroom : chip'.wordOf .txFree s = chip.wordOf .txFree s := hwords _ rfl
    refine ⟨?_, ?_, ?_⟩
    · rw [readBack_eq hpresent', htx, htxRead, hsent]
    · rw [htxWrite, htxRead]
      exact h.staged
    · rw [hroom]
      exact h.free

/-- A frame that avoids the pointers of the receive ring keeps it balanced, and makes it no smaller
unless it sets them. -/
theorem BalancedRx.of_effect (h : chip.BalancedRx s) (heffect : chip.PointerEffect s frame chip')
    (hsize : frame.Avoids .rxSize s) (hread : frame.Avoids .rxRead s)
    (hwrite : frame.Avoids .rxWrite s) : chip'.BalancedRx s ∧
      (frame.Opens s ∨ chip'.wordOf .rxSize s = chip.wordOf .rxSize s) := by
  have hsame (hrx : chip'.latches[s].rxRead = chip.latches[s].rxRead)
      (hrxSize : chip'.wordOf .rxSize s = chip.wordOf .rxSize s)
      (hrxRead : chip'.wordOf .rxRead s = chip.wordOf .rxRead s)
      (hrxWrite : chip'.wordOf .rxWrite s = chip.wordOf .rxWrite s) : chip'.BalancedRx s := by
    refine ⟨?_, ?_, ?_⟩
    · rw [hrxSize, hrxWrite, hrxRead]
      exact h.size
    · rw [hrxSize]
      exact h.fits
    · rw [hrxRead, hrx]
      exact h.accepted
  cases heffect with
  | kept _ hrx hwords =>
    exact ⟨hsame hrx (hwords _ rfl hsize) (hwords _ rfl hread) (hwords _ rfl hwrite),
      .inr (hwords _ rfl hsize)⟩
  | emptied hopens hemptied => exact ⟨hemptied.balancedRx, .inl hopens⟩
  | sent _ hrx hwords =>
    exact ⟨hsame hrx (hwords _ rfl) (hwords _ rfl) (hwords _ rfl), .inr (hwords _ rfl)⟩
  | received _ hrx hwords =>
    -- in a balanced ring nothing has been passed, so the size that is computed anew is the old one
    have hrxSize : chip'.wordOf .rxSize s = chip.wordOf .rxSize s :=
      (hwords _ rfl).trans h.size.symm
    exact ⟨hsame (hrx.trans h.accepted) hrxSize (hwords _ rfl) (hwords _ rfl), .inr hrxSize⟩

/-! ## What a balanced ring holds -/

/-- A balanced receive ring holds as many bytes as its size says, and none of them is passed. -/
theorem BalancedRx.passing (h : chip.BalancedRx s) (hsteady : chip.Steady) :
    ∃ bytes, chip.Passing s 0 bytes ∧ bytes.length = (chip.wordOf .rxSize s).toNat := by
  have hwrite : chip.wordOf .rxWrite s = chip.latches[s].rxRead + chip.wordOf .rxSize s := by
    rw [h.size, ← h.accepted, UInt16.add_comm, UInt16.sub_add_cancel]
  have hsize : chip.wordOf .rxSize s = UInt16.ofNat (chip.wordOf .rxSize s).toNat :=
    UInt16.ofNat_toNat.symm
  have hlength := Memory.length_readRing chip.memory (rxBase s).toNat chip.latches[s].rxRead
    (chip.wordOf .rxSize s).toNat
  generalize hbytes : chip.memory.readRing (rxBase s).toNat chip.latches[s].rxRead
    (chip.wordOf .rxSize s).toNat = bytes at hlength
  rw [← hlength] at hsize
  have hcarries : chip.Carries s ((Inlet.empty .udp chip.latches[s].rxRead).push bytes) := by
    refine ⟨hsteady, rfl, h.accepted, hsize, hwrite.trans (by rw [hsize]; rfl), ?_, fun i hi => ?_⟩
    · show bytes.length ≤ ringSize
      rw [hlength]
      exact h.fits
    · simp only [← hbytes, Inlet.push, Inlet.empty, List.nil_append, Memory.readRing,
        List.getElem_map, List.getElem_range]
  exact ⟨bytes, hcarries.passing, hlength⟩

theorem Passing.balanced {bytes : List UInt8} (h : chip.Passing s 0 bytes) :
    chip.BalancedRx s ∧ (chip.wordOf .rxSize s).toNat = bytes.length := by
  obtain ⟨inlet, hcarries, hpassed, rfl⟩ := h
  have hcursor : inlet.cursor = inlet.released := by
    rw [hpassed.cursor]
    exact UInt16.add_zero inlet.released
  refine ⟨⟨?_, ?_, ?_⟩, hcarries.toNat_size⟩
  · rw [hcarries.size, hcarries.write, hcarries.cursor, hcursor, UInt16.add_comm,
      UInt16.add_sub_cancel]
  · rw [hcarries.toNat_size]
    exact hcarries.fits
  · rw [hcarries.cursor, hcarries.released, hcursor]

/-- The transmit ring of a balanced socket offers what is in it. -/
theorem BalancedTx.offers (h : chip.BalancedTx s) (hsteady : chip.Steady) :
    ∃ outlet, chip.Offers s outlet ∧ outlet.Sound ∧ outlet.free.toNat ≤ ringSize ∧
      outlet.bytes.length = ringSize := by
  have hsent := h.sent
  rw [readBack_eq hsteady.present] at hsent
  have hstaged := h.staged
  rw [hsent] at hstaged
  have hlength := Memory.length_readRing chip.memory (txBase s).toNat chip.latches[s].txWrite
    ringSize
  generalize hbytes : chip.memory.readRing (txBase s).toNat chip.latches[s].txWrite
    ringSize = bytes at hlength
  refine ⟨{
    start := chip.latches[s].txWrite
    pointer := chip.wordOf .txWrite s
    free := chip.wordOf .txFree s
    bytes
    destination := (chip.stagedPacket s).destination
    destinationPort := chip.wordOf .peerPort s
    timesOut := chip.latches[s].timesOut
    sent := chip.sent },
    ⟨hsteady, rfl, rfl, hsent, rfl, rfl, Nat.le_of_eq hlength, fun i hi => ?_, rfl, rfl, rfl⟩,
    Nat.le_trans hstaged (Nat.le_of_eq hlength.symm), h.free, hlength⟩
  simp only [← hbytes, Memory.readRing, List.getElem_map, List.getElem_range]

theorem Offers.balanced {outlet : Outlet} (h : chip.Offers s outlet) (hsound : outlet.Sound)
    (hfree : outlet.free.toNat ≤ ringSize) : chip.BalancedTx s := by
  refine ⟨?_, ?_, ?_⟩
  · rw [readBack_eq h.steady.present, h.start, h.latch]
  · rw [h.pointer, h.start]
    exact Nat.le_trans hsound h.fits
  · rw [h.free]
    exact hfree

/-! ## Events -/

theorem BalancedTx.afterFrame (h : chip.BalancedTx s) (hsteady : chip.Steady) :
    chip.afterFrame.BalancedTx s := by
  obtain ⟨outlet, hoffers, hsound, hfree, -⟩ := h.offers hsteady
  exact hoffers.afterFrame.balanced hsound hfree

/-- Whatever arrives leaves a receive ring balanced, and makes it no smaller. -/
theorem BalancedRx.afterFrame (h : chip.BalancedRx s) (hsteady : chip.Steady) :
    chip.afterFrame.BalancedRx s ∧
      (chip.wordOf .rxSize s).toNat ≤ (chip.afterFrame.wordOf .rxSize s).toNat := by
  obtain ⟨bytes, ⟨inlet, hcarries, hpassed, rfl⟩, hlength⟩ := h.passing hsteady
  obtain ⟨hbalanced, hsize⟩ := Passing.balanced ⟨_, hcarries.afterFrame, hpassed.push _, rfl⟩
  refine ⟨hbalanced, ?_⟩
  rw [hsize, ← hlength]
  exact inlet.length_le_push _

end Chip

end SpiEthernet
