import SpiEthernet.Proofs.Receive.Stock
import SpiEthernet.Proofs.Send.Transmission

/-!
# Receiving while sending

A socket that sends goes on receiving. Staging, collecting flags and transmitting touch neither the
socket's mode nor its receive ring, and whoever answers does so with datagrams. So all that happens
to the receive ring meanwhile is that datagrams arrive behind the others.

* `Holds.send` : transmitting leaves the receive ring alone.
* `Passes.holds_of_isSending` : so do all frames with which a socket sends, arrivals apart.
-/

namespace SpiEthernet

/-! ## The receive side -/

/-- A place of memory that belongs to a socket's receive side: its mode, the registers of its
receive ring, and the ring itself. -/
def SocketId.TakesAt (s : SocketId) (address : Nat) : Prop :=
  address = 0x0400 + 0x0100 * s.val ∨
    (0x0426 + 0x0100 * s.val ≤ address ∧ address < 0x042C + 0x0100 * s.val) ∨
    (0x6000 + 0x0800 * s.val ≤ address ∧ address < 0x6800 + 0x0800 * s.val)

/-- A frame with which a socket sends: it stages something, it is quiet, or it is the command to
transmit. -/
def Frame.IsSending (s : SocketId) (frame : Frame) : Prop :=
  frame.IsStaging s ∨ frame.IsQuiet ∨
    frame = Frame.write (SocketRegister.command.address s) SocketCommand.send.code

namespace Chip

variable {chip chip' : Chip} {s : SocketId} {inlet : Inlet}

theorem Holds.congr (h : chip.Holds s inlet) (hsteady : chip'.Steady)
    (hsuits : ∀ scheduled ∈ chip'.queue, scheduled.event.suits s inlet.framing)
    (hlatch : chip'.latches[s].rxRead = chip.latches[s].rxRead)
    (hplaces : ∀ address, s.TakesAt address →
      chip'.memory.read address = chip.memory.read address) : chip'.Holds s inlet := by
  have hplace (r : SocketRegister) := r.toNat_address s
  have hword {r : SocketRegister} (hr : r = .rxSize ∨ r = .rxRead ∨ r = .rxWrite) :
      chip'.wordOf r s = chip.wordOf r s := by
    have hat := hplace r
    refine wordOf_eq_of_places (hplaces _ ?_) (hplaces _ ?_) <;> rcases hr with rfl | rfl | rfl <;>
      simp only [SocketRegister.offset, UInt16.reduceToNat] at hat <;>
      unfold SocketId.TakesAt <;> omega
  have hmode : chip'.byteOf .mode s = chip.byteOf .mode s := by
    have hat := hplace .mode
    simp only [SocketRegister.offset, UInt16.reduceToNat] at hat
    exact hplaces _ (.inl (by omega))
  exact
    { steady := hsteady
      suits := hsuits
      mode := hmode ▸ h.mode
      released := hlatch.trans h.released
      cursor := (hword (.inr (.inl rfl))).trans h.cursor
      size := (hword (.inl rfl)).trans h.size
      write := (hword (.inr (.inr rfl))).trans h.write
      fits := h.fits
      ring := fun i hi => by
        have hoffset := ringOffset_lt (inlet.released + UInt16.ofNat i)
        have hbase := toNat_rxBase s
        refine (hplaces _ (.inr (.inr ?_))).trans (h.ring i hi)
        omega }

/-! ## Transmitting -/

/-- A register that transmitting may change is none of the receive side. -/
theorem address_ne_of_takesAt {r : SocketRegister} (hr : 0 < r.offset.toNat)
    (hend : r.offset.toNat + r.width ≤ 0x26) {address : Nat} (ha : s.TakesAt address) {i : Nat}
    (hi : i < r.width) : (r.address s).toNat + i ≠ address := by
  have hs := s.isLt
  rw [r.toNat_address]
  unfold SocketId.TakesAt at ha
  omega

theorem read_transmit (chip : Chip) {address : Nat} (ha : s.TakesAt address) :
    (chip.transmit s).memory.read address = chip.memory.read address := by
  have hbyte (c : Chip) {r : SocketRegister} (value : UInt8) (hr : 0 < r.offset.toNat)
      (hend : r.offset.toNat + r.width ≤ 0x26) :
      (c.setByteOf r s value).memory.read address = c.memory.read address :=
    Memory.read_write_of_ne _ _ (address_ne_of_takesAt hr hend ha r.width_pos)
  have hword (c : Chip) {r : SocketRegister} (value : UInt16) (hr : 0 < r.offset.toNat)
      (hw : 1 < r.width) (hend : r.offset.toNat + r.width ≤ 0x26) :
      (c.setWordOf r s value).memory.read address = c.memory.read address :=
    Memory.read_writeWord_of_ne _ _ (address_ne_of_takesAt hr hend ha r.width_pos)
      (address_ne_of_takesAt hr hend ha hw)
  have hreleased : (chip.releaseTx s).memory.read address = chip.memory.read address := by
    refine (hword _ _ (by decide) (by decide) (by decide)).trans ?_
    exact hword chip _ (by decide) (by decide) (by decide)
  have hraised (bits : UInt8) : ((chip.releaseTx s).raiseSocket s bits).memory.read address =
      chip.memory.read address := by
    rw [raiseSocket, memory_assertLine, hbyte _ _ (by decide) (by decide), hreleased]
  simp only [transmit]
  split
  · simp only [failTransmit]
    split
    · rw [setStatus, hbyte _ _ (by decide) (by decide), hraised]
    · exact hraised _
  · refine Eq.trans ?_ (hraised SocketFlag.sendOk)
    unfold answer
    split <;> rfl

/-- Transmitting leaves the receive side alone, and whoever answers does so with a datagram. -/
theorem Holds.send (h : chip.Holds s inlet) (hframing : inlet.framing = .udp) :
    (chip.command s SocketCommand.send.code).Holds s inlet := by
  refine h.congr (h.steady.command s _) (fun scheduled hs => ?_) ?_ fun address ha => ?_
  · rcases mem_queue_command hs with hs | ⟨source, port, payload, hevent⟩
    · exact h.suits scheduled hs
    · rw [hevent, hframing]
      simp [Event.suits, Event.delivery?, Event.datagram?]
  · simp only [command, SocketCommand.ofCode?_code, run, latches_transmit, releaseTx,
      latches_setWordOf, latches_mapLatch_self, latches_setByteOf]
  · simp only [command, SocketCommand.ofCode?_code, run]
    rw [read_transmit _ ha]
    exact Memory.read_write_of_ne _ _
      (address_ne_of_takesAt (r := .command) (by decide) (by decide) ha (i := 0) (by decide))

/-- A frame with which a socket sends leaves what the socket has received as it is. -/
theorem Holds.serve_of_isSending (h : chip.Holds s inlet) (hframing : inlet.framing = .udp)
    {frame : Frame} (hf : frame.IsSending s) : (chip.serve frame).2.Holds s inlet := by
  have hpresent := h.steady.present
  have hquiet (hq : frame.IsQuiet) : (chip.serve frame).2.Holds s inlet := by
    refine (h.carries.serve hq).holds ?_ ?_
    · rw [queue_of_casing (casing_serve hpresent hq.isLocal)]
      exact h.suits
    · rw [byteOf_serve_of_isQuiet hpresent hq (by decide)]
      exact h.mode
  rcases hf with hstaging | hq | rfl
  · obtain ⟨direction, address, value⟩ := frame
    cases direction with
    | read => exact hquiet (Frame.isQuiet_of_read rfl)
    | write =>
      show (chip.write address value).Holds s inlet
      rw [write_of_transmitsAt hpresent value (hstaging rfl)]
      refine h.congr (h.steady.of_casing rfl) h.suits rfl fun place hplace => ?_
      have hs := s.isLt
      have hplaced : s.TransmitsAt address.toNat := hstaging rfl
      unfold SocketId.TransmitsAt at hplaced
      unfold SocketId.TakesAt at hplace
      have hne : address.toNat ≠ place := by omega
      exact chip.read_poke_of_ne value hne
  · exact hquiet hq
  · rw [serve_write, write_command hpresent]
    exact h.send hframing

end Chip

/-- While a socket sends, nothing happens to its receive ring but that datagrams arrive. -/
theorem Endpoint.Passes.holds_of_isSending {start now : Endpoint} {s : SocketId} {inlet : Inlet}
    {o : List Occurrence} (h : start.Passes (Frame.IsSending s) o now)
    (hs : start.chip.Holds s inlet) (hframing : inlet.framing = .udp) :
    now.chip.Holds s (inlet.after s o) := by
  induction h with
  | refl => rwa [Inlet.after_nil]
  | turn _ frame hf ih =>
    rw [Inlet.after_append]
    exact (ih.serve_of_isSending hframing hf).afterFrame
  | mask _ _ ih => exact ih
  | notice _ ih => exact ih.congr (ih.steady.of_casing rfl) ih.suits rfl fun _ _ => rfl

end SpiEthernet
