import SpiEthernet.Proofs.Send.Staging

/-!
# The frames of staging

A datagram is prepared by reading registers and by writing to the transmit side of its socket,
that is, to the registers of the destination, to the transmit pointer and to the transmit ring. No
other frame is exchanged, and the controller is left alone, whatever happens to the chip
meanwhile.

* `memory_serve_of_isStaging` : everything else in memory is left as it is.
* `Travels.stage`, `Travels.buffer`, `Travels.startDatagram` : the operations that prepare.
-/

namespace SpiEthernet

/-- A frame that reads, or that writes to the transmit side of a socket. -/
def Frame.IsStaging (s : SocketId) (frame : Frame) : Prop :=
  frame.direction = .write → s.TransmitsAt frame.address.toNat

section Frames

variable {s : SocketId} {frame : Frame}

theorem Frame.isStaging_of_read (h : frame.direction = .read) : frame.IsStaging s := by
  intro hw
  rw [h] at hw
  cases hw

theorem Frame.IsStaging.isLocal (h : frame.IsStaging s) : frame.IsLocal := fun hw =>
  Frame.isLocal_of_transmitsAt (h hw) frame.data rfl

/-- No register of another kind is part of a transmit side. -/
theorem SocketId.not_transmitsAt_register {r : SocketRegister} (hr : r.offset.toNat < 0x0C)
    (s t : SocketId) : ¬s.TransmitsAt (r.address t).toNat := by
  have hs := s.isLt
  have ht := t.isLt
  rw [r.toNat_address, TransmitsAt]
  omega

namespace Chip

variable {chip : Chip}

/-- Staging changes nothing in memory but the transmit side. -/
theorem memory_serve_of_isStaging (h : chip.absent = none) (hf : frame.IsStaging s) {address : Nat}
    (ha : ¬s.TransmitsAt address) :
    (chip.serve frame).2.memory.read address = chip.memory.read address := by
  obtain ⟨direction, target, value⟩ := frame
  cases direction with
  | read =>
    show (chip.read target).2.memory.read address = _
    rw [(readEffect h target).memory_eq]
  | write =>
    show (chip.write target value).memory.read address = _
    rw [write_of_transmitsAt h value (hf rfl)]
    refine chip.read_poke_of_ne value ?_
    rintro rfl
    exact ha (hf rfl)

theorem byteOf_serve_of_isStaging (h : chip.absent = none) (hf : frame.IsStaging s)
    {r : SocketRegister} (hr : r.offset.toNat < 0x0C) (t : SocketId) :
    (chip.serve frame).2.byteOf r t = chip.byteOf r t :=
  memory_serve_of_isStaging h hf (s.not_transmitsAt_register hr t)

end Chip

theorem Frame.IsStaging.spares (h : frame.IsStaging s) (source : FlagSource) :
    frame.Spares source := by
  intro chip hpresent
  cases source with
  | socket t => exact chip.byteOf_serve_of_isStaging hpresent h (by decide) t
  | chip =>
    have hs := s.isLt
    have hi : CommonRegister.interrupt.address.toNat = 0x15 := rfl
    refine congrArg (· &&& _) (chip.memory_serve_of_isStaging hpresent h ?_)
    unfold SocketId.TransmitsAt
    omega

end Frames

section Travel

variable {σ : Type} [Host σ] [Wired σ]

namespace Habit

/-- The frames that are exchanged while a datagram is prepared: those of the driver, and those of
the board. -/
def Stages (H : Habit σ) (s : SocketId) (frame : Frame) : Prop :=
  frame.IsStaging s ∨ H.between frame

variable {H : Habit σ} {s : SocketId} {frame : Frame}

theorem Looks.stages (h : H.Looks frame) : H.Stages s frame :=
  h.imp_left Frame.isStaging_of_read

namespace Travels

variable (H) (s)

/-- Bytes may be written to consecutive places of the transmit side. -/
theorem writeTransmit {address : UInt16} {data : List UInt8}
    (hplaces : ∀ i < data.length, s.TransmitsAt (address + UInt16.ofNat i).toNat) :
    H.Travels (H.Stages s) (onLink (writeBlock address data)) := by
  have hframes : ∀ frame ∈ Frame.writes address data, frame.IsStaging s := by
    intro frame hframe
    obtain ⟨i, hi, rfl⟩ := List.mem_mapIdx.1 hframe
    exact fun _ => hplaces i hi
  refine link_bind (transact (fun _ => Looks.stages) ?_ ?_) fun _ => pure _
  · exact fun frame hframe => .inl (hframes frame hframe)
  · exact fun frame hframe => (hframes frame hframe).isLocal

/-- A word of the transmit side may be written. -/
theorem writeTransmitRegister {r : SocketRegister} (hw : r.width = 2) (hr : r.isTransmitting)
    (value : UInt16) : H.Travels (H.Stages s) (onLink (writeWord (r.address s) value)) := by
  obtain ⟨hplace, hplace'⟩ := s.transmitsAt_word hw hr
  have hhigh : (Frame.write (r.address s) (highByte value)).IsStaging s := fun _ => hplace
  have hlow : (Frame.write (r.address s + 1) (lowByte value)).IsStaging s := fun _ => hplace'
  refine link_bind (writeByte (fun _ => Looks.stages) (.inl hhigh) hhigh.isLocal) fun _ => ?_
  exact writeByte (fun _ => Looks.stages) (.inl hlow) hlow.isLocal

theorem writeTxRing {address : UInt16} {data : List UInt8}
    (hstart : 0x4000 + 0x0800 * s.val ≤ address.toNat)
    (hend : address.toNat + data.length ≤ 0x4800 + 0x0800 * s.val) :
    H.Travels (H.Stages s) (onLink (writeBlock address data)) := by
  have hs := s.isLt
  refine writeTransmit H s fun i hi => ?_
  rw [SocketId.TransmitsAt, UInt16.toNat_add, UInt16.toNat_ofNat']
  omega

/-- Bytes are staged in the socket's own ring. -/
theorem stage (offset : UInt16) (data : List UInt8) :
    H.Travels (H.Stages s) (stage s offset data).run := by
  have hs := s.isLt
  have hlooks : ∀ frame, H.Looks frame → H.Stages s frame := fun _ => Looks.stages
  unfold SpiEthernet.stage
  by_cases hlong : ringSize < data.length
  · rw [checkLength_of_lt hlong]
    exact fun _ hok => Ends.pure (.refl hok)
  have hlength : data.length ≤ ringSize := Nat.not_lt.1 hlong
  rw [checkLength_of_le hlength, pure_bind]
  refine attempt_ite (pure _) ?_
  refine sure_bind (readWord hlooks _) fun transmit => ?_
  generalize transmit + offset = pointer
  have hbound := ringOffset_add_untilEnd_le pointer data.length
  have haddress := toNat_ringAddress_txBase s pointer
  have hbase := toNat_txBase s
  have hsize : ringSize = 2048 := rfl
  refine sure_bind (writeTxRing H s (by omega) ?_) fun _ => ?_
  · rw [List.length_take]
    omega
  refine sure_bind (writeTxRing H s (by omega) ?_) fun _ => ?_
  · rw [List.length_drop]
    omega
  exact sure (writeTransmitRegister H s rfl rfl _)

theorem freeTx_stages : H.Travels (H.Stages s) (SpiEthernet.freeTx s) :=
  settledWord (fun _ => Looks.stages) s rfl (by decide)

theorem buffer (offset : UInt16) (data : List UInt8) :
    H.Travels (H.Stages s) (buffer s offset data).run :=
  sure_bind (freeTx_stages H s) fun _ => attempt (stage H s _ _) fun _ => pure _

theorem setDestination (ip : Ipv4) (port : UInt16) :
    H.Travels (H.Stages s) (setDestination s ip port) := by
  refine bind (writeTransmit H s fun i hi => ?_) fun _ =>
    writeTransmitRegister H s rfl rfl port
  rw [SocketRegister.peerIp.toNat_address_add s hi]
  exact s.transmitsAt_register rfl hi

theorem startDatagram (ip : Ipv4) (port : UInt16) :
    H.Travels (H.Stages s) (startDatagram s ip port).run := by
  unfold SpiEthernet.startDatagram
  by_cases hunusable : (ip = Ipv4.unspecified || port = 0) = true
  · rw [if_pos hunusable]
    exact fun _ hok => Ends.pure (.refl hok)
  · rw [if_neg hunusable]
    exact sure (setDestination H s ip port)

end Travels

end Habit

end Travel

end SpiEthernet
