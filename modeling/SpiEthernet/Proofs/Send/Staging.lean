import SpiEthernet.Controller.Packet
import SpiEthernet.Controller.Stream
import SpiEthernet.Proofs.Link.Travel
import SpiEthernet.Proofs.Send.Outlet

/-!
# Putting bytes into a transmit ring

The driver writes bytes behind the transmit pointer as it reads back, at an offset that only the
driver knows, and then moves the pointer behind them. Whatever arrives meanwhile stands in another
ring, so the bytes are there in the end, one behind the other, wherever the ring's end is.

* `stage_ends` : the bytes stand behind the offset, and the pointer behind the bytes.
* `buffer_ends` : as many bytes as fit are staged, and their number is returned.
* `setDestination_ends` : a transmission goes where it was told to.
-/

namespace SpiEthernet

/-! ## Blocks -/

theorem Frame.writes_cons (address : UInt16) (byte : UInt8) (data : List UInt8) :
    Frame.writes address (byte :: data) =
      Frame.write address byte :: Frame.writes (address + 1) data := by
  rw [writes, List.mapIdx_cons]
  congr 1
  · exact congrArg (Frame.write · byte) (UInt16.add_zero address)
  · refine List.mapIdx_eq_mapIdx_iff.2 fun i _ => ?_
    rw [add_one_add_ofNat]

namespace Endpoint

variable {start now : Endpoint} {o : List Occurrence} {s : SocketId} {outlet : Outlet}

/-- A block is written byte by byte, with events behind every byte. -/
theorem turnAll_writes (data : List UInt8) : ∀ {e : Endpoint} (address : UInt16)
    {I : Nat → Chip → Prop}, (∀ i chip, I i chip → I i chip.afterFrame) →
      (∀ i (hi : i < data.length) chip, I i chip →
        I (i + 1) (chip.write (address + UInt16.ofNat i) data[i])) → I 0 e.chip →
      I data.length (e.turnAll (Frame.writes address data)).2.chip := by
  induction data with
  | nil => exact fun _ _ _ _ h0 => h0
  | cons byte data ih =>
    intro e address I hafter hwrite h0
    have hfirst : I 1 (e.chip.write address byte) := by
      have hzero : address + UInt16.ofNat 0 = address := UInt16.add_zero address
      have hwritten := hwrite 0 (Nat.succ_pos _) e.chip h0
      rwa [hzero] at hwritten
    rw [Frame.writes_cons]
    refine ih _ (I := fun i => I (i + 1)) (fun i => hafter (i + 1)) (fun i hi chip hI => ?_)
      (hafter 1 _ hfirst)
    rw [add_one_add_ofNat]
    exact hwrite (i + 1) (Nat.succ_lt_succ hi) chip hI

theorem Passes.offers {P : Frame → Prop} (h : start.Passes P o now)
    (hP : ∀ frame, P frame → frame.IsQuiet) (hs : start.chip.Offers s outlet) :
    now.chip.Offers s outlet :=
  h.chip_kept (J := fun chip => chip.Offers s outlet)
    (fun _ frame hoffers hf => (hoffers.serve (hP frame hf)).afterFrame)
    (fun _ hoffers => hoffers.noticed) hs

/-- Without a command to transmit nothing leaves. -/
theorem Passes.sent {P : Frame → Prop} (h : start.Passes P o now)
    (hP : ∀ frame, P frame → frame.IsLocal) (hs : start.chip.Steady) :
    now.chip.sent = start.chip.sent := by
  refine (h.chip_kept (J := fun chip => chip.Steady ∧ chip.sent = start.chip.sent) ?_
    (fun _ hJ => ⟨hJ.1.of_casing rfl, hJ.2⟩) ⟨hs, rfl⟩).2
  intro chip frame ⟨hsteady, hsent⟩ hf
  have hserved := hsteady.serve frame
  exact ⟨hserved.afterFrame,
    hserved.sent_afterFrame.trans ((Chip.sent_serve hsteady.present (hP frame hf)).trans hsent)⟩

end Endpoint

namespace Chip

variable {chip : Chip} {s : SocketId}

/-- The transmit pointer reads as the chip has kept it. -/
theorem read_txWrite (h : chip.absent = none) :
    chip.read (SocketRegister.txWrite.address s) = (highByte chip.latches[s].txWrite, chip) ∧
      chip.read (SocketRegister.txWrite.address s + 1) =
        (lowByte chip.latches[s].txWrite, chip) := by
  have hmem := SocketRegister.txWrite.address_mem s
  have hsucc := SocketRegister.toNat_address_succ (r := .txWrite) rfl s
  have hcommon (address : UInt16) (ha : 0x0400 ≤ address.toNat) :
      ¬(address = CommonRegister.mode.address ∧ 0 < chip.resetBusy) ∧
        address ≠ CommonRegister.interrupt.address := by
    refine ⟨fun hmode => ?_, fun hi => ?_⟩
    · rw [hmode.1] at ha
      exact absurd ha (by decide)
    · rw [hi] at ha
      exact absurd ha (by decide)
  obtain ⟨hmode, hi⟩ := hcommon (SocketRegister.txWrite.address s) (by omega)
  obtain ⟨hmode', hi'⟩ := hcommon (SocketRegister.txWrite.address s + 1) (by omega)
  constructor
  · rw [read_eq_readPresent h, readPresent, if_neg hmode, if_neg hi, locate_address]
    rfl
  · rw [read_eq_readPresent h, readPresent, if_neg hmode', if_neg hi', locate_address_succ rfl]
    rfl

end Chip

/-! ## The address of a destination -/

theorem SocketId.toNat_destination_add (s : SocketId) {ip : Ipv4} {i : Nat}
    (hi : i < ip.octets.length) :
    (SocketRegister.peerIp.address s + UInt16.ofNat i).toNat =
      (SocketRegister.peerIp.address s).toNat + i :=
  SocketRegister.peerIp.toNat_address_add s hi

theorem SocketId.transmitsAt_destination (s : SocketId) {ip : Ipv4} {i : Nat}
    (hi : i < ip.octets.length) : s.TransmitsAt ((SocketRegister.peerIp.address s).toNat + i) :=
  s.transmitsAt_register (r := .peerIp) rfl hi

/-- An outlet whose destination has been written up to some octet. -/
structure Chip.Addresses (chip : Chip) (s : SocketId) (outlet : Outlet) (ip : Ipv4)
    (count : Nat) : Prop where
  offers : chip.Offers s { outlet with destination := (chip.stagedPacket s).destination }
  written : ∀ i (_ : i < count) (hi : i < ip.octets.length),
    chip.memory.read ((SocketRegister.peerIp.address s).toNat + i) = ip.octets[i]

namespace Chip

variable {chip : Chip} {s : SocketId} {outlet : Outlet} {ip : Ipv4} {count : Nat}

theorem Offers.addresses (h : chip.Offers s outlet) : chip.Addresses s outlet ip 0 :=
  ⟨by rw [h.destination]; exact h, fun i hi => absurd hi (Nat.not_lt_zero i)⟩

theorem Addresses.afterFrame (h : chip.Addresses s outlet ip count) :
    chip.afterFrame.Addresses s outlet ip count := by
  have hsame := h.offers.steady.sameOutlet_afterFrame s
  refine ⟨?_, fun i hcount hi => ?_⟩
  · rw [hsame.destination]
    exact h.offers.afterFrame
  · exact (hsame.places (s.transmitsAt_destination hi)).trans (h.written i hcount hi)

/-- One more octet is written. -/
theorem Addresses.write (h : chip.Addresses s outlet ip count) (hcount : count < ip.octets.length) :
    (chip.write (SocketRegister.peerIp.address s + UInt16.ofNat count)
      ip.octets[count]).Addresses s outlet ip (count + 1) := by
  obtain ⟨-, hip, -⟩ := s.transmission_places
  have hs := s.isLt
  have hfour : count < 4 := hcount
  have hat := s.toNat_destination_add hcount
  have hpoke := write_of_transmitsAt h.offers.steady.present ip.octets[count]
    (hat ▸ s.transmitsAt_destination hcount)
  refine ⟨?_, fun i hi hi' => ?_⟩
  · have hwrite := h.offers.poke_destination _ ip.octets[count]
      (show _ ≤ (_ + UInt16.ofNat count).toNat ∧ _ from by rw [hat]; omega)
    rw [← hpoke] at hwrite
    exact hwrite
  · refine (congrArg (fun c : Chip => c.memory.read _) hpoke).trans ?_
    by_cases hlast : i = count
    · subst hlast
      rw [poke, hat]
      exact Memory.read_write_self _ _ (by omega)
    · rw [chip.read_poke_of_ne _ (by omega)]
      exact h.written i (by omega) hi'

/-- Once all octets are written, the destination is the address. -/
theorem Addresses.offers_of_written (h : chip.Addresses s outlet ip ip.octets.length) :
    chip.Offers s { outlet with destination := ip } := by
  have hoffers := h.offers
  rwa [destination_eq fun i hi => h.written i hi hi] at hoffers

end Chip

theorem Frame.isLocal_of_transmitsAt {s : SocketId} {address : UInt16}
    (h : s.TransmitsAt address.toNat) (value : UInt8) : (Frame.write address value).IsLocal := by
  have hs := s.isLt
  intro _ t command ha _
  rw [show address = _ from ha, SocketRegister.toNat_address] at h
  simp only [SocketId.TransmitsAt, SocketRegister.offset, UInt16.reduceToNat] at h
  omega

/-! ## On a device -/

section Staging

variable {σ : Type} [Host σ] [Wired σ]

namespace Habit

/-- The transmit side of a socket of a device is in a state. -/
structure Offers (H : Habit σ) (s : SocketId) (outlet : Outlet) (device : Device σ) : Prop where
  ok : H.ok device.board
  chip : device.chip.Offers s outlet

variable {H : Habit σ} {s : SocketId} {outlet : Outlet} {device device' : Device σ}

theorem Walked.offers (h : H.Walked H.Looks device device') (hs : H.Offers s outlet device) :
    H.Offers s outlet device' := by
  obtain ⟨_, hpasses⟩ := h.passes
  exact ⟨h.ok, hpasses.offers (fun _ => Looks.isQuiet) hs.chip⟩

/-- What a frame leaves of a transmit side is kept by what follows it. -/
theorem Exchanged.offers {frame : Frame} {value : UInt8} {o : List Occurrence}
    (h : H.Exchanged device.board frame value o device'.board)
    (hserved : (device.chip.serve frame).2.Offers s outlet) : H.Offers s outlet device' := by
  obtain ⟨_, -, hwalk⟩ := h.walk
  exact ⟨h.ok, hwalk.offers (fun _ => H.isQuiet) hserved.afterFrame⟩

/-! ## Registers -/

/-- A byte written to a transmit side. -/
theorem writeTransmitted_ends (h : H.Offers s outlet device) {address : UInt16}
    (hplace : s.TransmitsAt address.toNat) {value : UInt8} {outlet' : Outlet}
    (hwritten : (device.chip.write address value).Offers s outlet') :
    Ends (onLink (writeByte address value)) device fun _ device' => H.Offers s outlet' device' := by
  refine (Ends.onLink (H.writeByte_ends h.ok (Frame.isLocal_of_transmitsAt hplace value))).mono ?_
  rintro _ device' ⟨⟨_, _, hexchanged⟩, -⟩
  exact hexchanged.offers hwritten

/-- The transmit pointer reads as it was at the last transmission. -/
theorem readTxWrite_ends (h : H.Offers s outlet device) :
    Ends (onLink (readWord (SocketRegister.txWrite.address s))) device fun pointer device' =>
      pointer = outlet.start ∧ H.Offers s outlet device' := by
  rw [readWord, onLink_bind]
  refine Ends.bind (Ends.onLink (H.readByte_ends h.ok _)) ?_
  rintro high middle ⟨⟨_, hhigh⟩, hcontroller⟩
  have hmiddle := (hhigh.walked hcontroller h.ok (Frame.isLocal_read _) (.inl rfl)
    fun _ => .inr).offers h
  rw [onLink_bind]
  refine Ends.bind (Ends.onLink (H.readByte_ends hmiddle.ok _)) ?_
  rintro low device' ⟨⟨_, hlow⟩, hcontroller'⟩
  refine Ends.pure ⟨?_, (hlow.walked hcontroller' hmiddle.ok (Frame.isLocal_read _) (.inl rfl)
    fun _ => .inr).offers hmiddle⟩
  rw [hhigh.reply, hlow.reply, Chip.serve_read, Chip.serve_read,
    (Chip.read_txWrite h.chip.steady.present).1, (Chip.read_txWrite hmiddle.chip.steady.present).2,
    h.chip.latch, hmiddle.chip.latch, word_highByte_lowByte]

theorem writeTxWrite_ends (h : H.Offers s outlet device) (pointer : UInt16) :
    Ends (onLink (writeWord (SocketRegister.txWrite.address s) pointer)) device fun _ device' =>
      H.Offers s { outlet with pointer } device' := by
  obtain ⟨hplace, hplace'⟩ := s.transmitsAt_word (r := .txWrite) rfl rfl
  rw [writeWord, onLink_bind]
  refine Ends.bind (H.writeTransmitted_ends h hplace
    (h.chip.writePointer (highByte pointer)).1) ?_
  rintro _ middle hmiddle
  have hlow := (hmiddle.chip.writePointer (lowByte pointer)).2
  rw [highByte_word, word_highByte_lowByte] at hlow
  exact H.writeTransmitted_ends hmiddle hplace' hlow

/-- The free space settles at what it is all the time. -/
theorem freeTx_ends (h : H.Offers s outlet device) :
    Ends (freeTx s) device fun free device' =>
      free = outlet.free ∧ H.Offers s outlet device' := by
  refine (H.settledWord_ends h.ok (r := .txFree) rfl (by decide)).mono ?_
  rintro free device' ⟨hwalked, _, first, _, hstart, ⟨middle, _, _, hfirst, -, rfl⟩, -⟩
  have hlooks : ∀ frame, H.Looks frame → frame.IsQuiet := fun _ => Looks.isQuiet
  have hoffers := hstart.offers hlooks h.chip
  refine ⟨?_, hwalked.offers h⟩
  rw [hoffers.free, (hfirst.offers hlooks hoffers).free, word_highByte_lowByte]

/-! ## Bytes -/

/-- What is left of the outlet when a block has been written: the bytes in front of it, and the
block. -/
theorem writeRing_ends (h : H.Offers s outlet device) (count : Nat) (data : List UInt8)
    (hcount : count ≤ outlet.bytes.length) (hfits : count + data.length ≤ 2048) {address : UInt16}
    (hplaces : ∀ i < data.length, (address + UInt16.ofNat i).toNat =
      (txBase s).toNat + ringOffset (outlet.start + UInt16.ofNat (count + i))) :
    Ends (onLink (writeBlock address data)) device fun _ device' =>
      H.Offers s { outlet with bytes := outlet.bytes.take count ++ data } device' := by
  have hlocal : ∀ frame ∈ Frame.writes address data, frame.IsLocal := by
    intro frame hframe
    obtain ⟨i, hi, rfl⟩ := List.mem_mapIdx.1 hframe
    refine Frame.isLocal_of_transmitsAt (s := s) ?_ _
    rw [hplaces i hi]
    exact s.transmitsAt_ring (ringOffset_lt _)
  have hheld : (Wired.endpoint device.board).held.chip.Offers s outlet := h.chip
  have hwritten := Endpoint.turnAll_writes data (e := (Wired.endpoint device.board).held) address
    (I := fun i chip => chip.Offers s { outlet with
      bytes := outlet.bytes.take count ++ data.take i })
    (fun _ _ hI => hI.afterFrame) (fun i hi chip hI => ?_) (by simpa using hheld.take count)
  · rw [List.take_length] at hwritten
    refine (Ends.onLink (H.writeBlock_ends h.ok hlocal)).mono ?_
    rintro _ device' ⟨⟨hok, _, hpasses⟩, -⟩
    exact ⟨hok, hpasses.offers (fun _ => H.isQuiet) hwritten⟩
  · have hlength : (outlet.bytes.take count ++ data.take i).length = count + i := by
      rw [List.length_append, List.length_take, List.length_take]
      omega
    have hput := hI.put (Nat.le_of_eq hlength.symm) (by omega) (hplaces i hi) data[i]
    simp only [List.take_of_length_le (Nat.le_of_eq hlength), List.append_assoc] at hput
    rwa [← List.take_succ_eq_append_getElem hi] at hput

end Habit

/-- The outlet when bytes have been staged at an offset. -/
def Outlet.stage (outlet : Outlet) (offset : UInt16) (data : List UInt8) : Outlet :=
  if data.isEmpty then outlet
  else { outlet with
    pointer := outlet.start + offset + UInt16.ofNat data.length
    bytes := outlet.bytes.take offset.toNat ++ data }

namespace Habit

variable {H : Habit σ} {s : SocketId} {outlet : Outlet} {device : Device σ}

/-- Bytes that are staged stand behind those in front of their offset, and the pointer behind
them. Nothing happens if there are none. -/
theorem stage_ends (h : H.Offers s outlet device) {offset : UInt16} {data : List UInt8}
    (hroom : data ≠ [] → offset.toNat ≤ outlet.bytes.length ∧ offset.toNat + data.length ≤ 2048) :
    Ends (stage s offset data).run device fun r device' =>
      r = .ok () ∧ H.Offers s (outlet.stage offset data) device' := by
  have hbase := txBase_add_size_le s
  have hlength : data.length ≤ ringSize := by
    by_cases hempty : data = []
    · rw [hempty]
      exact Nat.zero_le _
    · exact Nat.le_trans (Nat.le_add_left _ _) (hroom hempty).2
  unfold stage Outlet.stage
  rw [checkLength_of_le hlength, pure_bind]
  by_cases hempty : data.isEmpty
  · rw [if_pos hempty, if_pos hempty]
    exact Ends.pure ⟨rfl, h⟩
  obtain ⟨hoffset, hfits⟩ := hroom fun hnil => hempty (List.isEmpty_iff.2 hnil)
  rw [if_neg hempty, if_neg hempty]
  refine Ends.sure_bind (H.readTxWrite_ends h) ?_
  rintro _ d1 ⟨rfl, h1⟩
  have hpointer : outlet.start + offset = outlet.start + UInt16.ofNat offset.toNat := by
    rw [UInt16.ofNat_toNat]
  dsimp only
  generalize hfirst : untilEnd (outlet.start + offset) data.length = first
  have hle : first ≤ data.length := hfirst ▸ untilEnd_le _ _
  have hhead : (data.take first).length = first := by
    rw [List.length_take, Nat.min_eq_left hle]
  have hbytes : (outlet.bytes.take offset.toNat ++ data.take first).length =
      offset.toNat + first := by
    rw [List.length_append, List.length_take, Nat.min_eq_left hoffset, hhead]
  refine Ends.sure_bind (H.writeRing_ends h1 offset.toNat (data.take first) hoffset (by omega)
    fun i hi => ?_) ?_
  · rw [toNat_ringAddress_add hbase (by rw [hfirst, ← hhead]; exact hi), hpointer, UInt16.ofNat_add,
      UInt16.add_assoc]
  rintro _ d2 h2
  refine Ends.sure_bind (H.writeRing_ends h2 (offset.toNat + first) (data.drop first)
    (Nat.le_of_eq hbytes.symm) (by rw [List.length_drop]; omega) fun i hi => ?_) ?_
  · rw [List.length_drop, ← hfirst] at hi
    rw [toNat_base_add hbase (by omega) hi, hfirst, hpointer, UInt16.add_assoc, ← UInt16.ofNat_add,
      Nat.add_assoc]
  rintro _ d3 h3
  have hall : (outlet.bytes.take offset.toNat ++ data.take first).take (offset.toNat + first) ++
      data.drop first = outlet.bytes.take offset.toNat ++ data := by
    rw [List.take_of_length_le (Nat.le_of_eq hbytes), List.append_assoc, List.take_append_drop]
  refine Ends.sure ((H.writeTxWrite_ends h3 _).mono ?_)
  rintro _ d4 h4
  simp only [hall] at h4
  exact ⟨rfl, h4⟩

/-- As many bytes as fit behind an offset are staged. -/
theorem buffer_ends (h : H.Offers s outlet device) {offset : UInt16} (data : List UInt8)
    (hfree : outlet.free.toNat ≤ 2048)
    (hoffset : offset.toNat < outlet.free.toNat → offset.toNat ≤ outlet.bytes.length) :
    Ends (buffer s offset data).run device fun r device' =>
      r = .ok (data.take (outlet.free.toNat - offset.toNat)).length ∧
        H.Offers s
          (outlet.stage offset (data.take (outlet.free.toNat - offset.toNat))) device' := by
  unfold buffer
  refine Ends.sure_bind (H.freeTx_ends h) ?_
  rintro _ d1 ⟨rfl, h1⟩
  refine Ends.attempt_of_ok (H.stage_ends h1 fun hsome => ?_) ?_
  · have hlength := List.length_take_le (outlet.free.toNat - offset.toNat) data
    have hpos := List.length_pos_iff.2 hsome
    exact ⟨hoffset (by omega), by omega⟩
  · exact fun d2 h2 => Ends.pure ⟨rfl, h2⟩

/-- Bytes are staged as a whole or not at all. -/
theorem stageWhole_ends (h : H.Offers s outlet device) (data : List UInt8)
    (hfree : outlet.free.toNat ≤ 2048) :
    Ends (stageWhole s data).run device fun r device' =>
      if outlet.free.toNat < data.length then
        r = .error (.insufficientSpace data.length outlet.free.toNat) ∧ H.Offers s outlet device'
      else r = .ok () ∧ H.Offers s (outlet.stage 0 data) device' := by
  unfold stageWhole
  refine Ends.sure_bind (H.freeTx_ends h) ?_
  rintro _ d1 ⟨rfl, h1⟩
  dsimp only
  by_cases hlarge : outlet.free.toNat < data.length
  · rw [if_pos hlarge]
    refine Ends.fail ?_
    rw [if_pos hlarge]
    exact ⟨rfl, h1⟩
  · rw [if_neg hlarge]
    refine (H.stage_ends h1 fun _ => ⟨Nat.zero_le _, ?_⟩).mono fun r d hr => ?_
    · show 0 + data.length ≤ 2048
      omega
    · rw [if_neg hlarge]
      exact hr

/-! ## The destination -/

theorem writeDestination_ends (h : H.Offers s outlet device) (ip : Ipv4) :
    Ends (onLink (writeBlock (SocketRegister.peerIp.address s) ip.octets)) device
      fun _ device' => H.Offers s { outlet with destination := ip } device' := by
  have hlocal : ∀ frame ∈ Frame.writes (SocketRegister.peerIp.address s) ip.octets,
      frame.IsLocal := by
    intro frame hframe
    obtain ⟨i, hi, rfl⟩ := List.mem_mapIdx.1 hframe
    refine Frame.isLocal_of_transmitsAt (s := s) ?_ _
    rw [s.toNat_destination_add hi]
    exact s.transmitsAt_destination hi
  have hheld : (Wired.endpoint device.board).held.chip.Offers s outlet := h.chip
  have hwritten := Endpoint.turnAll_writes ip.octets (e := (Wired.endpoint device.board).held)
    (SocketRegister.peerIp.address s) (I := fun i chip => chip.Addresses s outlet ip i)
    (fun _ _ haddresses => haddresses.afterFrame)
    (fun _ hi _ haddresses => haddresses.write hi) hheld.addresses
  refine (Ends.onLink (H.writeBlock_ends h.ok hlocal)).mono ?_
  rintro _ device' ⟨⟨hok, _, hpasses⟩, -⟩
  exact ⟨hok, hpasses.offers (fun _ => H.isQuiet) hwritten.offers_of_written⟩

theorem setDestination_ends (h : H.Offers s outlet device) (ip : Ipv4) (port : UInt16) :
    Ends (setDestination s ip port) device fun _ device' =>
      H.Offers s { outlet with destination := ip, destinationPort := port } device' := by
  obtain ⟨hplace, hplace'⟩ := s.transmitsAt_word (r := .peerPort) rfl rfl
  refine Ends.bind (H.writeDestination_ends h ip) ?_
  rintro _ d1 h1
  rw [writeWord, onLink_bind]
  refine Ends.bind (H.writeTransmitted_ends h1 hplace
    (h1.chip.writePort (highByte port)).1) ?_
  rintro _ d2 h2
  have hlow := (h2.chip.writePort (lowByte port)).2
  rw [highByte_word, word_highByte_lowByte] at hlow
  exact H.writeTransmitted_ends h2 hplace' hlow

/-- A datagram may be begun for any address and port but the unspecified ones. -/
theorem startDatagram_ends (h : H.Offers s outlet device) {ip : Ipv4} {port : UInt16}
    (hip : ip ≠ Ipv4.unspecified) (hport : port ≠ 0) :
    Ends (startDatagram s ip port).run device fun r device' =>
      r = .ok () ∧
        H.Offers s { outlet with destination := ip, destinationPort := port } device' := by
  unfold startDatagram
  rw [if_neg (by simp [hip, hport])]
  exact Ends.sure ((H.setDestination_ends h ip port).mono fun _ _ h' => ⟨rfl, h'⟩)

end Habit

end Staging

end SpiEthernet
