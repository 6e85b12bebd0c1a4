import SpiEthernet.Proofs.Chip.Events
import SpiEthernet.Proofs.Receive.Ring

/-!
# What is in a transmit ring

The transmit side of a socket is described by an outlet: the pointer up to which everything has
been sent, the pointer that the driver has written, the bytes of the ring behind the first one, and
what the chip does with them when it is told to transmit. Whatever arrives, and whatever is only
looked at, leaves the outlet alone.

* `sameOutlet_happen`, `Offers.serve` : events and quiet frames leave an outlet alone.
* `Offers.put` : a byte written into the ring stands behind the ones in front of it.
* `Offers.writePointer`, `Offers.writePort` : writing one register touches nothing else.
-/

namespace SpiEthernet

/-! ## Outlets -/

/-- The state of a socket's transmit side. -/
structure Outlet where
  /-- The pointer up to which everything has been sent, which the transmit pointer reads as. -/
  start : UInt16
  /-- The transmit pointer as it was last written. -/
  pointer : UInt16
  free : UInt16
  /-- Bytes of the ring from the start on. -/
  bytes : List UInt8
  destination : Ipv4
  destinationPort : UInt16
  timesOut : Bool
  /-- What the chip has sent. -/
  sent : List SentPacket

/-- A place of memory that belongs to a socket's transmit side: the registers of its destination,
the registers of its transmit ring, and the ring itself. -/
def SocketId.TransmitsAt (s : SocketId) (address : Nat) : Prop :=
  (0x040C + 0x0100 * s.val ≤ address ∧ address < 0x0412 + 0x0100 * s.val) ∨
    (0x0420 + 0x0100 * s.val ≤ address ∧ address < 0x0426 + 0x0100 * s.val) ∨
    (0x4000 + 0x0800 * s.val ≤ address ∧ address < 0x4800 + 0x0800 * s.val)

theorem SocketId.transmitsAt_ring (s : SocketId) {place : Nat} (h : place < 2048) :
    s.TransmitsAt ((txBase s).toNat + place) := by
  rw [toNat_txBase, TransmitsAt]
  omega

/-- Where a transmission is told what to send and whereto. -/
theorem SocketId.transmission_places (s : SocketId) :
    (SocketRegister.txWrite.address s).toNat = 0x0424 + 0x0100 * s.val ∧
      (SocketRegister.peerIp.address s).toNat = 0x040C + 0x0100 * s.val ∧
      (SocketRegister.peerPort.address s).toNat = 0x0410 + 0x0100 * s.val := by
  revert s
  decide

/-- The registers that belong to a socket's transmit side. -/
def SocketRegister.isTransmitting : SocketRegister → Bool
  | peerIp | peerPort | txFree | txRead | txWrite => true
  | _ => false

theorem SocketId.transmitsAt_register (s : SocketId) {r : SocketRegister} (hr : r.isTransmitting)
    {i : Nat} (hi : i < r.width) : s.TransmitsAt ((r.address s).toNat + i) := by
  have hplace := r.toNat_address s
  unfold SocketId.TransmitsAt
  cases r with
  | peerIp | peerPort | txFree | txRead | txWrite =>
    simp only [SocketRegister.offset, SocketRegister.width, UInt16.reduceToNat] at hplace hi
    omega
  | _ => cases hr

theorem SocketId.transmitsAt_word (s : SocketId) {r : SocketRegister} (hw : r.width = 2)
    (hr : r.isTransmitting) :
    s.TransmitsAt (r.address s).toNat ∧ s.TransmitsAt (r.address s + 1).toNat := by
  refine ⟨s.transmitsAt_register hr (i := 0) r.width_pos, ?_⟩
  rw [SocketRegister.toNat_address_succ hw]
  exact s.transmitsAt_register hr (by omega)

namespace Chip

/-- The transmit side of a socket is in a state. -/
structure Offers (chip : Chip) (s : SocketId) (outlet : Outlet) : Prop where
  steady : chip.Steady
  latch : chip.latches[s].txWrite = outlet.start
  timesOut : chip.latches[s].timesOut = outlet.timesOut
  start : chip.wordOf .txRead s = outlet.start
  pointer : chip.wordOf .txWrite s = outlet.pointer
  free : chip.wordOf .txFree s = outlet.free
  fits : outlet.bytes.length ≤ 2048
  ring : ∀ i (h : i < outlet.bytes.length), chip.memory.read
    ((txBase s).toNat + ringOffset (outlet.start + UInt16.ofNat i)) = outlet.bytes[i]
  destination : (chip.stagedPacket s).destination = outlet.destination
  destinationPort : chip.wordOf .peerPort s = outlet.destinationPort
  sent : chip.sent = outlet.sent

/-- Nothing that belongs to the transmit side of a socket is different in the second state. -/
structure SameOutlet (chip chip' : Chip) (s : SocketId) : Prop where
  latch : chip'.latches[s].txWrite = chip.latches[s].txWrite
  timesOut : chip'.latches[s].timesOut = chip.latches[s].timesOut
  places {address : Nat} (h : s.TransmitsAt address) :
    chip'.memory.read address = chip.memory.read address
  sent : chip'.sent = chip.sent

variable {chip chip' : Chip} {s : SocketId} {outlet : Outlet}

theorem wordOf_eq_of_places {r : SocketRegister}
    (h : chip'.memory.read (r.address s).toNat = chip.memory.read (r.address s).toNat)
    (h' : chip'.memory.read ((r.address s).toNat + 1) =
      chip.memory.read ((r.address s).toNat + 1)) : chip'.wordOf r s = chip.wordOf r s := by
  rw [wordOf, Memory.readWord, h, h', wordOf, Memory.readWord]

theorem SameOutlet.wordOf (h : chip.SameOutlet chip' s) {r : SocketRegister}
    (hr : r = .txRead ∨ r = .txWrite ∨ r = .txFree ∨ r = .peerPort) :
    chip'.wordOf r s = chip.wordOf r s := by
  have htransmits {i : Nat} (hi : i < 2) : s.TransmitsAt ((r.address s).toNat + i) := by
    rcases hr with rfl | rfl | rfl | rfl <;> exact s.transmitsAt_register rfl hi
  exact wordOf_eq_of_places (h.places (htransmits (i := 0) (by decide)))
    (h.places (htransmits (by decide)))

theorem SameOutlet.destination (h : chip.SameOutlet chip' s) :
    (chip'.stagedPacket s).destination = (chip.stagedPacket s).destination := by
  refine congrArg Ipv4.ofOctets (List.map_congr_left fun i hi => h.places ?_)
  exact s.transmitsAt_register (r := .peerIp) rfl (List.mem_range.1 hi)

/-- Less may be said about the bytes of the ring. -/
theorem Offers.take (h : chip.Offers s outlet) (count : Nat) :
    chip.Offers s { outlet with bytes := outlet.bytes.take count } :=
  { h with
    fits := Nat.le_trans (List.length_take_le' _ _) h.fits
    ring := fun i hi => by
      have hi' := Nat.lt_of_lt_of_le hi (List.length_take_le' _ _)
      exact (h.ring i hi').trans List.getElem_take.symm }

/-- A socket sends to the address that its registers spell. -/
theorem destination_eq {ip : Ipv4} (h : ∀ i (hi : i < ip.octets.length),
    chip.memory.read ((SocketRegister.peerIp.address s).toNat + i) = ip.octets[i]) :
    (chip.stagedPacket s).destination = ip := by
  refine (congrArg Ipv4.ofOctets ?_).trans (Ipv4.ofOctets_octets ip)
  refine List.ext_getElem (by simp) fun i hi hi' => ?_
  rw [List.getElem_map, List.getElem_range]
  exact h i hi'

theorem Offers.congr (h : chip.Offers s outlet) (hsame : chip.SameOutlet chip' s)
    (hsteady : chip'.Steady) : chip'.Offers s outlet where
  steady := hsteady
  latch := hsame.latch.trans h.latch
  timesOut := hsame.timesOut.trans h.timesOut
  start := (hsame.wordOf (.inl rfl)).trans h.start
  pointer := (hsame.wordOf (.inr (.inl rfl))).trans h.pointer
  free := (hsame.wordOf (.inr (.inr (.inl rfl)))).trans h.free
  fits := h.fits
  ring i hi := (hsame.places (s.transmitsAt_ring (ringOffset_lt _))).trans (h.ring i hi)
  destination := hsame.destination.trans h.destination
  destinationPort := (hsame.wordOf (.inr (.inr (.inr rfl)))).trans h.destinationPort
  sent := hsame.sent.trans h.sent

/-! ## Events -/

theorem sent_assertLine (chip : Chip) : chip.assertLine.sent = chip.sent := by
  unfold assertLine
  split <;> rfl

theorem sent_raiseSocket (chip : Chip) (t : SocketId) (bits : UInt8) :
    (chip.raiseSocket t bits).sent = chip.sent := by
  rw [raiseSocket, sent_assertLine, setByteOf]

theorem sent_store (chip : Chip) (t : SocketId) (bytes : List UInt8) :
    (chip.store t bytes).sent = chip.sent := by
  unfold store
  split
  · rfl
  · rw [sent_raiseSocket, updateRxSize, setWordOf, setWordOf]

theorem sent_happen (chip : Chip) {event : Event} (h : event.isOrdinary) :
    (chip.happen event).sent = chip.sent := by
  cases event with
  | socketInterrupt t bits => exact chip.sent_raiseSocket t bits
  | globalInterrupt bits => exact sent_assertLine _
  | udp t | tcp t | ipRaw t | macRaw t => exact chip.sent_store t _
  | setWord => cases h
  | setStatus => rfl

/-- An event changes nothing of a transmit side. -/
theorem sameOutlet_happen (chip : Chip) (s : SocketId) {event : Event} (h : event.isOrdinary) :
    chip.SameOutlet (chip.happen event) s where
  latch := by rw [latches_happen chip h]
  timesOut := by rw [latches_happen chip h]
  places {address} hplace := by
    have hs := s.isLt
    have hcommon : CommonRegister.interrupt.address.toNat = 0x15 := rfl
    unfold SocketId.TransmitsAt at hplace
    refine read_happen h (by omega) (fun t => ?_) (fun t _ => ?_) fun t _ _ hreceives => ?_
    · have ht := SocketRegister.interrupt.toNat_address t
      simp only [SocketRegister.offset, UInt16.reduceToNat] at ht
      omega
    · have ht := SocketRegister.status.toNat_address t
      simp only [SocketRegister.offset, UInt16.reduceToNat] at ht
      omega
    · have ht := t.isLt
      unfold SocketId.ReceivesAt at hreceives
      omega
  sent := chip.sent_happen h

theorem SameOutlet.trans {chip'' : Chip} (h : chip.SameOutlet chip' s)
    (h' : chip'.SameOutlet chip'' s) : chip.SameOutlet chip'' s where
  latch := h'.latch.trans h.latch
  timesOut := h'.timesOut.trans h.timesOut
  places hplace := (h'.places hplace).trans (h.places hplace)
  sent := h'.sent.trans h.sent

theorem Steady.sameOutlet_afterFrame (h : chip.Steady) (s : SocketId) :
    chip.SameOutlet chip.afterFrame s := by
  refine afterFrame_induction [] (P := fun c _ => chip.SameOutlet c s)
    ⟨rfl, rfl, fun _ => rfl, rfl⟩ ?_
  intro c _ scheduled hs hc
  exact hc.trans (c.sameOutlet_happen s (h.ordinary scheduled hs))

theorem Offers.afterFrame (h : chip.Offers s outlet) : chip.afterFrame.Offers s outlet :=
  h.congr (h.steady.sameOutlet_afterFrame s) h.steady.afterFrame

/-- Noticing the interrupt line changes no transmit side. -/
theorem Offers.noticed (h : chip.Offers s outlet) :
    ({ chip with edge := false } : Chip).Offers s outlet :=
  h.congr ⟨rfl, rfl, fun _ => rfl, rfl⟩ (h.steady.of_casing rfl)

/-! ## Frames -/

theorem sent_command_of_not_transmits (chip : Chip) (s : SocketId) {code : UInt8}
    (h : ∀ command, SocketCommand.ofCode? code = some command → transmits command = false) :
    (chip.command s code).sent = chip.sent := by
  simp only [command]
  split
  · next command hc =>
    have ht := h command hc
    cases command with
    | send | sendMac | sendKeep => cases ht
    | connect | disconnect => exact sent_raiseSocket _ s _
    | «open» | listen | close | receive =>
      simp only [run, setStatus, setPointers, updateRxSize, setByteOf, setWordOf, mapLatch]
  · rfl

/-- Only a command to transmit makes anything leave. -/
theorem sent_serve (h : chip.absent = none) {frame : Frame} (hf : frame.IsLocal) :
    (chip.serve frame).2.sent = chip.sent := by
  obtain ⟨direction, address, data⟩ := frame
  cases direction with
  | read =>
    have heffect := readEffect h address
    show (chip.read address).2.sent = _
    generalize (chip.read address).1 = value, (chip.read address).2 = after at heffect
    cases heffect <;> rfl
  | write =>
    show (chip.write address data).sent = _
    have heffect := writeEffect h address data
    generalize chip.write address data = after at *
    cases heffect with
    | command s ha =>
      exact chip.sent_command_of_not_transmits s fun command hc =>
        transmits_of_isLocal (hf rfl s command ha hc)
    | reset => rw [powerOn]
    | clearGlobal | clearSocket | memory => rfl

theorem Steady.sent_afterFrame (h : chip.Steady) : chip.afterFrame.sent = chip.sent :=
  (h.sameOutlet_afterFrame 0).sent

/-- A quiet frame changes nothing of a transmit side. -/
theorem Offers.serve (h : chip.Offers s outlet) {frame : Frame} (hf : frame.IsQuiet) :
    (chip.serve frame).2.Offers s outlet := by
  have hpresent := h.steady.present
  obtain ⟨busy, -, hlatch⟩ := latches_serve_of_isQuiet hpresent hf s
  refine h.congr ⟨by rw [hlatch], by rw [hlatch], fun {address} hplace => ?_,
    sent_serve hpresent hf.isLocal⟩ (h.steady.serve frame)
  have hs := s.isLt
  have hcommon : CommonRegister.interrupt.address.toNat = 0x15 := rfl
  unfold SocketId.TransmitsAt at hplace
  refine memory_serve_of_isQuiet hpresent hf (by omega) fun t => ?_
  have ht := SocketRegister.interrupt.toNat_address t
  simp only [SocketRegister.offset, UInt16.reduceToNat] at ht
  omega

/-- What is written to a place of a transmit side is plain memory. -/
theorem write_of_transmitsAt (h : chip.absent = none) {address : UInt16} (value : UInt8)
    (hplace : s.TransmitsAt address.toNat) :
    chip.write address value = chip.poke address value := by
  have hs := s.isLt
  have heffect := writeEffect h address value
  unfold SocketId.TransmitsAt at hplace
  generalize chip.write address value = after at *
  cases heffect with
  | reset ha | clearGlobal ha =>
    rw [ha] at hplace
    simp only [CommonRegister.address, UInt16.reduceToNat] at hplace
    omega
  | clearSocket t ha | command t ha =>
    rw [ha, SocketRegister.toNat_address] at hplace
    simp only [SocketRegister.offset, UInt16.reduceToNat] at hplace
    omega
  | memory => rfl

/-! ## What the driver writes -/

theorem read_poke_of_ne (chip : Chip) {address : UInt16} {other : Nat} (value : UInt8)
    (h : address.toNat ≠ other) :
    (chip.poke address value).memory.read other = chip.memory.read other :=
  Memory.read_write_of_ne _ _ h

theorem wordOf_poke_of_outside (chip : Chip) (r : SocketRegister) (s : SocketId) {address : UInt16}
    (value : UInt8)
    (h : address.toNat < (r.address s).toNat ∨ (r.address s).toNat + 1 < address.toNat) :
    (chip.poke address value).wordOf r s = chip.wordOf r s :=
  wordOf_eq_of_places (chip.read_poke_of_ne value (by omega))
    (chip.read_poke_of_ne value (by omega))

theorem destination_poke_of_outside (chip : Chip) (s : SocketId) {address : UInt16} (value : UInt8)
    (h : address.toNat < (SocketRegister.peerIp.address s).toNat ∨
      (SocketRegister.peerIp.address s).toNat + 3 < address.toNat) :
    ((chip.poke address value).stagedPacket s).destination = (chip.stagedPacket s).destination := by
  refine congrArg Ipv4.ofOctets (List.map_congr_left fun i hi => chip.read_poke_of_ne value ?_)
  have hi := List.mem_range.1 hi
  omega

/-- A byte written into the ring stands behind the ones in front of it. -/
theorem Offers.put (h : chip.Offers s outlet) {count : Nat} (hcount : count ≤ outlet.bytes.length)
    (hroom : count < 2048) {address : UInt16} (ha : address.toNat =
      (txBase s).toNat + ringOffset (outlet.start + UInt16.ofNat count)) (value : UInt8) :
    (chip.write address value).Offers s
      { outlet with bytes := outlet.bytes.take count ++ [value] } := by
  have hs := s.isLt
  have hplace := ringOffset_lt (outlet.start + UInt16.ofNat count)
  have hbase := toNat_txBase s
  have hregister (r : SocketRegister) : (r.address s).toNat + 1 < address.toNat := by
    have hmem := r.address_mem s
    have hpos := r.width_pos
    omega
  have hlength : (outlet.bytes.take count ++ [value]).length = count + 1 := by
    rw [List.length_append, List.length_take, Nat.min_eq_left hcount]
    rfl
  have hfits : (outlet.bytes.take count ++ [value]).length ≤ 2048 := by omega
  rw [write_of_transmitsAt h.steady.present value (ha ▸ s.transmitsAt_ring hplace)]
  refine ⟨h.steady.of_casing rfl, h.latch, h.timesOut, ?_, ?_, ?_, hfits, fun i hi => ?_, ?_, ?_,
    h.sent⟩
  · exact (chip.wordOf_poke_of_outside _ s value (.inr (hregister _))).trans h.start
  · exact (chip.wordOf_poke_of_outside _ s value (.inr (hregister _))).trans h.pointer
  · exact (chip.wordOf_poke_of_outside _ s value (.inr (hregister _))).trans h.free
  · have hi : i < count + 1 := hlength ▸ hi
    by_cases hlast : i = count
    · subst hlast
      show Memory.read _ (_ + ringOffset (outlet.start + _)) = (outlet.bytes.take i ++ [value])[i]
      rw [poke, ha, Memory.read_write_self _ _ (by omega)]
      simp [Nat.min_eq_left hcount]
    · have hne : ringOffset (outlet.start + UInt16.ofNat count) ≠
          ringOffset (outlet.start + UInt16.ofNat i) := by
        rw [ringOffset_add, ringOffset_add]
        omega
      show Memory.read _ (_ + ringOffset (outlet.start + _)) =
        (outlet.bytes.take count ++ [value])[i]
      rw [chip.read_poke_of_ne value (by omega), h.ring i (by omega),
        List.getElem_append_left (by rw [List.length_take]; omega), List.getElem_take]
  · refine (chip.destination_poke_of_outside s value (.inr ?_)).trans h.destination
    have hmem := SocketRegister.peerIp.address_mem s
    have hwidth : SocketRegister.peerIp.width = 4 := rfl
    omega
  · exact (chip.wordOf_poke_of_outside _ s value (.inr (hregister _))).trans h.destinationPort

/-- Writing to the destination or to the transmit pointer changes nothing else. -/
theorem Offers.poke (h : chip.Offers s outlet) (address : UInt16) (value : UInt8)
    (ha : (0x040C + 0x0100 * s.val ≤ address.toNat ∧ address.toNat < 0x0412 + 0x0100 * s.val) ∨
      (0x0424 + 0x0100 * s.val ≤ address.toNat ∧ address.toNat < 0x0426 + 0x0100 * s.val)) :
    (chip.write address value).Offers s
      { outlet with
        pointer := (chip.poke address value).wordOf .txWrite s
        destination := ((chip.poke address value).stagedPacket s).destination
        destinationPort := (chip.poke address value).wordOf .peerPort s } := by
  have hs := s.isLt
  have hread := SocketRegister.txRead.toNat_address s
  have hfree := SocketRegister.txFree.toNat_address s
  have hbase := toNat_txBase s
  simp only [SocketRegister.offset, UInt16.reduceToNat] at hread hfree
  have hplace : s.TransmitsAt address.toNat := by
    unfold SocketId.TransmitsAt
    omega
  rw [write_of_transmitsAt h.steady.present value hplace]
  refine ⟨h.steady.of_casing rfl, h.latch, h.timesOut, ?_, rfl, ?_, h.fits, fun i hi => ?_, rfl,
    rfl, h.sent⟩
  · exact (chip.wordOf_poke_of_outside _ s value (by omega)).trans h.start
  · exact (chip.wordOf_poke_of_outside _ s value (by omega)).trans h.free
  · exact (chip.read_poke_of_ne value (by omega)).trans (h.ring i hi)

/-- Writing to the transmit pointer changes nothing but the pointer. -/
theorem Offers.poke_pointer (h : chip.Offers s outlet) (address : UInt16) (value : UInt8)
    (ha : address.toNat = (SocketRegister.txWrite.address s).toNat ∨
      address.toNat = (SocketRegister.txWrite.address s).toNat + 1) :
    (chip.write address value).Offers s
      { outlet with pointer := (chip.poke address value).wordOf .txWrite s } := by
  obtain ⟨hpointer, hip, hport⟩ := s.transmission_places
  have hpoke := h.poke address value (by omega)
  rw [chip.destination_poke_of_outside s value (by omega),
    chip.wordOf_poke_of_outside .peerPort s value (by omega), h.destination,
    h.destinationPort] at hpoke
  exact hpoke

/-- Writing to the destination's address changes nothing but the address. -/
theorem Offers.poke_destination (h : chip.Offers s outlet) (address : UInt16) (value : UInt8)
    (ha : (SocketRegister.peerIp.address s).toNat ≤ address.toNat ∧
      address.toNat < (SocketRegister.peerIp.address s).toNat + 4) :
    (chip.write address value).Offers s
      { outlet with destination := ((chip.poke address value).stagedPacket s).destination } := by
  obtain ⟨hpointer, hip, hport⟩ := s.transmission_places
  have hpoke := h.poke address value (by omega)
  rw [chip.wordOf_poke_of_outside .txWrite s value (by omega),
    chip.wordOf_poke_of_outside .peerPort s value (by omega), h.pointer, h.destinationPort] at hpoke
  exact hpoke

/-- Writing to the destination's port changes nothing but the port. -/
theorem Offers.poke_port (h : chip.Offers s outlet) (address : UInt16) (value : UInt8)
    (ha : address.toNat = (SocketRegister.peerPort.address s).toNat ∨
      address.toNat = (SocketRegister.peerPort.address s).toNat + 1) :
    (chip.write address value).Offers s
      { outlet with destinationPort := (chip.poke address value).wordOf .peerPort s } := by
  obtain ⟨hpointer, hip, hport⟩ := s.transmission_places
  have hpoke := h.poke address value (by omega)
  rw [chip.wordOf_poke_of_outside .txWrite s value (by omega),
    chip.destination_poke_of_outside s value (by omega), h.pointer, h.destination] at hpoke
  exact hpoke

theorem wordOf_poke_high (chip : Chip) {r : SocketRegister} (s : SocketId) (value : UInt8) :
    (chip.poke (r.address s) value).wordOf r s = word value (lowByte (chip.wordOf r s)) := by
  have hmem := r.address_mem s
  have hpos := r.width_pos
  rw [wordOf, Memory.readWord, poke, Memory.read_write_self _ _ (by omega),
    Memory.read_write_of_ne _ _ (by omega), wordOf, Memory.readWord, lowByte_word]

theorem wordOf_poke_low (chip : Chip) {r : SocketRegister} (hw : r.width = 2) (s : SocketId)
    (value : UInt8) :
    (chip.poke (r.address s + 1) value).wordOf r s = word (highByte (chip.wordOf r s)) value := by
  have hmem := r.address_mem s
  have hsucc := SocketRegister.toNat_address_succ hw s
  rw [wordOf, Memory.readWord, poke, hsucc, Memory.read_write_self _ _ (by omega),
    Memory.read_write_of_ne _ _ (by omega), wordOf, Memory.readWord, highByte_word]

theorem Offers.writePointer (h : chip.Offers s outlet) (value : UInt8) :
    (chip.write (SocketRegister.txWrite.address s) value).Offers s
        { outlet with pointer := word value (lowByte outlet.pointer) } ∧
      (chip.write (SocketRegister.txWrite.address s + 1) value).Offers s
        { outlet with pointer := word (highByte outlet.pointer) value } := by
  have hhigh := h.poke_pointer _ value (.inl rfl)
  have hlow := h.poke_pointer _ value
    (.inr (SocketRegister.toNat_address_succ (r := .txWrite) rfl s))
  rw [wordOf_poke_high, h.pointer] at hhigh
  rw [wordOf_poke_low _ rfl, h.pointer] at hlow
  exact ⟨hhigh, hlow⟩

theorem Offers.writePort (h : chip.Offers s outlet) (value : UInt8) :
    (chip.write (SocketRegister.peerPort.address s) value).Offers s
        { outlet with destinationPort := word value (lowByte outlet.destinationPort) } ∧
      (chip.write (SocketRegister.peerPort.address s + 1) value).Offers s
        { outlet with destinationPort := word (highByte outlet.destinationPort) value } := by
  have hhigh := h.poke_port _ value (.inl rfl)
  have hlow := h.poke_port _ value (.inr (SocketRegister.toNat_address_succ (r := .peerPort) rfl s))
  rw [wordOf_poke_high, h.destinationPort] at hhigh
  rw [wordOf_poke_low _ rfl, h.destinationPort] at hlow
  exact ⟨hhigh, hlow⟩

end Chip

end SpiEthernet
