import SpiEthernet.Proofs.Interrupt.Visits
import SpiEthernet.Proofs.Operation.Closing
import SpiEthernet.Proofs.Send.Travel

/-!
# Transmitting what is staged

When the chip is told to transmit, the bytes between its two pointers leave, whatever they are,
and the start moves to the pointer. The driver has cleared the flags of earlier transmissions
before, so the flag that it finds afterwards tells how this transmission ended.

* `Offers.transmit` : what leaves, and how the outlet looks afterwards.
* `awaitSent_ends` : on a calm board the first look at the flags decides.
* `sendDatagram_ends` : so a transmission ends as the chip is set to end it.
-/

namespace SpiEthernet

namespace Outlet

/-- What leaves when the chip is told to transmit. -/
def payload (outlet : Outlet) : List UInt8 :=
  outlet.bytes.take (outlet.pointer - outlet.start).toNat

/-- All bytes up to the pointer are known. -/
def Sound (outlet : Outlet) : Prop :=
  (outlet.pointer - outlet.start).toNat ≤ outlet.bytes.length

/-- The outlet when the staged bytes have been released. -/
def released (outlet : Outlet) : Outlet :=
  { outlet with start := outlet.pointer, free := UInt16.ofNat ringSize, bytes := [] }

/-- The outlet when the chip has transmitted, or has tried to. -/
def transmitted (outlet : Outlet) (s : SocketId) : Outlet :=
  { outlet.released with
    sent := if outlet.timesOut then outlet.sent else
      outlet.sent ++ [⟨s, outlet.destination, outlet.destinationPort, outlet.payload⟩] }

/-- The flag that tells how a transmission has ended. -/
def verdict (outlet : Outlet) : UInt8 :=
  if outlet.timesOut then SocketFlag.timeout else SocketFlag.sendOk

/-- Staging at a place that is known leaves no gap. -/
theorem sound_stage {outlet : Outlet} (hsound : outlet.Sound) {offset : UInt16}
    {data : List UInt8}
    (hroom : data ≠ [] → offset.toNat ≤ outlet.bytes.length ∧
      offset.toNat + data.length ≤ ringSize) : (outlet.stage offset data).Sound := by
  unfold stage
  split
  · exact hsound
  · next hdata =>
    obtain ⟨hoffset, hfits⟩ := hroom fun hnil => hdata (List.isEmpty_iff.2 hnil)
    have hsize : ringSize = 2048 := rfl
    show (outlet.start + offset + UInt16.ofNat data.length - outlet.start).toNat ≤
      (outlet.bytes.take offset.toNat ++ data).length
    rw [UInt16.add_assoc, UInt16.add_comm, UInt16.add_sub_cancel, UInt16.toNat_add,
      UInt16.toNat_ofNat', List.length_append, List.length_take, Nat.min_eq_left hoffset]
    omega

theorem free_stage (outlet : Outlet) (offset : UInt16) (data : List UInt8) :
    (outlet.stage offset data).free = outlet.free := by
  unfold stage
  split <;> rfl

end Outlet

namespace Chip

variable {chip : Chip} {s : SocketId} {outlet : Outlet}

/-- The packet that a socket sends is what its outlet holds up to the pointer. -/
theorem Offers.stagedPacket_eq (h : chip.Offers s outlet)
    (hsound : outlet.Sound) :
    chip.stagedPacket s = ⟨s, outlet.destination, outlet.destinationPort, outlet.payload⟩ := by
  have hpayload : chip.memory.readRing (txBase s).toNat outlet.start
      (outlet.pointer - outlet.start).toNat = outlet.payload := by
    refine List.ext_getElem ?_ fun i hi _ => ?_
    · rw [Memory.length_readRing, Outlet.payload, List.length_take, Nat.min_eq_left hsound]
    · rw [Memory.length_readRing] at hi
      simp only [Outlet.payload, List.getElem_take]
      rw [← h.ring i (Nat.lt_of_lt_of_le hi hsound)]
      simp only [Memory.readRing, List.getElem_map, List.getElem_range]
  have hdestination := h.destination
  simp only [stagedPacket] at hdestination ⊢
  rw [hdestination, h.destinationPort, h.start, h.pointer, hpayload]

/-! ## What belongs to no transmit side -/

theorem sameOutlet_raiseSocket (chip : Chip) (s : SocketId) (bits : UInt8) :
    chip.SameOutlet (chip.raiseSocket s bits) s :=
  chip.sameOutlet_happen s (show (Event.socketInterrupt s bits).isOrdinary from rfl)

theorem sameOutlet_failTransmit (chip : Chip) (s : SocketId) :
    chip.SameOutlet (chip.failTransmit s) s := by
  have hraised := chip.sameOutlet_raiseSocket s SocketFlag.timeout
  simp only [failTransmit]
  split
  · exact hraised.trans
      (sameOutlet_happen _ s (show (Event.setStatus s .closed).isOrdinary from rfl))
  · exact hraised

theorem sameOutlet_answer (chip : Chip) (s : SocketId) (packet : SentPacket) :
    chip.SameOutlet (chip.answer packet) s := by
  unfold answer
  split <;> exact ⟨rfl, rfl, fun _ => rfl, rfl⟩

/-- A command is shown in registers that belong to no transmit side. -/
theorem sameOutlet_given (chip : Chip) (s : SocketId) (code : UInt8) (busy : Nat) :
    chip.SameOutlet ((chip.setByteOf .command s code).mapLatch s
      fun latch => { latch with busy }) s where
  latch := by rw [latches_mapLatch_self, latches_setByteOf]
  timesOut := by rw [latches_mapLatch_self, latches_setByteOf]
  places {address} hplace := by
    have hs := s.isLt
    have hat := SocketRegister.command.toNat_address s
    simp only [SocketRegister.offset, UInt16.reduceToNat] at hat
    unfold SocketId.TransmitsAt at hplace
    refine Memory.read_write_of_ne _ _ ?_
    omega
  sent := rfl

/-! ## Transmissions -/

theorem wordOf_releaseTx (chip : Chip) (s : SocketId) {r : SocketRegister} (hw : r.width = 2) :
    (chip.releaseTx s).wordOf r s =
      if r = .txFree then UInt16.ofNat ringSize
      else if r = .txRead then chip.wordOf .txWrite s else chip.wordOf r s := by
  have hset (c : Chip) (r' : SocketRegister) (value : UInt16) (hw' : r'.width = 2) :
      (c.setWordOf r' s value).wordOf r s = if r = r' then value else c.wordOf r s := by
    rw [wordOf_setWordOf _ _ _ _ hw' hw]
    simp only [and_true, eq_comm]
  rw [releaseTx, hset _ .txFree _ rfl, wordOf_mapLatch, hset _ .txRead _ rfl]

theorem byteOf_interrupt_releaseTx (chip : Chip) (s : SocketId) :
    (chip.releaseTx s).byteOf .interrupt s = chip.byteOf .interrupt s := by
  rw [releaseTx, byteOf_setWordOf _ _ _ _ rfl (by decide), byteOf_mapLatch,
    byteOf_setWordOf _ _ _ _ rfl (by decide)]

theorem sent_releaseTx (chip : Chip) (s : SocketId) : (chip.releaseTx s).sent = chip.sent := by
  simp only [releaseTx, setWordOf, mapLatch]

/-- Releasing the staged bytes makes the pointer the start. -/
theorem Offers.release (h : chip.Offers s outlet) :
    (chip.releaseTx s).Offers s outlet.released where
  steady := h.steady.of_casing (by rw [casing_releaseTx])
  latch := by
    rw [releaseTx, latches_setWordOf, latches_mapLatch_self]
    exact h.pointer
  timesOut := by
    rw [releaseTx, latches_setWordOf, latches_mapLatch_self, latches_setWordOf]
    exact h.timesOut
  start := (chip.wordOf_releaseTx s rfl).trans h.pointer
  pointer := (chip.wordOf_releaseTx s rfl).trans h.pointer
  free := chip.wordOf_releaseTx s rfl
  fits := Nat.zero_le _
  ring i hi := absurd hi (Nat.not_lt_zero i)
  destination := by
    refine Eq.trans (congrArg Ipv4.ofOctets (List.map_congr_left fun i hi => ?_)) h.destination
    have hi := List.mem_range.1 hi
    have hip := SocketRegister.peerIp.toNat_address s
    have hfree := SocketRegister.txFree.toNat_address s
    have hread := SocketRegister.txRead.toNat_address s
    simp only [SocketRegister.offset, UInt16.reduceToNat] at hip hfree hread
    simp only [releaseTx, setWordOf, mapLatch]
    rw [Memory.read_writeWord_of_ne _ _ (by omega) (by omega),
      Memory.read_writeWord_of_ne _ _ (by omega) (by omega)]
  destinationPort := (chip.wordOf_releaseTx s rfl).trans h.destinationPort
  sent := (chip.sent_releaseTx s).trans h.sent

/-- The bytes up to the pointer leave, unless nobody answers; in both cases they are released. -/
theorem Offers.transmit (h : chip.Offers s outlet)
    (hsound : outlet.Sound) :
    (chip.transmit s).Offers s (outlet.transmitted s) := by
  have hreleased := h.release
  have htimes : (chip.releaseTx s).latches[s].timesOut = outlet.timesOut := hreleased.timesOut
  have hsteady := h.steady.transmit s
  unfold Outlet.transmitted
  simp only [Chip.transmit, htimes] at hsteady ⊢
  cases hout : outlet.timesOut with
  | true =>
    simp only [hout, if_true] at hsteady ⊢
    exact hreleased.congr ((chip.releaseTx s).sameOutlet_failTransmit s) hsteady
  | false =>
    simp only [hout, Bool.false_eq_true, if_false] at hsteady ⊢
    have hsame := ((chip.releaseTx s).sameOutlet_raiseSocket s SocketFlag.sendOk).trans
      (sameOutlet_answer _ s (chip.stagedPacket s))
    have hanswered := hreleased.congr hsame ⟨hsteady.present, hsteady.ordinary⟩
    have hsent := hanswered.sent
    rw [h.stagedPacket_eq hsound] at hsteady hanswered hsent ⊢
    exact { hanswered with
      steady := hsteady
      sent := congrArg (· ++ _) hsent }

/-- The flag that tells how a transmission of a socket ends. -/
def verdict (chip : Chip) (s : SocketId) : UInt8 :=
  if chip.latches[s].timesOut then SocketFlag.timeout else SocketFlag.sendOk

theorem verdict_and_sendEnd (chip : Chip) (s : SocketId) :
    chip.verdict s &&& SocketFlag.sendEnd = chip.verdict s := by
  unfold verdict
  split <;> rfl

theorem Offers.verdict_eq (h : chip.Offers s outlet) : chip.verdict s = outlet.verdict := by
  rw [verdict, Outlet.verdict, h.timesOut]

/-- Transmitting raises the flag that tells how it ended. -/
theorem flagsOf_transmit (chip : Chip) (s : SocketId) :
    (chip.transmit s).flagsOf (.socket s) = chip.flagsOf (.socket s) ||| chip.verdict s := by
  have htimes : (chip.releaseTx s).latches[s].timesOut = chip.latches[s].timesOut := by
    rw [releaseTx, latches_setWordOf, latches_mapLatch_self, latches_setWordOf]
  have hreleased : (chip.releaseTx s).flagsOf (.socket s) = chip.flagsOf (.socket s) :=
    chip.byteOf_interrupt_releaseTx s
  have hraised (bits : UInt8) : ((chip.releaseTx s).raiseSocket s bits).flagsOf (.socket s) =
      chip.flagsOf (.socket s) ||| bits := by
    rw [flagsOf_raiseSocket, hreleased]
    exact congrArg (_ ||| ·) (if_pos rfl)
  simp only [Chip.transmit, htimes, verdict]
  cases chip.latches[s].timesOut with
  | true =>
    simp only [if_true, failTransmit]
    split
    · refine Eq.trans ?_ (hraised _)
      show Chip.byteOf (Chip.setByteOf _ _ _ _) .interrupt s = _
      rw [byteOf_setByteOf, if_neg (by simp)]
      rfl
    · exact hraised _
  | false =>
    simp only [Bool.false_eq_true, if_false]
    refine Eq.trans ?_ (hraised _)
    show Chip.byteOf (Chip.answer _ _) .interrupt s = _
    unfold answer
    split <;> rfl

theorem flagsOf_send (chip : Chip) (s : SocketId) :
    (chip.command s SocketCommand.send.code).flagsOf (.socket s) =
      chip.flagsOf (.socket s) ||| chip.verdict s := by
  simp only [command, SocketCommand.ofCode?_code, run]
  refine (flagsOf_transmit _ s).trans ?_
  have hverdict : ((chip.setByteOf .command s SocketCommand.send.code).mapLatch s
      fun latch => { latch with busy := chip.commandLatency.toNat }).verdict s =
        chip.verdict s := by
    rw [verdict, latches_mapLatch_self, latches_setByteOf]
    rfl
  rw [hverdict]
  show Chip.byteOf (Chip.mapLatch (Chip.setByteOf _ _ _ _) _ _) .interrupt s ||| _ = _
  rw [byteOf_mapLatch, byteOf_setByteOf, if_neg (by simp)]
  rfl

/-- Of the registers of one byte, transmitting changes the flags, and it closes a socket when
nobody answers. -/
theorem byteOf_transmit {r : SocketRegister} (hw : r.width = 1) (hi : r ≠ .interrupt)
    (hstatus : r = .status → chip.latches[s].timesOut = false) (t : SocketId) :
    (chip.transmit s).byteOf r t = chip.byteOf r t := by
  have hword {r' : SocketRegister} (hw' : r'.width = 2) : r' ≠ r := by
    rintro rfl
    rw [hw] at hw'
    cases hw'
  have hreleased : (chip.releaseTx s).byteOf r t = chip.byteOf r t := by
    rw [releaseTx, byteOf_setWordOf _ _ _ _ rfl (hword rfl), byteOf_mapLatch,
      byteOf_setWordOf _ _ _ _ rfl (hword rfl)]
  have hraised (bits : UInt8) : ((chip.releaseTx s).raiseSocket s bits).byteOf r t =
      chip.byteOf r t := by
    rw [raiseSocket, byteOf_assertLine, byteOf_setByteOf, if_neg fun h => hi h.1.symm, hreleased]
  have htimes : (chip.releaseTx s).latches[s].timesOut = chip.latches[s].timesOut := by
    rw [releaseTx, latches_setWordOf, latches_mapLatch_self, latches_setWordOf]
  simp only [Chip.transmit, htimes]
  split
  · next htimesOut =>
    simp only [failTransmit]
    split
    · have hother : ¬(SocketRegister.status = r ∧ s = t) := fun h => by
        rw [hstatus h.1.symm] at htimesOut
        cases htimesOut
      rw [setStatus, byteOf_setByteOf, if_neg hother, hraised]
    · exact hraised _
  · refine Eq.trans ?_ (hraised SocketFlag.sendOk)
    show Chip.byteOf (Chip.answer _ _) r t = _
    unfold answer
    split <;> rfl

theorem byteOf_send {r : SocketRegister} (hw : r.width = 1) (hi : r ≠ .interrupt)
    (hc : r ≠ .command) (hstatus : r = .status → chip.latches[s].timesOut = false) (t : SocketId) :
    (chip.command s SocketCommand.send.code).byteOf r t = chip.byteOf r t := by
  simp only [command, SocketCommand.ofCode?_code, run]
  rw [byteOf_transmit hw hi (by rwa [latches_mapLatch_self, latches_setByteOf]), byteOf_mapLatch,
    byteOf_setByteOf, if_neg fun h => hc h.1.symm]

/-- The command to transmit does so. -/
theorem Offers.send (h : chip.Offers s outlet)
    (hsound : outlet.Sound) :
    (chip.command s SocketCommand.send.code).Offers s (outlet.transmitted s) := by
  have hgiven := h.congr (chip.sameOutlet_given s SocketCommand.send.code chip.commandLatency.toNat)
    (h.steady.of_casing (by rw [casing_mapLatch, casing_setByteOf]))
  simp only [command, SocketCommand.ofCode?_code, run]
  exact hgiven.transmit hsound

/-- Closing a socket changes nothing of its transmit side. -/
theorem Offers.close (h : chip.Offers s outlet) :
    (chip.command s SocketCommand.close.code).Offers s outlet := by
  have hgiven := chip.sameOutlet_given s SocketCommand.close.code chip.commandLatency.toNat
  have hs := s.isLt
  have hregister {r : SocketRegister} (hr : r.offset.toNat < 0x0C) {address : Nat}
      (ha : s.TransmitsAt address) : (r.address s).toNat ≠ address := by
    rintro rfl
    exact s.not_transmitsAt_register hr s ha
  have hsteady := h.steady.command s SocketCommand.close.code
  simp only [command, SocketCommand.ofCode?_code, run] at hsteady ⊢
  refine h.congr (hgiven.trans ⟨rfl, rfl, fun ha => ?_, rfl⟩) hsteady
  refine (Memory.read_write_of_ne _ _ (hregister (by decide) ha)).trans ?_
  exact Memory.read_write_of_ne _ _ (hregister (by decide) ha)

end Chip

/-! ## On a calm board -/

/-- Flags beside a mask do not show through it. -/
theorem or_and_of_and_eq_zero {flags mask : UInt8} (h : flags &&& mask = 0) (bits : UInt8) :
    (flags ||| bits) &&& mask = bits &&& mask := by
  refine ext_bit fun i _ => ?_
  have hi := congrArg (bit · i) h
  simp only [bit_and, bit_zero] at hi
  rw [bit_and, bit_or, bit_and, Bool.and_or_distrib_right, hi, Bool.false_or]

section Transmission

variable {σ : Type} [Host σ] [Wired σ]

namespace Habit

variable {H : Habit σ} {s : SocketId} {outlet : Outlet} {device : Device σ}

/-- Closing a socket leaves its transmit side alone. -/
theorem close_offers (h : H.Offers s outlet device) :
    Ends (close s) device fun _ device' => H.Offers s outlet device' := by
  refine Ends.bind (H.issue_ends h.ok rfl) ?_
  rintro _ d1 ⟨given, o, reply, hgiven, -, hwalked⟩
  have hclosed : H.Offers s outlet given := hgiven.offers (by
    rw [Chip.serve_write, Chip.write_command h.chip.steady.present]
    exact h.chip.close)
  have h1 := hwalked.offers hclosed
  refine Ends.bind (Ends.onLink (H.writeByte_ends h1.ok (isLocal_write_interrupt s 0xFF))) ?_
  rintro _ d2 ⟨⟨o', reply', hcleared⟩, -⟩
  have h2 := hcleared.offers (h1.chip.serve fun _ => .inr ⟨s, rfl⟩)
  exact Ends.changeController ⟨h2.ok, h2.chip⟩

/-- The transmit side of a socket is in a state, the socket shows a status unless its
transmissions time out, and of the flags that tell how a transmission has ended the driver and the
chip have these. -/
structure Awaits (H : Habit σ) (s : SocketId) (outlet : Outlet) (shown sticky raised : UInt8)
    (device : Device σ) : Prop where
  offers : H.Offers s outlet device
  shown : outlet.timesOut = false → device.chip.byteOf .status s = shown
  sticky : device.controller.sticky.socket s &&& SocketFlag.sendEnd = sticky
  raised : device.chip.flagsOf (.socket s) &&& SocketFlag.sendEnd = raised

variable {shown sticky raised : UInt8}

theorem Awaits.walked {P : Frame → Prop} {device' : Device σ} (hH : H.Calm)
    (h : H.Awaits s outlet shown sticky raised device)
    (hw : H.Walked P device device') (hP : ∀ frame, P frame → frame.IsStaging s)
    {outlet' : Outlet} (htimes : outlet'.timesOut = outlet.timesOut)
    (hoffers : H.Offers s outlet' device') : H.Awaits s outlet' shown sticky raised device' := by
  obtain ⟨o, hpasses⟩ := hw.passes
  have hvisited := hH.visited h.offers.ok
  refine ⟨hoffers, fun hout => ?_, ?_, ?_⟩
  · rw [← h.shown (htimes ▸ hout)]
    refine hpasses.byteOf_of_serve hvisited (by decide) rfl fun chip frame hpresent hf => ?_
    exact chip.byteOf_serve_of_isStaging hpresent (hP frame hf) (by decide) s
  · rw [hw.controller, h.sticky]
  · rw [← h.raised]
    exact hpasses.flagsOf_and (fun frame hf => (hP frame hf).spares _) hvisited (by decide)

/-- All flags that tell how a transmission has ended are collected. -/
theorem drain_awaits (hH : H.Calm) (h : H.Awaits s outlet shown sticky raised device) :
    Ends drain device fun _ device' => H.Awaits s outlet shown (sticky ||| raised) 0 device' := by
  refine (H.drain_collects hH h.offers.ok
    (show SocketFlag.sendEnd &&& SocketFlag.received = 0 by decide)).mono ?_
  rintro _ device' ⟨hok, ⟨o, hpasses⟩, hflags⟩
  obtain ⟨hclear, hsticky⟩ := hflags s
  refine ⟨⟨hok, hpasses.offers (fun _ => id) h.offers.chip⟩, fun hout => ?_, ?_, hclear⟩
  · rw [← h.shown hout]
    refine hpasses.byteOf_of_serve (hH.visited h.offers.ok) (by decide) rfl ?_
    exact fun chip frame hpresent hf => chip.byteOf_serve_of_isQuiet hpresent hf (by decide) s
  · rw [hsticky, ← h.sticky, ← h.raised]
    refine ext_bit fun i _ => ?_
    simp only [bit_and, bit_or, Bool.and_or_distrib_right]

theorem takeFlags_awaits (h : H.Awaits s outlet shown sticky raised device) :
    Ends (takeFlags s SocketFlag.sendEnd) device fun taken device' =>
      taken = sticky ∧ H.Awaits s outlet shown 0 raised device' := by
  refine Ends.onController ⟨h.sticky, ⟨h.offers.ok, h.offers.chip⟩, h.shown, ?_, h.raised⟩
  refine (congrArg (· &&& _) (StickyFlags.socket_takeSocket _ _ _)).trans ?_
  rw [UInt8.and_assoc, UInt8.and_comm (~~~_), UInt8.and_not_self, UInt8.and_zero]

/-- What is left of earlier transmissions is dropped. -/
theorem clearSendFlags_awaits (hH : H.Calm) (h : H.Offers s outlet device) :
    Ends (clearSendFlags s) device fun _ device' =>
      H.Awaits s outlet (device.chip.byteOf .status s) 0 0 device' := by
  have hstart : H.Awaits s outlet _ _ _ device := ⟨h, fun _ => rfl, rfl, rfl⟩
  refine Ends.bind (drain_awaits hH hstart) ?_
  rintro _ d1 h1
  refine Ends.bind (takeFlags_awaits h1) ?_
  rintro _ d2 ⟨-, h2⟩
  exact Ends.pure h2

/-- The flag that tells how a transmission ends is raised as soon as the command is given. -/
theorem Exchanged.flagsOf_send (hH : H.Calm) {x x' : σ} {reply : UInt8} {o : List Occurrence}
    (h : H.Exchanged x (Frame.write (SocketRegister.command.address s) SocketCommand.send.code)
      reply o x') (hok : H.ok x) :
    (Wired.endpoint x').chip.flagsOf (.socket s) &&& SocketFlag.sendEnd =
      ((Wired.endpoint x).chip.flagsOf (.socket s) ||| (Wired.endpoint x).chip.verdict s) &&&
        SocketFlag.sendEnd := by
  refine and_congr_of_bit fun i _ hi => ?_
  rw [h.bit_flagsOf_calm hH (hH.dormant (bit_received_of_mask (by decide) hi)) hok,
    Chip.serve_write, Chip.write_command (H.steady hok).present, Chip.flagsOf_send]

/-- Whoever gives the command to transmit finds the flag that tells how it ended. -/
theorem issue_send_raises (hH : H.Calm) (hok : H.ok device.board) :
    Ends (issue s .send) device fun _ device' =>
      hasBits (device'.chip.flagsOf (.socket s)) (device.chip.verdict s) = true := by
  refine (H.issue_ends_of hok (hH.turn hok _)).mono ?_
  rintro _ device' ⟨given, o, reply, hgiven, -, hwalked⟩
  have hverdict := device.chip.verdict_and_sendEnd s
  obtain ⟨o', hpasses⟩ := hwalked.passes
  refine hasBits_of_and_eq ?_ hverdict
    (hasBits_or_left (hasBits_iff.2 fun _ _ => id) (device.chip.flagsOf (.socket s)))
  refine (hpasses.flagsOf_and (fun frame hf => ?_) (hH.visited hgiven.ok) (by decide)).trans
    (hgiven.flagsOf_send hH hok)
  exact Looks.spares (hH.spares _) hf

/-- The command to transmit is carried out as soon as it is given. -/
theorem issue_awaits (hH : H.Calm) (h : H.Awaits s outlet shown sticky 0 device)
    (hsound : outlet.Sound) :
    Ends (issue s .send) device fun _ device' =>
      H.Awaits s (outlet.transmitted s) shown sticky outlet.verdict device' := by
  have hok := h.offers.ok
  refine (H.issue_ends_of hok (hH.turn hok _)).mono ?_
  rintro _ device' ⟨given, o, reply, hgiven, hcontroller, hwalked⟩
  have hoffers := h.offers.chip.send hsound
  have hserved : (device.chip.serve (Frame.write (SocketRegister.command.address s)
      SocketCommand.send.code)).2 = device.chip.command s SocketCommand.send.code := by
    rw [Chip.serve_write]
    exact Chip.write_command (H.steady hok).present s _
  have hgivens : H.Awaits s (outlet.transmitted s) shown sticky outlet.verdict given := by
    refine ⟨hgiven.offers (by rw [hserved]; exact hoffers), fun hout => ?_, ?_, ?_⟩
    · have hout : outlet.timesOut = false := hout
      refine (hgiven.byteOf_calm hH hok (by decide) rfl).trans ?_
      rw [hserved, ← h.shown hout]
      exact Chip.byteOf_send rfl (by decide) (by decide)
        (fun _ => h.offers.chip.timesOut.trans hout) s
    · rw [hcontroller, h.sticky]
    · refine (hgiven.flagsOf_send hH hok).trans ?_
      rw [or_and_of_and_eq_zero h.raised, Chip.verdict_and_sendEnd, h.offers.chip.verdict_eq]
  refine hgivens.walked hH hwalked (fun frame hf => ?_) rfl (hwalked.offers hgivens.offers)
  exact Frame.isStaging_of_read (hf.resolve_right (hH.between frame))

/-- What a look at the flags finds when a transmission has ended. A stream socket is closed if
nobody has answered. -/
theorem sendEnded_ends (hH : H.Calm) (h : H.Awaits s outlet shown 0 outlet.verdict device)
    (tcp : Bool) :
    Ends (sendEnded s tcp).run device fun r device' =>
      r = (if outlet.timesOut then .error .sendTimeout else .ok (some ())) ∧
        H.Offers s outlet device' ∧
        (outlet.timesOut = false → device'.chip.byteOf .status s = shown) ∧
        (tcp = true → outlet.timesOut = true → device'.Released s) := by
  unfold sendEnded
  refine Ends.sure_bind (drain_awaits hH h) ?_
  rintro _ d1 h1
  refine Ends.sure_bind (takeFlags_awaits h1) ?_
  rintro _ d2 ⟨rfl, h2⟩
  rw [UInt8.zero_or, Outlet.verdict]
  cases hout : outlet.timesOut with
  | false => exact Ends.pure ⟨rfl, h2.offers, fun _ => h2.shown hout, fun _ h => by cases h⟩
  | true =>
    refine Ends.sure_bind (H.note_ends (P := H.Looks) h2.offers.ok _) ?_
    rintro _ d3 hwalked
    have h3 := hwalked.offers h2.offers
    cases tcp with
    | false => exact Ends.fail ⟨rfl, h3, (fun h => by cases h), fun h => by cases h⟩
    | true =>
      have hclose := (close_offers h3).and
        (close_releases h3.ok ((hH.visited h3.ok).statusStays s))
      refine Ends.sure_bind hclose ?_
      rintro _ d4 ⟨h4, hreleased⟩
      exact Ends.fail ⟨rfl, h4, (fun h => by cases h), fun _ _ => hreleased⟩

/-- Waiting for the end of a transmission that has ended takes one look. -/
theorem awaitSent_ends (hH : H.Calm) (h : H.Awaits s outlet shown 0 outlet.verdict device)
    (tcp : Bool) :
    Ends (awaitSent s tcp).run device fun r device' =>
      r = (if outlet.timesOut then .error .sendTimeout else .ok ()) ∧
        H.Offers s outlet device' ∧
        (outlet.timesOut = false → device'.chip.byteOf .status s = shown) ∧
        (tcp = true → outlet.timesOut = true → device'.Released s) := by
  unfold awaitSent
  refine Ends.sure_patience_bind fun bound => ?_
  rw [pollWithin]
  refine Ends.attempt (sendEnded_ends hH h tcp) ?_ ?_
  · rintro r d1 ⟨hr, h1⟩
    cases hout : outlet.timesOut with
    | true =>
      rw [hout] at hr
      cases hr
    | false =>
      rw [hout] at hr h1
      cases hr
      exact Ends.pure ⟨rfl, h1⟩
  · rintro cause d1 ⟨hr, h1⟩
    cases hout : outlet.timesOut with
    | true =>
      rw [hout] at hr h1
      cases hr
      exact ⟨rfl, h1⟩
    | false =>
      rw [hout] at hr
      cases hr

/-- Transmitting ends well, or with a timeout; afterwards nothing is staged in both cases. -/
theorem sendDatagram_ends (hH : H.Calm) (h : H.Offers s outlet device) (hsound : outlet.Sound) :
    Ends (sendDatagram s).run device fun r device' =>
      r = (if outlet.timesOut then .error .sendTimeout else .ok ()) ∧
        H.Offers s (outlet.transmitted s) device' := by
  unfold sendDatagram
  refine Ends.sure_bind (clearSendFlags_awaits hH h) ?_
  rintro _ d1 h1
  refine Ends.sure_bind (issue_awaits hH h1 hsound) ?_
  rintro _ d2 h2
  refine (awaitSent_ends hH h2 false).mono ?_
  rintro r d3 ⟨hr, h3, -⟩
  exact ⟨hr, h3⟩

end Habit

end Transmission

end SpiEthernet
