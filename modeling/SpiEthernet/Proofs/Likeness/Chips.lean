import SpiEthernet.Proofs.Operation.Footprint
import SpiEthernet.Proofs.Send.Transmission

/-!
# Chips that are alike but for their flags

Two chips are alike if nothing but their interrupt flags tells them apart, nor how long they show a
command that they have taken. What is written to one of them and to the other makes the same
difference to both, commands and what happens from outside included; and what the driver reads of
them, flags apart, is the same.

* `Alike.serve` : a frame that touches neither flags nor commands is answered alike.
* `Alike.command`, `interrupt_command` : a command makes the same difference to both, and which flag
  it raises does not depend on flags.
* `Alike.happen` : whatever happens from outside makes the same difference too.
-/

namespace SpiEthernet

/-- A place of memory that holds interrupt flags. -/
def IsFlagPlace (address : Nat) : Prop :=
  address = CommonRegister.interrupt.address.toNat ∨
    ∃ s : SocketId, address = (SocketRegister.interrupt.address s).toNat

theorem SocketRegister.not_isFlagPlace {r : SocketRegister} (hr : r ≠ .interrupt) (s : SocketId)
    {i : Nat} (hi : i < r.width) : ¬IsFlagPlace ((r.address s).toNat + i) := by
  have hmem := r.address_mem s
  have hcommon : CommonRegister.interrupt.address.toNat = 0x15 := rfl
  have hwidth : SocketRegister.interrupt.width = 1 := rfl
  rintro (hplace | ⟨t, hplace⟩)
  · omega
  · have hd := SocketRegister.address_disjoint_of_ne hr s t
    omega

/-- What the chip keeps for a socket, but for how long it shows the last command. -/
def SocketLatch.core (latch : SocketLatch) : SocketLatch := { latch with busy := 0 }

namespace Chip

variable {chip chip' chip'' : Chip} {s : SocketId} {r : SocketRegister}

/-- Nothing but interrupt flags, and how long they show their commands, tells two chips apart. -/
structure Alike (chip chip' : Chip) : Prop where
  places {address : Nat} (h : ¬IsFlagPlace address) :
    chip'.memory.read address = chip.memory.read address
  latches (t : SocketId) : chip'.latches[t].core = chip.latches[t].core
  sent : chip'.sent = chip.sent

namespace Alike

theorem refl : chip.Alike chip := ⟨fun _ => rfl, fun _ => rfl, rfl⟩

theorem symm (h : chip.Alike chip') : chip'.Alike chip :=
  ⟨fun ha => (h.places ha).symm, fun t => (h.latches t).symm, h.sent.symm⟩

theorem trans (h : chip.Alike chip') (h' : chip'.Alike chip'') : chip.Alike chip'' :=
  ⟨fun ha => (h'.places ha).trans (h.places ha), fun t => (h'.latches t).trans (h.latches t),
    h'.sent.trans h.sent⟩

theorem of_memory (hmemory : chip'.memory = chip.memory) (hlatches : chip'.latches = chip.latches)
    (hsent : chip'.sent = chip.sent) : chip.Alike chip' :=
  ⟨fun _ => by rw [hmemory], fun _ => by rw [hlatches], hsent⟩

/-! ## What is the same -/

theorem byteOf (h : chip.Alike chip') (hr : r ≠ .interrupt) (s : SocketId) :
    chip'.byteOf r s = chip.byteOf r s :=
  h.places (SocketRegister.not_isFlagPlace hr s r.width_pos)

theorem wordOf (h : chip.Alike chip') (hw : r.width = 2) (s : SocketId) :
    chip'.wordOf r s = chip.wordOf r s := by
  have hr : r ≠ .interrupt := by
    rintro rfl
    cases hw
  exact wordOf_eq_of_places (h.places (SocketRegister.not_isFlagPlace hr s r.width_pos))
    (h.places (SocketRegister.not_isFlagPlace hr s (by omega)))

theorem txWrite (h : chip.Alike chip') (s : SocketId) :
    chip'.latches[s].txWrite = chip.latches[s].txWrite := by
  show chip'.latches[s].core.txWrite = chip.latches[s].core.txWrite
  rw [h.latches]

theorem rxRead (h : chip.Alike chip') (s : SocketId) :
    chip'.latches[s].rxRead = chip.latches[s].rxRead := by
  show chip'.latches[s].core.rxRead = chip.latches[s].core.rxRead
  rw [h.latches]

theorem timesOut (h : chip.Alike chip') (s : SocketId) :
    chip'.latches[s].timesOut = chip.latches[s].timesOut := by
  show chip'.latches[s].core.timesOut = chip.latches[s].core.timesOut
  rw [h.latches]

theorem verdict (h : chip.Alike chip') (s : SocketId) : chip'.verdict s = chip.verdict s := by
  rw [Chip.verdict, h.timesOut, Chip.verdict]

/-- The packet that a socket would send is the same. -/
theorem stagedPacket (h : chip.Alike chip') (s : SocketId) :
    chip'.stagedPacket s = chip.stagedPacket s := by
  have hs := s.isLt
  have hbase := toNat_txBase s
  have hdestination : (List.range 4).map (fun i => chip'.memory.read
      ((SocketRegister.peerIp.address s).toNat + i)) = (List.range 4).map fun i =>
        chip.memory.read ((SocketRegister.peerIp.address s).toNat + i) :=
    List.map_congr_left fun i hi => h.places (SocketRegister.not_isFlagPlace
      (r := .peerIp) (by decide) s (List.mem_range.1 hi))
  have hring : ∀ place < 2048, chip'.memory.read ((txBase s).toNat + place) =
      chip.memory.read ((txBase s).toNat + place) := by
    refine fun place _ => h.places ?_
    rintro (hplace | ⟨t, hplace⟩)
    · simp only [CommonRegister.address, UInt16.reduceToNat] at hplace
      omega
    · have hmem := SocketRegister.interrupt.address_mem t
      omega
  simp only [Chip.stagedPacket, hdestination, h.wordOf (r := .peerPort) rfl,
    h.wordOf (r := .txRead) rfl, h.wordOf (r := .txWrite) rfl, Memory.readRing_congr hring]

/-! ## The same changes -/

theorem write (h : chip.Alike chip') (place : Nat) (value : UInt8) :
    { chip with memory := chip.memory.write place value }.Alike
      { chip' with memory := chip'.memory.write place value } :=
  ⟨fun ha => Memory.read_write_congr (h.places ha) place value, h.latches, h.sent⟩

theorem writeWord (h : chip.Alike chip') (place : Nat) (value : UInt16) :
    { chip with memory := chip.memory.writeWord place value }.Alike
      { chip' with memory := chip'.memory.writeWord place value } :=
  ⟨fun ha => Memory.read_writeWord_congr (h.places ha) place value, h.latches, h.sent⟩

theorem setByteOf (h : chip.Alike chip') (r : SocketRegister) (s : SocketId) (value : UInt8) :
    (chip.setByteOf r s value).Alike (chip'.setByteOf r s value) :=
  h.write _ value

theorem setWordOf (h : chip.Alike chip') (r : SocketRegister) (s : SocketId) (value : UInt16) :
    (chip.setWordOf r s value).Alike (chip'.setWordOf r s value) :=
  h.writeWord _ value

theorem mapLatch (h : chip.Alike chip') (s : SocketId) {f f' : SocketLatch → SocketLatch}
    (hf : ∀ latch latch' : SocketLatch, latch'.core = latch.core →
      (f' latch').core = (f latch).core) :
    (chip.mapLatch s f).Alike (chip'.mapLatch s f') where
  places := h.places
  latches t := by
    by_cases hst : s = t
    · subst hst
      rw [latches_mapLatch_self, latches_mapLatch_self]
      exact hf _ _ (h.latches s)
    · rw [latches_mapLatch_of_ne _ _ hst, latches_mapLatch_of_ne _ _ hst]
      exact h.latches t
  sent := h.sent

end Alike

/-! ## Flags -/

variable (chip s)

theorem alike_setInterrupt (bits : UInt8) : chip.Alike (chip.setByteOf .interrupt s bits) :=
  ⟨fun ha => Memory.read_write_of_ne _ _ fun he => ha (.inr ⟨s, he.symm⟩), fun _ => rfl, rfl⟩

theorem alike_assertLine : chip.Alike chip.assertLine :=
  .of_memory (memory_assertLine _) (latches_assertLine _) (sent_assertLine _)

theorem alike_raiseSocket (bits : UInt8) : chip.Alike (chip.raiseSocket s bits) :=
  (chip.alike_setInterrupt s _).trans (alike_assertLine _)

theorem alike_raiseGlobal (bits : UInt8) : chip.Alike (chip.raiseGlobal bits) := by
  refine Alike.trans ?_ (alike_assertLine _)
  exact ⟨fun ha => Memory.read_write_of_ne _ _ fun he => ha (.inl he.symm), fun _ => rfl, rfl⟩

theorem alike_answer (packet : SentPacket) : chip.Alike (chip.answer packet) := by
  unfold answer
  split <;> exact .of_memory rfl rfl rfl

variable {chip s}

/-- Raising flags does not tell chips apart, be they the same flags or not. -/
theorem Alike.raiseSocket (h : chip.Alike chip') (s : SocketId) (bits bits' : UInt8) :
    (chip.raiseSocket s bits).Alike (chip'.raiseSocket s bits') :=
  ((chip.alike_raiseSocket s bits).symm.trans h).trans (chip'.alike_raiseSocket s bits')

/-! ## Commands -/

theorem Alike.releaseTx (h : chip.Alike chip') (s : SocketId) :
    (chip.releaseTx s).Alike (chip'.releaseTx s) := by
  simp only [Chip.releaseTx, h.wordOf (r := .txWrite) rfl]
  generalize chip.wordOf .txWrite s = pointer
  refine Alike.setWordOf (Alike.mapLatch (h.setWordOf _ _ _) s ?_) _ _ _
  exact fun _ _ hcore =>
    congrArg (fun latch : SocketLatch => { latch with txWrite := pointer }) hcore

theorem Alike.transmit (h : chip.Alike chip') (s : SocketId) :
    (chip.transmit s).Alike (chip'.transmit s) := by
  have hreleased := h.releaseTx s
  simp only [Chip.transmit, hreleased.timesOut, h.stagedPacket]
  split
  · have hraised := hreleased.raiseSocket s SocketFlag.timeout SocketFlag.timeout
    simp only [failTransmit, hraised.byteOf (r := .mode) (by decide)]
    split
    · exact hraised.setByteOf _ _ _
    · exact hraised
  · have hraised := hreleased.raiseSocket s SocketFlag.sendOk SocketFlag.sendOk
    have hanswered := ((alike_answer _ (chip.stagedPacket s)).symm.trans hraised).trans
      (alike_answer _ (chip.stagedPacket s))
    exact ⟨hanswered.places, hanswered.latches, congrArg (· ++ _) hanswered.sent⟩

theorem Alike.setPointers (h : chip.Alike chip') (s : SocketId) (tx rx : UInt16) :
    (chip.setPointers s tx rx).Alike (chip'.setPointers s tx rx) := by
  have hlatched : (chip.mapLatch s fun latch => { latch with txWrite := tx, rxRead := rx }).Alike
      (chip'.mapLatch s fun latch => { latch with txWrite := tx, rxRead := rx }) :=
    h.mapLatch s fun _ _ hcore => congrArg
      (fun latch : SocketLatch => { latch with txWrite := tx, rxRead := rx }) hcore
  exact (((((hlatched.setWordOf _ _ _).setWordOf _ _ _).setWordOf _ _ _).setWordOf _ _ _).setWordOf
    _ _ _).setWordOf _ _ _

theorem Alike.updateRxSize (h : chip.Alike chip') (s : SocketId) :
    (chip.updateRxSize s).Alike (chip'.updateRxSize s) := by
  unfold Chip.updateRxSize
  rw [h.wordOf rfl, h.rxRead]
  exact h.setWordOf _ _ _

theorem Alike.run (h : chip.Alike chip') (s : SocketId) (command : SocketCommand) :
    (chip.run s command).Alike (chip'.run s command) := by
  cases command with
  | «open» =>
    simp only [Chip.run, h.byteOf (r := .mode) (by decide)]
    exact (h.setByteOf _ _ _).setPointers s 0 0
  | listen => exact h.setByteOf _ _ _
  | connect | disconnect => exact (h.setByteOf _ _ _).raiseSocket s _ _
  | close => exact (h.setByteOf _ _ _).setByteOf _ _ _
  | receive =>
    simp only [Chip.run, h.wordOf (r := .rxRead) rfl]
    generalize chip.wordOf .rxRead s = pointer
    refine Alike.updateRxSize (h.mapLatch s ?_) s
    exact fun _ _ hcore =>
      congrArg (fun latch : SocketLatch => { latch with rxRead := pointer }) hcore
  | send | sendMac | sendKeep => exact h.transmit s

/-- A command makes the same difference to chips that are alike. -/
theorem Alike.command (h : chip.Alike chip') (s : SocketId) (code : UInt8) :
    (chip.command s code).Alike (chip'.command s code) := by
  have hgiven : ((chip.setByteOf .command s code).mapLatch s fun latch =>
      { latch with busy := chip.commandLatency.toNat }).Alike
        ((chip'.setByteOf .command s code).mapLatch s fun latch =>
          { latch with busy := chip'.commandLatency.toNat }) :=
    (h.setByteOf _ _ _).mapLatch s fun _ _ hcore => hcore
  simp only [Chip.command]
  split
  · exact hgiven.run s _
  · exact hgiven

/-- The flag that a command raises. -/
def raisedBy (chip : Chip) (s : SocketId) : SocketCommand → UInt8
  | .connect => SocketFlag.connected
  | .disconnect => SocketFlag.disconnected
  | .send | .sendMac | .sendKeep => chip.verdict s
  | _ => 0

theorem Alike.raisedBy (h : chip.Alike chip') (s : SocketId) (command : SocketCommand) :
    chip'.raisedBy s command = chip.raisedBy s command := by
  cases command <;> first | rfl | exact h.verdict s

/-- A command changes no flags of other sockets. -/
theorem interrupt_command_of_ne (chip : Chip) {s t : SocketId} (hst : s ≠ t) (code : UInt8) :
    (chip.command s code).byteOf .interrupt t = chip.byteOf .interrupt t :=
  (chip.sameBeside_command s code).places
    ((SocketId.owns_register .interrupt t (i := 0) (by decide)).not_owns hst.symm)

/-- Every command but the one to close adds a flag to those of its socket, if any. -/
theorem interrupt_command (chip : Chip) (s : SocketId) {command : SocketCommand}
    (hclose : command ≠ .close) :
    (chip.command s command.code).byteOf .interrupt s =
      chip.byteOf .interrupt s ||| chip.raisedBy s command := by
  have hgiven : ((chip.setByteOf .command s command.code).mapLatch s fun latch =>
      { latch with busy := chip.commandLatency.toNat }).byteOf .interrupt s =
        chip.byteOf .interrupt s := by
    rw [byteOf_mapLatch, byteOf_setByteOf, if_neg (by simp)]
  have hverdict : ((chip.setByteOf .command s command.code).mapLatch s fun latch =>
      { latch with busy := chip.commandLatency.toNat }).verdict s = chip.verdict s := by
    rw [verdict, latches_mapLatch_self, latches_setByteOf]
    rfl
  have hstatus (c : Chip) (status : SocketStatus) :
      (c.setStatus s status).byteOf .interrupt s = c.byteOf .interrupt s := by
    rw [setStatus, byteOf_setByteOf, if_neg (by simp)]
  simp only [Chip.command, SocketCommand.ofCode?_code]
  rw [← hgiven]
  generalize (Chip.mapLatch _ s _) = given at hverdict ⊢
  cases command with
  | close => exact absurd rfl hclose
  | «open» =>
    refine Eq.trans ?_ (UInt8.or_zero).symm
    rw [run, setPointers, byteOf_setWordOf _ _ _ _ rfl (by decide),
      byteOf_setWordOf _ _ _ _ rfl (by decide), byteOf_setWordOf _ _ _ _ rfl (by decide),
      byteOf_setWordOf _ _ _ _ rfl (by decide), byteOf_setWordOf _ _ _ _ rfl (by decide),
      byteOf_setWordOf _ _ _ _ rfl (by decide), byteOf_mapLatch, hstatus]
  | listen => exact (hstatus _ _).trans (UInt8.or_zero).symm
  | connect | disconnect => rw [run, byteOf_raiseSocket, if_pos rfl, hstatus]; rfl
  | receive =>
    refine Eq.trans ?_ (UInt8.or_zero).symm
    rw [run, updateRxSize, byteOf_setWordOf _ _ _ _ rfl (by decide), byteOf_mapLatch]
  | send | sendMac | sendKeep =>
    rw [raisedBy, ← hverdict]
    exact given.flagsOf_transmit s

theorem interrupt_close (chip : Chip) (s : SocketId) :
    (chip.command s SocketCommand.close.code).byteOf .interrupt s = 0 := by
  simp only [Chip.command, SocketCommand.ofCode?_code, run]
  rw [byteOf_setByteOf, if_pos ⟨rfl, rfl⟩]

/-! ## Frames -/

end Chip

/-- A frame that addresses neither the mode register, nor a command register, nor a place of
flags. -/
structure Frame.IsPlain (frame : Frame) : Prop where
  mode : frame.address ≠ CommonRegister.mode.address
  command (s : SocketId) : frame.address ≠ SocketRegister.command.address s
  flags : ¬IsFlagPlace frame.address.toNat

namespace Frame

variable {frame : Frame}

theorem IsPlain.isLocal (h : frame.IsPlain) : frame.IsLocal :=
  fun _ s _ ha _ => absurd ha (h.command s)

theorem isPlain_register {r : SocketRegister} (hcommand : r ≠ .command) (hflags : r ≠ .interrupt)
    {s : SocketId} {i : Nat} (hi : i < r.width)
    (ha : frame.address.toNat = (r.address s).toNat + i) : frame.IsPlain where
  mode hmode := by
    have hmem := r.address_mem s
    have hzero : CommonRegister.mode.address.toNat = 0 := rfl
    rw [hmode] at ha
    omega
  command t hc := by
    have hd := SocketRegister.address_disjoint_of_ne hcommand s t
    have hone : SocketRegister.command.width = 1 := rfl
    rw [hc] at ha
    omega
  flags := by
    rw [ha]
    exact SocketRegister.not_isFlagPlace hflags s hi

theorem isPlain_of_ring (h : 0x4000 ≤ frame.address.toNat) : frame.IsPlain where
  mode hmode := by
    have hzero : CommonRegister.mode.address.toNat = 0 := rfl
    rw [hmode] at h
    omega
  command t hc := by
    have hmem := SocketRegister.command.address_mem t
    rw [hc] at h
    omega
  flags := by
    rintro (hplace | ⟨t, hplace⟩)
    · have hcommon : CommonRegister.interrupt.address.toNat = 0x15 := rfl
      omega
    · have hmem := SocketRegister.interrupt.address_mem t
      omega

end Frame

namespace Chip

variable {chip chip' : Chip} {s : SocketId} {frame : Frame}

/-- A quiet frame changes nothing but flags, and how long commands show. -/
theorem alike_serve_of_isQuiet (h : chip.absent = none) (hf : frame.IsQuiet) :
    chip.Alike (chip.serve frame).2 where
  places ha := memory_serve_of_isQuiet h hf (fun he => ha (.inl he)) fun s he => ha (.inr ⟨s, he⟩)
  latches t := by
    obtain ⟨busy, -, hlatch⟩ := latches_serve_of_isQuiet h hf t
    rw [hlatch]
    rfl
  sent := sent_serve h hf.isLocal

/-- What a plain read shows. -/
def shown (chip : Chip) (address : UInt16) : UInt8 :=
  match locate address with
  | some (s, offset) =>
    if offset = SocketRegister.txWrite.offset then highByte chip.latches[s].txWrite
    else if offset = SocketRegister.txWrite.offset + 1 then lowByte chip.latches[s].txWrite
    else chip.memory.read address.toNat
  | none => chip.memory.read address.toNat

theorem read_of_isPlain (h : chip.absent = none) (hf : frame.IsPlain) :
    chip.read frame.address = (chip.shown frame.address, chip) := by
  have hmode : ¬(frame.address = CommonRegister.mode.address ∧ 0 < chip.resetBusy) :=
    fun hm => hf.mode hm.1
  have hinterrupt : frame.address ≠ CommonRegister.interrupt.address := fun hi =>
    hf.flags (.inl (congrArg UInt16.toNat hi))
  rw [read_eq_readPresent h, readPresent, if_neg hmode, if_neg hinterrupt, shown]
  cases hlocate : locate frame.address with
  | none => rfl
  | some place =>
    obtain ⟨s, offset⟩ := place
    have hcommand : offset ≠ SocketRegister.command.offset := fun ho =>
      hf.command s (eq_address_of_locate (r := .command) (ho ▸ hlocate))
    simp only [readSocket, if_neg hcommand]
    split
    · rfl
    split <;> rfl

theorem write_of_isPlain (h : chip.absent = none) (hf : frame.IsPlain) (value : UInt8) :
    chip.write frame.address value = chip.poke frame.address value := by
  have heffect := writeEffect h frame.address value
  generalize chip.write frame.address value = after at *
  cases heffect with
  | reset ha => exact absurd ha hf.mode
  | clearGlobal ha => exact absurd (.inl (congrArg UInt16.toNat ha)) hf.flags
  | clearSocket s ha => exact absurd (.inr ⟨s, congrArg UInt16.toNat ha⟩) hf.flags
  | command s ha => exact absurd ha (hf.command s)
  | memory => rfl

theorem Alike.shown (h : chip.Alike chip') {address : UInt16}
    (hplace : ¬IsFlagPlace address.toNat) : chip'.shown address = chip.shown address := by
  simp only [Chip.shown, h.txWrite, h.places hplace]

/-- A plain frame is answered alike by chips that are alike, and makes the same difference to
them. -/
theorem Alike.serve (h : chip.Alike chip') (hpresent : chip.absent = none)
    (hpresent' : chip'.absent = none) (hf : frame.IsPlain) :
    (chip'.serve frame).1 = (chip.serve frame).1 ∧
      (chip.serve frame).2.Alike (chip'.serve frame).2 := by
  unfold Chip.serve
  cases frame.direction with
  | read =>
    simp only [read_of_isPlain hpresent hf, read_of_isPlain hpresent' hf]
    exact ⟨h.shown hf.flags, h⟩
  | write =>
    simp only [write_of_isPlain hpresent hf, write_of_isPlain hpresent' hf]
    exact ⟨trivial, h.write _ _⟩

/-- A plain frame changes no flags. -/
theorem interrupt_serve_of_isPlain (h : chip.absent = none) (hf : frame.IsPlain) (t : SocketId) :
    (chip.serve frame).2.byteOf .interrupt t = chip.byteOf .interrupt t := by
  unfold Chip.serve
  cases frame.direction with
  | read => rw [read_of_isPlain h hf]
  | write =>
    simp only [write_of_isPlain h hf]
    exact chip.read_poke_of_ne _ fun he => hf.flags (.inr ⟨t, he⟩)

/-! ## Events -/

theorem Alike.pushed (h : chip.Alike chip') (s : SocketId) (bytes : List UInt8) :
    (chip.pushed s bytes).Alike (chip'.pushed s bytes) := by
  have hring : { chip with memory :=
      chip.memory.writeRing (rxBase s).toNat (chip.wordOf .rxWrite s) bytes }.Alike
        { chip' with memory :=
          chip'.memory.writeRing (rxBase s).toNat (chip.wordOf .rxWrite s) bytes } :=
    ⟨fun ha => Memory.read_writeRing_congr _ _ _ (h.places ha), h.latches, h.sent⟩
  unfold Chip.pushed
  rw [h.wordOf (r := .rxWrite) rfl]
  exact (hring.setWordOf _ _ _).updateRxSize s

/-- What happens from outside makes the same difference to chips that are alike, and it is taken
by both or by none. -/
theorem Alike.happen (h : chip.Alike chip') {event : Event} (hevent : event.isOrdinary) :
    (chip.happen event).Alike (chip'.happen event) ∧
      chip'.occurrence event = chip.occurrence event := by
  cases hd : event.delivery? with
  | some delivery =>
    obtain ⟨s, bytes⟩ := delivery
    have hsize := h.wordOf (r := .rxSize) rfl s
    refine ⟨?_, ?_⟩
    · rw [happen_of_delivery hd, happen_of_delivery hd]
      by_cases hfits : chip.fits s bytes
      · have hfits' : chip'.fits s bytes := by rwa [fits, hsize]
        rw [store_of_fits _ _ hfits, store_of_fits _ _ hfits']
        exact (h.pushed s bytes).raiseSocket s _ _
      · have hfits' : ¬chip'.fits s bytes := by rwa [fits, hsize]
        rw [store_of_not_fits _ _ hfits, store_of_not_fits _ _ hfits']
        exact h
    · rw [occurrence, occurrence, accepts_of_delivery hd, accepts_of_delivery hd, hsize]
  | none =>
    refine ⟨?_, by rw [occurrence, occurrence, accepts, accepts, hd]⟩
    cases event with
    | socketInterrupt s bits => exact h.raiseSocket s bits bits
    | globalInterrupt bits =>
      exact ((chip.alike_raiseGlobal bits).symm.trans h).trans (chip'.alike_raiseGlobal bits)
    | setStatus s status => exact h.setByteOf _ _ _
    | setWord => cases hevent
    | udp | tcp | ipRaw | macRaw => cases hd

end Chip

end SpiEthernet
