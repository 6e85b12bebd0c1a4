import SpiEthernet.Proofs.Receive.Inlet
import SpiEthernet.Proofs.Send.Transmission

/-!
# What a frame does to the pointers of a socket

The pointers and sizes of a socket's rings change in few ways. A frame that writes to one of them
changes that one. A reset, or opening the socket, sets all of them. Transmitting and receiving move
the copies that the chip keeps, and recompute what depends on them. Every other frame leaves them
alone, whichever socket it is for.

* `emptied_powerOn` : after a reset all rings are empty.
* `pointerEffect_serve` : every frame does one of these things.
-/

namespace SpiEthernet

/-- A frame that sets the pointers of a socket, by resetting the chip or by opening the socket. -/
structure Frame.Opens (frame : Frame) (s : SocketId) : Prop where
  write : frame.direction = .write
  opens : frame.address = CommonRegister.mode.address ∨
    frame.address = SocketRegister.command.address s ∧ frame.data = SocketCommand.open.code

/-- A frame writes to neither byte of a register. -/
def Frame.Avoids (frame : Frame) (r : SocketRegister) (s : SocketId) : Prop :=
  frame.direction = .write → frame.address.toNat < (r.address s).toNat ∨
    (r.address s).toNat + 1 < frame.address.toNat

namespace Chip

/-- No pointer of a socket is different in the second state, and no other word of it. -/
structure SameWords (chip chip' : Chip) (s : SocketId) : Prop where
  txWrite : chip'.latches[s].txWrite = chip.latches[s].txWrite
  rxRead : chip'.latches[s].rxRead = chip.latches[s].rxRead
  words {r : SocketRegister} (hw : r.width = 2) : chip'.wordOf r s = chip.wordOf r s

/-- All pointers of a socket are zero, and both of its rings are empty. -/
structure Emptied (chip : Chip) (s : SocketId) : Prop where
  txWrite : chip.latches[s].txWrite = 0
  rxRead : chip.latches[s].rxRead = 0
  pointers {r : SocketRegister} (hr : r ∈ [.txRead, .txWrite, .rxSize, .rxRead, .rxWrite]) :
    chip.wordOf r s = 0
  free : chip.wordOf .txFree s = UInt16.ofNat ringSize

/-- What a frame can do to the pointers of a socket. -/
inductive PointerEffect (chip : Chip) (s : SocketId) (frame : Frame) (chip' : Chip) : Prop where
  /-- Only what the frame writes to is different. -/
  | kept (htx : chip'.latches[s].txWrite = chip.latches[s].txWrite)
    (hrx : chip'.latches[s].rxRead = chip.latches[s].rxRead)
    (hwords : ∀ r : SocketRegister, r.width = 2 → frame.Avoids r s →
      chip'.wordOf r s = chip.wordOf r s)
  /-- Both rings are empty, whatever was in them. -/
  | emptied (hopens : frame.Opens s) (hemptied : chip'.Emptied s)
  /-- The staged bytes are released. -/
  | sent (htx : chip'.latches[s].txWrite = chip.wordOf .txWrite s)
    (hrx : chip'.latches[s].rxRead = chip.latches[s].rxRead)
    (hwords : ∀ r : SocketRegister, r.width = 2 → chip'.wordOf r s =
      if r = .txFree then UInt16.ofNat ringSize
      else if r = .txRead then chip.wordOf .txWrite s else chip.wordOf r s)
  /-- The received bytes up to the pointer are released. -/
  | received (htx : chip'.latches[s].txWrite = chip.latches[s].txWrite)
    (hrx : chip'.latches[s].rxRead = chip.wordOf .rxRead s)
    (hwords : ∀ r : SocketRegister, r.width = 2 → chip'.wordOf r s =
      if r = .rxSize then chip.wordOf .rxWrite s - chip.wordOf .rxRead s else chip.wordOf r s)

variable {chip chip' chip'' : Chip} {s t : SocketId} {frame : Frame}

/-! ## Parts of a frame -/

namespace SameWords

theorem trans (h : chip.SameWords chip' s) (h' : chip'.SameWords chip'' s) :
    chip.SameWords chip'' s where
  txWrite := h'.txWrite.trans h.txWrite
  rxRead := h'.rxRead.trans h.rxRead
  words hw := (h'.words hw).trans (h.words hw)

theorem kept (h : chip.SameWords chip' s) : chip.PointerEffect s frame chip' :=
  .kept h.txWrite h.rxRead fun _ hw _ => h.words hw

theorem emptied (h : chip.SameWords chip' s) (hemptied : chip.Emptied s) : chip'.Emptied s where
  txWrite := h.txWrite.trans hemptied.txWrite
  rxRead := h.rxRead.trans hemptied.rxRead
  pointers {r} hr := by
    have hw : ∀ r ∈ [SocketRegister.txRead, .txWrite, .rxSize, .rxRead, .rxWrite], r.width = 2 := by
      decide
    exact (h.words (hw r hr)).trans (hemptied.pointers hr)
  free := (h.words rfl).trans hemptied.free

/-- What happens behind something that leaves the pointers alone counts as happening at once. -/
theorem before (h : chip.SameWords chip' s) (h' : chip'.PointerEffect s frame chip'') :
    chip.PointerEffect s frame chip'' := by
  cases h' with
  | kept htx hrx hwords =>
    exact .kept (htx.trans h.txWrite) (hrx.trans h.rxRead) fun r hw ha =>
      (hwords r hw ha).trans (h.words hw)
  | emptied hopens hemptied => exact .emptied hopens hemptied
  | sent htx hrx hwords =>
    refine .sent (htx.trans (h.words rfl)) (hrx.trans h.rxRead) fun r hw => ?_
    rw [hwords r hw, h.words rfl, h.words hw]
  | received htx hrx hwords =>
    refine .received (htx.trans h.txWrite) (hrx.trans (h.words rfl)) fun r hw => ?_
    rw [hwords r hw, h.words rfl, h.words rfl, h.words hw]

theorem after (h : chip.PointerEffect s frame chip') (h' : chip'.SameWords chip'' s) :
    chip.PointerEffect s frame chip'' := by
  cases h with
  | kept htx hrx hwords =>
    exact .kept (h'.txWrite.trans htx) (h'.rxRead.trans hrx) fun r hw ha =>
      (h'.words hw).trans (hwords r hw ha)
  | emptied hopens hemptied => exact .emptied hopens (h'.emptied hemptied)
  | sent htx hrx hwords =>
    exact .sent (h'.txWrite.trans htx) (h'.rxRead.trans hrx) fun r hw =>
      (h'.words hw).trans (hwords r hw)
  | received htx hrx hwords =>
    exact .received (h'.txWrite.trans htx) (h'.rxRead.trans hrx) fun r hw =>
      (h'.words hw).trans (hwords r hw)

end SameWords

theorem sameWords_of_memory (hmemory : chip'.memory = chip.memory)
    (hlatches : chip'.latches = chip.latches) : chip.SameWords chip' s where
  txWrite := by rw [hlatches]
  rxRead := by rw [hlatches]
  words _ := by rw [wordOf, hmemory, wordOf]

theorem SameInlet.sameWords (h : chip.SameInlet chip' s)
    (htx : chip'.latches[s].txWrite = chip.latches[s].txWrite) : chip.SameWords chip' s :=
  ⟨htx, h.released, h.words⟩

variable (chip s t)

theorem sameWords_setByteOf {r : SocketRegister} (value : UInt8) (hr : r.width = 1) :
    chip.SameWords (chip.setByteOf r t value) s where
  txWrite := rfl
  rxRead := rfl
  words {r'} hw := by
    refine chip.wordOf_setByteOf t s value hw ?_
    rintro rfl
    rw [hr] at hw
    cases hw

theorem sameWords_raiseSocket (bits : UInt8) : chip.SameWords (chip.raiseSocket t bits) s :=
  (chip.sameInlet_raiseSocket s t bits).sameWords (by rw [latches_raiseSocket])

/-- What is kept of a command says nothing about pointers. -/
theorem sameWords_busy (busy : Nat) :
    chip.SameWords (chip.mapLatch t fun latch => { latch with busy }) s := by
  by_cases hst : t = s
  · subst hst
    exact ⟨by rw [latches_mapLatch_self], by rw [latches_mapLatch_self], fun _ => rfl⟩
  · exact ⟨by rw [latches_mapLatch_of_ne _ _ hst], by rw [latches_mapLatch_of_ne _ _ hst],
      fun _ => rfl⟩

variable {s t}

/-- The pointers of another socket are others. -/
theorem sameWords_setWordOf (hst : t ≠ s) {r : SocketRegister} (hr : r.width = 2)
    (value : UInt16) : chip.SameWords (chip.setWordOf r t value) s where
  txWrite := rfl
  rxRead := rfl
  words hw := by rw [wordOf_setWordOf _ _ _ _ hr hw, if_neg fun h => hst h.2]

theorem sameWords_mapLatch (hst : t ≠ s) (f : SocketLatch → SocketLatch) :
    chip.SameWords (chip.mapLatch t f) s :=
  ⟨by rw [latches_mapLatch_of_ne _ _ hst], by rw [latches_mapLatch_of_ne _ _ hst], fun _ => rfl⟩

/-! ## Commands -/

/-- A transmission changes pointers by releasing the staged bytes, and in no other way. -/
theorem sameWords_transmit (s t : SocketId) :
    (chip.releaseTx t).SameWords (chip.transmit t) s := by
  simp only [transmit]
  split
  · have hraised := (chip.releaseTx t).sameWords_raiseSocket s t SocketFlag.timeout
    unfold failTransmit
    dsimp only
    split
    · exact hraised.trans (sameWords_setByteOf _ s t _ rfl)
    · exact hraised
  · refine ((chip.releaseTx t).sameWords_raiseSocket s t SocketFlag.sendOk).trans ?_
    refine sameWords_of_memory ?_ ?_
    · show Chip.memory (answer _ _) = _
      unfold answer
      split <;> rfl
    · exact latches_answer _ _

theorem pointerEffect_transmit (s t : SocketId) :
    chip.PointerEffect s frame (chip.transmit t) := by
  refine SameWords.after ?_ (chip.sameWords_transmit s t)
  by_cases hst : t = s
  · subst hst
    refine .sent ?_ ?_ fun r hw => chip.wordOf_releaseTx t hw
    · simp only [releaseTx, latches_setWordOf, latches_mapLatch_self]
    · simp only [releaseTx, latches_setWordOf, latches_mapLatch_self]
  · exact ((chip.sameWords_setWordOf hst rfl _).trans ((sameWords_mapLatch _ hst _).trans
      (sameWords_setWordOf _ hst rfl _))).kept

theorem pointerEffect_receive (s t : SocketId) :
    chip.PointerEffect s frame (chip.run t .receive) := by
  by_cases hst : t = s
  · subst hst
    refine .received ?_ ?_ fun r hw => ?_
    · simp only [run, updateRxSize, latches_setWordOf, latches_mapLatch_self]
    · simp only [run, updateRxSize, latches_setWordOf, latches_mapLatch_self]
    · simp only [run, updateRxSize, latches_mapLatch_self]
      rw [wordOf_setWordOf _ _ _ _ rfl hw, wordOf_mapLatch, wordOf_mapLatch]
      simp only [and_true, eq_comm]
  · exact ((chip.sameWords_mapLatch hst _).trans (sameWords_setWordOf _ hst rfl _)).kept

/-- A socket whose pointers have all been set to zero has empty rings. -/
theorem emptied_setPointers (s : SocketId) : (chip.setPointers s 0 0).Emptied s := by
  have hwords (r : SocketRegister) (hw : r.width = 2) :=
    (chip.wordOf_setPointers s s 0 0 hw).trans (if_pos rfl)
  refine ⟨?_, ?_, fun {r} hr => ?_, hwords _ rfl⟩
  · simp only [setPointers, latches_setWordOf, latches_mapLatch_self]
  · simp only [setPointers, latches_setWordOf, latches_mapLatch_self]
  · simp only [List.mem_cons, List.not_mem_nil, or_false] at hr
    rcases hr with rfl | rfl | rfl | rfl | rfl <;> exact hwords _ rfl

theorem pointerEffect_open (s t : SocketId) (hopens : t = s → frame.Opens s) :
    chip.PointerEffect s frame (chip.run t .open) := by
  have hstatus := chip.sameWords_setByteOf s t (openedStatus (chip.byteOf .mode t)).raw
    (r := .status) rfl
  refine hstatus.before ?_
  by_cases hst : t = s
  · subst hst
    exact .emptied (hopens rfl) (emptied_setPointers _ t)
  · refine SameWords.kept ⟨?_, ?_, fun hw => ?_⟩
    · simp only [run, setPointers, latches_setWordOf]
      rw [latches_mapLatch_of_ne _ _ hst]
      rfl
    · simp only [run, setPointers, latches_setWordOf]
      rw [latches_mapLatch_of_ne _ _ hst]
      rfl
    · exact (wordOf_setPointers _ t s 0 0 hw).trans (if_neg hst)

/-- Giving a command to a socket. -/
theorem pointerEffect_command (s t : SocketId) {code : UInt8}
    (hopens : t = s → code = SocketCommand.open.code → frame.Opens s) :
    chip.PointerEffect s frame (chip.command t code) := by
  have hgiven := (chip.sameWords_setByteOf s t code (r := .command) rfl).trans
    (sameWords_busy _ s t chip.commandLatency.toNat)
  unfold command
  dsimp only
  refine hgiven.before ?_
  cases hcode : SocketCommand.ofCode? code with
  | none => exact (sameWords_of_memory rfl rfl).kept
  | some command =>
    have hcode : code = command.code := by
      have hfound : (command.code == code) = true :=
        List.find?_some (p := fun c : SocketCommand => c.code == code) hcode
      exact (eq_of_beq hfound).symm
    cases command with
    | «open» => exact pointerEffect_open _ s t fun hst => hopens hst hcode
    | listen => exact (sameWords_setByteOf _ s t _ rfl).kept
    | connect | disconnect =>
      exact ((sameWords_setByteOf _ s t _ rfl).trans (sameWords_raiseSocket _ s t _)).kept
    | close =>
      exact ((sameWords_setByteOf _ s t _ rfl).trans (sameWords_setByteOf _ s t _ rfl)).kept
    | send | sendMac | sendKeep => exact pointerEffect_transmit _ s t
    | receive => exact pointerEffect_receive _ s t

/-! ## Frames -/

theorem emptied_powerOn (s : SocketId) : chip.powerOn.Emptied s := by
  have hlatch : chip.powerOn.latches[s] = {} := Vector.getElem_replicate s.isLt
  refine ⟨by rw [hlatch], by rw [hlatch], fun {r} hr => ?_, ?_⟩
  · simp only [List.mem_cons, List.not_mem_nil, or_false] at hr
    rcases hr with rfl | rfl | rfl | rfl | rfl <;>
      rw [wordOf_powerOn _ _ rfl, if_neg (by decide)]
  · rw [wordOf_powerOn _ _ rfl, if_pos rfl]

theorem pointerEffect_reset (s : SocketId) (hopens : frame.Opens s) :
    chip.PointerEffect s frame { chip.powerOn with resetBusy := 3 } := by
  have hsame : chip.powerOn.SameWords { chip.powerOn with resetBusy := 3 } s :=
    sameWords_of_memory rfl rfl
  exact .emptied hopens (hsame.emptied (chip.emptied_powerOn s))

theorem pointerEffect_poke (s : SocketId) (address : UInt16) (value : UInt8) :
    chip.PointerEffect s (Frame.write address value) (chip.poke address value) :=
  .kept rfl rfl fun r _ havoids => chip.wordOf_poke_of_outside r s value (havoids rfl)

variable {chip}

/-- Every frame does one of the listed things to the pointers of a socket. -/
theorem pointerEffect_serve (h : chip.absent = none) (frame : Frame) (s : SocketId) :
    chip.PointerEffect s frame (chip.serve frame).2 := by
  obtain ⟨direction, address, data⟩ := frame
  cases direction with
  | read =>
    have hquiet : Frame.IsQuiet ⟨.read, address, data⟩ := Frame.isQuiet_of_read rfl
    obtain ⟨busy, -, hlatch⟩ := latches_serve_of_isQuiet h hquiet s
    exact .kept (by rw [hlatch]) (by rw [hlatch]) fun r hw _ =>
      wordOf_serve_of_isQuiet h hquiet hw s
  | write =>
    show chip.PointerEffect s _ (chip.write address data)
    have heffect := writeEffect h address data
    generalize chip.write address data = after at *
    cases heffect with
    | reset ha => exact chip.pointerEffect_reset s ⟨rfl, .inl ha⟩
    | clearGlobal ha =>
      refine .kept rfl rfl fun r _ _ => ?_
      have hmem := r.address_mem s
      have hcommon : CommonRegister.interrupt.address.toNat = 0x15 := rfl
      exact chip.wordOf_poke_of_outside r s _ (.inl (by rw [ha]; omega))
    | clearSocket t ha => exact (chip.sameWords_setByteOf s t _ rfl).kept
    | command t ha =>
      refine chip.pointerEffect_command s t fun hst hcode => ⟨rfl, .inr ⟨?_, hcode⟩⟩
      exact hst ▸ ha
    | memory => exact chip.pointerEffect_poke s address data

end Chip

end SpiEthernet
