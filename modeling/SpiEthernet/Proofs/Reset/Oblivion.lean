import SpiEthernet.Controller.Setup
import SpiEthernet.Proofs.Rings.Pointers
import SpiEthernet.Proofs.Send.Range

/-!
# A reset forgets the past

While nothing is scheduled for a chip and nobody else uses its link, what a reset leaves does not
depend on what was there before: neither on the memory, nor on what the chip keeps for its sockets,
nor on what the driver remembers. So whatever is done afterwards cannot tell one past from another.

* `Wiped` : a chip for which nothing is scheduled, of which everything that a reset is to clear is
  known.
* `init_wipes` : a reset succeeds and leaves one chip, and one controller, whatever they were.
* `init_forgets` : two devices are the same after a reset.
-/

namespace SpiEthernet

/-! ## Common registers -/

namespace Chip

variable {chip : Chip} {address : UInt16}

/-- The mode register shows the reset bit for some more reads. -/
theorem read_mode_resetting (h : chip.absent = none) (hbusy : 0 < chip.resetBusy) :
    chip.read CommonRegister.mode.address =
      (chip.memory.read CommonRegister.mode.address.toNat ||| ModeFlag.reset,
        { chip with resetBusy := chip.resetBusy - 1 }) := by
  rw [read_eq_readPresent h, readPresent, if_pos ⟨rfl, hbusy⟩]

theorem read_mode (h : chip.absent = none) (hbusy : chip.resetBusy = 0) :
    chip.read CommonRegister.mode.address =
      (chip.memory.read CommonRegister.mode.address.toNat, chip) := by
  have hdone : ¬(CommonRegister.mode.address = CommonRegister.mode.address ∧
      0 < chip.resetBusy) := by
    rw [hbusy]
    exact fun h => Nat.lt_irrefl 0 h.2
  rw [read_eq_readPresent h, readPresent, if_neg hdone, if_neg (by decide)]
  rfl

/-- A common register that is plain memory reads as what it holds. -/
theorem read_common (h : chip.absent = none) (ha : address.toNat < 0x0400)
    (hm : address ≠ CommonRegister.mode.address) (hi : address ≠ CommonRegister.interrupt.address) :
    chip.read address = (chip.memory.read address.toNat, chip) :=
  read_of_locate_none h (dif_neg (by omega)) hm hi

theorem write_common (h : chip.absent = none) (ha : address.toNat < 0x0400)
    (hm : address ≠ CommonRegister.mode.address) (hi : address ≠ CommonRegister.interrupt.address)
    (value : UInt8) : chip.write address value = chip.poke address value := by
  have hlocate : locate address = none := dif_neg (by omega)
  rw [write, h]
  show chip.writePresent address value = _
  rw [writePresent, if_neg hm, if_neg hi, hlocate]

theorem write_reset (h : chip.absent = none) :
    chip.write CommonRegister.mode.address ModeFlag.reset =
      { chip.powerOn with resetBusy := 3 } := by
  rw [write, h]
  show chip.writePresent _ _ = _
  rw [writePresent, if_pos rfl, if_pos (by decide)]

/-! ## Chips that have been reset -/

/-- The memory of a chip after a successful reset. -/
def readyMemory : Memory :=
  ((resetMemory.write CommonRegister.txMemorySize.address.toNat equalShares).write
    CommonRegister.rxMemorySize.address.toNat equalShares).write
    CommonRegister.interruptMask.address.toNat enabledInterrupts

/-- A chip for which nothing is scheduled, with the memory given, and with nothing kept for its
sockets. It shows the reset bit for some more reads. -/
structure Wiped (memory : Memory) (busy : Nat) (chip : Chip) : Prop where
  still : chip.Still
  memory : chip.memory = memory
  latches : chip.latches = Vector.replicate 4 {}
  resetBusy : chip.resetBusy = busy

theorem Still.reset (h : chip.Still) :
    (chip.write CommonRegister.mode.address ModeFlag.reset).Wiped resetMemory 3 := by
  rw [write_reset h.present, powerOn]
  exact ⟨⟨h.present, h.queue⟩, rfl, rfl, rfl⟩

namespace Wiped

variable {memory : Memory} {busy : Nat}

theorem afterFrame (h : chip.Wiped memory busy) : chip.afterFrame.Wiped memory busy := by
  have hnone : chip.dueEvents = [] := by
    rw [Chip.dueEvents, h.still.queue]
    rfl
  have hafter : chip.afterFrame = chip.beforeEvents := by
    rw [Chip.afterFrame, hnone]
    rfl
  have hqueue : chip.beforeEvents.queue = [] := by
    show chip.queue.filter _ = []
    rw [h.still.queue]
    rfl
  rw [hafter]
  exact ⟨⟨h.still.present, hqueue⟩, h.memory, h.latches, h.resetBusy⟩

theorem noticed (h : chip.Wiped memory busy) :
    ({ chip with edge := false } : Chip).Wiped memory busy :=
  ⟨⟨h.still.present, h.still.queue⟩, h.memory, h.latches, h.resetBusy⟩

/-- Every look at the mode register brings the end of the reset nearer. -/
theorem readMode_resetting (h : chip.Wiped memory (busy + 1)) :
    (chip.read CommonRegister.mode.address).1 =
        memory.read CommonRegister.mode.address.toNat ||| ModeFlag.reset ∧
      (chip.read CommonRegister.mode.address).2.Wiped memory busy := by
  have hbusy : 0 < chip.resetBusy := by
    rw [h.resetBusy]
    exact Nat.succ_pos busy
  rw [read_mode_resetting h.still.present hbusy]
  refine ⟨by rw [h.memory], ⟨h.still.present, h.still.queue⟩, h.memory, h.latches, ?_⟩
  show chip.resetBusy - 1 = busy
  rw [h.resetBusy, Nat.add_sub_cancel]

theorem readMode (h : chip.Wiped memory 0) :
    (chip.read CommonRegister.mode.address).1 = memory.read CommonRegister.mode.address.toNat ∧
      (chip.read CommonRegister.mode.address).2.Wiped memory 0 := by
  rw [read_mode h.still.present h.resetBusy]
  exact ⟨by rw [h.memory], h⟩

theorem readCommon (h : chip.Wiped memory busy) (ha : address.toNat < 0x0400)
    (hm : address ≠ CommonRegister.mode.address)
    (hi : address ≠ CommonRegister.interrupt.address) :
    (chip.read address).1 = memory.read address.toNat ∧
      (chip.read address).2.Wiped memory busy := by
  rw [read_common h.still.present ha hm hi]
  exact ⟨by rw [h.memory], h⟩

theorem writeCommon (h : chip.Wiped memory busy) (ha : address.toNat < 0x0400)
    (hm : address ≠ CommonRegister.mode.address) (hi : address ≠ CommonRegister.interrupt.address)
    (value : UInt8) : (chip.write address value).Wiped (memory.write address.toNat value) busy := by
  rw [write_common h.still.present ha hm hi]
  refine ⟨⟨h.still.present, h.still.queue⟩, ?_, h.latches, h.resetBusy⟩
  rw [← h.memory]
  rfl

end Wiped

end Chip

/-! ## Devices that are reset -/

section Device

variable {σ : Type} [Host σ] [Wired σ]

namespace Habit

/-- A device whose chip has been reset. -/
structure Wiped (H : Habit σ) (memory : Memory) (busy : Nat) (device : Device σ) : Prop where
  ok : H.ok device.board
  chip : device.chip.Wiped memory busy

variable {H : Habit σ} {device device' : Device σ} {memory : Memory} {busy : Nat}
  {address : UInt16}

section Calm

variable (hH : H.Calm)

include hH

/-- What a frame has left of a chip is not changed by what follows it. -/
theorem Exchanged.wiped {frame : Frame} {value : UInt8} {o : List Occurrence}
    (h : H.Exchanged device.board frame value o device'.board)
    (hserved : (device.chip.serve frame).2.Wiped memory busy) : H.Wiped memory busy device' := by
  obtain ⟨o', -, hwalk⟩ := h.walk
  refine ⟨h.ok, hwalk.chip_kept (J := Chip.Wiped memory busy) ?_ (fun _ hJ => hJ.noticed)
    hserved.afterFrame⟩
  exact fun _ frame _ hbetween => absurd hbetween (hH.between frame)

theorem readByte_wiped (h : H.Wiped memory busy device) {value : UInt8} {busy' : Nat}
    (hread : (device.chip.read address).1 = value ∧
      (device.chip.read address).2.Wiped memory busy') :
    Ends (onLink (readByte address)) device fun value' device' => value' = value ∧
      H.Wiped memory busy' device' ∧ device'.controller = device.controller := by
  refine (Ends.onLink (H.readByte_ends h.ok address)).mono ?_
  rintro _ device' ⟨⟨o, hexchanged⟩, hcontroller⟩
  exact ⟨hexchanged.reply.trans hread.1, hexchanged.wiped hH hread.2, hcontroller⟩

theorem writeByte_wiped (hok : H.ok device.board) {value : UInt8}
    (hwritten : (device.chip.write address value).Wiped memory busy) :
    Ends (onLink (writeByte address value)) device fun _ device' =>
      H.Wiped memory busy device' ∧ device'.controller = device.controller := by
  refine (Ends.onLink (H.writeByte_ends_of hok (hH.turn hok _))).mono ?_
  rintro _ device' ⟨⟨o, reply, hexchanged⟩, hcontroller⟩
  exact ⟨hexchanged.wiped hH hwritten, hcontroller⟩

theorem writeCommon_wiped (h : H.Wiped memory busy device) (ha : address.toNat < 0x0400)
    (hm : address ≠ CommonRegister.mode.address) (hi : address ≠ CommonRegister.interrupt.address)
    (value : UInt8) :
    Ends (onLink (writeByte address value)) device fun _ device' =>
      H.Wiped (memory.write address.toNat value) busy device' ∧
        device'.controller = device.controller :=
  writeByte_wiped hH h.ok (h.chip.writeCommon ha hm hi value)

/-- The reset bit goes away in time. -/
theorem resetFinished_wiped (hmode : hasBits (memory.read CommonRegister.mode.address.toNat)
      ModeFlag.reset = false) (polls : Nat) :
    ∀ {busy : Nat} {device : Device σ}, busy < polls → H.Wiped memory busy device →
      Ends (resetFinished polls) device fun finished device' => finished = true ∧
        H.Wiped memory 0 device' ∧ device'.controller = device.controller := by
  induction polls with
  | zero => exact fun hlt => absurd hlt (Nat.not_lt_zero _)
  | succ polls ih =>
    intro busy device hlt h
    cases busy with
    | zero =>
      refine Ends.bind (readByte_wiped hH h h.chip.readMode) ?_
      rintro _ d1 ⟨rfl, h1, hcontroller⟩
      rw [hmode, if_neg Bool.false_ne_true]
      exact Ends.pure ⟨rfl, h1, hcontroller⟩
    | succ busy =>
      refine Ends.bind (readByte_wiped hH h h.chip.readMode_resetting) ?_
      rintro _ d1 ⟨rfl, h1, hcontroller⟩
      have hset : hasBits (memory.read CommonRegister.mode.address.toNat ||| ModeFlag.reset)
          ModeFlag.reset = true := by
        have hself : hasBits ModeFlag.reset ModeFlag.reset = true := by decide
        exact hasBits_or_left hself _
      rw [hset, if_pos rfl]
      refine (ih (Nat.lt_of_succ_lt_succ hlt) h1).mono ?_
      rintro finished d2 ⟨hfinished, h2, hcontroller'⟩
      exact ⟨hfinished, h2, hcontroller'.trans hcontroller⟩

theorem probe_wiped (h : H.Wiped memory busy device)
    (hshares : memory.read CommonRegister.txMemorySize.address.toNat = equalShares) :
    Ends probe device fun answers device' => answers = true ∧ H.Wiped memory busy device' := by
  refine Ends.bind (readByte_wiped hH h
    (h.chip.readCommon (by decide) (by decide) (by decide))) ?_
  rintro _ d1 ⟨rfl, h1, -⟩
  rw [hshares]
  exact Ends.pure ⟨rfl, h1⟩

/-- A reset finds the chip answering, and forgets everything. -/
theorem init_wipes (hok : H.ok device.board) (hstill : device.chip.Still) :
    Ends init.run device fun r device' => r = .ok () ∧ H.Wiped Chip.readyMemory 0 device' ∧
      device'.controller = Controller.new := by
  have hmode : hasBits (Chip.resetMemory.read CommonRegister.mode.address.toNat)
      ModeFlag.reset = false := by
    rw [Chip.read_resetMemory (.inl (by decide)) fun t => ?_]
    · decide
    · have hmem := SocketRegister.txFree.address_mem t
      have hzero : CommonRegister.mode.address.toNat = 0 := rfl
      omega
  unfold init
  refine Ends.sure_bind (writeByte_wiped hH hok hstill.reset) ?_
  rintro _ d1 ⟨h1, -⟩
  refine Ends.sure_bind (resetFinished_wiped hH hmode resetPollLimit (by decide) h1) ?_
  rintro _ d2 ⟨rfl, h2, -⟩
  rw [if_neg (by decide)]
  refine Ends.sure_bind
    (writeCommon_wiped hH h2 (by decide) (by decide) (by decide) equalShares) ?_
  rintro _ d3 ⟨h3, -⟩
  refine Ends.sure_bind
    (writeCommon_wiped hH h3 (by decide) (by decide) (by decide) equalShares) ?_
  rintro _ d4 ⟨h4, -⟩
  refine Ends.sure_bind (probe_wiped hH h4 ?_) ?_
  · rw [Memory.read_write_of_ne _ _ (by decide), Memory.read_write_self _ _ (by decide)]
  rintro _ d5 ⟨rfl, h5⟩
  rw [if_neg (by decide)]
  refine Ends.sure_bind
    (writeCommon_wiped hH h5 (by decide) (by decide) (by decide) enabledInterrupts) ?_
  rintro _ d6 ⟨h6, -⟩
  refine Ends.sure_bind (R := fun _ d => d = ⟨d6.board, Controller.new⟩)
    (Ends.changeController rfl) ?_
  rintro _ _ rfl
  have hready : H.ok (⟨d6.board, Controller.new⟩ : Device σ).board := h6.ok
  refine Ends.sure ((Ends.onLink (H.record .ready hready)).mono ?_)
  rintro _ d7 ⟨⟨hok7, hsame, -⟩, hcontroller⟩
  refine ⟨rfl, ⟨hok7, ?_⟩, hcontroller⟩
  rw [Device.chip, hsame]
  exact h6.chip

end Calm

end Habit

end Device

/-! ## Two pasts -/

/-- Two devices have the same memory, keep the same for every socket, and remember the same. -/
structure Device.SameState (device other : Device Board) : Prop where
  memory : device.chip.memory = other.chip.memory
  latches : device.chip.latches = other.chip.latches
  resetBusy : device.chip.resetBusy = other.chip.resetBusy
  controller : device.controller = other.controller

/-- A device as it is when nothing has been done since a reset: every socket is closed and its rings
are empty, nothing is kept for it, and the driver is as a new one. -/
structure Device.Fresh (device : Device Board) : Prop where
  closed (s : SocketId) : device.chip.byteOf .status s = SocketStatus.closed.raw
  registers (s : SocketId) {r : SocketRegister} (hw : r.width = 1) : device.chip.byteOf r s = 0
  empty (s : SocketId) : device.chip.Emptied s
  latches (s : SocketId) : device.chip.latches[s] = {}
  enabled : device.chip.memory.read CommonRegister.interruptMask.address.toNat =
    InterruptFlag.sockets ||| InterruptFlag.conflict ||| InterruptFlag.unreachable
  controller : device.controller = Controller.new

/-- The registers of the sockets are as the reset has left them. -/
theorem Chip.read_readyMemory {address : Nat} (h : 0x0400 ≤ address) :
    readyMemory.read address = resetMemory.read address := by
  have hmask : CommonRegister.interruptMask.address.toNat = 0x16 := rfl
  have htx : CommonRegister.txMemorySize.address.toNat = 0x1B := rfl
  have hrx : CommonRegister.rxMemorySize.address.toNat = 0x1A := rfl
  rw [readyMemory, Memory.read_write_of_ne _ _ (by omega), Memory.read_write_of_ne _ _ (by omega),
    Memory.read_write_of_ne _ _ (by omega)]

theorem Chip.Wiped.fresh {device : Device Board} (h : device.chip.Wiped readyMemory 0)
    (hcontroller : device.controller = Controller.new) : device.Fresh := by
  have hbyte (s : SocketId) {r : SocketRegister} (hw : r.width = 1) :
      device.chip.byteOf r s = 0 := by
    have hmem := r.address_mem s
    rw [Chip.byteOf, h.memory, read_readyMemory (by omega)]
    exact byteOf_new none s hw
  have hlatch (s : SocketId) : device.chip.latches[s] = {} := by
    rw [h.latches]
    exact Vector.getElem_replicate s.isLt
  refine ⟨fun s => hbyte s rfl, hbyte, fun s => ?_, hlatch, ?_, hcontroller⟩
  · have hsame : (Chip.new none).powerOn.SameWords device.chip s := by
      have hreset : (Chip.new none).powerOn.latches[s] = {} := Vector.getElem_replicate s.isLt
      refine ⟨by rw [hlatch, hreset], by rw [hlatch, hreset], fun {r} hw => ?_⟩
      have hmem := r.address_mem s
      refine wordOf_eq_of_places ?_ ?_
      · rw [h.memory, read_readyMemory (by omega)]
        rfl
      · rw [h.memory, read_readyMemory (by omega)]
        rfl
    exact hsame.emptied (emptied_powerOn _ s)
  · rw [h.memory, readyMemory, Memory.read_write_self _ _ (by decide)]
    rfl

/-- A reset of a chip that nobody else looks at, and for which nothing is scheduled, succeeds. What
it leaves of the chip and of the driver is as new, and the same whatever they were before. -/
theorem init_forgets {device other : Device Board} (hundisturbed : device.board.Undisturbed)
    (hstill : device.chip.Still) (hundisturbed' : other.board.Undisturbed)
    (hstill' : other.chip.Still) (logging : Logging) :
    ∃ now now' new : Device Board, init.run device = .ok (.ok (), now) ∧
      init.run other = .ok (.ok (), now') ∧
      init.run ⟨Board.new none logging, Controller.new⟩ = .ok (.ok (), new) ∧
      now.SameState now' ∧ now.SameState new ∧ now.Fresh := by
  have hinit {start : Device Board} (h : start.board.Undisturbed) (h' : start.chip.Still) :
      ∃ now, init.run start = .ok (.ok (), now) ∧ now.chip.Wiped Chip.readyMemory 0 ∧
        now.controller = Controller.new := by
    obtain ⟨_, now, hrun, rfl, hwiped, hcontroller⟩ :=
      Habit.init_wipes Habit.visited_calm ⟨h, h'.visited⟩ h'
    exact ⟨now, hrun, hwiped.chip, hcontroller⟩
  have hsame {now now' : Device Board} (h : now.chip.Wiped Chip.readyMemory 0)
      (hc : now.controller = Controller.new) (h' : now'.chip.Wiped Chip.readyMemory 0)
      (hc' : now'.controller = Controller.new) : now.SameState now' :=
    ⟨h.memory.trans h'.memory.symm, h.latches.trans h'.latches.symm,
      h.resetBusy.trans h'.resetBusy.symm, hc.trans hc'.symm⟩
  have hnew : (Board.new none logging).Undisturbed := fun h => absurd h Bool.false_ne_true
  obtain ⟨now, hrun, h, hc⟩ := hinit hundisturbed hstill
  obtain ⟨now', hrun', h', hc'⟩ := hinit hundisturbed' hstill'
  obtain ⟨new, hrunNew, hn, hcn⟩ :=
    @hinit ⟨Board.new none logging, Controller.new⟩ hnew ⟨rfl, rfl⟩
  exact ⟨now, now', new, hrun, hrun', hrunNew, hsame h hc h' hc', hsame h hc hn hcn, h.fresh hc⟩

/-- A board whose chip has taken bytes for a socket that nobody has read. -/
def Board.unread : Board :=
  (Board.new none ⟨none, .off⟩).withChip ((Chip.new none).happen (.tcp 1 [4, 5, 6]))

theorem Chip.still_unread : ((Chip.new none).happen (.tcp 1 [4, 5, 6])).Still := by
  have hcasing := (Chip.new none).casing_happen (show (Event.tcp 1 [4, 5, 6]).isOrdinary from rfl)
  exact ⟨absent_of_casing hcasing, queue_of_casing hcasing⟩

/-- A chip with staged bytes, behind a driver that has handed out ports, is reset to the same state
as a chip with bytes that have not been read. -/
theorem init_forgets_posting : ∃ now now' : Device Board,
    init.run ⟨Board.posting, { Controller.new with nextPort := 50000 }⟩ = .ok (.ok (), now) ∧
      init.run ⟨Board.unread, Controller.new⟩ = .ok (.ok (), now') ∧
      now.SameState now' ∧ now.Fresh := by
  have hshows := Board.shows_posting
  have hstill := Chip.still_unread
  rw [← Board.chip_withChip (Board.new none ⟨none, .off⟩) (Chip.happen _ _) Controller.new]
    at hstill
  obtain ⟨now, now', -, hrun, hrun', -, hsame, -, hfresh⟩ := @init_forgets
    ⟨Board.posting, { Controller.new with nextPort := 50000 }⟩ ⟨Board.unread, Controller.new⟩
    hshows.undisturbed ⟨hshows.silent.present, hshows.silent.queue⟩
    (fun h => absurd h Bool.false_ne_true) hstill ⟨none, .off⟩
  exact ⟨now, now', hrun, hrun', hsame, hfresh⟩

end SpiEthernet
