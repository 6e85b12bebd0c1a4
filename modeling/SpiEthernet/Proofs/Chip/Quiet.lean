import SpiEthernet.Proofs.Chip.History

/-!
# Frames that only look

Reads, and writes to the interrupt registers, are quiet: they leave every other register, both
rings and all pointers alone. This is what lets a wait come to an end, and what lets an interrupt
handler run in the middle of a transfer.

* `read_register`, `read_register_succ` : most registers read as what they hold.
* `memory_serve_of_isQuiet`, `latches_serve_of_isQuiet` : what a quiet frame leaves alone.
* `Passes.nothing_pending` : on a chip without events to come, quiet frames change nothing.
-/

namespace SpiEthernet

namespace Chip

variable {chip : Chip} {s : SocketId} {r : SocketRegister} {address offset : UInt16}

/-! ## Registers that are plain memory -/

theorem read_of_locate (h : chip.absent = none) (hl : locate address = some (s, offset))
    (hc : offset ≠ SocketRegister.command.offset) (ht : offset ≠ SocketRegister.txWrite.offset)
    (ht' : offset ≠ SocketRegister.txWrite.offset + 1) :
    chip.read address = (chip.memory.read address.toNat, chip) := by
  have hm : ¬(address = CommonRegister.mode.address ∧ 0 < chip.resetBusy) := by
    rintro ⟨rfl, -⟩
    cases hl
  have hi : address ≠ CommonRegister.interrupt.address := by
    rintro rfl
    cases hl
  rw [read_eq_readPresent h, readPresent, if_neg hm, if_neg hi, hl]
  simp only [readSocket, if_neg hc, if_neg ht, if_neg ht']

theorem read_of_locate_none (h : chip.absent = none) (hl : locate address = none)
    (hm : address ≠ CommonRegister.mode.address)
    (hi : address ≠ CommonRegister.interrupt.address) :
    chip.read address = (chip.memory.read address.toNat, chip) := by
  have hm' : ¬(address = CommonRegister.mode.address ∧ 0 < chip.resetBusy) := fun h => hm h.1
  rw [read_eq_readPresent h, readPresent, if_neg hm', if_neg hi, hl]

theorem locate_address_succ (hw : r.width = 2) :
    locate (r.address s + 1) = some (s, r.offset + 1) := by
  revert s
  cases r <;> decide

/-- A register that is plain memory reads as what it holds. -/
theorem read_register (h : chip.absent = none) (hc : r ≠ .command) (ht : r ≠ .txWrite) :
    chip.read (r.address s) = (chip.byteOf r s, chip) := by
  refine read_of_locate h (locate_address r s) ?_ ?_ ?_
  · cases r <;> first | exact absurd rfl hc | decide
  · cases r <;> first | exact absurd rfl ht | decide
  · cases r <;> decide

theorem read_register_succ (h : chip.absent = none) (hw : r.width = 2) (ht : r ≠ .txWrite) :
    chip.read (r.address s + 1) = (lowByte (chip.wordOf r s), chip) := by
  have hlocate : locate (r.address s + 1) = some (s, r.offset + 1) := locate_address_succ hw
  have hread := read_of_locate h hlocate
    (by cases r <;> first | decide | cases hw)
    (by cases r <;> decide)
    (by cases r <;> first | decide | exact absurd rfl ht)
  rw [hread, wordOf, Memory.readWord, lowByte_word, SocketRegister.toNat_address_succ hw]

theorem read_interrupt (h : chip.absent = none) :
    chip.read CommonRegister.interrupt.address = (chip.interrupts, chip) := by
  have hm : ¬(CommonRegister.interrupt.address = CommonRegister.mode.address ∧
      0 < chip.resetBusy) := by
    rintro ⟨he, -⟩
    cases he
  rw [read_eq_readPresent h, readPresent, if_neg hm, if_pos rfl]

theorem read_command (h : chip.absent = none) :
    chip.read (SocketRegister.command.address s) =
      if 0 < chip.latches[s].busy then
        (chip.byteOf .command s,
          chip.mapLatch s fun latch => { latch with busy := chip.latches[s].busy - 1 })
      else (0, chip) := by
  have hm : ¬(SocketRegister.command.address s = CommonRegister.mode.address ∧
      0 < chip.resetBusy) :=
    fun h => SocketRegister.address_ne_of_lt _ _ (by decide) h.1
  have hi : SocketRegister.command.address s ≠ CommonRegister.interrupt.address :=
    SocketRegister.address_ne_of_lt _ _ (by decide)
  rw [read_eq_readPresent h, readPresent, if_neg hm, if_neg hi, locate_address]
  rfl

theorem highByte_wordOf : highByte (chip.wordOf r s) = chip.byteOf r s := by
  rw [wordOf, Memory.readWord, highByte_word]
  rfl

end Chip

/-! ## Quiet frames -/

/-- A frame that reads, or that writes to an interrupt register. -/
def Frame.IsQuiet (frame : Frame) : Prop :=
  frame.direction = .write →
    frame.address = CommonRegister.interrupt.address ∨
      ∃ s, frame.address = SocketRegister.interrupt.address s

/-- Where there are no frames, none of them disturbs anything. -/
theorem Frame.isQuiet_of_false {frame : Frame} (h : False) : frame.IsQuiet := h.elim

theorem Frame.isQuiet_read (address : UInt16) : (Frame.read address).IsQuiet := by
  intro h
  cases h

theorem Frame.isQuiet_of_read {frame : Frame} (h : frame.direction = .read) :
    frame.IsQuiet := by
  intro hw
  rw [h] at hw
  cases hw

theorem Frame.IsQuiet.isLocal {frame : Frame} (h : frame.IsQuiet) : frame.IsLocal := by
  intro hw s command hc
  rcases h hw with hi | ⟨t, ht⟩
  · exact absurd (hc.symm.trans hi) (SocketRegister.address_ne_of_lt _ _ (by decide))
  · cases (SocketRegister.address_inj (hc.symm.trans ht)).1

namespace Chip

variable {chip : Chip} {frame : Frame}

/-- A quiet frame changes no memory but the interrupt registers. -/
theorem memory_serve_of_isQuiet (h : chip.absent = none) (hq : frame.IsQuiet) {address : Nat}
    (hi : address ≠ CommonRegister.interrupt.address.toNat)
    (hs : ∀ s, address ≠ (SocketRegister.interrupt.address s).toNat) :
    (chip.serve frame).2.memory.read address = chip.memory.read address := by
  obtain ⟨direction, target, data⟩ := frame
  cases direction with
  | read =>
    show (chip.read target).2.memory.read address = _
    have heffect := readEffect h target
    generalize (chip.read target).1 = value, (chip.read target).2 = after at heffect
    cases heffect <;> rfl
  | write =>
    show (chip.write target data).memory.read address = _
    rcases hq rfl with ht | ⟨t, ht⟩
    · rw [show target = _ from ht, write_interrupt h]
      exact Memory.read_write_of_ne _ _ hi.symm
    · rw [show target = _ from ht, write_socketInterrupt h]
      exact Memory.read_write_of_ne _ _ (hs t).symm

theorem byteOf_serve_of_isQuiet (h : chip.absent = none) (hq : frame.IsQuiet)
    {r : SocketRegister} (hr : r ≠ .interrupt) (s : SocketId) :
    (chip.serve frame).2.byteOf r s = chip.byteOf r s := by
  refine memory_serve_of_isQuiet h hq ?_ ?_
  · intro he
    exact SocketRegister.address_ne_of_lt r s (by decide) (UInt16.toNat_inj.mp he)
  · intro t he
    exact hr (SocketRegister.address_inj (UInt16.toNat_inj.mp he)).1

theorem wordOf_serve_of_isQuiet (h : chip.absent = none) (hq : frame.IsQuiet)
    {r : SocketRegister} (hw : r.width = 2) (s : SocketId) :
    (chip.serve frame).2.wordOf r s = chip.wordOf r s := by
  have hr : r ≠ .interrupt := by
    rintro rfl
    cases hw
  have hmem := r.address_mem s
  have hlow : (chip.serve frame).2.memory.read ((r.address s).toNat + 1) =
      chip.memory.read ((r.address s).toNat + 1) := by
    refine memory_serve_of_isQuiet h hq ?_ ?_
    · intro he
      have : CommonRegister.interrupt.address.toNat = 0x15 := rfl
      omega
    · intro t he
      have hd := SocketRegister.address_disjoint_of_ne hr s t
      have hone : SocketRegister.interrupt.width = 1 := rfl
      omega
  have hhigh := byteOf_serve_of_isQuiet h hq hr s
  show word _ _ = word _ _
  rw [hlow]
  exact congrArg (word · _) hhigh

/-- A quiet frame changes no pointer, and no command becomes busier by it. -/
theorem latches_serve_of_isQuiet (h : chip.absent = none) (hq : frame.IsQuiet) (s : SocketId) :
    ∃ busy, busy ≤ chip.latches[s].busy ∧
      (chip.serve frame).2.latches[s] = { chip.latches[s] with busy } := by
  obtain ⟨direction, target, data⟩ := frame
  cases direction with
  | read =>
    show ∃ busy, _ ∧ (chip.read target).2.latches[s] = _
    have heffect := readEffect h target
    generalize (chip.read target).1 = value, (chip.read target).2 = after at heffect
    cases heffect with
    | busy t ha hb =>
      by_cases hst : t = s
      · subst hst
        exact ⟨_, Nat.sub_le _ 1, by rw [latches_mapLatch_self]⟩
      · exact ⟨_, Nat.le_refl _, by rw [latches_mapLatch_of_ne _ _ hst]⟩
    | resetting | interrupts | accepted | txWrite | memory => exact ⟨_, Nat.le_refl _, rfl⟩
  | write =>
    show ∃ busy, _ ∧ (chip.write target data).latches[s] = _
    refine ⟨_, Nat.le_refl _, ?_⟩
    rcases hq rfl with ht | ⟨t, ht⟩
    · rw [show target = _ from ht, write_interrupt h]
      rfl
    · rw [show target = _ from ht, write_socketInterrupt h, latches_setByteOf]

end Chip

/-! ## Busy commands -/

namespace Chip

theorem latches_failTransmit (chip : Chip) (s : SocketId) :
    (chip.failTransmit s).latches = chip.latches := by
  simp only [failTransmit]
  split
  · rw [setStatus, latches_setByteOf, latches_raiseSocket]
  · rw [latches_raiseSocket]

theorem latches_answer (chip : Chip) (packet : SentPacket) :
    (chip.answer packet).latches = chip.latches := by
  unfold answer
  split <;> rfl

/-- Transmitting changes what the chip keeps for its sockets only by releasing the staged
bytes. -/
theorem latches_transmit (chip : Chip) (s : SocketId) :
    (chip.transmit s).latches = (chip.releaseTx s).latches := by
  simp only [transmit]
  split
  · rw [latches_failTransmit]
  · rw [latches_answer, latches_raiseSocket]

theorem busy_transmit (chip : Chip) (s : SocketId) :
    (chip.transmit s).latches[s].busy = chip.latches[s].busy := by
  rw [latches_transmit]
  simp only [releaseTx, latches_setWordOf, latches_mapLatch_self]

theorem busy_run (chip : Chip) (s : SocketId) (command : SocketCommand) :
    (chip.run s command).latches[s].busy = chip.latches[s].busy := by
  cases command with
  | «open» =>
    simp only [run, setStatus, setPointers, latches_setWordOf, latches_mapLatch_self,
      latches_setByteOf]
  | listen => rfl
  | close => rfl
  | receive => simp only [run, updateRxSize, latches_setWordOf, latches_mapLatch_self]
  | connect | disconnect => simp only [run, setStatus, latches_raiseSocket, latches_setByteOf]
  | send | sendMac | sendKeep => exact chip.busy_transmit s

/-- A command that has just been given is shown for as many reads as the chip is slow. -/
theorem busy_command (chip : Chip) (s : SocketId) (command : SocketCommand) :
    (chip.command s command.code).latches[s].busy = chip.commandLatency.toNat := by
  simp only [Chip.command, SocketCommand.ofCode?_code]
  rw [busy_run, latches_mapLatch_self]

end Chip

theorem Endpoint.Passes.busy_le {P : Frame → Prop} {start now : Endpoint} {o : List Occurrence}
    (h : Endpoint.Passes P start o now) (hP : ∀ frame, P frame → frame.IsQuiet)
    (hs : start.chip.Steady) (s : SocketId) :
    now.chip.latches[s].busy ≤ start.chip.latches[s].busy := by
  refine h.chip_induction
    (I := fun c _ => c.latches[s].busy ≤ start.chip.latches[s].busy) (A := fun _ => True)
    (fun frame hf => (hP frame hf).isLocal) [] hs (fun _ _ => trivial) (Nat.le_refl _) ?_ ?_ ?_
  · intro chip _ frame hsteady hf hle
    obtain ⟨busy, hbusy, heq⟩ := Chip.latches_serve_of_isQuiet hsteady.present (hP frame hf) s
    show (chip.serve frame).2.latches[s].busy ≤ _
    rw [heq]
    exact Nat.le_trans hbusy hle
  · intro chip _ event hordinary _ hle
    rw [Chip.latches_happen chip hordinary]
    exact hle
  · intro chip _ hle
    exact hle

/-! ## Events to come -/

namespace Chip

/-- No event to come is overdue. -/
def Prompt (chip : Chip) : Prop := ∀ scheduled ∈ chip.queue, chip.transactions < scheduled.due

end Chip

namespace Endpoint

theorem prompt_turn {endpoint : Endpoint} (h : endpoint.chip.Steady) (frame : Frame) :
    (endpoint.turn frame).2.chip.Prompt := by
  intro scheduled hs
  have hserved := h.serve frame
  have hs : scheduled ∈ ((endpoint.chip.serve frame).2.afterFrame).queue := hs
  show ((endpoint.chip.serve frame).2.afterFrame).transactions < scheduled.due
  rw [hserved.queue_afterFrame] at hs
  rw [hserved.transactions_afterFrame]
  have := (List.mem_filter.1 hs).2
  simp only [Bool.not_eq_true', decide_eq_false_iff_not] at this
  omega

namespace Passes

variable {P : Frame → Prop} {start now : Endpoint} {o : List Occurrence}

theorem prompt (h : Passes P start o now) (hs : start.chip.Steady) (hp : start.chip.Prompt) :
    now.chip.Prompt := by
  induction h with
  | refl => exact hp
  | turn h frame _ _ => exact prompt_turn (h.steady hs) frame
  | mask _ _ ih => exact ih
  | notice _ ih => exact ih

variable (hP : ∀ frame, P frame → frame.IsLocal)

include hP

theorem transactions_le (h : Passes P start o now) (hs : start.chip.Steady) :
    start.chip.transactions ≤ now.chip.transactions := by
  induction h with
  | refl => exact Nat.le_refl _
  | @turn occurrences now h frame hf ih =>
    have hsteady := h.steady hs
    have hcasing := Chip.casing_serve hsteady.present (hP frame hf)
    have hafter := (hsteady.serve frame).transactions_afterFrame
    rw [Chip.transactions_of_casing hcasing] at hafter
    show _ ≤ ((now.chip.serve frame).2.afterFrame).transactions
    omega
  | mask _ _ ih => exact ih
  | notice _ ih => exact ih

end Passes

/-- On a chip without events to come, quiet frames change no word of a socket. -/
theorem Passes.nothing_pending {P : Frame → Prop} {start now : Endpoint} {o : List Occurrence}
    (h : Passes P start o now) (hP : ∀ frame, P frame → frame.IsQuiet)
    (hs : start.chip.Steady) (hq : start.chip.queue = []) {r : SocketRegister}
    (hw : r.width = 2) (s : SocketId) :
    now.chip.queue = [] ∧ now.chip.wordOf r s = start.chip.wordOf r s := by
  refine h.chip_induction
    (I := fun c _ => c.queue = [] ∧ c.wordOf r s = start.chip.wordOf r s) (A := fun _ => False)
    (fun frame hf => (hP frame hf).isLocal) [] hs (by simp [hq]) ⟨hq, rfl⟩ ?_ ?_ ?_
  · rintro chip _ frame hsteady hf ⟨hqueue, hword⟩
    have hcasing := Chip.casing_serve hsteady.present (hP frame hf).isLocal
    refine ⟨?_, ?_⟩
    · show (chip.serve frame).2.queue.filter _ = []
      rw [Chip.queue_of_casing hcasing, hqueue]
      rfl
    · rw [← hword, ← Chip.wordOf_serve_of_isQuiet hsteady.present (hP frame hf) hw s]
      rfl
  · intro chip _ event _ hfalse
    exact hfalse.elim
  · intro chip _ hI
    exact hI

end Endpoint

end SpiEthernet
