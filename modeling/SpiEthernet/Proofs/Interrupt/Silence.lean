import SpiEthernet.Proofs.Interrupt.Cover

/-!
# A chip to which nothing happens

A chip is silent if no events are scheduled and no replies are prepared: it changes through the
driver's frames alone, and no frame makes it anything but silent. A handler that at most leaves or
drops a request does not wake it either.

* `Silent.serve`, `Passes.silent` : a silent chip remains silent, and nothing happens to it.
* `Undisturbed.restore_ends` : letting the interrupt through exchanges no frame.
-/

namespace SpiEthernet

namespace Chip

/-- A chip with neither events nor replies to come. -/
structure Silent (chip : Chip) : Prop where
  present : chip.absent = none
  queue : chip.queue = []
  replies : chip.replies = []

variable {chip chip' : Chip} {s : SocketId}

theorem replies_of_casing (h : chip.casing = chip'.casing) : chip.replies = chip'.replies := by
  show chip.casing.replies = chip'.casing.replies
  rw [h]

namespace Silent

theorem steady (h : chip.Silent) : chip.Steady :=
  ⟨h.present, fun scheduled hs => by
    rw [h.queue] at hs
    cases hs⟩

theorem of_casing (h : chip.Silent) (hc : chip'.casing = chip.casing) : chip'.Silent where
  present := (absent_of_casing hc).trans h.present
  queue := (queue_of_casing hc).trans h.queue
  replies := (replies_of_casing hc).trans h.replies

/-! ## Frames -/

theorem dueEvents (h : chip.Silent) : chip.dueEvents = [] := by
  rw [Chip.dueEvents, h.queue]
  rfl

theorem afterFrame_eq (h : chip.Silent) : chip.afterFrame = chip.beforeEvents := by
  rw [Chip.afterFrame, h.dueEvents]
  rfl

theorem frameOccurrences (h : chip.Silent) : chip.frameOccurrences = [] := by
  rw [Chip.frameOccurrences, h.dueEvents]
  rfl

theorem afterFrame (h : chip.Silent) : chip.afterFrame.Silent := by
  rw [h.afterFrame_eq]
  refine ⟨h.present, ?_, h.replies⟩
  show chip.queue.filter _ = []
  rw [h.queue]
  rfl

/-- Nobody answers a packet. -/
theorem casing_transmit (h : chip.Silent) (s : SocketId) :
    (chip.transmit s).casing = chip.casing := by
  have hreplies : ((chip.releaseTx s).raiseSocket s SocketFlag.sendOk).replies = [] := by
    have hcasing : ((chip.releaseTx s).raiseSocket s SocketFlag.sendOk).casing = chip.casing := by
      rw [casing_raiseSocket, casing_releaseTx]
    rw [replies_of_casing hcasing, h.replies]
  simp only [transmit]
  split
  · rw [casing_failTransmit, casing_releaseTx]
  · rw [answer, hreplies]
    show ((chip.releaseTx s).raiseSocket s SocketFlag.sendOk).casing = _
    rw [casing_raiseSocket, casing_releaseTx]

theorem casing_run (h : chip.Silent) (s : SocketId) (command : SocketCommand) :
    (chip.run s command).casing = chip.casing := by
  cases ht : transmits command with
  | false => exact chip.casing_run s ht
  | true =>
    cases command with
    | send | sendMac | sendKeep => exact h.casing_transmit s
    | _ => cases ht

theorem command (h : chip.Silent) (s : SocketId) (code : UInt8) :
    (chip.command s code).Silent := by
  have hgiven : ((chip.setByteOf .command s code).mapLatch s fun latch =>
      { latch with busy := chip.commandLatency.toNat }).Silent :=
    h.of_casing (by rw [casing_mapLatch, casing_setByteOf])
  simp only [Chip.command]
  split
  · exact hgiven.of_casing (hgiven.casing_run s _)
  · exact hgiven

theorem serve (h : chip.Silent) (frame : Frame) : (chip.serve frame).2.Silent := by
  obtain ⟨direction, address, value⟩ := frame
  cases direction with
  | read => exact h.of_casing (casing_read h.present address)
  | write =>
    show (chip.write address value).Silent
    have heffect := writeEffect h.present address value
    generalize chip.write address value = after at *
    cases heffect with
    | reset => exact h.of_casing chip.casing_reset
    | clearGlobal => exact h.of_casing (by rw [clearBits, casing_poke])
    | clearSocket t => exact h.of_casing (by rw [casing_setByteOf])
    | command t => exact h.command t value
    | memory => exact h.of_casing (by rw [casing_poke])

end Silent

end Chip

namespace Endpoint

variable {P : Frame → Prop} {start now : Endpoint} {o : List Occurrence} {s : SocketId}

/-- Nothing happens behind the frames that a silent chip serves. -/
theorem Passes.silent (h : start.Passes P o now) (hs : start.chip.Silent) :
    now.chip.Silent ∧ o = [] := by
  induction h with
  | refl => exact ⟨hs, rfl⟩
  | turn _ frame _ ih =>
    obtain ⟨hsilent, rfl⟩ := ih
    have hserved := hsilent.serve frame
    exact ⟨hserved.afterFrame, hserved.frameOccurrences⟩
  | mask _ _ ih => exact ih
  | notice _ ih => exact ⟨ih.1.of_casing rfl, ih.2⟩

end Endpoint

/-! ## Boards -/

/-- The handler is not connected to the interrupt line, or at most leaves or drops a request when
it is called. -/
def Board.Undisturbed (board : Board) : Prop :=
  board.hooked = true → board.shared.locked = true ∨ board.shared.value = none

/-- A handler that does not drain changes nothing but the request. -/
theorem Board.Undisturbed.handle_eq {board : Board} (h : board.Undisturbed)
    (hhooked : board.hooked = true) :
    ∃ deferred, handle board = .ok ((), { board with deferred }) := by
  cases hlock : board.shared.locked with
  | true => exact ⟨_, handle_locked hlock⟩
  | false =>
    refine ⟨_, handle_none hlock ?_⟩
    exact (h hhooked).resolve_left fun hlocked => by
      rw [hlock] at hlocked
      cases hlocked

/-- Such a board exchanges no frame when it lets the interrupt through. -/
theorem Board.Undisturbed.restore_ends {x : Board} (h : x.Undisturbed) (before : Bool) :
    Ends (SerialLink.restoreInterrupt before) x fun _ x' =>
      x'.Undisturbed ∧ (Wired.endpoint x).Passes (fun _ => False) [] (Wired.endpoint x') := by
  cases before with
  | false => exact ⟨(), x, rfl, h, .refl⟩
  | true =>
    have hsame : x.bench.endpoint.Passes (fun _ => False) [] x.bench.endpoint := .refl
    have hnoticed : x.bench.endpoint.Passes (fun _ => False) [] x.noticed.bench.endpoint :=
      (hsame.mask false).notice
    show Ends Board.unmask x _
    unfold Ends
    rw [Board.unmask_eq]
    split
    · next hcalls =>
      have hhooked : x.hooked = true := (Bool.and_eq_true_iff.1 hcalls).2
      have hundisturbed : x.alerted.Undisturbed := h
      obtain ⟨deferred, hhandle⟩ := hundisturbed.handle_eq hhooked
      exact ⟨(), _, hhandle, h, hnoticed⟩
    · exact ⟨(), _, rfl, h, hnoticed⟩

/-- A board with a silent chip and a handler that does not drain. -/
def Habit.alone : Habit Board where
  ok board := board.Undisturbed ∧ board.chip.Silent
  between _ := False
  called _ := True
  steady h := h.2.steady
  isQuiet h := Frame.isQuiet_of_false h
  called_rewire _ _ := Iff.rfl
  turn {_ frame} h _ := ⟨h.1, (h.2.serve frame).afterFrame⟩
  held h := h
  restore before h := (h.1.restore_ends before).mono fun _ _ h' =>
    ⟨⟨h'.1, (h'.2.silent h.2).1⟩, ⟨[], h'.2⟩, fun _ => .inr trivial⟩
  record _ h := ⟨(), _, rfl, h, rfl, id⟩

/-- Unlike other boards, one with a silent chip bears any frame. -/
theorem Habit.alone_turn {board : Board} (h : Habit.alone.ok board) (frame : Frame) :
    Habit.alone.ok (Wired.rewire ((Wired.endpoint board).held.turn frame).2 board) :=
  ⟨h.1, (h.2.serve frame).afterFrame⟩

end SpiEthernet
