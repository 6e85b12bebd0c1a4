import SpiEthernet.Proofs.Interrupt.Visits
import SpiEthernet.Proofs.Likeness.Chips
import SpiEthernet.Proofs.Likeness.Runs
import SpiEthernet.Proofs.Operation.Tending

/-!
# Devices on which flags lie elsewhere

Two devices are alike if their chips are, if their drivers remember the same ports, and if for every
socket the flags in the chip and those with the driver make up the same flags together. Moving
flags from a chip to its driver leads to a device that is alike; so a drain does, and so does
everything else that only looks.

On chips to which nothing happens by itself, what the driver does next makes the same difference to
devices that are alike. Here this is shown of frames and commands; what is put together from these
is gone through elsewhere.

* `drain_alike` : a drain leads to a device that is alike, with no flags left in its chip.
* `Paired.clocked`, `Paired.issued`, `Paired.closed` : frames and commands, on both devices.
* `Aligned` : devices whose flags lie at the same places, as a drain leaves them.
-/

namespace SpiEthernet

/-! ## Devices -/

section Devices

variable {σ : Type} [Host σ] [Wired σ]

namespace Device

/-- The interrupt flags of a socket, those in the chip and those with the driver. -/
def flags (device : Device σ) (s : SocketId) : UInt8 :=
  device.controller.sticky.socket s ||| device.chip.flagsOf (.socket s)

/-- Nothing tells two devices apart but where the flags of sockets lie, what the driver remembers
about the chip as a whole, and how long commands show. -/
structure Alike (device device' : Device σ) : Prop where
  chip : device.chip.Alike device'.chip
  flags (s : SocketId) : device'.flags s = device.flags s
  localPorts : device'.controller.localPorts = device.controller.localPorts
  nextPort : device'.controller.nextPort = device.controller.nextPort

variable {device device' device'' : Device σ}

namespace Alike

theorem refl : device.Alike device := ⟨.refl, fun _ => rfl, rfl, rfl⟩

theorem symm (h : device.Alike device') : device'.Alike device :=
  ⟨h.chip.symm, fun s => (h.flags s).symm, h.localPorts.symm, h.nextPort.symm⟩

theorem trans (h : device.Alike device') (h' : device'.Alike device'') : device.Alike device'' :=
  ⟨h.chip.trans h'.chip, fun s => (h'.flags s).trans (h.flags s),
    h'.localPorts.trans h.localPorts, h'.nextPort.trans h.nextPort⟩

end Alike

end Device

end Devices

/-! ## Silent chips -/

/-- Behind a frame a silent chip only counts it. -/
theorem Chip.Silent.keeps_afterFrame {chip : Chip} (h : chip.Silent) :
    chip.afterFrame.memory = chip.memory ∧ chip.afterFrame.latches = chip.latches ∧
      chip.afterFrame.sent = chip.sent := by
  rw [h.afterFrame_eq]
  exact ⟨rfl, rfl, rfl⟩

theorem Chip.Silent.alike_afterFrame {chip : Chip} (h : chip.Silent) :
    chip.Alike chip.afterFrame :=
  .of_memory h.keeps_afterFrame.1 h.keeps_afterFrame.2.1 h.keeps_afterFrame.2.2

namespace Endpoint

variable {start now endpoint endpoint' : Endpoint} {frames : List Frame} {o : List Occurrence}

/-- Quiet frames lead from a silent chip to one that is alike. -/
theorem Passes.alike (h : start.Passes Frame.IsQuiet o now) (hs : start.chip.Silent) :
    start.chip.Alike now.chip := by
  induction h with
  | refl => exact .refl
  | turn h frame hf ih =>
    have hsilent := (h.silent hs).1
    exact (ih.trans (Chip.alike_serve_of_isQuiet hsilent.present hf)).trans
      (hsilent.serve frame).alike_afterFrame
  | mask _ _ ih => exact ih
  | notice _ ih => exact ih.trans (.of_memory rfl rfl rfl)

/-- While no frame is exchanged, the chip keeps what it holds. -/
theorem Passes.keeps_of_none (h : start.Passes (fun _ => False) o now) :
    now.chip.memory = start.chip.memory ∧ now.chip.latches = start.chip.latches ∧
      now.chip.sent = start.chip.sent := by
  induction h with
  | refl => exact ⟨rfl, rfl, rfl⟩
  | turn _ _ hf => exact hf.elim
  | mask _ _ ih => exact ih
  | notice _ ih => exact ih

/-- Plain frames are answered alike by silent chips that are alike, and make the same difference to
them. -/
theorem turnAll_alike (hf : ∀ frame ∈ frames, frame.IsPlain) :
    ∀ {endpoint endpoint' : Endpoint}, endpoint.chip.Silent → endpoint'.chip.Silent →
      endpoint.chip.Alike endpoint'.chip →
      (endpoint'.turnAll frames).1 = (endpoint.turnAll frames).1 ∧
        (endpoint.turnAll frames).2.chip.Alike (endpoint'.turnAll frames).2.chip := by
  induction frames with
  | nil => exact fun _ _ halike => ⟨rfl, halike⟩
  | cons frame frames ih =>
    intro endpoint endpoint' hs hs' halike
    obtain ⟨hreply, hserved⟩ :=
      halike.serve hs.present hs'.present (hf frame List.mem_cons_self)
    have hturned : (endpoint.turn frame).2.chip.Alike (endpoint'.turn frame).2.chip :=
      ((hs.serve frame).alike_afterFrame.symm.trans hserved).trans
        (hs'.serve frame).alike_afterFrame
    obtain ⟨hreplies, hall⟩ := ih (fun f h => hf f (List.mem_cons_of_mem _ h))
      (hs.serve frame).afterFrame (hs'.serve frame).afterFrame hturned
    refine ⟨?_, hall⟩
    show (endpoint'.chip.serve frame).1 :: ((endpoint'.turn frame).2.turnAll frames).1 =
      (endpoint.chip.serve frame).1 :: ((endpoint.turn frame).2.turnAll frames).1
    rw [hreply, hreplies]

/-- Plain frames change no flags in a silent chip. -/
theorem interrupt_turnAll (hf : ∀ frame ∈ frames, frame.IsPlain) (t : SocketId) :
    ∀ {endpoint : Endpoint}, endpoint.chip.Silent →
      (endpoint.turnAll frames).2.chip.byteOf .interrupt t = endpoint.chip.byteOf .interrupt t := by
  induction frames with
  | nil => exact fun _ => rfl
  | cons frame frames ih =>
    intro endpoint hs
    refine (ih (fun f h => hf f (List.mem_cons_of_mem _ h)) (hs.serve frame).afterFrame).trans ?_
    refine Eq.trans ?_ (Chip.interrupt_serve_of_isPlain hs.present (hf frame List.mem_cons_self) t)
    exact congrArg (Memory.read · _) (hs.serve frame).keeps_afterFrame.1

end Endpoint

/-! ## Boards whose chip is silent -/

namespace Habit

variable {x x' : Board} {frame : Frame} {frames : List Frame} {value : UInt8}
  {o : List Occurrence} {device device' now now' : Device Board} {s : SocketId}

/-- Whoever exchanges a frame finds the chip as it has served the frame. -/
theorem Exchanged.alike_serve (h : Habit.alone.Exchanged x frame value o x')
    (hok : Habit.alone.ok x) : (x.chip.serve frame).2.Alike x'.chip ∧
      ∀ t, x'.chip.byteOf .interrupt t = (x.chip.serve frame).2.byteOf .interrupt t := by
  obtain ⟨o', -, hwalk⟩ := h.walk
  obtain ⟨hmemory, hlatches, hsent⟩ := hwalk.keeps_of_none
  have hserved := hok.2.serve frame
  refine ⟨hserved.alike_afterFrame.trans (.of_memory hmemory hlatches hsent), fun t => ?_⟩
  exact congrArg (Memory.read · _) (hmemory.trans hserved.keeps_afterFrame.1)

/-- Frames have been clocked one after the other, and no others behind them. -/
structure Clocked (frames : List Frame) (start : Device Board) (replies : List UInt8)
    (now : Device Board) : Prop where
  ok : Habit.alone.ok now.board
  controller : now.controller = start.controller
  replies : replies = ((Wired.endpoint start.board).held.turnAll frames).1
  walk : ∃ o, ((Wired.endpoint start.board).held.turnAll frames).2.Passes (fun _ => False) o
    (Wired.endpoint now.board)

theorem transact_clocked (hok : Habit.alone.ok device.board)
    (hf : ∀ frame ∈ frames, frame.IsLocal) :
    Ends (onLink (transact frames)) device fun replies now => Clocked frames device replies now :=
  (Ends.onLink (Habit.alone.transact_ends hok hf)).mono fun _ _ h =>
    ⟨h.1.2.1, h.2, h.1.1, h.1.2.2.1⟩

theorem Exchanged.clocked (h : Habit.alone.Exchanged device.board frame value o now.board)
    (hcontroller : now.controller = device.controller) : Clocked [frame] device [value] now := by
  obtain ⟨o', -, hwalk⟩ := h.walk
  refine ⟨h.ok, hcontroller, ?_, o', hwalk⟩
  rw [h.reply]
  rfl

theorem readByte_clocked (hok : Habit.alone.ok device.board) (address : UInt16) :
    Ends (onLink (readByte address)) device fun value now =>
      Clocked [Frame.read address] device [value] now :=
  (Ends.onLink (Habit.alone.readByte_ends hok address)).mono fun _ _ h =>
    h.1.choose_spec.clocked h.2

theorem writeByte_clocked (hok : Habit.alone.ok device.board) (address : UInt16) (value : UInt8) :
    Ends (onLink (writeByte address value)) device fun _ now =>
      ∃ reply, Clocked [Frame.write address value] device [reply] now := by
  refine (Ends.onLink (Habit.alone.writeByte_ends_of hok (Habit.alone_turn hok _))).mono ?_
  rintro _ now ⟨⟨o, reply, h⟩, hcontroller⟩
  exact ⟨reply, h.clocked hcontroller⟩

/-- A look around leads to a device that is alike. -/
theorem Walked.alike {P : Frame → Prop} (h : Habit.alone.Walked P device now)
    (hok : Habit.alone.ok device.board) (hP : ∀ frame, P frame → frame.direction = .read) :
    device.Alike now ∧ ∀ t, now.chip.flagsOf (.socket t) = device.chip.flagsOf (.socket t) := by
  obtain ⟨o, hpasses⟩ := h.passes
  have hflags (t : SocketId) : now.chip.flagsOf (.socket t) = device.chip.flagsOf (.socket t) := by
    refine ext_bit fun i _ => ?_
    rw [hpasses.bit_flagsOf (fun frame hf => Frame.spares_of_read (hP frame hf) _) hok.2.steady,
      (hpasses.silent hok.2).2]
    exact Bool.or_false _
  refine ⟨⟨(hpasses.mono fun frame hf => Frame.isQuiet_of_read (hP frame hf)).alike hok.2,
    fun t => ?_, by rw [h.controller], by rw [h.controller]⟩, hflags⟩
  rw [Device.flags, Device.flags, hflags, h.controller]

theorem looks_alone {frame : Frame} (h : Habit.alone.Looks frame) : frame.direction = .read :=
  Habit.alone_calm.looks h

/-- A drain leads to a device that is alike, with no flags of sockets left in its chip. -/
theorem drain_alike (hok : Habit.alone.ok device.board) :
    Ends drain device fun _ now => Habit.alone.ok now.board ∧ device.Alike now ∧
      ∀ t, now.chip.flagsOf (.socket t) = 0 := by
  refine (Habit.alone.drain_ends device hok).with_run.mono ?_
  rintro seen now ⟨hrun, hok', o, hdrained⟩
  have hnone := (hdrained.passes.silent hok.2).2
  subst hnone
  refine ⟨hok', ⟨hdrained.passes.alike hok.2, fun t => ?_, ?_, ?_⟩, fun t => ?_⟩
  · exact (hdrained.flow hok Habit.alone_calm.spares).union_eq
  · exact drain_leaves (f := Controller.localPorts) (fun _ _ => rfl) (fun _ _ => rfl) _ _ _ _ rfl
      hrun
  · exact drain_leaves (f := Controller.nextPort) (fun _ _ => rfl) (fun _ _ => rfl) _ _ _ _ rfl
      hrun
  · refine ext_bit fun i hi => ?_
    rw [bit_zero]
    exact hdrained.clears Habit.alone_calm (Habit.alone_dormant i) hok t

/-- A command has been given and accepted, and has made the difference that it makes to the chip. -/
structure Issued (s : SocketId) (command : SocketCommand) (start now : Device Board) : Prop where
  ok : Habit.alone.ok now.board
  controller : now.controller = start.controller
  chip : (start.chip.command s command.code).Alike now.chip
  flags (t : SocketId) : now.chip.byteOf .interrupt t =
    (start.chip.command s command.code).byteOf .interrupt t

theorem issue_issued (hok : Habit.alone.ok device.board) (command : SocketCommand) :
    Ends (issue s command) device fun _ now => Issued s command device now := by
  refine (Habit.alone.issue_ends_of hok (Habit.alone_turn hok _)).mono ?_
  rintro _ now ⟨given, o, reply, hgiven, hcontroller, hwalked⟩
  obtain ⟨halike, hflags⟩ := hgiven.alike_serve hok
  obtain ⟨hrest, hsame⟩ := hwalked.alike hgiven.ok fun _ => looks_alone
  rw [Chip.serve_write, Chip.write_command hok.2.present] at halike hflags
  exact ⟨hwalked.ok, hwalked.controller.trans hcontroller, halike.trans hrest.chip,
    fun t => (hsame t).trans (hflags t)⟩

/-- A socket has been closed, and its flags are forgotten, wherever they were. -/
structure Closed (s : SocketId) (start now : Device Board) : Prop where
  ok : Habit.alone.ok now.board
  controller : now.controller = start.controller.forget s
  chip : (start.chip.command s SocketCommand.close.code).Alike now.chip
  cleared : now.chip.byteOf .interrupt s = 0
  others (t : SocketId) (hst : s ≠ t) :
    now.chip.byteOf .interrupt t = start.chip.byteOf .interrupt t

theorem close_closed (hok : Habit.alone.ok device.board) :
    Ends (close s) device fun _ now => Closed s device now := by
  refine Ends.bind (issue_issued hok .close) ?_
  rintro _ given hgiven
  refine Ends.bind (Ends.onLink
    (Habit.alone.writeByte_ends_of hgiven.ok (Habit.alone_turn hgiven.ok _))) ?_
  rintro _ ⟨board, _⟩ ⟨⟨o, reply, hwritten⟩, rfl⟩
  obtain ⟨hrest, hflags⟩ := hwritten.alike_serve hgiven.ok
  simp only [Chip.serve_write, Chip.write_socketInterrupt hgiven.ok.2.present] at hrest hflags
  have hclear : given.board.chip.byteOf .interrupt s = 0 :=
    (hgiven.flags s).trans (Chip.interrupt_close _ s)
  refine Ends.changeController ⟨hwritten.ok, by rw [hgiven.controller],
    (hgiven.chip.trans (Chip.alike_setInterrupt _ s _)).trans hrest, ?_, fun t hst => ?_⟩
  · refine (hflags s).trans ?_
    rw [Chip.byteOf_setByteOf, if_pos ⟨rfl, rfl⟩, hclear, UInt8.zero_and]
  · refine (hflags t).trans ?_
    rw [Chip.byteOf_setByteOf, if_neg fun h => hst h.2]
    exact (hgiven.flags t).trans (Chip.interrupt_command_of_ne _ hst _)

end Habit

/-! ## Two boards -/

/-- Two devices that are alike, on boards where nothing happens by itself. -/
structure Device.Paired (device device' : Device Board) : Prop where
  first : Habit.alone.ok device.board
  second : Habit.alone.ok device'.board
  alike : device.Alike device'

/-- Two devices that are alike, with the flags of sockets at the same places. -/
structure Device.Aligned (device device' : Device Board) : Prop
    extends Device.Paired device device' where
  sticky (s : SocketId) : device'.controller.sticky.socket s = device.controller.sticky.socket s
  raised (s : SocketId) :
    device'.chip.flagsOf (.socket s) = device.chip.flagsOf (.socket s)

namespace Device

variable {device device' now now' : Device Board} {frames : List Frame} {s : SocketId}

/-- Plain frames are answered alike on devices that are alike, which they remain. -/
theorem Paired.clocked {replies replies' : List UInt8} (h : Paired device device')
    (hf : ∀ frame ∈ frames, frame.IsPlain) (hnow : Habit.Clocked frames device replies now)
    (hnow' : Habit.Clocked frames device' replies' now') :
    replies = replies' ∧ Paired now now' := by
  have hheld : (Wired.endpoint device.board).held.chip.Silent := h.first.2
  have hheld' : (Wired.endpoint device'.board).held.chip.Silent := h.second.2
  obtain ⟨hreplies, halike⟩ := Endpoint.turnAll_alike hf hheld hheld' h.alike.chip
  have hwalked {start now : Device Board} {replies : List UInt8} (hok : Habit.alone.ok start.board)
      (hclocked : Habit.Clocked frames start replies now) :
      ((Wired.endpoint start.board).held.turnAll frames).2.chip.Alike now.chip ∧
        ∀ t, now.flags t = start.flags t := by
    obtain ⟨o, hwalk⟩ := hclocked.walk
    obtain ⟨hmemory, hlatches, hsent⟩ := hwalk.keeps_of_none
    refine ⟨.of_memory hmemory hlatches hsent, fun t => ?_⟩
    have hsilent : (Wired.endpoint start.board).held.chip.Silent := hok.2
    have hflags : now.chip.flagsOf (.socket t) = start.chip.flagsOf (.socket t) :=
      (congrArg (Memory.read · _) hmemory).trans (Endpoint.interrupt_turnAll hf t hsilent)
    rw [flags, flags, hflags, hclocked.controller]
  obtain ⟨hfirst, hflags⟩ := hwalked h.first hnow
  obtain ⟨hsecond, hflags'⟩ := hwalked h.second hnow'
  refine ⟨hnow.replies.trans (hreplies.symm.trans hnow'.replies.symm), hnow.ok, hnow'.ok,
    (hfirst.symm.trans halike).trans hsecond, fun t => ?_, ?_, ?_⟩
  · rw [hflags, hflags', h.alike.flags]
  · rw [hnow.controller, hnow'.controller, h.alike.localPorts]
  · rw [hnow.controller, hnow'.controller, h.alike.nextPort]

/-- What leads to a device that is alike, does so on both sides. -/
theorem Paired.both (h : Paired device device') (hok : Habit.alone.ok now.board)
    (hok' : Habit.alone.ok now'.board) (halike : device.Alike now) (halike' : device'.Alike now') :
    Paired now now' :=
  ⟨hok, hok', (halike.symm.trans h.alike).trans halike'⟩

/-- Every command but the one to close raises the same flags on both sides, whatever flags there
are. -/
theorem Paired.issued {command : SocketCommand} (h : Paired device device')
    (hcommand : command ≠ .close) (hnow : Habit.Issued s command device now)
    (hnow' : Habit.Issued s command device' now') : Paired now now' := by
  refine ⟨hnow.ok, hnow'.ok,
    (hnow.chip.symm.trans (h.alike.chip.command s _)).trans hnow'.chip, fun t => ?_,
    by rw [hnow.controller, hnow'.controller, h.alike.localPorts],
    by rw [hnow.controller, hnow'.controller, h.alike.nextPort]⟩
  have hsame : device'.controller.sticky.socket t ||| device'.chip.byteOf .interrupt t =
      device.controller.sticky.socket t ||| device.chip.byteOf .interrupt t := h.alike.flags t
  show now'.controller.sticky.socket t ||| now'.chip.byteOf .interrupt t =
    now.controller.sticky.socket t ||| now.chip.byteOf .interrupt t
  rw [hnow.flags, hnow'.flags, hnow.controller, hnow'.controller]
  by_cases hst : s = t
  · subst hst
    rw [Chip.interrupt_command _ s hcommand, Chip.interrupt_command _ s hcommand,
      h.alike.chip.raisedBy s command, ← UInt8.or_assoc, ← UInt8.or_assoc, hsame]
  · rw [Chip.interrupt_command_of_ne _ hst, Chip.interrupt_command_of_ne _ hst, hsame]

/-- Closing a socket leaves none of its flags on either side. -/
theorem Paired.closed (h : Paired device device') (hnow : Habit.Closed s device now)
    (hnow' : Habit.Closed s device' now') : Paired now now' := by
  refine ⟨hnow.ok, hnow'.ok,
    (hnow.chip.symm.trans (h.alike.chip.command s _)).trans hnow'.chip, fun t => ?_, ?_, ?_⟩
  · show now'.controller.sticky.socket t ||| now'.chip.byteOf .interrupt t =
      now.controller.sticky.socket t ||| now.chip.byteOf .interrupt t
    rw [hnow.controller, hnow'.controller]
    by_cases hst : s = t
    · subst hst
      have hforgotten (controller : Controller) : (controller.forget s).sticky.socket s = 0 :=
        StickyFlags.socket_setSocket_self _ _ _
      rw [hnow.cleared, hnow'.cleared, hforgotten, hforgotten]
    · have hkept (controller : Controller) :
          (controller.forget s).sticky.socket t = controller.sticky.socket t :=
        StickyFlags.socket_setSocket_of_ne _ _ hst
      rw [hnow.others t hst, hnow'.others t hst, hkept, hkept]
      exact h.alike.flags t
  · rw [hnow.controller, hnow'.controller]
    exact congrArg (fun ports : Vector UInt16 4 => ports.set s 0 s.isLt) h.alike.localPorts
  · rw [hnow.controller, hnow'.controller]
    exact h.alike.nextPort

end Device

end SpiEthernet
