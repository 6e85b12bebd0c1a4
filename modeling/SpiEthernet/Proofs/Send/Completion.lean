import SpiEthernet.Proofs.Likeness.Devices

/-!
# A transmission is judged by its own end

Flags of earlier transmissions may be left in the chip and with the driver, on the socket that sends
and on others. What is left of them on the socket is dropped before the command to transmit is
given, so the flag that is found afterwards is that of this transmission. Every other flag of every
socket stays with the driver or in the chip.

* `sent_send` : what leaves does not depend on flags.
* `clearSendFlags_collects` : earlier ends of transmissions are dropped, and no other flag is.
* `awaitSent_judges` : what is found behind the command is how this transmission ended.
* `send_judged_by_own_end` : so a call to transmit tells how its own transmission has ended.
-/

namespace SpiEthernet

/-! ## What leaves -/

namespace Chip

variable {chip chip' : Chip} {s : SocketId}

/-- What leaves when a socket is told to transmit: nothing if nobody answers it. -/
def departing (chip : Chip) (s : SocketId) : List SentPacket :=
  if chip.latches[s].timesOut then [] else [chip.stagedPacket s]

theorem Alike.departing (h : chip.Alike chip') : chip'.departing s = chip.departing s := by
  rw [Chip.departing, Chip.departing, h.timesOut, h.stagedPacket]

/-- What belongs to no transmit side does not show in what leaves from it. -/
theorem SameOutlet.departing (h : chip.SameOutlet chip' s) :
    chip'.departing s = chip.departing s := by
  have hring := Memory.readRing_congr fun _ hplace => h.places (s.transmitsAt_ring hplace)
  have hdestination := h.destination
  simp only [stagedPacket] at hdestination
  simp only [Chip.departing, stagedPacket, h.timesOut, hdestination,
    h.wordOf (r := .peerPort) (by decide), h.wordOf (r := .txRead) (by decide),
    h.wordOf (r := .txWrite) (by decide), hring]

theorem sent_transmit (chip : Chip) (s : SocketId) :
    (chip.transmit s).sent = chip.sent ++ chip.departing s := by
  have htimes : (chip.releaseTx s).latches[s].timesOut = chip.latches[s].timesOut := by
    rw [releaseTx, latches_setWordOf, latches_mapLatch_self, latches_setWordOf]
  simp only [transmit, htimes, Chip.departing]
  cases chip.latches[s].timesOut with
  | true =>
    simp only [if_true, List.append_nil]
    rw [((chip.releaseTx s).sameOutlet_failTransmit s).sent, sent_releaseTx]
  | false =>
    simp only [Bool.false_eq_true, if_false]
    rw [(sameOutlet_answer _ s _).sent, sent_raiseSocket, sent_releaseTx]

/-- The command to transmit makes leave what was staged when it was given. -/
theorem sent_send (chip : Chip) (s : SocketId) :
    (chip.command s SocketCommand.send.code).sent = chip.sent ++ chip.departing s := by
  have hgiven := chip.sameOutlet_given s SocketCommand.send.code chip.commandLatency.toNat
  simp only [command, SocketCommand.ofCode?_code, run]
  rw [sent_transmit, hgiven.departing, hgiven.sent]

end Chip

/-! ## Whose flags are found -/

/-- The flags of a socket without those that tell how its transmissions have ended. -/
def withoutEnd (s t : SocketId) (flags : UInt8) : UInt8 :=
  if s = t then flags &&& ~~~SocketFlag.sendEnd else flags

theorem withoutEnd_and_sendEnd (s : SocketId) (flags : UInt8) :
    withoutEnd s s flags &&& SocketFlag.sendEnd = 0 := by
  rw [withoutEnd, if_pos rfl, UInt8.and_assoc, UInt8.and_comm (~~~_), UInt8.and_not_self,
    UInt8.and_zero]

namespace Habit

variable {device middle now : Device Board} {s : SocketId}

/-- All flags are with the driver, but for those that tell how transmissions of a socket have
ended, which are gone. -/
structure Collected (s : SocketId) (start now : Device Board) : Prop where
  ok : Habit.alone.ok now.board
  chip : start.chip.Alike now.chip
  raised (t : SocketId) : now.chip.byteOf .interrupt t = 0
  sticky (t : SocketId) : now.controller.sticky.socket t = withoutEnd s t (start.flags t)

theorem Collected.flags (h : Collected s device now) (t : SocketId) :
    now.flags t = withoutEnd s t (device.flags t) := by
  have hraised : now.chip.flagsOf (.socket t) = 0 := h.raised t
  rw [Device.flags, hraised, UInt8.or_zero, h.sticky]

/-- What a drain has moved to the driver is looked through for ends of transmissions. -/
theorem takeFlags_collects (hok : Habit.alone.ok middle.board) (halike : device.Alike middle)
    (hclear : ∀ t, middle.chip.flagsOf (.socket t) = 0) :
    Ends (takeFlags s SocketFlag.sendEnd) middle fun taken now =>
      taken = device.flags s &&& SocketFlag.sendEnd ∧ Collected s device now := by
  have hsticky (t : SocketId) : middle.controller.sticky.socket t = device.flags t := by
    rw [← halike.flags, Device.flags, hclear, UInt8.or_zero]
  refine Ends.onController ⟨congrArg (· &&& _) (hsticky s), hok, halike.chip, hclear, fun t => ?_⟩
  unfold withoutEnd
  split
  · next hst =>
    subst hst
    rw [← hsticky]
    exact StickyFlags.socket_takeSocket _ _ _
  · next hst =>
    rw [← hsticky]
    exact StickyFlags.socket_setSocket_of_ne _ _ hst

/-- What is left of earlier transmissions of the socket is dropped, and no other flag is. -/
theorem clearSendFlags_collects (hok : Habit.alone.ok device.board) :
    Ends (clearSendFlags s) device fun _ now => Collected s device now := by
  refine Ends.bind (drain_alike hok) ?_
  rintro _ middle ⟨hmiddle, halike, hclear⟩
  refine Ends.bind (takeFlags_collects hmiddle halike hclear) ?_
  rintro _ now ⟨-, h⟩
  exact Ends.pure h

theorem Collected.walked {P : Frame → Prop} (h : Collected s device middle)
    (hwalked : Habit.alone.Walked P middle now) (hP : ∀ frame, P frame → frame.direction = .read) :
    Collected s device now := by
  obtain ⟨halike, hflags⟩ := hwalked.alike h.ok hP
  refine ⟨hwalked.ok, h.chip.trans halike.chip, fun t => (hflags t).trans (h.raised t), fun t => ?_⟩
  rw [hwalked.controller]
  exact h.sticky t

/-! ## How this transmission ends -/

/-- Of the flags that tell how a transmission of the socket has ended, there is the one that tells
how this transmission ends. -/
def Judges (s : SocketId) (timesOut : Bool) (device : Device Board) : Prop :=
  device.flags s &&& SocketFlag.sendEnd =
    if timesOut then SocketFlag.timeout else SocketFlag.sendOk

variable {timesOut : Bool}

theorem sendEnded_judges (hok : Habit.alone.ok device.board) (h : Judges s timesOut device) :
    Ends (sendEnded s false).run device fun r now =>
      r = (if timesOut then .error .sendTimeout else .ok (some ())) ∧ Collected s device now := by
  unfold sendEnded
  refine Ends.sure_bind (drain_alike hok) ?_
  rintro _ d1 ⟨hok1, halike, hclear⟩
  refine Ends.sure_bind (takeFlags_collects hok1 halike hclear) ?_
  rintro _ d2 ⟨rfl, h2⟩
  rw [show device.flags s &&& SocketFlag.sendEnd = _ from h]
  cases timesOut with
  | false => exact Ends.pure ⟨rfl, h2⟩
  | true =>
    refine Ends.sure_bind (Habit.alone.note_ends (P := fun _ => False) h2.ok _) ?_
    rintro _ d3 hwalked
    exact Ends.fail ⟨rfl, h2.walked hwalked fun _ => False.elim⟩

/-- The first look at the flags tells how the transmission has ended. -/
theorem awaitSent_judges (hok : Habit.alone.ok device.board) (h : Judges s timesOut device) :
    Ends (awaitSent s false).run device fun r now =>
      r = (if timesOut then .error .sendTimeout else .ok ()) ∧ Collected s device now := by
  unfold awaitSent
  refine Ends.sure_patience_bind fun bound => ?_
  rw [pollWithin]
  refine Ends.attempt (sendEnded_judges hok h) ?_ ?_
  · rintro r now ⟨hr, hnow⟩
    cases timesOut <;> cases hr
    exact Ends.pure ⟨rfl, hnow⟩
  · rintro cause now ⟨hr, hnow⟩
    cases timesOut <;> cases hr
    exact ⟨rfl, hnow⟩

/-- Behind the command there are the flags that the sockets had, and the one that tells how this
transmission ended. -/
theorem Collected.flags_issued (h : Collected s device middle) (hnow : Issued s .send middle now)
    (t : SocketId) : now.flags t = withoutEnd s t (device.flags t) |||
      if s = t then device.chip.verdict s else 0 := by
  show now.controller.sticky.socket t ||| now.chip.byteOf .interrupt t = _
  rw [hnow.flags, hnow.controller, h.sticky]
  congr 1
  split
  · next hst =>
    subst hst
    rw [Chip.interrupt_command _ s (by decide), h.raised, UInt8.zero_or]
    exact h.chip.verdict s
  · next hst =>
    rw [Chip.interrupt_command_of_ne _ hst, h.raised]

/-- Whatever was left of earlier transmissions, this one is judged by its own flag. -/
theorem Collected.judges (h : Collected s device middle) (hnow : Issued s .send middle now) :
    Judges s device.chip.latches[s].timesOut now := by
  rw [Judges, h.flags_issued hnow, if_pos rfl,
    or_and_of_and_eq_zero (withoutEnd_and_sendEnd s _)]
  exact device.chip.verdict_and_sendEnd s

/-- The flag that tells how the transmission ended is taken again, and no other is. -/
theorem Collected.flags_judged (h : Collected s device middle) {given : Device Board}
    (hgiven : Issued s .send middle given) (hnow : Collected s given now) (t : SocketId) :
    now.flags t = withoutEnd s t (device.flags t) := by
  rw [hnow.flags, h.flags_issued hgiven]
  unfold withoutEnd
  split
  · refine ext_bit fun i hi => ?_
    have hverdict := congrArg (bit · i) (device.chip.verdict_and_sendEnd s)
    simp only [bit_and] at hverdict
    simp only [bit_and, bit_or, bit_not _ hi]
    cases hend : bit SocketFlag.sendEnd i with
    | true => simp
    | false =>
      rw [hend, Bool.and_false] at hverdict
      simp [← hverdict]
  · exact UInt8.or_zero

end Habit

/-! ## A call to transmit -/

/-- Where nobody else uses the link and nothing happens to the chip by itself, a call to transmit
ends, with a timeout if and only if the chip finds nobody to answer this transmission, whatever
flags were left in the chip and with the driver. Otherwise what was staged leaves. Afterwards none
of the socket's flags is in the chip, and none that tells how a transmission ended is with the
driver; every other flag that a socket had in one of the two places, it still has. -/
theorem send_judged_by_own_end {device : Device Board} (hundisturbed : device.board.Undisturbed)
    (hsilent : device.chip.Silent) (s : SocketId) :
    Ends (sendDatagram s).run device fun r device' =>
      r = (if device.chip.latches[s].timesOut then .error .sendTimeout else .ok ()) ∧
        device'.chip.sent = device.chip.sent ++ device.chip.departing s ∧
        device'.controller.sticky.socket s &&& SocketFlag.sendEnd = 0 ∧
        device'.chip.byteOf .interrupt s = 0 ∧
        ∀ t, device'.flags t = withoutEnd s t (device.flags t) := by
  have hok : Habit.alone.ok device.board := ⟨hundisturbed, hsilent⟩
  unfold sendDatagram
  refine Ends.sure_bind (Habit.clearSendFlags_collects hok) ?_
  rintro _ d1 h1
  refine Ends.sure_bind (Habit.issue_issued h1.ok .send) ?_
  rintro _ d2 h2
  refine (Habit.awaitSent_judges h2.ok (h1.judges h2)).mono ?_
  rintro r d3 ⟨hr, h3⟩
  refine ⟨hr, ?_, ?_, h3.raised s, h1.flags_judged h2 h3⟩
  · rw [h3.chip.sent, h2.chip.sent, Chip.sent_send, h1.chip.sent, h1.chip.departing]
  · rw [h3.sticky]
    exact withoutEnd_and_sendEnd s _

/-- A board whose chip still shows that a transmission of the first socket has ended well, that
something has arrived for it, and that nobody has answered the second socket. -/
def Board.stale : Board := (Board.new none ⟨none, .off⟩).withChip
  (((Chip.new none).setByteOf .interrupt 0 (SocketFlag.sendOk ||| SocketFlag.received)).setByteOf
    .interrupt 1 SocketFlag.timeout)

/-- Its driver has found before that nobody had answered the first socket. -/
def Device.stale : Device Board :=
  ⟨Board.stale, Controller.new.mapSticky (·.recordSocket 0 SocketFlag.timeout)⟩

theorem Device.flags_stale :
    Device.stale.flags 0 = SocketFlag.sendEnd ||| SocketFlag.received ∧
      Device.stale.flags 1 = SocketFlag.timeout := by
  have hfirst : Device.stale.chip.byteOf .interrupt 0 =
      SocketFlag.sendOk ||| SocketFlag.received := by
    refine (Chip.byteOf_setByteOf _ _ _ _ _ _).trans ((if_neg (by decide)).trans ?_)
    exact (Chip.byteOf_setByteOf _ _ _ _ _ _).trans (if_pos ⟨rfl, rfl⟩)
  have hsecond : Device.stale.chip.byteOf .interrupt 1 = SocketFlag.timeout :=
    (Chip.byteOf_setByteOf _ _ _ _ _ _).trans (if_pos ⟨rfl, rfl⟩)
  constructor
  · show _ ||| Device.stale.chip.byteOf .interrupt 0 = _
    rw [hfirst]
    decide
  · show _ ||| Device.stale.chip.byteOf .interrupt 1 = _
    rw [hsecond]
    decide

theorem send_judged_by_own_end_stale :
    Ends (sendDatagram 0).run Device.stale fun r device' =>
      r = .ok () ∧ device'.chip.sent = Device.stale.chip.departing 0 ∧
        device'.flags 0 = SocketFlag.received ∧ device'.flags 1 = SocketFlag.timeout := by
  obtain ⟨hfirst, hsecond⟩ := Device.flags_stale
  have hsilent : Device.stale.chip.Silent := ⟨rfl, rfl, rfl⟩
  refine (@send_judged_by_own_end Device.stale nofun hsilent 0).mono ?_
  rintro r device' ⟨hr, hsent, -, -, hflags⟩
  refine ⟨hr, hsent, (hflags 0).trans ?_, (hflags 1).trans ?_⟩
  · rw [hfirst]
    decide
  · rw [hsecond]
    decide

end SpiEthernet
