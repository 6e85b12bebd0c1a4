import SpiEthernet.Proofs.Chip.Frames

/-!
# What has happened to a chip

The trace of a link lists every access to the chip, and which events are due behind a frame
depends on nothing but the chip and the frames before it. So the events that have happened
between two states of a link can be read off: the accesses of the trace are carried out again on
the chip as it was (`Chip.history`). The interrupt line is noticed at times the trace does not
show, but no event depends on it.

Proofs walk along the link instead. `Endpoint.Passes P e occurrences e'` says that `e'` comes out
of `e` through frames that satisfy `P`, with these occurrences behind them.

* `Passes.occurrencesSince` : a walk along the link meets what the trace tells.
* `Passes.induction` : what frames and events preserve, a walk preserves.
-/

namespace SpiEthernet

namespace Chip

/-! ## Carrying out a trace again -/

/-- The chip after an access of the trace, before the frame ends. -/
def reached (chip : Chip) (access : Access) : Chip :=
  match access.direction with
  | .read => (chip.read access.address).2
  | .write => chip.write access.address access.data

/-- The chip after the accesses of a trace. -/
def replay (chip : Chip) (trace : List Access) : Chip :=
  trace.foldl (fun chip access => (chip.reached access).afterFrame) chip

/-- What happens behind the accesses of a trace. -/
def history (chip : Chip) : List Access → List Occurrence
  | [] => []
  | access :: rest =>
    (chip.reached access).frameOccurrences ++ (chip.reached access).afterFrame.history rest

theorem history_append (trace rest : List Access) : ∀ chip : Chip,
    chip.history (trace ++ rest) = chip.history trace ++ (chip.replay trace).history rest := by
  induction trace with
  | nil => intro chip; rfl
  | cons access trace ih =>
    intro chip
    rw [List.cons_append, history, history, ih, List.append_assoc]
    rfl

theorem replay_append (chip : Chip) (trace rest : List Access) :
    chip.replay (trace ++ rest) = (chip.replay trace).replay rest :=
  List.foldl_append

/-! ## The interrupt line does not matter -/

/-- The chip with its interrupt line not asserted. -/
def edgeless (chip : Chip) : Chip := { chip with edge := false }

section Edgeless

variable (chip : Chip) (s : SocketId)

theorem edgeless_assertLine : chip.assertLine.edgeless = chip.edgeless := by
  unfold assertLine
  split <;> rfl

theorem edgeless_raiseSocket (bits : UInt8) :
    (chip.edgeless.raiseSocket s bits).edgeless = (chip.raiseSocket s bits).edgeless := by
  rw [raiseSocket, raiseSocket, edgeless_assertLine, edgeless_assertLine]
  rfl

theorem edgeless_raiseGlobal (bits : UInt8) :
    (chip.edgeless.raiseGlobal bits).edgeless = (chip.raiseGlobal bits).edgeless := by
  rw [raiseGlobal, raiseGlobal, edgeless_assertLine, edgeless_assertLine]
  rfl

theorem edgeless_store (bytes : List UInt8) :
    (chip.edgeless.store s bytes).edgeless = (chip.store s bytes).edgeless := by
  have hsize : chip.edgeless.wordOf .rxSize s = chip.wordOf .rxSize s := rfl
  unfold store
  rw [hsize]
  split
  · rfl
  · rw [raiseSocket, raiseSocket, edgeless_assertLine, edgeless_assertLine]
    rfl

theorem edgeless_happen (event : Event) :
    (chip.edgeless.happen event).edgeless = (chip.happen event).edgeless := by
  cases event with
  | socketInterrupt s bits => exact chip.edgeless_raiseSocket s bits
  | globalInterrupt bits => exact chip.edgeless_raiseGlobal bits
  | udp s source sourcePort payload => exact chip.edgeless_store s _
  | tcp s data => exact chip.edgeless_store s data
  | ipRaw s source payload => exact chip.edgeless_store s _
  | macRaw s frame => exact chip.edgeless_store s _
  | setStatus s status => rfl
  | setWord address value =>
    simp only [happen, apply]
    by_cases hin : address.toNat + 1 < memorySize
    · rw [if_pos hin, if_pos hin]
      rfl
    · rw [if_neg hin, if_neg hin]
      rfl

theorem occurrencesOf_edgeless (events : List Scheduled) : ∀ chip : Chip,
    chip.edgeless.occurrencesOf events = chip.occurrencesOf events := by
  induction events with
  | nil => intro chip; rfl
  | cons scheduled events ih =>
    intro chip
    show chip.edgeless.occurrence _ :: _ = chip.occurrence _ :: _
    rw [← ih (chip.edgeless.happen scheduled.event), edgeless_happen, ih]
    rfl

theorem edgeless_foldl_happen (events : List Scheduled) : ∀ chip : Chip,
    (events.foldl (fun chip scheduled => chip.happen scheduled.event) chip.edgeless).edgeless =
      (events.foldl (fun chip scheduled => chip.happen scheduled.event) chip).edgeless := by
  induction events with
  | nil => intro chip; rfl
  | cons scheduled events ih =>
    intro chip
    rw [List.foldl_cons, List.foldl_cons, ← ih, edgeless_happen, ih]

theorem edgeless_afterFrame : chip.edgeless.afterFrame.edgeless = chip.afterFrame.edgeless :=
  edgeless_foldl_happen _ chip.beforeEvents

theorem frameOccurrences_edgeless : chip.edgeless.frameOccurrences = chip.frameOccurrences :=
  occurrencesOf_edgeless _ chip.beforeEvents

theorem edgeless_read (address : UInt16) :
    (chip.edgeless.read address).1 = (chip.read address).1 ∧
      (chip.edgeless.read address).2.edgeless = (chip.read address).2.edgeless := by
  have habsent : chip.edgeless.absent = chip.absent := rfl
  have hbusy : chip.edgeless.resetBusy = chip.resetBusy := rfl
  have hlatches : chip.edgeless.latches = chip.latches := rfl
  unfold read
  rw [habsent]
  split
  · exact ⟨rfl, rfl⟩
  · unfold readPresent
    rw [hbusy]
    split
    · exact ⟨rfl, rfl⟩
    split
    · exact ⟨rfl, rfl⟩
    split
    · next s offset _ =>
      simp only [readSocket, hlatches]
      split
      · split <;> exact ⟨rfl, rfl⟩
      split
      · exact ⟨rfl, rfl⟩
      split <;> exact ⟨rfl, rfl⟩
    · exact ⟨rfl, rfl⟩

theorem edgeless_failTransmit :
    (chip.edgeless.failTransmit s).edgeless = (chip.failTransmit s).edgeless := by
  have h := chip.edgeless_raiseSocket s SocketFlag.timeout
  have hmode : (chip.edgeless.raiseSocket s SocketFlag.timeout).byteOf .mode s =
      (chip.raiseSocket s SocketFlag.timeout).byteOf .mode s := by
    show (chip.edgeless.raiseSocket s SocketFlag.timeout).edgeless.byteOf .mode s = _
    rw [h]
    rfl
  simp only [failTransmit, hmode]
  split
  · show ((chip.edgeless.raiseSocket s SocketFlag.timeout).edgeless.setStatus s .closed) = _
    rw [h]
    rfl
  · exact h

theorem edgeless_answer (packet : SentPacket) {first second : Chip}
    (h : first.edgeless = second.edgeless) :
    (first.answer packet).edgeless = (second.answer packet).edgeless := by
  have hrules : first.replies = second.replies := by
    show first.edgeless.replies = _
    rw [h]
    rfl
  unfold answer
  rw [hrules]
  split
  · exact h
  · next rest _ => exact congrArg (fun c : Chip => { c with replies := rest }) h
  · next rule rest _ =>
    exact congrArg (fun c : Chip =>
      { c with replies := rest }.schedule rule.delay (rule.event packet)) h

theorem edgeless_transmit : (chip.edgeless.transmit s).edgeless = (chip.transmit s).edgeless := by
  have hreleased : chip.edgeless.releaseTx s = (chip.releaseTx s).edgeless := rfl
  have hpacket : chip.edgeless.stagedPacket s = chip.stagedPacket s := rfl
  have hlatches : (chip.releaseTx s).edgeless.latches = (chip.releaseTx s).latches := rfl
  simp only [transmit, hreleased, hpacket, hlatches]
  split
  · exact edgeless_failTransmit _ s
  · exact congrArg (fun c : Chip => { c with sent := c.sent ++ [chip.stagedPacket s] })
      (edgeless_answer _ (edgeless_raiseSocket _ s _))

theorem edgeless_run (command : SocketCommand) :
    (chip.edgeless.run s command).edgeless = (chip.run s command).edgeless := by
  cases command with
  | send | sendMac | sendKeep => exact chip.edgeless_transmit s
  | connect => exact edgeless_raiseSocket (chip.setStatus s .established) s _
  | disconnect => exact edgeless_raiseSocket (chip.setStatus s .closed) s _
  | «open» | listen | close | receive => rfl

theorem edgeless_command (code : UInt8) :
    (chip.edgeless.command s code).edgeless = (chip.command s code).edgeless := by
  simp only [command]
  split
  · exact edgeless_run
      ((chip.setByteOf .command s code).mapLatch s
        fun latch => { latch with busy := chip.commandLatency.toNat }) s _
  · rfl

theorem edgeless_write (address : UInt16) (value : UInt8) :
    (chip.edgeless.write address value).edgeless = (chip.write address value).edgeless := by
  have habsent : chip.edgeless.absent = chip.absent := rfl
  unfold write
  rw [habsent]
  split
  · rfl
  · unfold writePresent
    split
    · split <;> rfl
    split
    · rfl
    split
    · next s offset _ =>
      split
      · rfl
      split
      · exact chip.edgeless_command s value
      · rfl
    · rfl

theorem edgeless_reached (access : Access) :
    (chip.edgeless.reached access).edgeless = (chip.reached access).edgeless := by
  unfold reached
  split
  · exact (chip.edgeless_read access.address).2
  · exact chip.edgeless_write access.address access.data

end Edgeless

/-- What happens behind a trace does not depend on the interrupt line. -/
theorem history_congr (trace : List Access) : ∀ {first second : Chip},
    first.edgeless = second.edgeless →
      first.history trace = second.history trace ∧
        (first.replay trace).edgeless = (second.replay trace).edgeless := by
  induction trace with
  | nil => intro first second h; exact ⟨rfl, h⟩
  | cons access trace ih =>
    intro first second h
    have hreached : (first.reached access).edgeless = (second.reached access).edgeless := by
      rw [← edgeless_reached, h, edgeless_reached]
    have hafter : (first.reached access).afterFrame.edgeless =
        (second.reached access).afterFrame.edgeless := by
      rw [← edgeless_afterFrame, hreached, edgeless_afterFrame]
    obtain ⟨hhistory, hreplay⟩ := ih hafter
    refine ⟨?_, hreplay⟩
    rw [history, history, hhistory, ← frameOccurrences_edgeless, hreached,
      frameOccurrences_edgeless]

end Chip

/-! ## Walking along the link -/

namespace Endpoint

/-- What has happened to the chip since the link was in an earlier state. -/
def occurrencesSince (now start : Endpoint) : List Occurrence :=
  start.chip.history (now.trace.toList.drop start.trace.size)

/-- The second state of the link comes out of the first one through whole frames that satisfy
`P`, with these occurrences behind them. Between two frames the interrupt may be held back or let
through, and its assertion may be noticed. -/
inductive Passes (P : Frame → Prop) (start : Endpoint) : List Occurrence → Endpoint → Prop where
  | refl : Passes P start [] start
  | turn {occurrences : List Occurrence} {now : Endpoint} (h : Passes P start occurrences now)
    (frame : Frame) (hf : P frame) :
    Passes P start (occurrences ++ (now.chip.serve frame).2.frameOccurrences) (now.turn frame).2
  | mask {occurrences : List Occurrence} {now : Endpoint} (h : Passes P start occurrences now)
    (masked : Bool) : Passes P start occurrences { now with masked }
  | notice {occurrences : List Occurrence} {now : Endpoint}
    (h : Passes P start occurrences now) : Passes P start occurrences now.takeEdge.2

namespace Passes

variable {P R : Frame → Prop} {start middle now : Endpoint} {before after : List Occurrence}

theorem trans (h : Passes P start before middle) (h' : Passes P middle after now) :
    Passes P start (before ++ after) now := by
  induction h' with
  | refl => simpa using h
  | turn _ frame hf ih =>
    rw [← List.append_assoc]
    exact ih.turn frame hf
  | mask _ masked ih => exact ih.mask masked
  | notice _ ih => exact ih.notice

theorem mono (h : Passes P start before now) (hPR : ∀ frame, P frame → R frame) :
    Passes R start before now := by
  induction h with
  | refl => exact refl
  | turn _ frame hf ih => exact ih.turn frame (hPR frame hf)
  | mask _ masked ih => exact ih.mask masked
  | notice _ ih => exact ih.notice

theorem one (start : Endpoint) {frame : Frame} (hf : P frame) :
    Passes P start (start.chip.serve frame).2.frameOccurrences (start.turn frame).2 :=
  refl.turn frame hf

/-- A walk along the link meets what its trace tells. -/
theorem history_eq (h : Passes P start before now) :
    ∃ trace, now.trace.toList = start.trace.toList ++ trace ∧
      start.chip.history trace = before ∧
      (start.chip.replay trace).edgeless = now.chip.edgeless := by
  induction h with
  | refl => exact ⟨[], by simp, rfl, rfl⟩
  | @turn occurrences now _ frame hf ih =>
    obtain ⟨trace, htrace, hhistory, hreplay⟩ := ih
    have hreached : ∀ chip : Chip, chip.reached (now.entry frame) = (chip.serve frame).2 := by
      intro chip
      obtain ⟨direction, address, data⟩ := frame
      cases direction <;> rfl
    obtain ⟨hlast, hend⟩ := Chip.history_congr [now.entry frame] hreplay
    refine ⟨trace ++ [now.entry frame], ?_, ?_, ?_⟩
    · simp [Endpoint.turn, htrace]
    · rw [Chip.history_append, hhistory, hlast]
      simp [Chip.history, hreached]
    · rw [Chip.replay_append, hend]
      simp [Chip.replay, hreached, Endpoint.turn]
  | mask _ _ ih => exact ih
  | notice _ ih => exact ih

/-- What happens on a walk along the link is what has happened since its start. -/
theorem occurrencesSince (h : Passes P start before now) :
    now.occurrencesSince start = before := by
  obtain ⟨trace, htrace, hhistory, -⟩ := h.history_eq
  rw [Endpoint.occurrencesSince, htrace]
  simpa using hhistory

/-! ## What a walk preserves -/

/-- What neither frames nor what happens behind them break of the chip, a walk along the link does
not break. -/
theorem chip_kept {J : Chip → Prop} (h : Passes P start before now)
    (hserve : ∀ chip frame, J chip → P frame → J (chip.serve frame).2.afterFrame)
    (hnoticed : ∀ chip, J chip → J { chip with edge := false }) (h0 : J start.chip) :
    J now.chip := by
  induction h with
  | refl => exact h0
  | turn _ frame hf ih => exact hserve _ frame ih hf
  | mask _ _ ih => exact ih
  | notice _ ih => exact hnoticed _ ih

theorem steady (h : Passes P start before now) (hs : start.chip.Steady) : now.chip.Steady :=
  h.chip_kept (fun _ frame hsteady _ => (hsteady.serve frame).afterFrame)
    (fun _ hsteady => hsteady.of_casing rfl) hs

variable (hP : ∀ frame, P frame → frame.IsLocal)

include hP

/-- Local frames bring no new event about. -/
theorem mem_queue (h : Passes P start before now) (hs : start.chip.Steady)
    {scheduled : Scheduled} (hq : scheduled ∈ now.chip.queue) : scheduled ∈ start.chip.queue := by
  induction h with
  | refl => exact hq
  | @turn occurrences now h frame hf ih =>
    have hsteady := h.steady hs
    have hcasing := Chip.casing_serve hsteady.present (hP frame hf)
    have hq' : scheduled ∈ ((now.chip.serve frame).2.afterFrame).queue := hq
    rw [(hsteady.serve frame).queue_afterFrame, Chip.queue_of_casing hcasing] at hq'
    exact ih (List.mem_filter.1 hq').1
  | mask _ _ ih => exact ih hq
  | notice _ ih => exact ih hq

/-- What frames and events preserve of the chip and of what has happened to it, a walk along the
link preserves. -/
theorem chip_induction (before : List Occurrence) {I : Chip → List Occurrence → Prop}
    {A : Event → Prop} (h : Passes P start after now) (hs : start.chip.Steady)
    (hA : ∀ scheduled ∈ start.chip.queue, A scheduled.event) (h0 : I start.chip before)
    (hserve : ∀ chip o frame, chip.Steady → P frame → I chip o →
      I (chip.serve frame).2.beforeEvents o)
    (hevent : ∀ chip o event, event.isOrdinary → A event → I chip o →
      I (chip.happen event) (o ++ [chip.occurrence event]))
    (hedge : ∀ chip o, I chip o → I { chip with edge := false } o) :
    I now.chip (before ++ after) := by
  induction h with
  | refl => simpa using h0
  | @turn occurrences now h frame hf ih =>
    have hsteady := h.steady hs
    rw [← List.append_assoc]
    refine Chip.afterFrame_induction _ (hserve _ _ frame hsteady hf ih) ?_
    intro chip o scheduled hq hI
    have hcasing := Chip.casing_serve hsteady.present (hP frame hf)
    rw [Chip.queue_of_casing hcasing] at hq
    have hstart := mem_queue hP h hs hq
    exact hevent chip o _ (hs.ordinary _ hstart) (hA _ hstart) hI
  | mask _ _ ih => exact ih
  | notice _ ih => exact hedge _ _ ih

end Passes

end Endpoint

end SpiEthernet
