import SpiEthernet.Chip.Endpoint
import SpiEthernet.Proofs.Chip.Queue

/-!
# Frames and the events behind them

A frame that reaches a chip is served, counted, and followed by the events that are due. On a
chip that is there, and to which nothing happens that overwrites its memory from outside, this
always succeeds, so it can be said without failure: `Chip.serve` serves, `Chip.afterFrame`
counts and lets the events happen, and `Endpoint.turn` is the whole frame.

What happens to the chip meanwhile is kept as a list of occurrences, each an event together with
whether the chip took it: bytes that arrive are only taken while they fit into the ring.

* `Endpoint.clock_turn` : clocking a frame is one turn.
* `afterFrame_induction` : what every single event preserves, the end of a frame preserves.
* `Steady.serve`, `Steady.afterFrame` : the chip remains one on which frames succeed.
-/

namespace SpiEthernet

/-! ## Events -/

namespace Event

/-- Whether an event is part of the chip's own work; the others overwrite its memory. -/
def isOrdinary : Event → Bool
  | .setWord _ _ => false
  | _ => true

/-- The socket and the bytes, with their header, that an event brings to the chip. -/
def delivery? : Event → Option (SocketId × List UInt8)
  | .udp s source sourcePort payload =>
    some (s, Framing.udp.header ⟨source, sourcePort, payload.length⟩ ++ payload)
  | .tcp s data => some (s, data)
  | .ipRaw s source payload =>
    some (s, Framing.ipRaw.header ⟨source, 0, payload.length⟩ ++ payload)
  | .macRaw s frame =>
    some (s, Framing.macRaw.header ⟨Ipv4.unspecified, 0, frame.length⟩ ++ frame)
  | _ => none

end Event

/-- An event that has happened, and whether the chip took what it brought. -/
structure Occurrence where
  event : Event
  taken : Bool
deriving DecidableEq, Repr

namespace Chip

/-- Whether what an event brings fits into the chip. -/
def accepts (chip : Chip) (event : Event) : Bool :=
  match event.delivery? with
  | some (s, bytes) => (chip.wordOf .rxSize s).toNat + bytes.length ≤ ringSize
  | none => true

/-- An event as it happens to the chip. -/
def occurrence (chip : Chip) (event : Event) : Occurrence := ⟨event, chip.accepts event⟩

/-- The chip after an event; an event that faults leaves it alone. -/
def happen (chip : Chip) (event : Event) : Chip :=
  match chip.apply event with
  | .ok chip => chip
  | .error _ => chip

theorem apply_eq_happen (chip : Chip) {event : Event} (h : event.isOrdinary) :
    chip.apply event = .ok (chip.happen event) := by
  cases event <;> first | rfl | cases h

theorem happen_of_delivery {chip : Chip} {event : Event} {s : SocketId} {bytes : List UInt8}
    (h : event.delivery? = some (s, bytes)) : chip.happen event = chip.store s bytes := by
  cases event <;> cases h <;> simp only [happen, apply, storeDatagram]

theorem accepts_of_delivery {chip : Chip} {event : Event} {s : SocketId} {bytes : List UInt8}
    (h : event.delivery? = some (s, bytes)) :
    chip.accepts event = decide ((chip.wordOf .rxSize s).toNat + bytes.length ≤ ringSize) := by
  simp [accepts, h]

/-- What a list of events turns into as they happen one after the other. -/
def occurrencesOf (chip : Chip) : List Scheduled → List Occurrence
  | [] => []
  | scheduled :: rest =>
    chip.occurrence scheduled.event :: (chip.happen scheduled.event).occurrencesOf rest

/-! ## The end of a frame -/

/-- The chip with one more frame counted. -/
def counted (chip : Chip) : Chip := { chip with transactions := chip.transactions + 1 }

/-- The events that are due at the end of a frame. -/
def dueEvents (chip : Chip) : List Scheduled := chip.queue.filter chip.counted.isDue

/-- The chip to which the events due at the end of a frame happen. -/
def beforeEvents (chip : Chip) : Chip :=
  { chip.counted with queue := chip.queue.filter fun scheduled => !chip.counted.isDue scheduled }

/-- The chip after the end of a frame. -/
def afterFrame (chip : Chip) : Chip :=
  chip.dueEvents.foldl (fun chip scheduled => chip.happen scheduled.event) chip.beforeEvents

/-- What happens at the end of a frame. -/
def frameOccurrences (chip : Chip) : List Occurrence :=
  chip.beforeEvents.occurrencesOf chip.dueEvents

theorem mem_queue_of_mem_dueEvents {chip : Chip} {scheduled : Scheduled}
    (h : scheduled ∈ chip.dueEvents) : scheduled ∈ chip.queue :=
  (List.mem_filter.1 h).1

/-- What holds before the events of a frame and is preserved by each of them holds after
them, of the chip together with what has happened to it. -/
theorem foldl_happen_induction (P : Chip → List Occurrence → Prop) (events : List Scheduled) :
    ∀ {chip : Chip} {before : List Occurrence}, P chip before →
      (∀ chip before, ∀ scheduled ∈ events, P chip before →
        P (chip.happen scheduled.event) (before ++ [chip.occurrence scheduled.event])) →
      P (events.foldl (fun chip scheduled => chip.happen scheduled.event) chip)
        (before ++ chip.occurrencesOf events) := by
  induction events with
  | nil =>
    intro chip before h0 _
    simpa [occurrencesOf] using h0
  | cons scheduled events ih =>
    intro chip before h0 hstep
    have h1 := hstep chip before scheduled List.mem_cons_self h0
    have h2 := ih h1 fun chip before next hnext =>
      hstep chip before next (List.mem_cons_of_mem _ hnext)
    simpa [occurrencesOf] using h2

theorem afterFrame_induction {chip : Chip} (before : List Occurrence)
    {P : Chip → List Occurrence → Prop} (h0 : P chip.beforeEvents before)
    (hstep : ∀ c before, ∀ scheduled ∈ chip.queue, P c before →
      P (c.happen scheduled.event) (before ++ [c.occurrence scheduled.event])) :
    P chip.afterFrame (before ++ chip.frameOccurrences) :=
  foldl_happen_induction P chip.dueEvents h0 fun c before scheduled hs =>
    hstep c before scheduled (mem_queue_of_mem_dueEvents hs)

/-! ## Chips on which frames succeed -/

/-- A chip, which may be absent, whose memory is overwritten by no event to come. -/
def Ordinary (chip : Chip) : Prop := ∀ scheduled ∈ chip.queue, scheduled.event.isOrdinary

/-- A chip that is there and whose memory is overwritten by no event to come. -/
structure Steady (chip : Chip) : Prop where
  present : chip.absent = none
  ordinary : ∀ scheduled ∈ chip.queue, scheduled.event.isOrdinary

theorem applyAll_eq {events : List Scheduled} :
    ∀ {chip : Chip}, (∀ scheduled ∈ events, scheduled.event.isOrdinary) →
      chip.applyAll events =
        .ok (events.foldl (fun chip scheduled => chip.happen scheduled.event) chip) := by
  induction events with
  | nil => intros; rfl
  | cons scheduled events ih =>
    intro chip h
    rw [applyAll, chip.apply_eq_happen (h scheduled List.mem_cons_self)]
    exact ih fun next hnext => h next (List.mem_cons_of_mem _ hnext)

theorem Ordinary.countFrame_eq {chip : Chip} (h : chip.Ordinary) :
    chip.countFrame = .ok chip.afterFrame := by
  rw [countFrame, settle_eq]
  exact applyAll_eq fun scheduled hs => h scheduled (mem_queue_of_mem_dueEvents hs)

/-! ## What events leave alone -/

section Event

variable (chip : Chip) {event : Event} (h : event.isOrdinary)

include h

theorem casing_happen : (chip.happen event).casing = chip.casing := by
  cases event with
  | socketInterrupt s bits => exact chip.casing_raiseSocket s bits
  | globalInterrupt bits => exact chip.casing_raiseGlobal bits
  | udp s source sourcePort payload => exact chip.casing_store s _
  | tcp s data => exact chip.casing_store s data
  | ipRaw s source payload => exact chip.casing_store s _
  | macRaw s frame => exact chip.casing_store s _
  | setWord address value => cases h
  | setStatus s status => exact chip.casing_setStatus s status

theorem latches_happen : (chip.happen event).latches = chip.latches := by
  cases event with
  | socketInterrupt s bits => exact chip.latches_raiseSocket s bits
  | globalInterrupt bits => exact chip.latches_raiseGlobal bits
  | udp s source sourcePort payload => exact chip.latches_store s _
  | tcp s data => exact chip.latches_store s data
  | ipRaw s source payload => exact chip.latches_store s _
  | macRaw s frame => exact chip.latches_store s _
  | setWord address value => cases h
  | setStatus s status => rfl

end Event

theorem Steady.of_casing {chip chip' : Chip} (h : chip.Steady) (hc : chip'.casing = chip.casing) :
    chip'.Steady := by
  constructor
  · rw [absent_of_casing hc]
    exact h.present
  · rw [queue_of_casing hc]
    exact h.ordinary

theorem Steady.schedule {chip : Chip} (h : chip.Steady) (delay : Nat) {event : Event}
    (hevent : event.isOrdinary) : (chip.schedule delay event).Steady := by
  refine ⟨h.present, fun scheduled hs => ?_⟩
  rcases List.mem_append.1 hs with hs | hs
  · exact h.ordinary scheduled hs
  · rw [List.mem_singleton.1 hs]
    exact hevent

/-- The events of a frame touch neither the chip's plans nor what it keeps for its sockets. -/
theorem Ordinary.casing_afterFrame {chip : Chip} (h : chip.Ordinary) :
    chip.afterFrame.casing = chip.beforeEvents.casing ∧
      chip.afterFrame.latches = chip.latches := by
  refine afterFrame_induction []
    (P := fun c _ => c.casing = chip.beforeEvents.casing ∧ c.latches = chip.latches) ⟨rfl, rfl⟩ ?_
  rintro c _ scheduled hs ⟨hc, hl⟩
  have ho := h scheduled hs
  exact ⟨(c.casing_happen ho).trans hc, (c.latches_happen ho).trans hl⟩

theorem Ordinary.afterFrame {chip : Chip} (h : chip.Ordinary) : chip.afterFrame.Ordinary := by
  unfold Ordinary
  rw [queue_of_casing h.casing_afterFrame.1]
  exact fun scheduled hs => h scheduled (List.mem_filter.1 hs).1

theorem Steady.casing_afterFrame {chip : Chip} (h : chip.Steady) :
    chip.afterFrame.casing = chip.beforeEvents.casing ∧
      chip.afterFrame.latches = chip.latches := Ordinary.casing_afterFrame h.ordinary

theorem Steady.beforeEvents {chip : Chip} (h : chip.Steady) : chip.beforeEvents.Steady :=
  ⟨h.present, fun scheduled hs => h.ordinary scheduled (List.mem_filter.1 hs).1⟩

theorem Steady.afterFrame {chip : Chip} (h : chip.Steady) : chip.afterFrame.Steady :=
  h.beforeEvents.of_casing h.casing_afterFrame.1

theorem Steady.queue_afterFrame {chip : Chip} (h : chip.Steady) :
    chip.afterFrame.queue =
      chip.queue.filter fun scheduled => !decide (scheduled.due ≤ chip.transactions + 1) :=
  queue_of_casing h.casing_afterFrame.1

theorem Steady.transactions_afterFrame {chip : Chip} (h : chip.Steady) :
    chip.afterFrame.transactions = chip.transactions + 1 :=
  transactions_of_casing h.casing_afterFrame.1

/-! ## Serving a frame -/

/-- The byte of a frame's data phase, and the chip after the access. -/
def serve (chip : Chip) (frame : Frame) : UInt8 × Chip :=
  match frame.direction with
  | .read => chip.read frame.address
  | .write => (0, chip.write frame.address frame.data)

theorem serve_read (chip : Chip) (address : UInt16) :
    chip.serve (Frame.read address) = chip.read address := rfl

theorem serve_write (chip : Chip) (address : UInt16) (data : UInt8) :
    chip.serve (Frame.write address data) = (0, chip.write address data) := rfl

theorem mem_queue_answer {chip : Chip} {packet : SentPacket} {scheduled : Scheduled}
    (h : scheduled ∈ (chip.answer packet).queue) :
    scheduled ∈ chip.queue ∨ ∃ rule : ReplyRule, scheduled.event = rule.event packet := by
  unfold answer at h
  split at h
  · exact .inl h
  · exact .inl h
  · next rule rest _ =>
    rcases List.mem_append.1 h with h | h
    · exact .inl h
    · rw [List.mem_singleton.1 h]
      exact .inr ⟨rule, rfl⟩

theorem absent_answer (chip : Chip) (packet : SentPacket) :
    (chip.answer packet).absent = chip.absent := by
  unfold answer
  split <;> rfl

theorem Steady.answer {chip : Chip} (h : chip.Steady) (packet : SentPacket) :
    (chip.answer packet).Steady := by
  refine ⟨(chip.absent_answer packet).trans h.present, fun scheduled hs => ?_⟩
  rcases mem_queue_answer hs with hq | ⟨rule, he⟩
  · exact h.ordinary scheduled hq
  · rw [he]
    rfl

theorem Steady.transmit {chip : Chip} (h : chip.Steady) (s : SocketId) :
    (chip.transmit s).Steady := by
  simp only [Chip.transmit]
  split
  · exact h.of_casing (by rw [casing_failTransmit, casing_releaseTx])
  · have hsent : ((chip.releaseTx s).raiseSocket s SocketFlag.sendOk).Steady :=
      h.of_casing (by rw [casing_raiseSocket, casing_releaseTx])
    have := hsent.answer (chip.stagedPacket s)
    exact ⟨this.present, this.ordinary⟩

theorem Steady.run {chip : Chip} (h : chip.Steady) (s : SocketId) (command : SocketCommand) :
    (chip.run s command).Steady := by
  by_cases ht : transmits command = false
  · exact h.of_casing (chip.casing_run s ht)
  · cases command with
    | send | sendMac | sendKeep => exact h.transmit s
    | _ => exact absurd rfl ht

theorem Steady.command {chip : Chip} (h : chip.Steady) (s : SocketId) (code : UInt8) :
    (chip.command s code).Steady := by
  simp only [Chip.command]
  split
  · exact Steady.run (h.of_casing (by rw [casing_mapLatch, casing_setByteOf])) s _
  · exact h.of_casing (by rw [casing_mapLatch, casing_setByteOf])

theorem Steady.write {chip : Chip} (h : chip.Steady) (address : UInt16) (value : UInt8) :
    (chip.write address value).Steady := by
  have heffect := writeEffect h.present address value
  generalize chip.write address value = after at *
  cases heffect with
  | reset => exact h.of_casing chip.casing_reset
  | clearGlobal => exact h.of_casing (by rw [clearBits, casing_poke])
  | clearSocket s => exact h.of_casing (by rw [casing_setByteOf])
  | command s => exact h.command s value
  | memory => exact h.of_casing (by rw [casing_poke])

theorem Steady.serve {chip : Chip} (h : chip.Steady) (frame : Frame) :
    (chip.serve frame).2.Steady := by
  unfold Chip.serve
  split
  · exact h.of_casing (casing_read h.present _)
  · exact h.write _ _

/-- Nothing is served by a chip that is not there. -/
theorem serve_absent {chip : Chip} {fill : UInt8} (h : chip.absent = some fill) (frame : Frame) :
    (chip.serve frame).2 = chip := by
  unfold Chip.serve Chip.read Chip.write
  rw [h]
  split <;> rfl

theorem Ordinary.serve {chip : Chip} (h : chip.Ordinary) (frame : Frame) :
    (chip.serve frame).2.Ordinary := by
  cases habsent : chip.absent with
  | none => exact (Steady.serve ⟨habsent, h⟩ frame).ordinary
  | some fill => exact (serve_absent habsent frame).symm ▸ h

end Chip

/-! ## Frames that start nothing -/

/-- Whether a command only changes its own socket: it puts nothing on the network and raises no
flag. -/
def SocketCommand.isLocal : SocketCommand → Bool
  | .open | .listen | .close | .receive => true
  | _ => false

/-- A frame that is no command, or a command that only changes its own socket. -/
def Frame.IsLocal (frame : Frame) : Prop :=
  frame.direction = .write → ∀ s command, frame.address = SocketRegister.command.address s →
    SocketCommand.ofCode? frame.data = some command → command.isLocal

theorem Frame.isLocal_read (address : UInt16) : (Frame.read address).IsLocal := by
  intro h
  cases h

namespace Chip

theorem transmits_of_isLocal {command : SocketCommand} (h : command.isLocal) :
    transmits command = false := by
  cases command <;> first | rfl | cases h

theorem casing_serve {chip : Chip} (h : chip.absent = none) {frame : Frame}
    (hf : frame.IsLocal) : (chip.serve frame).2.casing = chip.casing := by
  obtain ⟨direction, address, data⟩ := frame
  cases direction with
  | read => exact casing_read h address
  | write =>
    exact casing_write h fun s command ha hc => transmits_of_isLocal (hf rfl s command ha hc)

theorem edge_run (chip : Chip) (s : SocketId) {command : SocketCommand} (h : command.isLocal) :
    (chip.run s command).edge = chip.edge := by
  cases command with
  | «open» => simp only [run, setStatus, setPointers, edge_setByteOf, edge_setWordOf, edge_mapLatch]
  | listen => rw [run, setStatus, edge_setByteOf]
  | close => rw [run, setStatus, edge_setByteOf, edge_setByteOf]
  | receive => rw [run, updateRxSize, edge_setWordOf, edge_mapLatch]
  | connect | disconnect | send | sendMac | sendKeep => cases h

theorem edge_command (chip : Chip) (s : SocketId) {code : UInt8}
    (h : ∀ command, SocketCommand.ofCode? code = some command → command.isLocal) :
    (chip.command s code).edge = chip.edge := by
  simp only [command]
  split
  · next c hc => rw [edge_run _ _ (h c hc), edge_mapLatch, edge_setByteOf]
  · rw [edge_mapLatch, edge_setByteOf]

/-- The interrupt line is asserted by events, never by such a frame itself. -/
theorem edge_serve {chip : Chip} (h : chip.absent = none) {frame : Frame}
    (hf : frame.IsLocal) : (chip.serve frame).2.edge = chip.edge := by
  obtain ⟨direction, address, data⟩ := frame
  cases direction with
  | read => exact (readEffect h address).edge_eq
  | write =>
    have heffect := writeEffect h address data
    show (chip.write address data).edge = chip.edge
    generalize chip.write address data = after at *
    cases heffect with
    | reset => rw [powerOn]
    | clearSocket s => rw [edge_setByteOf]
    | clearGlobal | memory => rfl
    | command s ha => exact edge_command chip s fun command hc => hf rfl s command ha hc

theorem edge_assertLine {chip : Chip} (h : chip.edge = true) : chip.assertLine.edge = true := by
  unfold assertLine
  split
  · rfl
  · exact h

theorem edge_store {chip : Chip} (s : SocketId) (bytes : List UInt8) (h : chip.edge = true) :
    (chip.store s bytes).edge = true := by
  unfold store
  split
  · exact h
  · rw [raiseSocket]
    apply edge_assertLine
    rw [edge_setByteOf, updateRxSize, edge_setWordOf, edge_setWordOf]
    exact h

/-- No event takes an assertion of the interrupt line back. -/
theorem edge_happen {chip : Chip} (event : Event) (h : chip.edge = true) :
    (chip.happen event).edge = true := by
  cases event with
  | socketInterrupt s bits => exact edge_assertLine h
  | globalInterrupt bits => exact edge_assertLine h
  | udp s source sourcePort payload => exact edge_store s _ h
  | tcp s data => exact edge_store s data h
  | ipRaw s source payload => exact edge_store s _ h
  | macRaw s frame => exact edge_store s _ h
  | setStatus s status => exact h
  | setWord address value =>
    simp only [happen, apply]
    by_cases hin : address.toNat + 1 < memorySize
    · rw [if_pos hin]
      exact h
    · rw [if_neg hin]
      exact h

theorem edge_afterFrame {chip : Chip} (h : chip.edge = true) : chip.afterFrame.edge = true :=
  afterFrame_induction [] (P := fun c _ => c.edge = true) h
    fun _ _ scheduled _ hc => edge_happen scheduled.event hc

end Chip

/-! ## Frames on the link -/

namespace Endpoint

/-- What the trace says about a frame. -/
def entry (endpoint : Endpoint) (frame : Frame) : Access :=
  match frame.direction with
  | .read => ⟨.read, frame.address, (endpoint.chip.read frame.address).1, endpoint.masked⟩
  | .write => ⟨.write, frame.address, frame.data, endpoint.masked⟩

/-- The byte of a frame's data phase, and the link after the frame. -/
def turn (endpoint : Endpoint) (frame : Frame) : UInt8 × Endpoint :=
  ((endpoint.chip.serve frame).1,
    { chip := (endpoint.chip.serve frame).2.afterFrame
      selected := false
      frame := []
      masked := endpoint.masked
      trace := endpoint.trace.push (endpoint.entry frame) })

theorem serve_frame (endpoint : Endpoint) (frame : Frame) :
    endpoint.serve frame.direction.code (highByte frame.address) (lowByte frame.address)
      frame.data =
      ((endpoint.chip.serve frame).1, { endpoint with
        chip := (endpoint.chip.serve frame).2
        trace := endpoint.trace.push (endpoint.entry frame) }) := by
  obtain ⟨direction, address, data⟩ := frame
  cases direction <;> simp [serve, entry, Chip.serve, Direction.code]

/-- Clocking a frame into a chip on which frames succeed is one turn. -/
theorem clock_turn {endpoint : Endpoint} (h : endpoint.chip.Ordinary) (frame : Frame) :
    (endpoint.select.clock frame.bytes).1 = (endpoint.turn frame).1 ∧
      (endpoint.select.clock frame.bytes).2.deselect = .ok (endpoint.turn frame).2 := by
  rw [clock_bytes, serve_frame]
  refine ⟨rfl, ?_⟩
  have hlength : frame.bytes.length = 4 := rfl
  simp only [deselect, hlength, if_true, (h.serve frame).countFrame_eq]
  rfl

end Endpoint

end SpiEthernet
