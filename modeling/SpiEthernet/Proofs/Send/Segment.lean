import SpiEthernet.Controller.Stream
import SpiEthernet.Proofs.Interrupt.Progress
import SpiEthernet.Proofs.Send.Draft

/-!
# One stretch of a stream after the other

Data that are handed to a stream socket are cut down to what a ring holds, staged over whatever is
left in the ring of earlier data, and leave as one packet. An outflow says what the calls answer
and what has left, without rings, pointers and flags. What is found beside that plays no part: a
pointer that was moved and never sent, flags of earlier transmissions on either side, and whatever
arrives meanwhile.

* `send_ends` : one call does to the outflow what it says.
* `stream_sent_in_order` : the packets of any calls hold the accepted data, one behind the other.
-/

namespace SpiEthernet

/-! ## Outflows -/

/-- The sending side of a stream socket between two calls. -/
structure Outflow where
  socket : SocketId
  /-- The byte of the socket's status register. -/
  shown : UInt8
  destination : Ipv4
  destinationPort : UInt16
  /-- Whether the chip is set to time transmissions out. -/
  timesOut : Bool
  sent : List SentPacket
deriving DecidableEq, Repr

namespace Outflow

/-- The socket can send in the status it shows. -/
def IsOpen (outflow : Outflow) : Prop := (SocketStatus.ofByte outflow.shown).canSend = true

instance (outflow : Outflow) : Decidable outflow.IsOpen := inferInstanceAs (Decidable (_ = _))

/-- Why a socket that cannot send refuses data. -/
def refusal (outflow : Outflow) : Error :=
  if SocketStatus.ofByte outflow.shown = .closed then .connectionClosed
  else .unexpectedStatus outflow.shown

/-- What a call that sends data answers, and the outflow behind it. -/
def send (outflow : Outflow) (data : List UInt8) : Except Error Nat × Outflow :=
  if data = [] then (.ok 0, outflow)
  else if ¬outflow.IsOpen then (.error outflow.refusal, outflow)
  else if outflow.timesOut then
    (.error .sendTimeout, { outflow with shown := SocketStatus.closed.raw })
  else
    (.ok (min ringSize data.length),
      { outflow with sent := outflow.sent ++ [⟨outflow.socket, outflow.destination,
          outflow.destinationPort, data.take ringSize⟩] })

/-- What the calls answer that send pieces of data one after the other, and the outflow behind
them. -/
def sendAll (outflow : Outflow) : List (List UInt8) → List (Except Error Nat) × Outflow
  | [] => ([], outflow)
  | data :: rest =>
    let (answer, outflow) := outflow.send data
    let (answers, outflow) := outflow.sendAll rest
    (answer :: answers, outflow)

/-- What a call has accepted of its data, by its answer. -/
def accepted (data : List UInt8) : Except Error Nat → List UInt8
  | .ok count => data.take count
  | .error _ => []

/-- A socket of a device, opened in whatever mode, shows an outflow: everything up to the readable
transmit pointer has been sent and the ring is free, wherever the pointers are, and only arrivals
happen to the chip. -/
structure Shows (outflow : Outflow) (device : Device Board) : Prop where
  undisturbed : device.board.Undisturbed
  visited : device.chip.Visited
  latch : device.chip.latches[outflow.socket].txWrite = device.chip.wordOf .txRead outflow.socket
  free : device.chip.wordOf .txFree outflow.socket = UInt16.ofNat ringSize
  shown : device.chip.byteOf .status outflow.socket = outflow.shown
  destination : (device.chip.stagedPacket outflow.socket).destination = outflow.destination
  destinationPort : device.chip.wordOf .peerPort outflow.socket = outflow.destinationPort
  timesOut : device.chip.latches[outflow.socket].timesOut = outflow.timesOut
  sent : device.chip.sent = outflow.sent

/-- An outlet of the outflow: its ring is free, wherever its pointers are. -/
structure Fills (outflow : Outflow) (outlet : Outlet) : Prop where
  free : outlet.free = UInt16.ofNat ringSize
  destination : outlet.destination = outflow.destination
  destinationPort : outlet.destinationPort = outflow.destinationPort
  timesOut : outlet.timesOut = outflow.timesOut
  sent : outlet.sent = outflow.sent

variable {outflow : Outflow} {outlet : Outlet} {device : Device Board} {data : List UInt8}

theorem Shows.offers (h : outflow.Shows device) :
    ∃ outlet, outflow.Fills outlet ∧ Habit.visited.Offers outflow.socket outlet device :=
  ⟨{ start := device.chip.wordOf .txRead outflow.socket
     pointer := device.chip.wordOf .txWrite outflow.socket
     free := UInt16.ofNat ringSize
     bytes := []
     destination := outflow.destination
     destinationPort := outflow.destinationPort
     timesOut := outflow.timesOut
     sent := outflow.sent },
    ⟨rfl, rfl, rfl, rfl, rfl⟩, ⟨h.undisturbed, h.visited⟩,
    { steady := h.visited.steady, latch := h.latch, timesOut := h.timesOut, start := rfl,
      pointer := rfl, free := h.free, fits := Nat.zero_le _,
      ring := fun i hi => absurd hi (Nat.not_lt_zero i), destination := h.destination,
      destinationPort := h.destinationPort, sent := h.sent }⟩

theorem Fills.shows (h : outflow.Fills outlet)
    (hoffers : Habit.visited.Offers outflow.socket outlet device)
    (hshown : device.chip.byteOf .status outflow.socket = outflow.shown) :
    outflow.Shows device where
  undisturbed := hoffers.ok.1
  visited := hoffers.ok.2
  latch := hoffers.chip.latch.trans hoffers.chip.start.symm
  free := hoffers.chip.free.trans h.free
  shown := hshown
  destination := hoffers.chip.destination.trans h.destination
  destinationPort := hoffers.chip.destinationPort.trans h.destinationPort
  timesOut := hoffers.chip.timesOut.trans h.timesOut
  sent := hoffers.chip.sent.trans h.sent

end Outflow

/-! ## Looking for room -/

section Room

variable {σ : Type} [Host σ] [Wired σ] {H : Habit σ} {s : SocketId} {outlet : Outlet}
  {device : Device σ}

/-- A look finds room for what a ring may hold, unless the socket cannot send. -/
theorem Habit.roomFor_ends (hH : H.Calm) (h : H.Offers s outlet device) {needed : Nat}
    (hneeded : needed ≤ outlet.free.toNat) :
    Ends (roomFor s needed).run device fun r device' =>
      let shown := SocketStatus.ofByte (device.chip.byteOf .status s)
      r = (if shown.canSend then .ok (some ()) else .error
        (if shown = .closed then .connectionClosed else .unexpectedStatus shown.raw)) ∧
      H.Walked H.Looks device device' := by
  have hfree : H.Travels H.Looks (freeTx s) :=
    Travels.settledWord (fun _ => id) s rfl (by decide)
  unfold roomFor
  refine Ends.sure_bind ((H.freeTx_ends h).and (hfree device h.ok)) ?_
  rintro _ d1 ⟨⟨rfl, -⟩, h1⟩
  refine Ends.sure_bind (H.status_ends h1.ok) ?_
  rintro shown d2 ⟨h2, hshown⟩
  rw [h1.byteOf_status h.ok ((hH.visited h.ok).statusStays s)] at hshown
  dsimp only
  rw [← hshown]
  cases hsend : shown.canSend with
  | false => exact Ends.fail ⟨rfl, h1.trans h2⟩
  | true =>
    refine Ends.pure ⟨?_, h1.trans h2⟩
    rw [if_pos hneeded]
    rfl

/-- The first look decides. -/
theorem Habit.pollRoom_ends (hH : H.Calm) (h : H.Offers s outlet device) {needed : Nat}
    (hneeded : needed ≤ outlet.free.toNat) (bound : Nat) :
    Ends (pollWithin (roomFor s needed) (bound + 1)).run device
      fun r device' =>
        let shown := SocketStatus.ofByte (device.chip.byteOf .status s)
        r = (if shown.canSend then .ok () else .error
          (if shown = .closed then .connectionClosed else .unexpectedStatus shown.raw)) ∧
        H.Walked H.Looks device device' := by
  have hroom := H.roomFor_ends hH h hneeded
  rw [pollWithin]
  dsimp only at hroom ⊢
  generalize SocketStatus.ofByte (device.chip.byteOf .status s) = shown at hroom ⊢
  cases hsend : shown.canSend with
  | false =>
    rw [hsend] at hroom
    exact Ends.attempt_of_error hroom fun _ h' => ⟨rfl, h'⟩
  | true =>
    rw [hsend] at hroom
    exact Ends.attempt_of_ok hroom fun _ h1 => Ends.pure ⟨rfl, h1⟩

/-- Data that fit into a free ring leave as one packet, whatever was staged before. -/
theorem Habit.transmit_ends (hH : H.Calm) (h : H.Offers s outlet device) {data : List UInt8}
    (hdata : data ≠ []) (hfits : data.length ≤ 2048) :
    Ends (do
        sure (clearSendFlags s)
        stage s 0 data
        sure (issue s .send)
        awaitSent s true
        return data.length : Attempt σ Nat).run device fun r device' =>
      r = (if outlet.timesOut then .error .sendTimeout else .ok data.length) ∧
        H.Offers s ((outlet.draft data).transmitted s) device' ∧
        (outlet.timesOut = false →
          device'.chip.byteOf .status s = device.chip.byteOf .status s) ∧
        (outlet.timesOut = true → device'.Released s) := by
  refine Ends.sure_bind (clearSendFlags_awaits hH h) ?_
  rintro _ d1 h1
  have hroom : data ≠ [] → (0 : UInt16).toNat ≤ outlet.bytes.length ∧
      (0 : UInt16).toNat + data.length ≤ 2048 := fun _ => ⟨Nat.zero_le _, by simpa using hfits⟩
  have hstage := H.stage_ends h1.offers hroom
  rw [show outlet.stage 0 data = outlet.draft data from
    outlet.stage_draft [] data (Nat.zero_le _)] at hstage
  refine Ends.attempt (hstage.and (Travels.stage H s 0 data d1 h1.offers.ok)) ?_
    (by rintro _ _ ⟨⟨hr, -⟩, -⟩; cases hr)
  rintro _ d2 ⟨⟨-, hoffers⟩, hwalked⟩
  have h2 := h1.walked hH hwalked (fun frame hf => hf.resolve_right (hH.between frame))
    (outlet.timesOut_draft data) hoffers
  refine Ends.sure_bind
    (issue_awaits hH h2 (outlet.payload_draft_of_ne_nil data hdata hfits).1) ?_
  rintro _ d3 h3
  have htimes : ((outlet.draft data).transmitted s).timesOut = outlet.timesOut :=
    outlet.timesOut_draft data
  have hawait := awaitSent_ends hH h3 true
  rw [htimes] at hawait
  cases hout : outlet.timesOut with
  | true =>
    rw [hout] at hawait
    refine Ends.attempt_of_error hawait ?_
    rintro d4 ⟨h4, -, hreleased⟩
    exact ⟨rfl, h4, (fun h => by cases h), fun _ => hreleased rfl rfl⟩
  | false =>
    rw [hout] at hawait
    refine Ends.attempt_of_ok hawait ?_
    rintro d4 ⟨h4, hshown, -⟩
    exact Ends.pure ⟨rfl, h4, fun _ => hshown rfl, fun h => by cases h⟩

end Room

/-! ## One call -/

namespace Outflow

variable {outflow : Outflow} {outlet : Outlet} {device : Device Board} {data : List UInt8}

/-- Behind a transmission the ring is free again. -/
theorem Fills.transmitted (h : outflow.Fills outlet) (hdata : data ≠ [])
    (hfits : data.length ≤ 2048) (shown : UInt8) :
    ({ outflow with
      shown
      sent := if outflow.timesOut then outflow.sent else outflow.sent ++
        [⟨outflow.socket, outflow.destination, outflow.destinationPort, data⟩] } : Outflow).Fills
      ((outlet.draft data).transmitted outflow.socket) := by
  have hpayload := (outlet.payload_draft_of_ne_nil data hdata hfits).2
  cases data with
  | nil => exact absurd rfl hdata
  | cons byte rest =>
    refine ⟨rfl, h.destination, h.destinationPort, h.timesOut, ?_⟩
    show (if outlet.timesOut then outlet.sent else outlet.sent ++
      [⟨outflow.socket, outlet.destination, outlet.destinationPort, _⟩]) = _
    rw [hpayload, h.timesOut, h.sent, h.destination, h.destinationPort]

/-- An open socket sends what it takes of the data, and is given back if that times out. -/
theorem transmit_shows (h : outflow.Shows device) (hopen : outflow.IsOpen) (hdata : data ≠ []) :
    Ends (do
        sure (clearSendFlags outflow.socket)
        stage outflow.socket 0 (data.take ringSize)
        sure (issue outflow.socket .send)
        awaitSent outflow.socket true
        return (data.take ringSize).length : Attempt Board Nat).run device fun r device' =>
      r = (outflow.send data).1 ∧ (outflow.send data).2.Shows device' ∧
        (r = .error .sendTimeout → device'.Released outflow.socket) := by
  obtain ⟨outlet, hfills, hoffers⟩ := h.offers
  have hlength : (data.take ringSize).length ≤ 2048 := List.length_take_le _ _
  have htake : data.take ringSize ≠ [] := by
    rw [ne_eq, List.take_eq_nil_iff]
    exact fun hnil => hnil.elim (by decide) hdata
  have htransmit := Habit.transmit_ends Habit.visited_calm hoffers htake hlength
  have hfilled (shown : UInt8) := hfills.transmitted htake hlength shown
  rw [hfills.timesOut] at htransmit
  unfold send
  rw [if_neg hdata, if_neg (not_not_intro hopen)]
  cases hout : outflow.timesOut with
  | true =>
    rw [hout] at htransmit hfilled
    refine htransmit.mono ?_
    rintro _ d ⟨rfl, hoffers', -, hreleased⟩
    exact ⟨rfl, (hfilled _).shows hoffers' (hreleased rfl).status, fun _ => hreleased rfl⟩
  | false =>
    rw [hout] at htransmit hfilled
    refine htransmit.mono ?_
    rintro _ d ⟨rfl, hoffers', hkept, -⟩
    refine ⟨?_, (hfilled _).shows hoffers' ((hkept rfl).trans h.shown), fun hr => by cases hr⟩
    rw [List.length_take]
    rfl

/-- One call answers what the outflow says, and leaves the device as it says. Without data nothing
is exchanged. Data that are refused change nothing in the chip, and a socket whose transmission
timed out has been given back. -/
theorem send_ends (h : outflow.Shows device) (data : List UInt8) :
    Ends (SpiEthernet.send outflow.socket data).run device fun r device' =>
      r = (outflow.send data).1 ∧ (outflow.send data).2.Shows device' ∧
        (data = [] → device' = device) ∧
        (¬outflow.IsOpen → device.chip.queue = [] → device'.chip.memory = device.chip.memory) ∧
        (r = .error .sendTimeout → device'.Released outflow.socket) := by
  obtain ⟨outlet, hfills, hoffers⟩ := h.offers
  have hcalm := Habit.visited_calm
  unfold SpiEthernet.send
  by_cases hempty : data = []
  · subst hempty
    exact Ends.pure ⟨rfl, h, fun _ => rfl, fun _ _ => rfl, fun hr => by cases hr⟩
  have hsome : (data.take ringSize).isEmpty = false := by
    cases data with
    | nil => exact absurd rfl hempty
    | cons => rfl
  rw [if_neg (by simp [hsome])]
  refine Ends.sure_patience_bind fun bound => ?_
  have hfree : (data.take ringSize).length ≤ outlet.free.toNat := by
    rw [hfills.free]
    exact List.length_take_le _ _
  have hroom := Habit.pollRoom_ends hcalm hoffers hfree bound
  rw [h.shown] at hroom
  dsimp only at hroom
  by_cases hopen : outflow.IsOpen
  · rw [if_pos (show (SocketStatus.ofByte outflow.shown).canSend = true from hopen)] at hroom
    refine Ends.attempt_of_ok hroom ?_
    intro d1 h1
    have hshown := h1.byteOf_status hoffers.ok (h.visited.statusStays outflow.socket)
    have hshows := hfills.shows (h1.offers hoffers) (hshown.trans h.shown)
    refine (transmit_shows hshows hopen hempty).mono ?_
    rintro r d2 ⟨hr, h2, hreleased⟩
    exact ⟨hr, h2, fun hnil => absurd hnil hempty, fun hclosed => absurd hopen hclosed, hreleased⟩
  · rw [if_neg (show ¬(SocketStatus.ofByte outflow.shown).canSend = true from hopen)] at hroom
    refine Ends.attempt_of_error hroom ?_
    intro d1 h1
    have hshown := h1.byteOf_status hoffers.ok (h.visited.statusStays outflow.socket)
    unfold send
    rw [if_neg hempty, if_pos hopen]
    refine ⟨?_, hfills.shows (h1.offers hoffers) (hshown.trans h.shown),
      fun hnil => absurd hnil hempty, fun _ hqueue => ?_, fun hr => ?_⟩
    · rw [refusal, SocketStatus.raw_ofByte]
    · obtain ⟨_, hpasses⟩ := h1.passes
      exact ((hpasses.mono fun frame hf => hf.resolve_right (hcalm.between frame)).memory_of_reads
        h.visited.steady hqueue).2
    · split at hr <;> cases hr

/-! ## Many calls -/

theorem socket_send (outflow : Outflow) (data : List UInt8) :
    (outflow.send data).2.socket = outflow.socket := by
  unfold send
  split
  · rfl
  split
  · rfl
  split <;> rfl

theorem sendAll_ends (pieces : List (List UInt8)) :
    ∀ {outflow : Outflow} {device : Device Board}, outflow.Shows device →
      Ends (pieces.mapM fun data => (SpiEthernet.send outflow.socket data).run) device
        fun answers device' => answers = (outflow.sendAll pieces).1 ∧
          (outflow.sendAll pieces).2.Shows device' := by
  induction pieces with
  | nil => exact fun h => Ends.pure ⟨rfl, h⟩
  | cons data rest ih =>
    intro outflow device h
    rw [List.mapM_cons]
    refine Ends.bind (send_ends h data) ?_
    rintro _ d1 ⟨rfl, h1, -⟩
    have hrest := ih h1
    rw [outflow.socket_send data] at hrest
    refine Ends.bind hrest ?_
    rintro _ d2 ⟨rfl, h2⟩
    exact Ends.pure ⟨rfl, h2⟩

/-- What a call has accepted is what it has sent. -/
theorem sent_send (outflow : Outflow) (data : List UInt8) :
    ∃ packets : List SentPacket, (outflow.send data).2.sent = outflow.sent ++ packets ∧
      (packets.flatMap (·.payload)) = accepted data (outflow.send data).1 := by
  unfold send
  split
  · next h => exact ⟨[], by simp, by simp [accepted, h]⟩
  split
  · exact ⟨[], by simp, rfl⟩
  split
  · exact ⟨[], by simp, rfl⟩
  · refine ⟨[_], rfl, ?_⟩
    simp [accepted, ← List.take_eq_take_min]

/-- What the calls have accepted is what they have sent, in order. -/
theorem sent_sendAll (pieces : List (List UInt8)) : ∀ outflow : Outflow,
    ∃ packets : List SentPacket, (outflow.sendAll pieces).2.sent = outflow.sent ++ packets ∧
      packets.flatMap (·.payload) =
        (List.zipWith accepted pieces (outflow.sendAll pieces).1).flatten := by
  induction pieces with
  | nil => exact fun outflow => ⟨[], by simp [sendAll], rfl⟩
  | cons data rest ih =>
    intro outflow
    obtain ⟨first, hfirst, hpayload⟩ := outflow.sent_send data
    obtain ⟨others, hothers, hpayloads⟩ := ih (outflow.send data).2
    refine ⟨first ++ others, ?_, ?_⟩
    · show ((outflow.send data).2.sendAll rest).2.sent = _
      rw [hothers, hfirst, List.append_assoc]
    · rw [List.flatMap_append, hpayload, hpayloads]
      rfl

end Outflow

/-- Whatever is handed to a stream socket whose ring is free, wherever its pointers are and
whatever was left staged or flagged before: each call answers what the outflow says and leaves the
device as it says, so that the next call finds the ring free again. The packets of any calls hold
what the calls have accepted, in order. -/
theorem stream_sent_in_order {outflow : Outflow} {device : Device Board}
    (h : outflow.Shows device) :
    (∀ data, Ends (send outflow.socket data).run device fun r device' =>
      r = (outflow.send data).1 ∧ (outflow.send data).2.Shows device' ∧
        (data = [] → device' = device) ∧
        (¬outflow.IsOpen → device.chip.queue = [] → device'.chip.memory = device.chip.memory) ∧
        (r = .error .sendTimeout → device'.Released outflow.socket)) ∧
    ∀ pieces, Ends (pieces.mapM fun data => (send outflow.socket data).run) device
      fun answers device' =>
        answers = (outflow.sendAll pieces).1 ∧ (outflow.sendAll pieces).2.Shows device' ∧
        ∃ packets : List SentPacket, device'.chip.sent = device.chip.sent ++ packets ∧
          packets.flatMap (·.payload) = (List.zipWith Outflow.accepted pieces answers).flatten := by
  refine ⟨Outflow.send_ends h, fun pieces => (Outflow.sendAll_ends pieces h).mono ?_⟩
  rintro answers device' ⟨rfl, hshows⟩
  obtain ⟨packets, hsent, hpayloads⟩ := outflow.sent_sendAll pieces
  refine ⟨rfl, hshows, packets, ?_, hpayloads⟩
  rw [hshows.sent, hsent, h.sent]

/-- A chip whose second socket is connected, with pointers close to their end and with bytes staged
that were never sent. -/
def Chip.connected : Chip :=
  (((Chip.new none).setPointers 1 0xFFFE 0).setStatus 1 .established).setWordOf .txWrite 1 3

/-- The second socket of such a chip. -/
def Outflow.connected : Outflow where
  socket := 1
  shown := SocketStatus.established.raw
  destination := (Chip.connected.stagedPacket 1).destination
  destinationPort := Chip.connected.wordOf .peerPort 1
  timesOut := false
  sent := []

/-- A device with such a chip, where the driver has flags of earlier transmissions. -/
def Device.connected : Device Board :=
  ⟨(Board.new none ⟨none, .off⟩).withChip Chip.connected,
    Controller.new.mapSticky (·.recordSocket 1 SocketFlag.sendEnd)⟩

theorem Outflow.shows_connected : Outflow.connected.Shows Device.connected := by
  have hword {r : SocketRegister} (hw : r.width = 2) (hr : SocketRegister.txWrite ≠ r) :
      Chip.connected.wordOf r 1 = ((Chip.new none).setPointers 1 0xFFFE 0).wordOf r 1 := by
    have hstatus : SocketRegister.status ≠ r := by
      rintro rfl
      cases hw
    rw [Chip.connected, Chip.wordOf_setWordOf _ _ _ _ rfl hw, if_neg (fun h => hr h.1),
      Chip.setStatus, Chip.wordOf_setByteOf _ _ _ _ hw hstatus]
  have hread := (hword (r := .txRead) rfl (by decide)).trans
    ((Chip.new none).wordOf_setPointers 1 1 0xFFFE 0 rfl)
  have hfree := (hword (r := .txFree) rfl (by decide)).trans
    ((Chip.new none).wordOf_setPointers 1 1 0xFFFE 0 rfl)
  have hlatch : Chip.connected.latches[(1 : SocketId)] =
      { (Chip.new none).latches[(1 : SocketId)] with txWrite := 0xFFFE, rxRead := 0 } := by
    simp only [Chip.connected, Chip.setStatus, Chip.setPointers, Chip.latches_setWordOf,
      Chip.latches_setByteOf, Chip.latches_mapLatch_self]
  have hnew : (Chip.new none).Silent := ⟨rfl, rfl, rfl⟩
  have hchip : Device.connected.chip = Chip.connected := rfl
  refine ⟨fun hhooked => absurd hhooked Bool.false_ne_true, ?_, ?_, ?_, ?_, ?_, ?_, ?_, ?_⟩ <;>
    simp only [hchip, Outflow.connected]
  · refine (hnew.of_casing ?_).visited
    rw [Chip.connected, Chip.casing_setWordOf, Chip.casing_setStatus, Chip.casing_setPointers]
  · exact (congrArg SocketLatch.txWrite hlatch).trans hread.symm
  · exact hfree
  · rw [Chip.connected, Chip.byteOf_setWordOf _ _ _ _ rfl (by decide), Chip.setStatus,
      Chip.byteOf_setByteOf, if_pos ⟨rfl, rfl⟩]
  · exact congrArg SocketLatch.timesOut hlatch
  · simp only [Chip.connected, Chip.setStatus, Chip.setPointers, Chip.setByteOf, Chip.setWordOf,
      Chip.mapLatch]
    rfl

theorem stream_sent_in_order_connected :
    Ends ([[1, 2], [], [3]].mapM fun data => (send 1 data).run) Device.connected
      fun answers device' => answers = [.ok 2, .ok 0, .ok 1] ∧
        ∃ packets : List SentPacket, device'.chip.sent = Device.connected.chip.sent ++ packets ∧
          packets.flatMap (·.payload) = [1, 2, 3] := by
  refine ((stream_sent_in_order Outflow.shows_connected).2 [[1, 2], [], [3]]).mono ?_
  rintro answers device' ⟨rfl, -, hpackets⟩
  exact ⟨rfl, hpackets⟩

end SpiEthernet
