import SpiEthernet.Proofs.Receive.Pointer
import SpiEthernet.Proofs.Send.Draft

/-!
# One datagram after the other

A datagram is built piece by piece on a channel, or handed over as a whole; in both cases it leaves
as one packet that holds what fitted of it, and the next one begins with nothing staged. An outbox
says what the calls answer and what has left, without rings and pointers.

* `datagrams_sent_as_built` : whatever is sent on a channel, in whatever pieces, goes out as the
  outbox says.
-/

namespace SpiEthernet

/-! ## Datagrams to be sent -/

/-- How the data of a datagram are handed over. -/
inductive Parcel where
  /-- Piece by piece, on the channel. -/
  | pieces (chunks : List (List UInt8))
  /-- In one go, on the channel's socket. -/
  | whole (data : List UInt8)
deriving DecidableEq, Repr

/-- A datagram that is to be sent. -/
structure Dispatch where
  ip : Ipv4
  destinationPort : UInt16
  parcel : Parcel
  /-- Whether the chip is set to time the transmission out. -/
  timesOut : Bool
deriving DecidableEq, Repr

namespace Dispatch

/-- The datagram names somebody to send it to. -/
def IsAddressed (dispatch : Dispatch) : Prop :=
  dispatch.ip ≠ Ipv4.unspecified ∧ dispatch.destinationPort ≠ 0

/-- Sets whether the chip times a socket's transmissions out. -/
def setTimeout (s : SocketId) (timesOut : Bool) : LinkM Board Unit :=
  Board.onChip (modify (·.mapLatch s fun latch => { latch with timesOut }))

/-- The calls that send a datagram. -/
def perform (dispatch : Dispatch) : ChannelM Board (List Outcome) := do
  let channel ← get
  StateT.lift (onLink (setTimeout channel.socket dispatch.timesOut))
  match dispatch.parcel with
  | .pieces chunks =>
    (ChannelOperation.beginPacket dispatch.ip dispatch.destinationPort ::
      (chunks.map .writePacket ++ [.endPacket])).mapM ChannelOperation.perform
  | .whole data => do
    let outcome ← StateT.lift
      ((SocketOperation.sendTo data dispatch.ip dispatch.destinationPort).perform channel.socket)
    return [outcome]

end Dispatch

/-- The outlet when it has been set where a datagram is to go, and whether it is to time out. -/
def Outlet.address (outlet : Outlet) (dispatch : Dispatch) : Outlet :=
  { outlet with
    destination := dispatch.ip
    destinationPort := dispatch.destinationPort
    timesOut := dispatch.timesOut }

/-! ## Outboxes -/

/-- The sending side of a socket between two datagrams: the room for the next one, and what has
left the chip. -/
structure Outbox where
  socket : SocketId
  room : Nat
  sent : List SentPacket
deriving DecidableEq, Repr

namespace Outbox

/-- The outbox when a packet has left, or has been given up. -/
def dispatched (outbox : Outbox) (dispatch : Dispatch) (payload : List UInt8) : Outbox :=
  { outbox with
    room := 2048
    sent := if dispatch.timesOut then outbox.sent else
      outbox.sent ++ [⟨outbox.socket, dispatch.ip, dispatch.destinationPort, payload⟩] }

/-- What the calls that send a datagram answer, and the outbox behind them. -/
def perform (outbox : Outbox) (dispatch : Dispatch) : List Outcome × Outbox :=
  match dispatch.parcel with
  | .pieces chunks =>
    (.done :: (writeOutcomes outbox.room chunks ++
        [if dispatch.timesOut then .failed .sendTimeout else .done]),
      outbox.dispatched dispatch (chunks.flatten.take outbox.room))
  | .whole data =>
    if outbox.room < data.length then
      ([.failed (.insufficientSpace data.length outbox.room)], outbox)
    else
      ([if dispatch.timesOut then .failed .sendTimeout else .number data.length],
        outbox.dispatched dispatch data)

/-- What the calls answer that send datagrams one after the other, and the outbox behind them. -/
def performAll (outbox : Outbox) : List Dispatch → List (List Outcome) × Outbox
  | [] => ([], outbox)
  | dispatch :: rest =>
    let (outcomes, outbox) := outbox.perform dispatch
    let (more, outbox) := outbox.performAll rest
    (outcomes :: more, outbox)

/-- A channel on a device shows an outbox: nothing is staged on its socket, wherever the pointers
are, and nothing happens to the chip by itself. -/
structure Shows (outbox : Outbox) (channel : Channel) (device : Device Board) : Prop where
  undisturbed : device.board.Undisturbed
  silent : device.chip.Silent
  socket : channel.socket = outbox.socket
  latch : device.chip.latches[outbox.socket].txWrite = device.chip.wordOf .txRead outbox.socket
  pointer : device.chip.wordOf .txWrite outbox.socket = device.chip.wordOf .txRead outbox.socket
  room : (device.chip.wordOf .txFree outbox.socket).toNat = outbox.room
  fits : outbox.room ≤ 2048
  sent : device.chip.sent = outbox.sent

variable {outbox : Outbox} {channel : Channel} {device : Device Board} {outlet : Outlet}
  {dispatch : Dispatch}

/-- Nothing is staged in an outlet, whose room and whose packets are those of the outbox. -/
structure Empties (outbox : Outbox) (outlet : Outlet) : Prop where
  pointer : outlet.pointer = outlet.start
  bytes : outlet.bytes = []
  room : outlet.free.toNat = outbox.room
  sent : outlet.sent = outbox.sent

theorem Empties.sound (h : outbox.Empties outlet) : outlet.Sound := by
  rw [Outlet.Sound, h.pointer, UInt16.sub_self]
  exact Nat.zero_le _

theorem Empties.payload_draft (h : outbox.Empties outlet) {content : List UInt8}
    (hfits : content.length ≤ 2048) : (outlet.draft content).payload = content := by
  rw [(outlet.payload_draft content hfits h.sound).2]
  cases content with
  | nil =>
    show outlet.bytes.take _ = []
    rw [h.bytes, List.take_nil]
  | cons => rfl

/-- Where a channel shows an outbox, nothing is staged behind the pointers as they are. -/
theorem Shows.offers (h : outbox.Shows channel device) :
    ∃ outlet, outbox.Empties outlet ∧ Habit.alone.Offers outbox.socket outlet device :=
  ⟨{ start := device.chip.wordOf .txRead outbox.socket
     pointer := device.chip.wordOf .txRead outbox.socket
     free := device.chip.wordOf .txFree outbox.socket
     bytes := []
     destination := (device.chip.stagedPacket outbox.socket).destination
     destinationPort := device.chip.wordOf .peerPort outbox.socket
     timesOut := device.chip.latches[outbox.socket].timesOut
     sent := outbox.sent },
    ⟨rfl, rfl, h.room, rfl⟩, ⟨h.undisturbed, h.silent⟩,
    { steady := h.silent.steady, latch := h.latch, timesOut := rfl, start := rfl,
      pointer := h.pointer, free := rfl, fits := Nat.zero_le _,
      ring := fun i hi => absurd hi (Nat.not_lt_zero i), destination := rfl,
      destinationPort := rfl, sent := h.sent }⟩

theorem Empties.shows (h : outbox.Empties outlet)
    (hoffers : Habit.alone.Offers outbox.socket outlet device)
    (hsocket : channel.socket = outbox.socket) (hfits : outbox.room ≤ 2048) :
    outbox.Shows channel device where
  undisturbed := hoffers.ok.1
  silent := hoffers.ok.2
  socket := hsocket
  latch := hoffers.chip.latch.trans hoffers.chip.start.symm
  pointer := hoffers.chip.pointer.trans (h.pointer.trans hoffers.chip.start.symm)
  room := (congrArg UInt16.toNat hoffers.chip.free).trans h.room
  fits := hfits
  sent := hoffers.chip.sent.trans h.sent

/-! ## One datagram -/

/-- The chip may be set to time transmissions out, or not to, at any time. -/
theorem setTimeout_ends {s : SocketId} (h : Habit.alone.Offers s outlet device)
    (timesOut : Bool) :
    Ends (onLink (Dispatch.setTimeout s timesOut)) device fun _ device' =>
      Habit.alone.Offers s { outlet with timesOut } device' := by
  refine (Ends.onLink (Board.onChip_ends rfl)).mono ?_
  rintro _ ⟨_, _⟩ ⟨rfl, rfl⟩
  have hsilent : (device.chip.mapLatch s fun latch => { latch with timesOut }).Silent :=
    h.ok.2.of_casing (Chip.casing_mapLatch _ _ _)
  refine ⟨⟨h.ok.1, hsilent⟩, { h.chip with
    steady := hsilent.steady
    latch := ?_
    timesOut := ?_ }⟩
  · exact (congrArg SocketLatch.txWrite (Chip.latches_mapLatch_self _ _ _)).trans h.chip.latch
  · exact congrArg SocketLatch.timesOut (Chip.latches_mapLatch_self _ _ _)

theorem Empties.address (h : outbox.Empties outlet) (dispatch : Dispatch) :
    outbox.Empties (outlet.address dispatch) :=
  ⟨h.pointer, h.bytes, h.room, h.sent⟩

/-- Behind a datagram nothing is staged. -/
theorem Empties.dispatched (h : outbox.Empties outlet) {content : List UInt8}
    (hfits : content.length ≤ 2048) (hsocket : channel.socket = outbox.socket)
    (hoffers : Habit.alone.Offers outbox.socket
      (((outlet.address dispatch).draft content).transmitted outbox.socket) device) :
    (outbox.dispatched dispatch content).Shows channel device := by
  refine Empties.shows ⟨rfl, rfl, rfl, ?_⟩ hoffers hsocket (Nat.le_refl _)
  have hpayload := (h.address dispatch).payload_draft hfits
  have hsent := h.sent
  have hsame : ((outlet.address dispatch).draft content) = { outlet.address dispatch with
    pointer := ((outlet.address dispatch).draft content).pointer
    bytes := ((outlet.address dispatch).draft content).bytes } := by
    cases content <;> rfl
  unfold Outlet.transmitted
  rw [hpayload, hsame]
  simp only [Outlet.address, Outbox.dispatched, hsent]

/-- The pieces of a datagram are written, and the datagram is ended. -/
theorem pieces_ends {chunks : List (List UInt8)} (h : outbox.Empties outlet)
    (hfits : outbox.room ≤ 2048) (hdrafts : Channel.Drafts Habit.alone (outlet.address dispatch) []
      outbox.socket channel device) :
    Ends ((chunks.map ChannelOperation.writePacket ++ [ChannelOperation.endPacket]).mapM
        ChannelOperation.perform channel) device fun r device' =>
        r.1 = writeOutcomes outbox.room chunks ++
            [if dispatch.timesOut then .failed .sendTimeout else .done] ∧
          (outbox.dispatched dispatch (chunks.flatten.take outbox.room)).Shows r.2 device' := by
  have hroom : (outlet.address dispatch).free.toNat = outbox.room := h.room
  have hchunks := Channel.writeChunks_ends (s := outbox.socket) (by rw [hroom]; exact hfits)
    chunks hdrafts
  rw [hroom] at hchunks
  refine Ends.mapM_append hchunks ?_
  rintro _ channel' d ⟨rfl, hd⟩
  have hlength : (chunks.flatten.take outbox.room).length ≤ 2048 :=
    Nat.le_trans (List.length_take_le _ _) hfits
  refine Ends.mapM_cons (R := fun r d =>
    r.1 = (if dispatch.timesOut then .failed .sendTimeout else .done) ∧
      (outbox.dispatched dispatch (chunks.flatten.take outbox.room)).Shows r.2 d)
    (Ends.attemptingOn ((Channel.endPacket_ends Habit.alone_calm hd (by rw [hroom]; exact hfits)
      (h.address dispatch).sound).mono ?_)) ?_
  · rintro ⟨_, channel''⟩ d' ⟨rfl, hsocket, hd'⟩
    refine ⟨?_, h.dispatched hlength hsocket hd'⟩
    show Outcome.ofResult quietly (if dispatch.timesOut then _ else _) = _
    cases dispatch.timesOut <;> rfl
  · rintro _ channel'' d' ⟨rfl, hd'⟩
    exact Ends.pure ⟨rfl, hd'⟩

/-- Data that are handed over as a whole are refused if they do not fit. -/
theorem whole_ends (data : List UInt8) (h : outbox.Empties outlet) (hfits : outbox.room ≤ 2048)
    (hdispatch : dispatch.IsAddressed) (hsocket : channel.socket = outbox.socket)
    (hoffers : Habit.alone.Offers outbox.socket { outlet with timesOut := dispatch.timesOut }
      device) :
    Ends ((SocketOperation.sendTo data dispatch.ip dispatch.destinationPort).perform outbox.socket)
      device fun outcome device' =>
        if outbox.room < data.length then
          outcome = .failed (.insufficientSpace data.length outbox.room) ∧
            outbox.Shows channel device'
        else outcome = (if dispatch.timesOut then .failed .sendTimeout else .number data.length) ∧
          (outbox.dispatched dispatch data).Shows channel device' := by
  have hroom : outlet.free.toNat = outbox.room := h.room
  refine Ends.bind (Habit.sendTo_ends Habit.alone_calm hoffers data hdispatch.1 hdispatch.2
    (by rw [hroom]; exact hfits) h.sound) ?_
  rintro r d hd
  dsimp only at hd
  rw [hroom] at hd
  by_cases hlarge : outbox.room < data.length
  · simp only [if_pos hlarge] at hd ⊢
    obtain ⟨rfl, hd⟩ := hd
    exact Ends.pure ⟨rfl, (h.address dispatch).shows hd hsocket hfits⟩
  · simp only [if_neg hlarge] at hd ⊢
    obtain ⟨rfl, hd⟩ := hd
    refine Ends.pure ⟨?_, h.dispatched (by omega) hsocket hd⟩
    cases dispatch.timesOut <;> rfl

/-- Sending a datagram does to the outbox what it says. -/
theorem perform_ends (h : outbox.Shows channel device) (hdispatch : dispatch.IsAddressed) :
    Ends (dispatch.perform channel) device fun r device' =>
      r.1 = (outbox.perform dispatch).1 ∧ (outbox.perform dispatch).2.Shows r.2 device' := by
  have hsocket := h.socket
  have hfits := h.fits
  obtain ⟨outlet, hempties, hoffers⟩ := h.offers
  have hroom := hempties.room
  rw [← hsocket] at hoffers
  unfold Dispatch.perform Outbox.perform
  refine Ends.given_bind (Ends.lift_bind (setTimeout_ends hoffers dispatch.timesOut) ?_)
  rintro _ d1 h1
  cases dispatch.parcel with
  | pieces chunks =>
    refine Ends.mapM_cons (Ends.attemptingOn (Q := fun r d => r.1 = .done ∧
      Channel.Drafts Habit.alone (outlet.address dispatch) [] outbox.socket r.2 d) ?_) ?_
    · rw [← hsocket]
      refine (Channel.beginPacket_ends rfl h1 hdispatch.1 hdispatch.2).mono ?_
      rintro ⟨_, channel'⟩ d ⟨rfl, hd⟩
      exact ⟨rfl, hd⟩
    rintro _ channel1 d2 ⟨rfl, h2⟩
    refine (pieces_ends hempties hfits h2).mono ?_
    rintro ⟨outcomes, channel2⟩ d3 ⟨rfl, h3⟩
    exact ⟨rfl, h3⟩
  | whole data =>
    rw [hsocket] at h1 ⊢
    refine Ends.lift_bind (whole_ends data hempties hfits hdispatch hsocket h1) ?_
    rintro outcome d2 h2
    by_cases hlarge : outbox.room < data.length
    · simp only [if_pos hlarge] at h2 ⊢
      obtain ⟨rfl, h2⟩ := h2
      exact Ends.pure ⟨rfl, h2⟩
    · simp only [if_neg hlarge] at h2 ⊢
      obtain ⟨rfl, h2⟩ := h2
      exact Ends.pure ⟨rfl, h2⟩

theorem performAll_ends {dispatches : List Dispatch} :
    ∀ {outbox : Outbox} {channel : Channel} {device : Device Board},
      outbox.Shows channel device → (∀ dispatch ∈ dispatches, dispatch.IsAddressed) →
        Ends (dispatches.mapM Dispatch.perform channel) device fun r device' =>
          r.1 = (outbox.performAll dispatches).1 ∧
            (outbox.performAll dispatches).2.Shows r.2 device' := by
  induction dispatches with
  | nil => exact fun h _ => Ends.pure ⟨rfl, h⟩
  | cons dispatch rest ih =>
    intro outbox channel device h hall
    refine Ends.mapM_cons (perform_ends h (hall dispatch List.mem_cons_self)) ?_
    rintro _ channel' d ⟨rfl, hd⟩
    refine (ih hd fun other hother => hall other (List.mem_cons_of_mem _ hother)).mono ?_
    rintro ⟨outcomes, channel''⟩ d' ⟨rfl, hd'⟩
    exact ⟨rfl, hd'⟩

end Outbox

/-- Whatever is sent on a channel with nothing staged, in whatever pieces and however often, the
calls answer what the outbox says, and what has left the chip is what the outbox says: one packet
for every datagram that did not time out, with what fitted of its data. Afterwards nothing is
staged. -/
theorem datagrams_sent_as_built {outbox : Outbox} {channel : Channel} {device : Device Board}
    (h : outbox.Shows channel device) (dispatches : List Dispatch)
    (haddressed : ∀ dispatch ∈ dispatches, dispatch.IsAddressed) :
    Ends (dispatches.mapM Dispatch.perform channel) device fun r device' =>
      r.1 = (outbox.performAll dispatches).1 ∧ (outbox.performAll dispatches).2.Shows r.2 device' :=
  Outbox.performAll_ends h haddressed

/-- A board whose handler is not connected, where the pointers of the second socket are close to
their end. -/
def Board.posting : Board :=
  (Board.new none ⟨none, .off⟩).withChip ((Chip.new none).setPointers 1 0xFFFE 0)

theorem Board.shows_posting :
    Outbox.Shows ⟨1, 2048, []⟩ (.fresh 1 5000) ⟨Board.posting, Controller.new⟩ := by
  have hread := (Chip.new none).wordOf_setPointers 1 1 0xFFFE 0 (r := .txRead) rfl
  have hwrite := (Chip.new none).wordOf_setPointers 1 1 0xFFFE 0 (r := .txWrite) rfl
  have hfree := (Chip.new none).wordOf_setPointers 1 1 0xFFFE 0 (r := .txFree) rfl
  rw [if_pos rfl] at hread hwrite hfree
  have hnew : (Chip.new none).Silent := ⟨rfl, rfl, rfl⟩
  have hsent : ((Chip.new none).setPointers 1 0xFFFE 0).sent = [] := by
    simp only [Chip.setPointers, Chip.setWordOf, Chip.mapLatch]
    rfl
  refine ⟨fun hhooked => absurd hhooked Bool.false_ne_true,
    hnew.of_casing (Chip.casing_setPointers _ 1 _ _), rfl, ?_, ?_, ?_, Nat.le_refl _, hsent⟩
  · refine Eq.trans ?_ hread.symm
    show (Chip.setPointers _ 1 0xFFFE 0).latches[(1 : SocketId)].txWrite = 0xFFFE
    simp only [Chip.setPointers, Chip.latches_setWordOf, Chip.latches_mapLatch_self]
  · exact hwrite.trans hread.symm
  · exact congrArg UInt16.toNat hfree

theorem datagrams_sent_as_built_posting :
    Ends ([⟨⟨10, 0, 0, 7⟩, 53, .pieces [[1, 2], [], [3]], false⟩,
        ⟨⟨10, 0, 0, 8⟩, 53, .whole [4, 5], true⟩].mapM Dispatch.perform (.fresh 1 5000))
      ⟨Board.posting, Controller.new⟩ fun r device' =>
        r.1 = [[.done, .number 2, .number 0, .number 1, .done], [.failed .sendTimeout]] ∧
          Outbox.Shows ⟨1, 2048, [⟨1, ⟨10, 0, 0, 7⟩, 53, [1, 2, 3]⟩]⟩ r.2 device' :=
  datagrams_sent_as_built Board.shows_posting _ (by
    simp only [List.mem_cons, List.not_mem_nil, or_false, forall_eq_or_imp, forall_eq,
      Dispatch.IsAddressed]
    decide)

end SpiEthernet
