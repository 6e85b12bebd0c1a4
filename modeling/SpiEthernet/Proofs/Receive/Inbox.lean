import SpiEthernet.Operation.Channel
import SpiEthernet.Proofs.Interrupt.Sharing
import SpiEthernet.Proofs.Receive.Opening

/-!
# The inbox of a channel

Seen from outside, the inbound side of a UDP channel is a queue of datagrams with the rest of one
current datagram: an inbox. Every call does to the inbox what its operation says, at one moment
between its beginning and its end; datagrams that arrive before that moment are in the queue by
then, and the others come behind. The channel's counter, the driver's pointer, what was released
and the size the chip shows are four different things that a call has to keep in step; that they
are is what `Inbox.Shows` says.

* `Inbox.perform_shows` : a call on a channel is one step of its inbox.
* `begin_refines_inbox` : so is every call of a sequence of calls on a channel that has been begun.
-/

namespace SpiEthernet

/-! ## Inboxes -/

/-- Datagrams that wait, what is unread of the current one, and where that one came from. -/
structure Inbox where
  queue : List Datagram
  unread : List UInt8
  remote : Ipv4 × UInt16

/-- An operation on the inbound side of a channel. -/
inductive InboxOperation where
  | parsePacket
  | readPacket (room : Nat)
  | peek
  | available
  | readReady
  | remote
deriving DecidableEq, Repr

/-- The operation on the channel. -/
def InboxOperation.onChannel : InboxOperation → ChannelOperation
  | parsePacket => .parsePacket
  | readPacket room => .readPacket room
  | peek => .peek
  | available => .available
  | readReady => .readReady
  | remote => .remote

namespace Inbox

/-- An inbox from which nothing has been selected. -/
def fresh (queue : List Datagram) : Inbox := ⟨queue, [], (Ipv4.unspecified, 0)⟩

/-- The inbox after datagrams have arrived. -/
def accept (inbox : Inbox) (datagrams : List Datagram) : Inbox :=
  { inbox with queue := inbox.queue ++ datagrams }

/-- The outcome of an operation on an inbox, and the inbox afterwards. -/
def perform (inbox : Inbox) : InboxOperation → Outcome × Inbox
  | .parsePacket =>
    match inbox.queue with
    | [] => (.number 0, { inbox with unread := [] })
    | d :: rest => (.number d.payload.length, ⟨rest, d.payload, (d.source, d.sourcePort)⟩)
  | .readPacket room =>
    (.bytes (inbox.unread.take room), { inbox with unread := inbox.unread.drop room })
  | .peek => (Outcome.ofOption ofByte inbox.unread.head?, inbox)
  | .available => (.number inbox.unread.length, inbox)
  | .readReady => (.flag (0 < inbox.unread.length), inbox)
  | .remote => (.endpoint inbox.remote.1 inbox.remote.2, inbox)

@[simp] theorem accept_nil (inbox : Inbox) : inbox.accept [] = inbox := by
  simp [accept]

/-- From a device on, every call of a sequence does to the inbox what its operation says, at one
moment between its beginning and its end. -/
def Follows {σ : Type} [Host σ] [Wired σ] (s : SocketId) :
    List InboxOperation → Inbox → Channel → Device σ → Prop
  | [], _, _, _ => True
  | operation :: rest, inbox, channel, device =>
    Ends (operation.onChannel.perform channel) device fun result device' => ∃ seen later,
      arrivals s ((Wired.endpoint device'.board).occurrencesSince (Wired.endpoint device.board)) =
          seen ++ later ∧
        result.1 = ((inbox.accept seen).perform operation).1 ∧
        Follows s rest (((inbox.accept seen).perform operation).2.accept later) result.2 device'

end Inbox

/-! ## Calls -/

section Calls

variable {σ : Type} [Host σ] [Wired σ] {H : Habit σ} {device : Device σ} {channel : Channel}
  {s : SocketId} {inbox : Inbox}

namespace Inbox

/-- A channel on a device shows an inbox: the ring holds its bytes and no others, and the channel
counts what is unread and remembers where it came from. -/
structure Shows (H : Habit σ) (s : SocketId) (inbox : Inbox) (channel : Channel)
    (device : Device σ) : Prop where
  ok : H.ok device.board
  socket : channel.socket = s
  stocked : device.chip.Stocked s .udp [] inbox.unread inbox.queue
  remaining : channel.remaining = inbox.unread.length
  remote : channel.remote = inbox.remote

/-- What is unread is skipped and released. -/
theorem skipRest_ends (h : inbox.Shows H s channel device) :
    Ends (Channel.skipRest.run channel) device fun r d => ∃ o channel', r = (.ok (), channel') ∧
      H.Received device o d ∧
        Shows H s ⟨inbox.queue ++ arrivals s o, [], inbox.remote⟩ channel' d := by
  obtain ⟨hok, rfl, hstocked, hremaining, hremote⟩ := h
  unfold Channel.skipRest
  refine Ends.current_bind ?_
  by_cases hrest : 0 < channel.remaining
  · rw [if_pos hrest, hremaining]
    rw [← List.append_nil inbox.unread] at hstocked
    refine Ends.socket_bind (R := fun r d => r = .ok () ∧ ∃ o, H.Received device o d ∧
      d.chip.Stocked channel.socket .udp [] [] (inbox.queue ++ arrivals channel.socket o))
      (Ends.sure ?_) ?_ ?_
    · refine Ends.bind (H.skip_stocked hok hstocked) ?_
      rintro _ d1 ⟨o1, hd1, h1⟩
      refine (H.release_stocked hd1.ok h1).mono ?_
      rintro _ d2 ⟨o2, hd2, h2⟩
      refine ⟨rfl, o1 ++ o2, hd1.trans hd2, ?_⟩
      rw [arrivals_append, ← List.append_assoc]
      exact h2
    · rintro _ d ⟨-, o, hd, hd'⟩
      exact Ends.pure ⟨o, _, rfl, hd, hd.ok, rfl, hd', rfl, hremote⟩
    · rintro _ _ ⟨hr, -⟩
      cases hr
  · have hunread : inbox.unread = [] := List.length_eq_zero_iff.1 (by omega)
    rw [if_neg hrest]
    refine Ends.pure ⟨[], channel, rfl, .refl hok, hok, rfl, ?_, ?_, hremote⟩
    · simpa [hunread] using hstocked
    · simpa [hunread] using hremaining

/-- A call has done to an inbox what its operation says, at one moment between its beginning and
its end. -/
def Steps (H : Habit σ) (s : SocketId) (inbox : Inbox) (operation : InboxOperation)
    (device : Device σ) (outcome : Outcome) (channel' : Channel) (device' : Device σ) : Prop :=
  ∃ o seen later, H.Received device o device' ∧ arrivals s o = seen ++ later ∧
    outcome = ((inbox.accept seen).perform operation).1 ∧
    (((inbox.accept seen).perform operation).2.accept later).Shows H s channel' device'

/-- If a datagram is selected, it is the oldest one; if none is, none was waiting when the rest of
the current one had been skipped. -/
theorem parsePacket_ends (h : inbox.Shows H s channel device) :
    Ends (Channel.parsePacket.run channel) device fun r d =>
      inbox.Steps H s .parsePacket device (Outcome.ofResult .number r.1) r.2 d := by
  unfold Channel.parsePacket
  refine Ends.channel_attempt (skipRest_ends h) ?_ (by rintro _ _ _ ⟨_, _, hr, -⟩; cases hr)
  rintro _ c1 d1 ⟨o1, _, hr, hd1, hok1, hsocket, hstocked1, hremaining1, hremote1⟩
  cases hr
  subst hsocket
  refine Ends.socket_bind (H.receiveHeader_ends hok1 hstocked1) ?_ ?_
  · rintro header d2 ⟨o2, hd2, ⟨hr, hnone, h2⟩ | ⟨first, rest, hr, hnext, h2⟩⟩
    · cases hr
      obtain ⟨hqueue, hearly⟩ := List.append_eq_nil_iff.1 hnone
      have hstep : (inbox.accept []).perform .parsePacket =
          (.number 0, ⟨[], [], inbox.remote⟩) := by
        simp [perform, hqueue]
      refine Ends.pure ⟨o1 ++ o2, [], arrivals c1.socket o2, hd1.trans hd2, ?_, ?_, ?_⟩
      · rw [arrivals_append, hearly]
      · rw [hstep]
        rfl
      · rw [hstep]
        rw [hnone] at h2
        exact ⟨hd2.ok, rfl, h2, hremaining1, hremote1⟩
    · cases hr
      have hseen : (inbox.accept (arrivals c1.socket (o1 ++ o2))).queue = first :: rest := by
        rw [← hnext, arrivals_append, List.append_assoc]
        rfl
      refine Ends.change_bind (Ends.pure ⟨o1 ++ o2, arrivals c1.socket (o1 ++ o2), [],
        hd1.trans hd2, (List.append_nil _).symm, ?_, ?_⟩)
      · simp only [perform, hseen]
        rfl
      · simp only [perform, hseen, accept_nil]
        exact ⟨hd2.ok, rfl, h2, Datagram.length_info _ _, rfl⟩
  · rintro _ _ ⟨_, _, ⟨hr, -⟩ | ⟨_, _, hr, -⟩⟩
    · cases hr
    · cases hr

/-- What is read are the next bytes of the current datagram. -/
theorem readPacket_ends (h : inbox.Shows H s channel device) (room : Nat) :
    Ends ((Channel.readPacket room).run channel) device fun r d =>
      inbox.Steps H s (.readPacket room) device (Outcome.ofResult .bytes r.1) r.2 d := by
  obtain ⟨hok, rfl, hstocked, hremaining, hremote⟩ := h
  have hcount : min channel.remaining room = (inbox.unread.take room).length := by
    rw [hremaining, List.length_take, Nat.min_comm]
  unfold Channel.readPacket
  refine Ends.current_bind ?_
  by_cases hnone : min channel.remaining room = 0
  · have hnothing : inbox.unread.take room = [] := by
      rw [← List.length_eq_zero_iff, ← hcount, hnone]
    have hrest : inbox.unread.drop room = inbox.unread := by
      have hall := List.take_append_drop room inbox.unread
      rwa [hnothing] at hall
    rw [if_pos hnone]
    refine Ends.pure ⟨[], [], [], .refl hok, rfl, ?_, ?_⟩
    · simp [perform, hnothing, Outcome.ofResult]
    · simp only [perform, accept_nil, hrest]
      exact ⟨hok, rfl, hstocked, hremaining, hremote⟩
  · rw [if_neg hnone, hcount]
    rw [← List.take_append_drop room inbox.unread] at hstocked
    refine Ends.socket_bind (R := fun r d => r = .ok (inbox.unread.take room) ∧
      ∃ o, H.Received device o d ∧ d.chip.Stocked channel.socket .udp [] (inbox.unread.drop room)
        (inbox.queue ++ arrivals channel.socket o)) ?_ ?_ ?_
    · refine Ends.attempt_of_ok (H.fetch_stocked hok hstocked) ?_
      rintro d1 ⟨o1, hd1, h1⟩
      refine Ends.sure_bind (H.release_stocked hd1.ok h1) ?_
      rintro _ d2 ⟨o2, hd2, h2⟩
      refine Ends.pure ⟨rfl, o1 ++ o2, hd1.trans hd2, ?_⟩
      rw [arrivals_append, ← List.append_assoc]
      exact h2
    · rintro _ d ⟨hr, o, hd, hd'⟩
      cases hr
      refine Ends.change_bind (Ends.pure ⟨o, [], arrivals channel.socket o, hd, rfl, ?_, ?_⟩)
      · simp [perform, Outcome.ofResult]
      · refine ⟨hd.ok, rfl, ?_, ?_, hremote⟩
        · simpa [perform, accept] using hd'
        · simp only [perform, accept, hremaining, List.length_drop]
          omega
    · rintro _ _ ⟨hr, -⟩
      cases hr

/-- What is looked at is the next byte of the current datagram. -/
theorem peekPacket_ends (h : inbox.Shows H s channel device) :
    Ends (Channel.peekPacket.run channel) device fun r d =>
      inbox.Steps H s .peek device (Outcome.ofResult (Outcome.ofOption ofByte) r.1) r.2 d := by
  obtain ⟨hok, rfl, hstocked, hremaining, hremote⟩ := h
  unfold Channel.peekPacket
  refine Ends.current_bind ?_
  cases hunread : inbox.unread with
  | nil =>
    have hzero : channel.remaining = 0 := by
      rw [hremaining, hunread]
      rfl
    rw [if_pos hzero]
    refine Ends.pure ⟨[], [], [], .refl hok, rfl, ?_, ?_⟩
    · simp [perform, accept, hunread, Outcome.ofResult]
    · simp only [perform, accept_nil]
      exact ⟨hok, rfl, hstocked, hremaining, hremote⟩
  | cons byte rest =>
    rw [hunread] at hremaining hstocked
    rw [if_neg (by rw [hremaining]; exact Nat.succ_ne_zero _)]
    refine Ends.onSocket ((H.peekByte_stocked hok hstocked).mono ?_)
    rintro _ d ⟨rfl, o, hd, hd'⟩
    refine ⟨o, [], arrivals channel.socket o, hd, rfl, ?_, ?_⟩
    · simp [perform, hunread, Outcome.ofResult]
    · simp only [perform, accept_nil]
      refine ⟨hd.ok, rfl, ?_, ?_, hremote⟩
      · rw [← hunread] at hd'
        exact hd'
      · rw [hremaining, ← hunread]
        rfl

/-- A call on a channel is one step of its inbox. -/
theorem perform_shows (h : inbox.Shows H s channel device) (operation : InboxOperation) :
    Ends (operation.onChannel.perform channel) device fun result device' =>
      inbox.Steps H s operation device result.1 result.2 device' := by
  cases operation with
  | parsePacket => exact Ends.attemptingOn (parsePacket_ends h)
  | readPacket room => exact Ends.attemptingOn (readPacket_ends h room)
  | peek => exact Ends.attemptingOn (peekPacket_ends h)
  | available =>
    refine Ends.looking ⟨[], [], [], .refl h.ok, rfl, ?_, ?_⟩
    · exact congrArg Outcome.number h.remaining
    · simpa [perform] using h
  | readReady =>
    refine Ends.looking ⟨[], [], [], .refl h.ok, rfl, ?_, ?_⟩
    · simp [perform, h.remaining]
    · simpa [perform] using h
  | remote =>
    refine Ends.looking ⟨[], [], [], .refl h.ok, rfl, ?_, ?_⟩
    · simp [perform, h.remote]
    · simpa [perform] using h

/-- Every call of a sequence of calls is a step of the inbox that the channel shows then. -/
theorem follows_of_shows (operations : List InboxOperation) :
    ∀ {inbox : Inbox} {channel : Channel} {device : Device σ},
      inbox.Shows H s channel device → Follows s operations inbox channel device := by
  induction operations with
  | nil => intro inbox channel device _; trivial
  | cons operation rest ih =>
    intro inbox channel device h
    refine (perform_shows h operation).mono ?_
    rintro result device' ⟨o, seen, later, hreceived, harrivals, houtcome, hshows⟩
    refine ⟨seen, later, ?_, houtcome, ih hshows⟩
    rw [hreceived.passes.occurrencesSince]
    exact harrivals

end Inbox

end Calls

/-! ## From the beginning of a channel on -/

/-- A new channel shows a new inbox, with the datagrams that have arrived since its socket was
opened. -/
theorem Habit.Opened.shows {σ : Type} [Host σ] [Wired σ] {H : Habit σ} {s : SocketId}
    {start now : Device σ} (h : H.Opened s .udp start now)
    (hsuits : ∀ scheduled ∈ start.chip.queue, scheduled.event.suits s .udp) (port : UInt16) :
    ∃ opening, (Wired.endpoint start.board).Opens s opening (Wired.endpoint now.board) ∧
      (Inbox.fresh (arrivals s ((Wired.endpoint now.board).occurrencesSince opening))).Shows H s
        (.fresh s port) now := by
  obtain ⟨opening, hopens, hstocked⟩ := h.stocked hsuits
  exact ⟨opening, hopens, h.ok, rfl, hstocked, rfl, rfl⟩

/-- Whatever arrives, and whenever, the calls on a channel that has been begun do to an inbox what
their operations say. At first the inbox holds the datagrams that have arrived since the channel's
socket was opened. -/
theorem begin_refines_inbox {device : Device Board} (hsteady : device.chip.Steady)
    (wanted : UInt16) (operations : List InboxOperation) :
    Ends (Channel.begin wanted).run device fun r device' => ∀ channel, r = .ok channel →
      (∀ scheduled ∈ device.chip.queue, scheduled.event.suits channel.socket .udp) →
        ∃ opening, (Wired.endpoint device.board).Opens channel.socket opening
            (Wired.endpoint device'.board) ∧
          Inbox.Follows channel.socket operations (Inbox.fresh (arrivals channel.socket
            ((Wired.endpoint device'.board).occurrencesSince opening))) channel device' := by
  have hok : Habit.free.ok device.board := hsteady
  refine (Habit.begin_ends hok wanted).mono ?_
  rintro r device' ⟨hchannel, -⟩ channel hr hsuits
  obtain ⟨hfresh, hopened⟩ := hchannel channel hr
  obtain ⟨opening, hopens, hshows⟩ := hopened.shows hsuits channel.localPort
  rw [← hfresh] at hshows
  exact ⟨opening, hopens, Inbox.follows_of_shows operations hshows⟩

/-- A board with a chip that has just been powered up, to which a datagram is going to arrive. -/
def Board.addressed : Board :=
  Board.pristine.withChip ((Chip.new none).schedule 15 (.udp 0 ⟨10, 0, 0, 7⟩ 53 [1, 2, 3]))

theorem Board.steady_addressed : Board.addressed.chip.Steady :=
  Chip.Steady.schedule Board.shares_pristine.steady 15 rfl

/-- A channel is begun while the datagram is on its way, and reads it in pieces. -/
theorem begin_refines_inbox_addressed :
    Ends (Channel.begin 5000).run ⟨Board.addressed, Controller.new⟩ fun r device' =>
      ∃ channel, r = .ok channel ∧ ∃ opening,
        (Wired.endpoint Board.addressed).Opens channel.socket opening
          (Wired.endpoint device'.board) ∧
        Inbox.Follows channel.socket
          [.parsePacket, .available, .readPacket 2, .peek, .remote, .parsePacket]
          (Inbox.fresh (arrivals channel.socket
            ((Wired.endpoint device'.board).occurrencesSince opening))) channel device' := by
  have hsteady : (Device.mk Board.addressed Controller.new).chip.Steady := Board.steady_addressed
  have hok : Habit.free.ok (Device.mk Board.addressed Controller.new).board := hsteady
  have hstays : ∀ s, (Device.mk Board.addressed Controller.new).chip.StatusStays s := by
    intro s scheduled hs
    rw [List.mem_singleton.1 hs]
    rfl
  have hfree : (SocketStatus.ofByte ((Device.mk Board.addressed Controller.new).chip.byteOf
      .status 0)).isReusable := by
    show (SocketStatus.ofByte ((Chip.new none).byteOf .status 0)).isReusable
    rw [Chip.byteOf_new none 0 (r := .status) rfl]
    rfl
  have hrefines := begin_refines_inbox hsteady 5000
    [.parsePacket, .available, .readPacket 2, .peek, .remote, .parsePacket]
  refine (hrefines.and (Habit.begin_ends hok 5000)).mono ?_
  rintro r device' ⟨hrefines, -, hsucceeds⟩
  obtain ⟨channel, hr⟩ := hsucceeds hstays ⟨0, hfree⟩
  refine ⟨channel, hr, hrefines channel hr fun scheduled hs => ?_⟩
  rw [List.mem_singleton.1 hs]
  simp [Event.suits, Event.delivery?, Event.datagram?]

end SpiEthernet
