import SpiEthernet.Proofs.Dns.Waiting
import SpiEthernet.Proofs.Interrupt.Visits
import SpiEthernet.Proofs.Receive.Travel

/-!
# Polling for a reply

Every poll looks at the clock and, if there is time left, at the next datagram. Whatever is in the
ring and whatever arrives, a poll ends and does nothing but receive on the channel's socket. If the
ring holds datagrams, it does what `Waits` says.

* `pollReply_listens`, `pollReply_shows` : one look at the datagrams.
* `awaitReply_ensures` : all looks, until the wait is over.
-/

namespace SpiEthernet

open Dns Timepiece

/-! ## With the time -/

section Timed

variable {σ τ α β : Type} {clock : τ} {channel : Channel} {device : Device σ}

theorem Ends.timed_bind {m : TimedM τ σ α} {k : α → TimedM τ σ β}
    {R : (α × τ) × Channel → Device σ → Prop} {Q : (β × τ) × Channel → Device σ → Prop}
    (h : Ends (m clock channel) device R)
    (hk : ∀ a next c d, R ((a, next), c) d → Ends (k a next c) d Q) :
    Ends ((m >>= k) clock channel) device Q :=
  Ends.bind h fun r d hR => hk r.1.1 r.1.2 r.2 d hR

theorem Ensures.timed_bind {c : Prop} {m : TimedM τ σ α} {k : α → TimedM τ σ β}
    {R : (α × τ) × Channel → Device σ → Prop} {Q : (β × τ) × Channel → Device σ → Prop}
    (h : Ensures c (m clock channel) device R)
    (hk : ∀ a next ch d, R ((a, next), ch) d → Ensures c (k a next ch) d Q) :
    Ensures c ((m >>= k) clock channel) device Q :=
  Ensures.bind h fun r d hR => hk r.1.1 r.1.2 r.2 d hR

theorem Ends.untimed {m : ChannelM σ α} {Q : (α × τ) × Channel → Device σ → Prop}
    (h : Ends (m channel) device fun r d => Q ((r.1, clock), r.2) d) :
    Ends (untimed m clock channel) device Q :=
  Ends.bind h fun _ _ => Ends.pure

theorem Ends.untimed_bind {m : ChannelM σ α} {k : α → TimedM τ σ β}
    {R : α × Channel → Device σ → Prop} {Q : (β × τ) × Channel → Device σ → Prop}
    (h : Ends (m channel) device R) (hk : ∀ a ch d, R (a, ch) d → Ends (k a clock ch) d Q) :
    Ends ((Dns.untimed m >>= k) clock channel) device Q := by
  refine Ends.timed_bind (R := fun r d => r.1.2 = clock ∧ R (r.1.1, r.2) d)
    (Ends.untimed (h.mono fun _ _ hR => ⟨rfl, hR⟩)) ?_
  rintro a _ ch d ⟨rfl, hR⟩
  exact hk a ch d hR

theorem Ensures.untimed_bind {c : Prop} {m : ChannelM σ α} {k : α → TimedM τ σ β}
    {R : α × Channel → Device σ → Prop} {Q : (β × τ) × Channel → Device σ → Prop}
    (h : Ends (m channel) device R) (hk : ∀ a ch d, R (a, ch) d → Ensures c (k a clock ch) d Q) :
    Ensures c ((Dns.untimed m >>= k) clock channel) device Q := by
  refine Ensures.timed_bind (R := fun r d => r.1.2 = clock ∧ R (r.1.1, r.2) d)
    (Ends.untimed (h.mono fun _ _ hR => ⟨rfl, hR⟩)).ensures ?_
  rintro a _ ch d ⟨rfl, hR⟩
  exact hk a ch d hR

theorem Ends.readTime_bind [Timepiece τ] {k : Int → TimedM τ σ β}
    {Q : (β × τ) × Channel → Device σ → Prop}
    (h : Ends (k (shown clock) (next clock) channel) device Q) :
    Ends ((readTime >>= k) clock channel) device Q :=
  h

end Timed

section Polling

variable {σ α β : Type} [Host σ] [Wired σ]

namespace Habit

/-! ## Whatever arrives -/

/-- The computation always ends; it keeps the channel's socket and only receives on it. -/
def Listens (H : Habit σ) (action : ChannelM σ α) : Prop :=
  ∀ channel device, H.ok device.board → Ends (action channel) device fun r device' =>
    r.2.socket = channel.socket ∧ H.Walked (H.ReceivesOn channel.socket) device device'

namespace Listens

variable {H : Habit σ}

theorem pure (a : α) : H.Listens (Pure.pure a : ChannelM σ α) :=
  fun _ _ hok => Ends.pure ⟨rfl, .refl hok⟩

theorem bind {action : ChannelM σ α} {k : α → ChannelM σ β} (h : H.Listens action)
    (hk : ∀ a, H.Listens (k a)) : H.Listens (action >>= k) := by
  intro channel device hok
  refine Ends.channel_bind (h channel device hok) ?_
  rintro a middle d ⟨hsocket, hwalked⟩
  refine (hk a middle d hwalked.ok).mono ?_
  rintro r d' ⟨hsocket', hwalked'⟩
  rw [hsocket] at hsocket' hwalked'
  exact ⟨hsocket', hwalked.trans hwalked'⟩

theorem attempt {action : ChannelAttempt σ α} {k : α → ChannelAttempt σ β}
    (h : H.Listens action.run) (hk : ∀ a, H.Listens (k a).run) :
    H.Listens (action >>= k).run := by
  refine bind h ?_
  rintro (cause | a)
  · exact pure (Except.error cause)
  · exact hk a

theorem attempt_ite {c : Prop} [Decidable c] {action other : ChannelAttempt σ α}
    (h : H.Listens action.run) (h' : H.Listens other.run) :
    H.Listens (if c then action else other).run := by
  split
  · exact h
  · exact h'

theorem given {k : Channel → ChannelM σ α} (h : ∀ channel, H.Listens (k channel)) :
    H.Listens (get >>= k) :=
  fun channel => h channel channel

theorem change {f : Channel → Channel} (hsocket : ∀ channel, (f channel).socket = channel.socket) :
    H.Listens (Channel.change f : ChannelAttempt σ Unit).run :=
  fun channel _ hok => Ends.pure ⟨hsocket channel, .refl hok⟩

theorem onSocket {action : SocketId → Attempt σ α}
    (h : ∀ s, H.Travels (H.ReceivesOn s) (action s).run) :
    H.Listens (Channel.onSocket action).run :=
  fun channel device hok =>
    Ends.onSocket ((h channel.socket device hok).mono fun _ _ hwalked => ⟨rfl, hwalked⟩)

theorem remark (notice : Notice) : H.Listens (remark notice) :=
  fun _ _ hok => Ends.bind (H.note_ends hok notice) fun _ _ hw => Ends.pure ⟨rfl, hw⟩

end Listens

variable (H : Habit σ) (server : Ipv4) (id : UInt16)

theorem skipRest_listens : H.Listens (Channel.skipRest (σ := σ)).run := by
  refine Listens.given fun channel => ?_
  refine Listens.attempt_ite ?_ (Listens.pure _)
  refine Listens.attempt (Listens.onSocket fun s => Travels.sure ?_) fun _ =>
    Listens.change fun _ => rfl
  exact Travels.bind (Travels.skip H s _) fun _ => Travels.release H s

theorem parsePacket_listens : H.Listens (Channel.parsePacket (σ := σ)).run := by
  refine Listens.attempt (skipRest_listens H) fun _ => ?_
  refine Listens.attempt (Listens.onSocket (Travels.receiveHeader H)) fun header => ?_
  cases header with
  | none => exact Listens.pure _
  | some info => exact Listens.attempt (Listens.change fun _ => rfl) fun _ => Listens.pure _

theorem readPacket_listens (room : Nat) : H.Listens (Channel.readPacket (σ := σ) room).run := by
  refine Listens.given fun channel => ?_
  refine Listens.attempt_ite (Listens.pure _) ?_
  refine Listens.attempt (Listens.onSocket fun s => ?_) fun _ =>
    Listens.attempt (Listens.change fun _ => rfl) fun _ => Listens.pure _
  exact Travels.attempt (Travels.fetch H s _ false) fun _ =>
    Travels.sure_bind (Travels.release H s) fun _ => Travels.pure _

/-- One look at the datagrams ends and only receives, whatever is there to look at. -/
theorem pollReply_listens : H.Listens (pollReply (σ := σ) server id) := by
  have hjudge : H.Listens (judgePacket (σ := σ) id) := by
    refine Listens.bind (readPacket_listens H _) ?_
    rintro (cause | bytes)
    · exact Listens.pure _
    dsimp only
    cases judge bytes id with
    | wrongId | malformed => exact Listens.bind (Listens.remark _) fun _ => Listens.pure _
    | _ => exact Listens.pure _
  refine Listens.bind (parsePacket_listens H) ?_
  rintro (cause | _ | count)
  · exact Listens.pure _
  · exact Listens.pure _
  refine Listens.given fun channel => ?_
  dsimp only
  split
  · exact Listens.bind (Listens.remark _) fun _ => Listens.pure _
  · exact hjudge

end Habit

/-! ## Datagrams -/

namespace Inbox

variable {H : Habit σ} {device : Device σ} {channel : Channel} {s : SocketId} {inbox : Inbox}

/-- A remark leaves the datagrams alone that are there. -/
theorem remark_shows (h : inbox.Shows H s channel device) (notice : Notice) :
    Ends (remark notice channel) device fun r device' => ∃ o, H.Received device o device' ∧
      (inbox.accept (arrivals s o)).Shows H s r.2 device' := by
  obtain ⟨hok, hsocket, ⟨start, hholds⟩, hremaining, hremote⟩ := h
  refine Ends.bind (H.note_ends (P := H.Looks) hok notice) ?_
  rintro _ d hwalked
  obtain ⟨o, hd, hcarries⟩ := hwalked.received hholds.carries
  have hholds' := hd.holds hholds hcarries rfl
  rw [Inlet.aligned_after] at hholds'
  exact Ends.pure ⟨o, hd, hd.ok, hsocket, ⟨start, hholds'⟩, hremaining, hremote⟩

/-- An answer was given; the datagrams that were waiting still are, and so are those that have
arrived meanwhile. -/
def Gives (H : Habit σ) (s : SocketId) (inbox : Inbox) (answer : Option Resolution)
    (device : Device σ) (r : Option Resolution × Channel) (device' : Device σ) : Prop :=
  r.1 = answer ∧ ∃ o, ∃ inbox' : Inbox, H.Received device o device' ∧
    inbox'.queue = inbox.queue ++ arrivals s o ∧ inbox'.Shows H s r.2 device'

theorem Gives.after {middle : Inbox} {answer : Option Resolution} {o : List Occurrence}
    {d device' : Device σ} {r : Option Resolution × Channel} (hd : H.Received device o d)
    (hqueue : middle.queue = inbox.queue ++ arrivals s o)
    (h : middle.Gives H s answer d r device') : inbox.Gives H s answer device r device' := by
  obtain ⟨hr, o', inbox', hd', hqueue', hshows⟩ := h
  refine ⟨hr, o ++ o', inbox', hd.trans hd', ?_, hshows⟩
  rw [hqueue', hqueue, arrivals_append, List.append_assoc]

theorem return_gives (h : inbox.Shows H s channel device) {result answer : Option Resolution}
    (hresult : result = answer) :
    Ends ((return result : ChannelM σ (Option Resolution)) channel) device
      (inbox.Gives H s answer device) :=
  Ends.pure ⟨hresult, [], inbox, .refl h.ok, (List.append_nil _).symm, h⟩

theorem remark_gives (h : inbox.Shows H s channel device) (notice : Notice)
    (answer : Option Resolution) :
    Ends ((do remark notice; return answer : ChannelM σ (Option Resolution)) channel) device
      (inbox.Gives H s answer device) := by
  refine Ends.channel_bind (remark_shows h notice) ?_
  rintro _ c d ⟨o, hd, hshows⟩
  exact (return_gives hshows rfl).mono fun _ _ hgives => hgives.after hd rfl

/-- The verdict is that on the first unread bytes. -/
theorem judgePacket_gives (h : inbox.Shows H s channel device) (id : UInt16) :
    Ends (judgePacket id channel) device
      (inbox.Gives H s (judge (inbox.unread.take dnsMaxMessage) id).conclusion device) := by
  unfold judgePacket
  refine Ends.channel_bind (readPacket_ends h dnsMaxMessage) ?_
  rintro (cause | bytes) c1 d1 ⟨o1, seen, later, hd1, harrivals, hr, h1⟩
  · cases hr
  obtain rfl : bytes = inbox.unread.take dnsMaxMessage := Outcome.bytes.inj hr
  have hqueue : (((inbox.accept seen).perform (.readPacket dnsMaxMessage)).2.accept later).queue =
      inbox.queue ++ arrivals s o1 := by
    rw [harrivals, ← List.append_assoc]
    rfl
  dsimp only
  cases judge (inbox.unread.take dnsMaxMessage) id with
  | wrongId | malformed =>
    exact (remark_gives h1 _ none).mono fun _ _ hgives => hgives.after hd1 hqueue
  | resolved | failed =>
    exact (return_gives h1 rfl).mono fun _ _ hgives => hgives.after hd1 hqueue

/-- A datagram that was selected is judged by where it comes from and by its first bytes. -/
theorem judgeSelected_gives {d : Datagram} (h : inbox.Shows H s channel device)
    (hunread : inbox.unread = d.payload) (hremote : inbox.remote = (d.source, d.sourcePort))
    (server : Ipv4) (id : UInt16) :
    Ends ((do
        let (ip, sourcePort) := (← get).remote
        if ip ≠ server || sourcePort ≠ dnsPort then
          remark (.foreignDatagram ip sourcePort)
          return none
        judgePacket id : ChannelM σ (Option Resolution)) channel) device
      (inbox.Gives H s (d.settles? server id) device) := by
  refine Ends.given_bind ?_
  rw [h.remote, hremote]
  dsimp only
  have hforeign : (d.source ≠ server || d.sourcePort ≠ dnsPort) = true ↔
      ¬(d.source = server ∧ d.sourcePort = dnsPort) := by
    simp only [ne_eq, Bool.or_eq_true, decide_eq_true_eq, Decidable.not_and_iff_or_not]
  by_cases hgenuine : d.source = server ∧ d.sourcePort = dnsPort
  · rw [if_neg fun hf => hforeign.1 hf hgenuine, Datagram.settles?, if_pos hgenuine, ← hunread]
    exact judgePacket_gives h id
  · rw [if_pos (hforeign.2 hgenuine), Datagram.settles?, if_neg hgenuine]
    exact remark_gives h _ none

/-- The oldest datagram that has arrived by some moment was taken, if there is one, and the answer
is what it settles a query with. -/
def Looks (H : Habit σ) (s : SocketId) (inbox : Inbox) (server : Ipv4) (id : UInt16)
    (device : Device σ) (answer : Option Resolution) (channel' : Channel) (device' : Device σ) :
    Prop :=
  ∃ o seen later, ∃ inbox' : Inbox, H.Received device o device' ∧ arrivals s o = seen ++ later ∧
    answer = (inbox.queue ++ seen).head?.bind (·.settles? server id) ∧
    inbox'.queue = (inbox.queue ++ seen).tail ++ later ∧ inbox'.Shows H s channel' device'

/-- The answer to a datagram that was taken is the answer of the look. -/
theorem Gives.looks {middle : Inbox} {d : Device σ} {device' : Device σ} {server : Ipv4}
    {id : UInt16} {o : List Occurrence} {seen later : List Datagram}
    {r : Option Resolution × Channel} (hd : H.Received device o d)
    (harrivals : arrivals s o = seen ++ later)
    (hqueue : middle.queue = (inbox.queue ++ seen).tail ++ later)
    (h : middle.Gives H s ((inbox.queue ++ seen).head?.bind (·.settles? server id)) d r device') :
    inbox.Looks H s server id device r.1 r.2 device' := by
  obtain ⟨hr, o', inbox', hd', hqueue', hshows⟩ := h
  refine ⟨o ++ o', seen, later ++ arrivals s o', inbox', hd.trans hd', ?_, hr, ?_, hshows⟩
  · rw [arrivals_append, harrivals, List.append_assoc]
  · rw [hqueue', hqueue, List.append_assoc]

/-- A look takes the oldest datagram that has arrived by then, if there is one. -/
theorem pollReply_shows (h : inbox.Shows H s channel device) (server : Ipv4) (id : UInt16) :
    Ends (pollReply server id channel) device fun r device' =>
      inbox.Looks H s server id device r.1 r.2 device' := by
  unfold pollReply
  refine Ends.channel_bind (parsePacket_ends h) ?_
  rintro (cause | count) c d ⟨o, seen, later, hd, harrivals, hr, hshows⟩
  · -- the next datagram is looked for without failing
    cases hqueue : (inbox.accept seen).queue <;> simp only [perform, hqueue] at hr <;> cases hr
  cases hall : inbox.queue ++ seen with
  | nil =>
    have hqueue : (inbox.accept seen).queue = [] := hall
    simp only [perform, hqueue] at hr hshows
    obtain rfl : count = 0 := Outcome.number.inj hr
    have hnone : none = (inbox.queue ++ seen).head?.bind (·.settles? server id) := by
      rw [hall]
      rfl
    refine (return_gives hshows hnone).mono fun _ _ hgives => hgives.looks hd harrivals ?_
    rw [hall]
    rfl
  | cons first others =>
    have hqueue : (inbox.accept seen).queue = first :: others := hall
    simp only [perform, hqueue] at hr hshows
    obtain rfl : count = first.payload.length := Outcome.number.inj hr
    have hgiven {middle : Inbox} (hmiddle : middle.queue = others ++ later)
        (r : Option Resolution × Channel) (d' : Device σ)
        (hgives : middle.Gives H s (first.settles? server id) d r d') :
        inbox.Looks H s server id device r.1 r.2 d' := by
      have htail : middle.queue = (inbox.queue ++ seen).tail ++ later := by
        rw [hall, hmiddle, List.tail_cons]
      refine Gives.looks hd harrivals htail ?_
      rw [hall]
      exact hgives
    cases hpayload : first.payload with
    | nil =>
      have hnone := (Datagram.settles?_of_payload_nil hpayload server id).symm
      exact (return_gives hshows hnone).mono (hgiven rfl)
    | cons byte bytes => exact (judgeSelected_gives hshows rfl rfl server id).mono (hgiven rfl)

end Inbox

/-! ## Until the wait is over -/

/-- How a resolver waits with a channel on a device, poll by poll, from the datagrams that are
waiting to the result: every poll is a look at them and at those that arrive during the poll, and
only receives on the channel's socket. -/
inductive Waits {τ : Type} [Timepiece τ] (s : SocketId) (server : Ipv4) (query : PendingQuery) :
    τ → Channel → Device σ → List Datagram → Resolution → τ → Device σ → Prop where
  | again {clock final : τ} {channel channel' : Channel} {device device' ended : Device σ}
    {o : List Occurrence} {waiting left : List Datagram} {result : Resolution}
    (hpoll : pollUntilDeadline server query clock channel device =
      .ok (((none, next clock), channel'), device'))
    (hpasses : (Wired.endpoint device.board).Passes (Frame.IsReceivingOn s) o
      (Wired.endpoint device'.board))
    (hlook : Look server query clock waiting (arrivals s o) none left)
    (rest : Waits s server query (next clock) channel' device' left result final ended) :
    Waits s server query clock channel device waiting result final ended
  | last {clock : τ} {channel channel' : Channel} {device device' : Device σ}
    {o : List Occurrence} {waiting left : List Datagram} {result : Resolution}
    (hpoll : pollUntilDeadline server query clock channel device =
      .ok (((some result, next clock), channel'), device'))
    (hpasses : (Wired.endpoint device.board).Passes (Frame.IsReceivingOn s) o
      (Wired.endpoint device'.board))
    (hlook : Look server query clock waiting (arrivals s o) (some result) left) :
    Waits s server query clock channel device waiting result (next clock) device'

/-- The first datagram that settles the query decides if its turn comes before the deadline. If none
does, the wait ends when the time gets to the deadline. -/
theorem Waits.decided {τ : Type} [Timepiece τ] {s : SocketId} {server : Ipv4}
    {query : PendingQuery} {clock final : τ} {channel : Channel} {device ended : Device σ}
    {waiting : List Datagram} {result : Resolution}
    (h : Waits s server query clock channel device waiting result final ended) :
    ∃ o, (Wired.endpoint device.board).Passes (Frame.IsReceivingOn s) o
        (Wired.endpoint ended.board) ∧
      Decided server query clock (waiting ++ arrivals s o) result final := by
  induction h with
  | last _ hpasses hlook => exact ⟨_, hpasses, hlook.decided⟩
  | again _ hpasses hlook _ ih =>
    obtain ⟨o', hpasses', hrest⟩ := ih
    refine ⟨_, hpasses.trans hpasses', ?_⟩
    rw [arrivals_append]
    exact hlook.undecided hrest

namespace Habit

variable {τ : Type} [Timepiece τ] {H : Habit σ} {server : Ipv4} {query : PendingQuery} {clock : τ}
  {channel : Channel} {device : Device σ}

/-- What a poll does: it only receives on the channel's socket, and if the ring holds datagrams, it
looks at them. -/
structure Polled (H : Habit σ) (server : Ipv4) (query : PendingQuery) (clock : τ)
    (channel : Channel) (device : Device σ) (r : (Option Resolution × τ) × Channel)
    (device' : Device σ) : Prop where
  reading : r.1.2 = next clock
  socket : r.2.socket = channel.socket
  walked : H.Walked (H.ReceivesOn channel.socket) device device'
  ends (h : query.expired (shown clock)) : r.1.1 ≠ none
  looks (inbox : Inbox) (h : inbox.Shows H channel.socket channel device) : ∃ inbox' : Inbox,
    inbox'.Shows H channel.socket r.2 device' ∧ Look server query clock inbox.queue
      (arrivals channel.socket ((Wired.endpoint device'.board).occurrencesSince
        (Wired.endpoint device.board))) r.1.1 inbox'.queue

theorem poll_ends (hok : H.ok device.board) :
    Ends (pollUntilDeadline server query clock channel) device
      (H.Polled server query clock channel device) := by
  refine Ends.readTime_bind ?_
  by_cases hnow : query.expired (shown clock)
  · rw [if_pos hnow]
    have hshown (inbox : Inbox) (hshows : inbox.Shows H channel.socket channel device) :=
      Inbox.remark_shows hshows (.queryExpired query.id query.host)
    refine Ends.untimed_bind (Ends.and_all (Listens.remark _ channel device hok) hshown) ?_
    rintro _ c d ⟨⟨hsocket, hwalked⟩, hshows'⟩
    refine Ends.pure ⟨rfl, hsocket, hwalked, fun _ => nofun, fun inbox hshows => ?_⟩
    obtain ⟨o, hd, hshows'⟩ := hshows' inbox hshows
    rw [hd.passes.occurrencesSince]
    exact ⟨_, hshows', .late hnow⟩
  · rw [if_neg hnow]
    have hlooks (inbox : Inbox) (hshows : inbox.Shows H channel.socket channel device) :=
      Inbox.pollReply_shows hshows server query.id
    have hlistens := pollReply_listens H server query.id channel device hok
    refine Ends.untimed ((Ends.and_all hlistens hlooks).mono ?_)
    rintro ⟨answer, c⟩ d ⟨⟨hsocket, hwalked⟩, hlooks⟩
    refine ⟨rfl, hsocket, hwalked, fun h => absurd h hnow, fun inbox hshows => ?_⟩
    obtain ⟨o, seen, later, inbox', hd, harrivals, rfl, hqueue, hshows'⟩ := hlooks inbox hshows
    rw [hd.passes.occurrencesSince]
    refine ⟨inbox', hshows', ?_⟩
    rw [hqueue]
    exact .oldest hnow harrivals

/-- A wait is over: the driver has only received on the channel's socket, and if the ring held
datagrams, they were looked at one by one. -/
structure Waited (H : Habit σ) (server : Ipv4) (query : PendingQuery) (clock : τ)
    (channel : Channel) (device : Device σ) (r : (Resolution × τ) × Channel)
    (device' : Device σ) : Prop where
  socket : r.2.socket = channel.socket
  walked : H.Walked (H.ReceivesOn channel.socket) device device'
  waits (inbox : Inbox) (h : inbox.Shows H channel.socket channel device) :
    Waits channel.socket server query clock channel device inbox.queue r.1.1 r.1.2 device'

/-- If a reading within the bound shows the deadline, the wait comes to an end, and every wait that
comes to an end looks at one datagram after the other. -/
theorem pollWithin_ensures (hH : H.Calm) (bound : Nat) :
    ∀ {clock : τ} {channel : Channel} {device : Device σ}, H.ok device.board →
      Ensures (query.Expires clock bound)
        (pollWithin (pollUntilDeadline server query) bound clock channel) device
        (H.Waited server query clock channel device) := by
  induction bound with
  | zero =>
    intro clock channel device _
    exact ⟨fun ⟨_, hcount, _⟩ => absurd hcount (Nat.not_lt_zero _), fun hrun => nomatch hrun⟩
  | succ bound ih =>
    intro clock channel device hok
    refine Ensures.timed_bind (poll_ends hok).with_run.ensures ?_
    rintro answer _ c d ⟨hrun, hpolled⟩
    obtain rfl := hpolled.reading
    have hsocket : c.socket = channel.socket := hpolled.socket
    obtain ⟨o, hwalk⟩ := hpolled.walked.passes
    have hpasses := hwalk.mono fun frame hf => hf.resolve_right (hH.between frame)
    have hlooks := hpolled.looks
    rw [hpasses.occurrencesSince] at hlooks
    cases answer with
    | none =>
      have hnow : ¬query.expired (shown clock) := fun h => hpolled.ends h rfl
      refine ((ih hpolled.walked.ok).under fun hexpires => hexpires.next hnow).mono ?_
      rintro r d' ⟨hsocket', hwalked, hwaits⟩
      rw [hsocket] at hsocket' hwalked hwaits
      refine ⟨hsocket', hpolled.walked.trans hwalked, fun inbox hshows => ?_⟩
      obtain ⟨inbox', hshows', hlook⟩ := hlooks inbox hshows
      exact .again hrun hpasses hlook (hwaits inbox' hshows')
    | some result =>
      refine (Ends.pure ⟨hsocket, hpolled.walked, fun inbox hshows => ?_⟩).ensures
      obtain ⟨_, -, hlook⟩ := hlooks inbox hshows
      exact .last hrun hpasses hlook

/-- Waiting for a reply ends if the time gets to the deadline, and whenever it ends, the datagrams
were looked at one by one until the wait was over. -/
theorem awaitReply_ensures (hH : H.Calm) (hok : H.ok device.board) :
    Ensures (query.Expires clock (readingsUntil clock query.deadline))
      (awaitReply server query clock channel) device
      (H.Waited server query clock channel device) := by
  have hwait : awaitReply server query clock channel = (patience >>= fun polls =>
      pollWithin (pollUntilDeadline server query) (polls + readingsUntil clock query.deadline)
        clock channel : DeviceM σ ((Resolution × τ) × Channel)) := rfl
  rw [hwait]
  refine Ensures.bind (Ends.patience (Q := fun _ d => d = device) rfl).ensures ?_
  rintro polls _ rfl
  refine (pollWithin_ensures hH _ hok).under ?_
  rintro ⟨count, hcount, hexpired⟩
  exact ⟨count, Nat.lt_add_left polls hcount, hexpired⟩

end Habit

end Polling

end SpiEthernet
