import SpiEthernet.Proofs.Dns.Resolution
import SpiEthernet.Proofs.Rings.Accounts

/-!
# The end of a wait

A resolver that has sent its query takes a reading of the time before every poll, and it polls as
long as no reading shows the deadline. With a clock that moves forward the readings grow until they
stay at the end of the clock's range, and the deadline is within that range too, so there is a last
poll, whatever arrives and however much of it. How many readings there are at most depends on the
timeout and on the clock's step alone.

* `Clock.shown_after` : the readings of a clock, one after the other.
* `Watches` : a wait, poll by poll.
* `resolve_until_deadline` : a resolution that has sent its query ends at its deadline and not
  before.
-/

namespace SpiEthernet

namespace Dns

open Timepiece

/-! ## The readings of a clock -/

namespace Clock

variable {clock : Clock}

/-- A clock that moves forward adds its step with every reading until it gets to the end of its
range, where it stays. -/
theorem shown_after (hstep : 0 ≤ clock.step) (low : -0x8000000000000000 ≤ clock.now)
    (high : clock.now ≤ 0x7FFFFFFFFFFFFFFF) (count : Nat) :
    shown (after count clock) = clampTime (clock.now + count * clock.step) := by
  induction count generalizing clock with
  | zero =>
    show clock.now = _
    rw [Int.natCast_zero, Int.zero_mul, Int.add_zero, clampTime_of_mem low high]
  | succ count ih =>
    obtain ⟨hlow, hhigh⟩ := addTime_mem clock.now clock.step
    have hrest : 0 ≤ (count : Int) * clock.step := Int.mul_nonneg (Int.natCast_nonneg _) hstep
    refine (@ih clock.read.2 hstep hlow hhigh).trans ?_
    show clampTime (addTime clock.now clock.step + count * clock.step) = _
    rw [Int.natCast_succ, Int.add_mul, Int.one_mul]
    simp only [addTime, clampTime]
    omega

/-- If none of the readings but the last one has come to a time, there are no more of them than
steps up to that time. -/
theorem readings_le (hstep : 1 ≤ clock.step) {timeout : Int} {count : Nat}
    (hbefore : ∀ i < count, shown (after i (next clock)) < addTime clock.now timeout) :
    (count + 1 : Int) ≤ max 1 ((timeout + clock.step - 1) / clock.step) := by
  cases count with
  | zero => exact Int.le_max_left _ _
  | succ count =>
    obtain ⟨low, high⟩ := addTime_mem clock.now clock.step
    have hnext : (next clock).step = clock.step := rfl
    have hlast := hbefore count (Nat.lt_succ_self count)
    rw [@shown_after (next clock) (by omega) low high, hnext] at hlast
    have hrest : 0 ≤ (count : Int) * clock.step :=
      Int.mul_nonneg (Int.natCast_nonneg _) (by omega)
    -- what has not come to the end of the range has not been cut to it
    have hless : clock.step + count * clock.step < timeout := by
      have hshown : (next clock).now = addTime clock.now clock.step := rfl
      rw [hshown] at hlast
      simp only [addTime, clampTime] at hlast
      omega
    have hmul : ((count + 1 : Nat) + 1 : Int) * clock.step ≤ timeout + clock.step - 1 := by
      rw [Int.natCast_succ, Int.add_mul, Int.add_mul, Int.one_mul]
      omega
    exact Int.le_trans (Int.le_ediv_of_mul_le (by omega) hmul) (Int.le_max_right _ _)

end Clock

end Dns

open Dns Timepiece

/-! ## One look after the other -/

namespace Dns

theorem judgeBody_conclusion_ne_timeout (questions answers : UInt16) (body : List UInt8) :
    (judgeBody questions answers body).conclusion ≠ some (.error .timeout) := by
  unfold judgeBody
  split <;> nofun

/-- No packet says that the time is over. -/
theorem judge_conclusion_ne_timeout (packet : List UInt8) (id : UInt16) :
    (judge packet id).conclusion ≠ some (.error .timeout) := by
  unfold judge
  split
  · iterate 4 (split; · nofun)
    exact judgeBody_conclusion_ne_timeout _ _ _
  · nofun

end Dns

/-- Where the last part of a computation leads from anywhere, the whole computation leads. -/
theorem Leads.of_last {σ α β : Type} {m : ChannelM σ α} {k : α → ChannelM σ β} {channel : Channel}
    {I : Device σ → Prop} {Q : β × Channel → Device σ → Prop}
    (h : ∀ a c, Leads (fun _ => True) (k a c) Q) : Leads I ((m >>= k) channel) Q := by
  show Leads I (m channel >>= fun r => k r.1 r.2) Q
  exact Leads.bind (R := fun _ _ => True) (fun _ _ _ _ _ => trivial) fun r => h r.1 r.2

/-- So no poll does. -/
theorem pollReply_ne_timeout {σ : Type} [Host σ] (server : Ipv4) (id : UInt16) (channel : Channel) :
    Leads (fun _ => True) (pollReply (σ := σ) server id channel)
      fun r _ => r.1 ≠ some (.error .timeout) := by
  have hnone (c : Channel) : Leads (fun _ => True)
      ((return none : ChannelM σ (Option Resolution)) c)
      fun r _ => r.1 ≠ some (.error .timeout) := Leads.pure fun _ _ => nofun
  have hjudge (c : Channel) : Leads (fun _ => True) (judgePacket (σ := σ) id c)
      fun r _ => r.1 ≠ some (.error .timeout) := by
    refine Leads.of_last ?_
    rintro (cause | bytes) c
    · exact hnone c
    have hverdict := judge_conclusion_ne_timeout bytes id
    dsimp only
    cases hjudged : judge bytes id with
    | wrongId | malformed => exact Leads.of_last fun _ => hnone
    | resolved | failed =>
      rw [hjudged] at hverdict
      exact Leads.pure fun _ _ => hverdict
  refine Leads.of_last ?_
  rintro (cause | _ | size) c
  · exact hnone c
  · exact hnone c
  show Leads _ ((if c.remote.1 ≠ server || c.remote.2 ≠ dnsPort then _ else _ :
    ChannelM σ (Option Resolution)) c) _
  split
  · exact Leads.of_last fun _ => hnone
  · exact hjudge c

section Watching

variable {σ τ : Type} [Host σ] [Wired σ] [Timepiece τ]

/-- How a resolver waits with a channel on a device. It takes a reading before every poll, and a
reading that shows the deadline is not followed by a poll: nothing but a remark is left to be made
then. The number is that of the readings before the last one. -/
inductive Watches (server : Ipv4) (query : PendingQuery) :
    Nat → τ → Channel → Device σ → Resolution → Channel → Device σ → Prop where
  | expired {clock : τ} {channel : Channel} {device ended : Device σ}
    (htime : query.expired (shown clock))
    (hremark : remark (.queryExpired query.id query.host) channel device =
      .ok (((), channel), ended))
    (hlink : Wired.endpoint ended.board = Wired.endpoint device.board)
    (hcontroller : ended.controller = device.controller) :
    Watches server query 0 clock channel device (.error .timeout) channel ended
  | settled {clock : τ} {channel channel' : Channel} {device ended : Device σ}
    {result : Resolution} (htime : ¬query.expired (shown clock))
    (hpoll : pollReply server query.id channel device = .ok ((some result, channel'), ended))
    (hresult : result ≠ .error .timeout) :
    Watches server query 0 clock channel device result channel' ended
  | pending {count : Nat} {clock : τ} {channel channel' final : Channel}
    {device device' ended : Device σ} {result : Resolution}
    (htime : ¬query.expired (shown clock))
    (hpoll : pollReply server query.id channel device = .ok ((none, channel'), device'))
    (rest : Watches server query count (next clock) channel' device' result final ended) :
    Watches server query (count + 1) clock channel device result final ended

namespace Watches

variable {server : Ipv4} {query : PendingQuery} {count : Nat} {clock : τ}
  {channel final : Channel} {device ended : Device σ} {result : Resolution}

/-- No reading but the last one shows the deadline. -/
theorem not_expired (h : Watches server query count clock channel device result final ended) :
    ∀ i < count, ¬query.expired (shown (after i clock)) := by
  induction h with
  | expired | settled => exact fun i hi => absurd hi (Nat.not_lt_zero i)
  | pending htime _ _ ih =>
    rintro (_ | i) hi
    · exact htime
    · exact ih i (Nat.lt_of_succ_lt_succ hi)

/-- The wait ends without a result if and only if the last reading shows the deadline. -/
theorem timeout_iff (h : Watches server query count clock channel device result final ended) :
    result = .error .timeout ↔ query.expired (shown (after count clock)) := by
  induction h with
  | expired htime => exact iff_of_true rfl htime
  | settled htime _ hresult => exact iff_of_false hresult htime
  | pending _ _ _ ih => exact ih

end Watches

namespace Habit

variable (H : Habit σ) {server : Ipv4} {query : PendingQuery} {clock : τ} {channel : Channel}
  {device : Device σ}

/-- A remark leaves everything but the journal as it is. -/
theorem remark_ends (hok : H.ok device.board) (notice : Notice) :
    Ends (remark notice channel) device fun r device' =>
      remark notice channel device = .ok (((), channel), device') ∧ r.2 = channel ∧
        H.ok device'.board ∧ Wired.endpoint device'.board = Wired.endpoint device.board ∧
        device'.controller = device.controller := by
  have hnote : Ends (note notice) device _ := Ends.onLink (H.record notice hok)
  have hremark : Ends (remark notice channel) device fun r device' => r = ((), channel) ∧
      H.ok device'.board ∧ Wired.endpoint device'.board = Wired.endpoint device.board ∧
      device'.controller = device.controller :=
    Ends.bind hnote fun _ _ ⟨⟨hok', hsame, _⟩, hcontroller⟩ =>
      Ends.pure ⟨rfl, hok', hsame, hcontroller⟩
  refine hremark.with_run.mono ?_
  rintro _ device' ⟨hrun, rfl, hstays⟩
  exact ⟨hrun, rfl, hstays⟩

/-- A reading that shows the deadline ends the wait. -/
theorem pollUntilDeadline_expired (hok : H.ok device.board) (htime : query.expired (shown clock)) :
    Ends (pollUntilDeadline server query clock channel) device fun r ended =>
      ∃ result, r = ((some result, next clock), channel) ∧ H.ok ended.board ∧
        Watches server query 0 clock channel device result channel ended := by
  refine Ends.readTime_bind ?_
  rw [if_pos htime]
  refine Ends.untimed_bind (H.remark_ends hok _) ?_
  rintro _ _ ended ⟨hrun, rfl, hok', hlink, hcontroller⟩
  exact Ends.pure ⟨_, rfl, hok', .expired htime hrun hlink hcontroller⟩

/-- Any other reading is followed by a poll, which does not report the deadline itself. -/
theorem pollUntilDeadline_polls (hok : H.ok device.board) (htime : ¬query.expired (shown clock)) :
    Ends (pollUntilDeadline server query clock channel) device fun r device' =>
      r.1.2 = next clock ∧ H.ok device'.board ∧ r.1.1 ≠ some (.error .timeout) ∧
        pollReply server query.id channel device = .ok ((r.1.1, r.2), device') := by
  refine Ends.readTime_bind ?_
  rw [if_neg htime]
  have hlistens := pollReply_listens H server query.id channel device hok
  refine Ends.untimed (hlistens.with_run.mono ?_)
  rintro r device' ⟨hrun, -, hwalked⟩
  have hresult := pollReply_ne_timeout server query.id channel device r device' trivial hrun
  exact ⟨rfl, hwalked.ok, hresult, hrun⟩

/-- If one of the readings shows the deadline, the wait ends, and the clock has been read once more
than there were polls without a result. -/
theorem pollWithin_watches (bound : Nat) : ∀ {clock : τ} {channel : Channel} {device : Device σ},
    H.ok device.board → query.Expires clock bound →
      Ends (pollWithin (pollUntilDeadline server query) bound clock channel) device
        fun r ended => H.ok ended.board ∧ ∃ count, r.1.2 = after (count + 1) clock ∧
          Watches server query count clock channel device r.1.1 r.2 ended := by
  induction bound with
  | zero =>
    rintro clock channel device - ⟨_, hcount, -⟩
    exact absurd hcount (Nat.not_lt_zero _)
  | succ bound ih =>
    intro clock channel device hok hexpires
    by_cases htime : query.expired (shown clock)
    · refine Ends.timed_bind (H.pollUntilDeadline_expired hok htime) ?_
      rintro _ _ c ended ⟨result, heq, hok', hwatches⟩
      cases heq
      exact Ends.pure ⟨hok', 0, rfl, hwatches⟩
    · refine Ends.timed_bind (H.pollUntilDeadline_polls hok htime) ?_
      rintro answer _ c device' ⟨rfl, hok', hresult, hpoll⟩
      cases answer with
      | some result =>
        refine Ends.pure ⟨hok', 0, rfl, .settled htime hpoll fun hresult' => ?_⟩
        exact hresult (congrArg some hresult')
      | none =>
        refine (ih hok' (hexpires.next htime)).mono ?_
        rintro r ended ⟨hended, count, hclock, hrest⟩
        exact ⟨hended, count + 1, hclock, .pending htime hpoll hrest⟩

theorem awaitReply_watches (hok : H.ok device.board)
    (hexpires : query.Expires clock (readingsUntil clock query.deadline)) :
    Ends (awaitReply server query clock channel) device
      fun r ended => H.ok ended.board ∧ ∃ count, r.1.2 = after (count + 1) clock ∧
        Watches server query count clock channel device r.1.1 r.2 ended := by
  have hwait : awaitReply server query clock channel = (patience >>= fun polls =>
      pollWithin (pollUntilDeadline server query) (polls + readingsUntil clock query.deadline)
        clock channel : DeviceM σ ((Resolution × τ) × Channel)) := rfl
  rw [hwait]
  refine Ends.bind (Ends.patience (Q := fun _ d => d = device) rfl) ?_
  rintro polls _ rfl
  obtain ⟨count, hcount, hexpired⟩ := hexpires
  exact H.pollWithin_watches _ hok ⟨count, Nat.lt_add_left polls hcount, hexpired⟩

end Habit

end Watching

/-! ## Queries that are sent -/

/-- A device on which a query has just been sent, over a channel that was opened for it. -/
structure Dns.Sent {σ : Type} [Host σ] (server : Ipv4) (packet : List UInt8) (device : Device σ)
    (channel : Channel) (asked : Device σ) : Prop where
  run : ∃ opened fresh, (Channel.begin 0).run device = .ok (.ok fresh, opened) ∧
    (sendQuery server packet).run fresh opened = .ok ((.ok (), channel), asked)

/-- No frame takes the chip of a board away, nor does anything that happens behind it. -/
theorem Board.robust_steady : Robust Frame.IsHarmless fun board : Board => board.chip.Steady :=
  Board.robust_of_chip (J := Chip.Steady) (fun _ hf => (Frame.IsQuiet.isRoutine hf).harmless)
    (fun _ => id) (fun _ frame h _ => (h.serve frame).afterFrame) fun _ h =>
      ⟨h.present, h.ordinary⟩

theorem Dns.Sent.steady {server : Ipv4} {packet : List UInt8} {device asked : Device Board}
    {channel : Channel} (h : Sent server packet device channel asked)
    (hsteady : device.chip.Steady) : asked.chip.Steady := by
  obtain ⟨opened, fresh, hbegin, hsend⟩ := h.run
  have hopened := Board.robust_steady.routine.begin
    (fun s => (Board.robust_steady.withstands s).opening) 0 _ _ _ hsteady hbegin
  exact Board.robust_steady.serves.sendQuery server packet fresh _ _ _ hopened hsend

/-- A query is sent if there is a free socket and no transmission times out. -/
theorem Dns.Sent.of_reaches {server : Ipv4} {packet : List UInt8} {device : Device Board}
    {s : SocketId} (hundisturbed : device.board.Undisturbed) (hvisited : device.chip.Visited)
    (hreaches : device.chip.Reaches) (hfree : device.chip.freeSlot = some s)
    (hserver : server ≠ Ipv4.unspecified) (hpacket : packet ≠ []) (hfits : packet.length ≤ 2048) :
    ∃ channel asked, Sent server packet device channel asked := by
  have hok : Habit.visited.ok device.board := ⟨hundisturbed, hvisited⟩
  have hsteady := Habit.visited.steady hok
  obtain ⟨r, opened, hbegin, hborrowed⟩ := Habit.begin_borrows Habit.visited_calm hok
  rw [hfree] at hborrowed
  obtain ⟨⟨port, rfl⟩, hborrowed⟩ := hborrowed
  obtain ⟨opening, hopens, -⟩ := hborrowed.opened.opening
  obtain ⟨outlet, hblank, -, hchip⟩ := hopens.offers hsteady
  have hoffers : Habit.visited.Offers (Channel.fresh s port).socket outlet opened :=
    ⟨hborrowed.opened.ok, hchip⟩
  have htimely : outlet.timesOut = false :=
    hchip.timesOut.symm.trans (hopens.reaches hsteady hreaches s)
  obtain ⟨⟨answer, channel⟩, asked, hsend, hsent⟩ :=
    Habit.sendQuery_transmits Habit.visited_calm hblank hoffers hserver hpacket hfits
  rw [htimely, if_neg Bool.false_ne_true] at hsent
  obtain ⟨rfl, -⟩ := hsent
  exact ⟨channel, asked, ⟨opened, _, hbegin, hsend⟩⟩

/-! ## Resolutions -/

/-- What a wait with a clock comes to: the readings that are taken, and what the last one shows. -/
structure Dns.WaitedUntil (server : Ipv4) (query : PendingQuery) (clock : Clock) (channel : Channel)
    (device : Device Board) (count : Nat) (r : Resolution × Clock) (final : Channel)
    (ended : Device Board) : Prop where
  run : awaitReply server query clock channel device = .ok ((r, final), ended)
  watches : Watches server query count clock channel device r.1 final ended
  readings : r.2 = after (count + 1) clock
  before : ∀ i < count, shown (after i clock) < query.deadline
  timeout_iff : r.1 = .error .timeout ↔ query.deadline ≤ shown (after count clock)

theorem awaitReply_until {server : Ipv4} {id : UInt16} {host : String} {timeout : Int}
    {clock : Clock} (hstep : 1 ≤ clock.step) {channel : Channel} {device : Device Board}
    (hsteady : device.chip.Steady) :
    Ends (awaitReply server (.start id host clock.now timeout) (next clock) channel) device
      fun r ended => ended.chip.Steady ∧ ∃ count,
        WaitedUntil server (.start id host clock.now timeout) (next clock) channel device count
          r.1 r.2 ended := by
  have hexpires : (PendingQuery.start id host clock.now timeout).Expires (next clock)
      (readingsUntil (next clock) (addTime clock.now timeout)) := by
    obtain ⟨count, hcount, hshown⟩ :=
      Clock.advances (show 0 < clock.step by omega) 1 _ (addTime_mem clock.now timeout).2
    exact ⟨count, hcount, decide_eq_true hshown⟩
  have hok : Habit.free.ok device.board := hsteady
  refine (Habit.free.awaitReply_watches hok hexpires).with_run.mono ?_
  rintro ⟨⟨result, last⟩, final⟩ ended ⟨hrun, hended, count, hreadings, hwatches⟩
  refine ⟨hended, count, hrun, hwatches, hreadings, fun i hi => ?_, ?_⟩
  · exact Int.not_le.1 fun hle => hwatches.not_expired i hi (decide_eq_true hle)
  · exact hwatches.timeout_iff.trans decide_eq_true_iff

/-- What happens behind a query that was sent: the wait, with a remark before it and one behind it,
and the socket is given back. -/
def Dns.Awaited (server : Ipv4) (query : PendingQuery) (clock : Clock) (channel : Channel)
    (asked : Device Board) (count : Nat) (r : Resolution × Clock) (ended : Device Board) : Prop :=
  ∃ waiting final stopped reported,
    remark (.querySent query.id query.host server) channel asked = .ok (((), channel), waiting) ∧
    WaitedUntil server query clock channel waiting count r final stopped ∧
    remark (outcomeNotice query.host r.1) final stopped = .ok (((), final), reported) ∧
    close final.socket reported = .ok ((), ended)

theorem converse_until {server : Ipv4} {id : UInt16} {host : String} {timeout : Int}
    {packet : List UInt8} {clock : Clock} (hstep : 1 ≤ clock.step) {fresh channel : Channel}
    {opened asked : Device Board} (hasked : asked.chip.Steady)
    (hsend : (sendQuery server packet).run fresh opened = .ok ((.ok (), channel), asked)) :
    Ends (converse server (.start id host clock.now timeout) packet (next clock) fresh) opened
      fun r reported => reported.chip.Steady ∧ ∃ waiting count stopped,
        remark (.querySent id host server) channel asked = .ok (((), channel), waiting) ∧
        WaitedUntil server (.start id host clock.now timeout) (next clock) channel waiting count
          r.1 r.2 stopped ∧
        remark (outcomeNotice host r.1.1) r.2 stopped = .ok (((), r.2), reported) := by
  refine Ends.untimed_bind (R := fun r d => r = (.ok (), channel) ∧ d = asked)
    ⟨_, _, hsend, rfl, rfl⟩ ?_
  rintro _ _ _ ⟨hr, rfl⟩
  cases hr
  refine Ends.untimed_bind (Habit.free.remark_ends hasked _) ?_
  rintro _ _ waiting ⟨hsaid, rfl, hwaiting, -⟩
  refine Ends.timed_bind (awaitReply_until hstep hwaiting) ?_
  rintro result last final stopped ⟨hstopped, count, hwaited⟩
  refine Ends.untimed_bind (Habit.free.remark_ends hstopped _) ?_
  rintro _ _ reported ⟨hreported, rfl, hsteady, -⟩
  exact Ends.pure ⟨hsteady, waiting, count, stopped, hsaid, hwaited, hreported⟩

theorem ask_until {server : Ipv4} {id : UInt16} {host : String} {timeout : Int}
    {packet : List UInt8} {clock : Clock} (hstep : 1 ≤ clock.step) {channel : Channel}
    {device asked : Device Board} (hsteady : device.chip.Steady)
    (hsent : Sent server packet device channel asked) :
    Ends (ask server (.start id host clock.now timeout) packet (next clock)) device fun r ended =>
      ∃ count, Awaited server (.start id host clock.now timeout) (next clock) channel asked count
        r ended := by
  obtain ⟨opened, fresh, hbegin, hsend⟩ := hsent.run
  refine Ends.bind (R := fun r d => r = .ok fresh ∧ d = opened) ⟨_, _, hbegin, rfl, rfl⟩ ?_
  rintro _ _ ⟨rfl, rfl⟩
  refine Ends.bind (converse_until hstep (hsent.steady hsteady) hsend) ?_
  rintro ⟨r, final⟩ reported ⟨hreported, waiting, count, stopped, hsaid, hwaited, hrun⟩
  refine Ends.bind (Habit.free.close_ends hreported final.socket).with_run ?_
  rintro _ ended ⟨hclosed, -⟩
  exact Ends.pure ⟨count, waiting, final, stopped, reported, hsaid, hwaited, hrun, hclosed⟩

/-- A resolution that has sent its query ends at its deadline and not before, whatever happens to
the chip meanwhile and whatever the timeout is. The deadline lies as far behind the reading with
which the query was made as the clock's range permits. The clock is read once before every poll, at
most as often as it takes whole steps to pass the timeout, and at least once. The result is a
timeout if and only if the last reading shows the deadline; no earlier reading does, and no datagram
is looked at behind it. No sum of times leaves the clock's range. -/
theorem resolve_until_deadline {clock : Clock} (hstep : 1 ≤ clock.step) {device : Device Board}
    (hsteady : device.chip.Steady) {resolver : Resolver} {host : String} {packet : List UInt8}
    (hasks : resolver.Asks host packet) {channel : Channel} {asked : Device Board}
    (hsent : Sent resolver.server packet device channel asked) (timeout : Int) :
    Ends (resolver.resolve host timeout clock) device fun r ended =>
      ∃ count, Awaited resolver.server
          ⟨resolver.advance.lastId, host, clampTime (clock.now + timeout)⟩ (next clock) channel
          asked count (r.1.1, r.2) ended ∧
        (count + 1 : Int) ≤ max 1 ((timeout + clock.step - 1) / clock.step) ∧
        ∀ i, shown (after i (next clock)) =
          clampTime (clampTime (clock.now + clock.step) + i * clock.step) := by
  unfold Resolver.resolve
  dsimp only
  rw [hasks.name, if_neg hasks.server, hasks.packet]
  show Ends ((ask resolver.server (.start resolver.advance.lastId host clock.now timeout) packet
    (next clock) >>= fun r => Pure.pure ((r.1, resolver.advance), r.2) : DeviceM Board _)) device _
  refine Ends.bind (ask_until hstep hsteady hsent) ?_
  rintro r ended ⟨count, hawaited⟩
  obtain ⟨low, high⟩ := addTime_mem clock.now clock.step
  obtain ⟨_, _, _, _, -, hwaited, -⟩ := id hawaited
  refine Ends.pure ⟨count, hawaited, Clock.readings_le hstep hwaited.before, fun i => ?_⟩
  exact @Clock.shown_after (next clock) (Int.le_trans (by decide) hstep) low high i

/-- The query for the addresses of a host with a short name. -/
def shortQuery : List UInt8 :=
  [0, 42, 1, 0, 0, 1, 0, 0, 0, 0, 0, 0] ++ [1, 97, 1, 98, 0] ++ [0, 1, 0, 1]

theorem Dns.Resolver.asks_short : Resolver.Asks ⟨⟨10, 0, 0, 7⟩, 41⟩ "a.b" shortQuery := by
  have hlabels : labels? "a.b".toUTF8.toList = some [[97], [98]] := by decide +kernel
  refine ⟨by decide +kernel, by decide, ?_⟩
  rw [query, hlabels]
  rfl

theorem resolve_until_deadline_answering : ∃ channel asked,
    Sent ⟨10, 0, 0, 7⟩ shortQuery Device.answering channel asked ∧
    Ends (Resolver.resolve ⟨⟨10, 0, 0, 7⟩, 41⟩ "a.b" 100 (⟨0, 30⟩ : Clock)) Device.answering
      fun r ended => ∃ count, Awaited ⟨10, 0, 0, 7⟩ ⟨42, "a.b", 100⟩ (⟨30, 30⟩ : Clock) channel
          asked count (r.1.1, r.2) ended ∧ count < 4 := by
  obtain ⟨hundisturbed, hvisited⟩ := Device.visited_answering
  obtain ⟨channel, asked, hsent⟩ : ∃ channel asked,
      Sent ⟨10, 0, 0, 7⟩ shortQuery Device.answering channel asked :=
    Sent.of_reaches hundisturbed hvisited Device.reaches_answering Device.freeSlot_answering
      (by decide) (by decide) (by decide)
  have hsteady : Device.answering.chip.Steady := Habit.visited.steady ⟨hundisturbed, hvisited⟩
  refine ⟨channel, asked, hsent, ?_⟩
  refine (resolve_until_deadline (show 1 ≤ (⟨0, 30⟩ : Clock).step by decide) hsteady
    Dns.Resolver.asks_short hsent 100).mono ?_
  rintro r ended ⟨count, hawaited, hcount, -⟩
  have hlimit : (count + 1 : Int) ≤ 4 := hcount
  exact ⟨count, hawaited, by omega⟩

end SpiEthernet
