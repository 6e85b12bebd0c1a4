import SpiEthernet.Proofs.Dns.Borrowing
import SpiEthernet.Proofs.Dns.Encoding
import SpiEthernet.Proofs.Dns.Polling

/-!
# Asking and waiting

A resolver borrows a socket, sends one query over it, waits for a reply and gives the socket back.
Whatever arrives, and whichever way this ends, the socket is free again afterwards, and of the
others nothing was touched. If the query was sent, the datagrams that have arrived since the socket
was opened decide, as `Waits` says.

* `converse_ensures` : asking and waiting over a channel.
* `ask_ensures` : the same with the socket borrowed and given back.
-/

namespace SpiEthernet

open Dns Timepiece

section Resolving

variable {σ τ : Type} [Host σ] [Wired σ] [Timepiece τ]

/-! ## Waiting meanwhile -/

/-- Between two states of a device a resolver waited, while a socket was used: when it began to
wait, the datagrams were those that had been there in the first state and those that had arrived by
then. -/
def Attends (s : SocketId) (server : Ipv4) (query : PendingQuery) (clock : τ) (start : Device σ)
    (queue : List Datagram) (result : Resolution) (final : τ) (now : Device σ) : Prop :=
  ∃ (channel : Channel) (asked ended : Device σ) (o o' : List Occurrence),
    (Wired.endpoint start.board).Passes (Frame.Uses s) o (Wired.endpoint asked.board) ∧
    Waits s server query clock channel asked (queue ++ arrivals s o) result final ended ∧
    (Wired.endpoint ended.board).Passes (Frame.Uses s) o' (Wired.endpoint now.board)

namespace Attends

variable {s : SocketId} {server : Ipv4} {query : PendingQuery} {clock final : τ}
  {start middle now : Device σ} {o : List Occurrence} {queue : List Datagram} {result : Resolution}

theorem after
    (hpasses : (Wired.endpoint start.board).Passes (Frame.Uses s) o (Wired.endpoint middle.board))
    (h : Attends s server query clock middle (queue ++ arrivals s o) result final now) :
    Attends s server query clock start queue result final now := by
  obtain ⟨channel, asked, ended, o1, o2, hbefore, hwaits, hbehind⟩ := h
  rw [List.append_assoc, ← arrivals_append] at hwaits
  exact ⟨channel, asked, ended, _, o2, hpasses.trans hbefore, hwaits, hbehind⟩

theorem before (h : Attends s server query clock start queue result final middle)
    (hpasses : (Wired.endpoint middle.board).Passes (Frame.Uses s) o (Wired.endpoint now.board)) :
    Attends s server query clock start queue result final now := by
  obtain ⟨channel, asked, ended, o1, o2, hbefore, hwaits, hbehind⟩ := h
  exact ⟨channel, asked, ended, o1, _, hbefore, hwaits, hbehind.trans hpasses⟩

/-- The datagrams that have arrived in the end decide. -/
theorem decided (h : Attends s server query clock start queue result final now) :
    ∃ o, (Wired.endpoint start.board).Passes (Frame.Uses s) o (Wired.endpoint now.board) ∧
      Decided server query clock (queue ++ arrivals s o) result final := by
  obtain ⟨channel, asked, ended, o1, o3, hbefore, hwaits, hbehind⟩ := h
  obtain ⟨o2, hpasses, hdecided⟩ := hwaits.decided
  have huses := (hbefore.trans (hpasses.mono fun _ hf => hf.uses)).trans hbehind
  refine ⟨_, huses, ?_⟩
  rw [arrivals_append, arrivals_append, ← List.append_assoc, ← List.append_assoc]
  exact hdecided.append _

end Attends

namespace Habit

variable {H : Habit σ} {server : Ipv4} {query : PendingQuery} {packet : List UInt8} {clock : τ}
  {channel : Channel} {outlet : Outlet} {device : Device σ}

/-! ## Over a channel -/

/-- Receiving on a socket uses the socket, and sends nothing. -/
theorem Walked.uses {s : SocketId} {now : Device σ} (hH : H.Calm) (hok : H.ok device.board)
    (h : H.Walked (H.ReceivesOn s) device now) :
    H.Tended (Frame.Uses s) s device now ∧ now.chip.sent = device.chip.sent := by
  have hreceives {frame : Frame} (hf : H.ReceivesOn s frame) : frame.IsReceivingOn s :=
    hf.resolve_right (hH.between frame)
  obtain ⟨o, hpasses⟩ := h.passes
  exact ⟨h.tended hok (fun _ hf => (hreceives hf).uses) fun _ hf => (hreceives hf).tends,
    hpasses.sent (fun _ hf => (hreceives hf).isReceiving.isLocal) (H.steady hok)⟩

/-- A wait is over, with whatever was remarked before and afterwards. -/
structure Attended (H : Habit σ) (server : Ipv4) (query : PendingQuery) (clock : τ)
    (channel : Channel) (device : Device σ) (r : (Resolution × τ) × Channel)
    (device' : Device σ) : Prop where
  socket : r.2.socket = channel.socket
  tended : H.Tended (Frame.Uses channel.socket) channel.socket device device'
  sent : device'.chip.sent = device.chip.sent
  awaits (inbox : Inbox) (h : inbox.Shows H channel.socket channel device) :
    Attends channel.socket server query clock device inbox.queue r.1.1 r.1.2 device'

/-- Waiting with remarks around it. -/
theorem attend_ensures (hH : H.Calm) (hok : H.ok device.board) (before : Notice)
    (behind : Resolution → Notice) :
    Ensures (query.Expires clock (readingsUntil clock query.deadline))
      ((do
        untimed (remark before)
        let result ← awaitReply server query
        untimed (remark (behind result))
        return result : TimedM τ σ Resolution) clock channel) device
      (H.Attended server query clock channel device) := by
  have hshown (inbox : Inbox) (hshows : inbox.Shows H channel.socket channel device) :=
    Inbox.remark_shows hshows before
  refine Ensures.untimed_bind
    (Ends.and_all (Listens.remark before channel device hok) hshown) ?_
  rintro _ c1 d1 ⟨⟨hsocket1, hwalked1⟩, hshows1⟩
  refine Ensures.timed_bind (awaitReply_ensures hH hwalked1.ok) ?_
  rintro result final c2 d2 ⟨hsocket2, hwalked2, hwaits⟩
  refine Ensures.untimed_bind (Listens.remark (behind result) c2 d2 hwalked2.ok) ?_
  rintro _ c3 d3 ⟨hsocket3, hwalked3⟩
  rw [hsocket1] at hsocket2 hwalked2 hwaits
  rw [hsocket2] at hsocket3 hwalked3
  obtain ⟨htended1, hsent1⟩ := hwalked1.uses hH hok
  obtain ⟨htended2, hsent2⟩ := hwalked2.uses hH hwalked1.ok
  obtain ⟨htended3, hsent3⟩ := hwalked3.uses hH hwalked2.ok
  refine (Ends.pure ⟨hsocket3, (htended1.trans htended2).trans htended3,
    hsent3.trans (hsent2.trans hsent1), fun inbox hshows => ?_⟩).ensures
  obtain ⟨o1, hd1, hshows1⟩ := hshows1 inbox hshows
  obtain ⟨o1', hpasses1, -⟩ := htended1.moves
  obtain ⟨o3, hpasses3, -⟩ := htended3.moves
  obtain rfl : o1 = o1' := hd1.passes.occurrencesSince.symm.trans hpasses1.occurrencesSince
  exact ⟨c1, d1, d2, o1, o3, hpasses1, hwaits _ hshows1, hpasses3⟩

/-- A query was sent and the datagrams decided, or its transmission timed out and nothing was
sent. -/
structure Conversed (H : Habit σ) (server : Ipv4) (query : PendingQuery) (packet : List UInt8)
    (clock : τ) (channel : Channel) (device : Device σ) (r : (Resolution × τ) × Channel)
    (device' : Device σ) : Prop where
  socket : r.2.socket = channel.socket
  tended : H.Tended (Frame.Uses channel.socket) channel.socket device device'
  outcome : (r.1.1 = .error .sendFailed ∧ device'.chip.sent = device.chip.sent ∧
      ¬device.chip.Reaches) ∨
    (device'.chip.sent = device.chip.sent ++ [⟨channel.socket, server, dnsPort, packet⟩] ∧
      ∀ inbox : Inbox, inbox.Shows H channel.socket channel device →
        Attends channel.socket server query clock device inbox.queue r.1.1 r.1.2 device')

theorem converse_ensures (hH : H.Calm) (hblank : outlet.IsBlank)
    (hoffers : H.Offers channel.socket outlet device) (hserver : server ≠ Ipv4.unspecified)
    (hpacket : packet ≠ []) (hfits : packet.length ≤ 2048) :
    Ensures (query.Expires clock (readingsUntil clock query.deadline))
      (converse server query packet clock channel) device
      (H.Conversed server query packet clock channel device) := by
  refine Ensures.untimed_bind (sendQuery_asks hH hblank hoffers hserver hpacket hfits) ?_
  rintro answer c1 d1 ⟨hsocket, htended, hsent, hreaches, hshows⟩
  dsimp only at hsocket hsent hreaches
  have huses := htended.mono fun _ => Frame.IsSending.uses
  cases answer with
  | error cause =>
    refine (Ends.untimed_bind (Listens.remark _ c1 d1 htended.ok) ?_).ensures
    rintro _ c2 d2 ⟨hsocket', hwalked⟩
    rw [hsocket] at hsocket' hwalked
    obtain ⟨htended', hsent'⟩ := hwalked.uses hH htended.ok
    refine Ends.pure ⟨hsocket', huses.trans htended', .inl ⟨rfl, ?_, fun h => nomatch hreaches h⟩⟩
    exact hsent'.trans (hsent.trans (List.append_nil _))
  | ok _ =>
    refine (attend_ensures hH htended.ok _ _).mono ?_
    rintro r d2 ⟨hsocket', htended', hsent', hawaits⟩
    rw [hsocket] at hsocket' htended' hawaits
    refine ⟨hsocket', huses.trans htended', .inr ⟨hsent'.trans hsent, fun inbox h => ?_⟩⟩
    obtain ⟨inbox', hshows', hqueue⟩ := hshows h
    obtain ⟨o, hpasses, -⟩ := huses.moves
    rw [hpasses.occurrencesSince] at hqueue
    exact .after hpasses (hqueue ▸ hawaits inbox' hshows')

/-! ## On a borrowed socket -/

/-- A socket that is given back is used to that end, and nothing is sent. -/
theorem close_gives_back {s : SocketId} (hH : H.Calm) (hok : H.ok device.board) :
    Ends (close s) device fun _ device' => device'.Released s ∧
      H.Tended (Frame.Uses s) s device device' ∧ device'.chip.sent = device.chip.sent := by
  have hcloses : Succeeds (H.Tended (Frame.Uses s) s device) (close s) :=
    close_tends hH fun _ hf => hf
  have hreleases := close_releases hok ((hH.visited hok).statusStays s)
  refine ((hcloses device (.refl hok)).and (hreleases.and (H.close_ends hok s))).mono ?_
  rintro _ device' ⟨htended, hreleased, hcame⟩
  obtain ⟨o, hpasses⟩ := hcame.passes
  exact ⟨hreleased, htended, hpasses.sent (fun _ => id) (H.steady hok)⟩

/-- A socket was lent to a resolver and has been given back. -/
structure Lent (H : Habit σ) (server : Ipv4) (query : PendingQuery) (packet : List UInt8)
    (clock : τ) (s : SocketId) (start : Device σ) (r : Resolution × τ) (now : Device σ) :
    Prop where
  released : now.Released s
  tended : H.Tended (Frame.Concerns s) s start now
  outcome : (r.1 = .error .sendFailed ∧ now.chip.sent = start.chip.sent ∧ ¬start.chip.Reaches) ∨
    (now.chip.sent = start.chip.sent ++ [⟨s, server, dnsPort, packet⟩] ∧
      ((∀ scheduled ∈ start.chip.queue, scheduled.event.suits s .udp) → ∃ opening,
        ∃ opened : Device σ,
        (Wired.endpoint start.board).Opens s opening (Wired.endpoint opened.board) ∧
        Attends s server query clock opened
          (arrivals s ((Wired.endpoint opened.board).occurrencesSince opening)) r.1 r.2 now))

theorem useChannel_ensures {s : SocketId} {start : Device σ} (hH : H.Calm)
    (hok : H.ok start.board) (h : H.Borrowed s start device) (port : UInt16)
    (hserver : server ≠ Ipv4.unspecified) (hpacket : packet ≠ []) (hfits : packet.length ≤ 2048) :
    Ensures (query.Expires clock (readingsUntil clock query.deadline))
      ((Channel.fresh s port).useChannel ((converse server query packet).run clock)) device
      (H.Lent server query packet clock s start) := by
  obtain ⟨opening, hopens, -⟩ := h.opened.opening
  obtain ⟨outlet, hblank, hsent, hchip⟩ := hopens.offers (H.steady hok)
  have hoffers : H.Offers s outlet device := ⟨h.opened.ok, hchip⟩
  have hlent : device.chip.sent = start.chip.sent := hchip.sent.trans hsent
  have hconverses : Ensures (query.Expires clock (readingsUntil clock query.deadline))
      (converse server query packet clock (.fresh s port)) device
      (H.Conversed server query packet clock (.fresh s port) device) :=
    converse_ensures hH hblank hoffers hserver hpacket hfits
  refine Ensures.bind hconverses ?_
  rintro ⟨⟨result, final⟩, channel⟩ d1 ⟨hsocket, htended, houtcome⟩
  obtain rfl : channel.socket = s := hsocket
  refine (Ends.bind (close_gives_back hH htended.ok) ?_).ensures
  rintro _ d2 ⟨hreleased, htended', hsent'⟩
  have huses := htended.trans htended'
  refine Ends.pure ⟨hreleased, h.tended.trans (huses.mono fun _ hf => hf.concerns), ?_⟩
  rw [hsent', ← hlent]
  refine houtcome.imp (fun ⟨hfailed, hsent, htimesOut⟩ => ⟨hfailed, hsent, fun hreaches =>
    htimesOut (hopens.reaches (H.steady hok) hreaches)⟩) fun ⟨hsent, hwaits⟩ =>
      ⟨hsent, fun hsuits => ?_⟩
  obtain ⟨opening, hopens, hshows⟩ := h.opened.shows hsuits port
  obtain ⟨o, hpasses, -⟩ := htended'.moves
  exact ⟨opening, device, hopens, (hwaits _ hshows).before hpasses⟩

/-- The first free socket is lent to the resolver; if there is none, the driver has only looked. -/
theorem ask_ensures (hH : H.Calm) (hok : H.ok device.board) (hserver : server ≠ Ipv4.unspecified)
    (hpacket : packet ≠ []) (hfits : packet.length ≤ 2048) :
    Ensures (query.Expires clock (readingsUntil clock query.deadline))
      (ask server query packet clock) device fun r device' =>
        match device.chip.freeSlot with
        | some s => H.Lent server query packet clock s device r device'
        | none => r = (.error .noSocket, clock) ∧ H.Walked H.Looks device device' := by
  refine Ensures.bind (begin_borrows hH hok).ensures ?_
  rintro answer d hbegun
  cases hfree : device.chip.freeSlot with
  | none =>
    rw [hfree] at hbegun
    obtain ⟨⟨cause, rfl⟩, hwalked⟩ := hbegun
    exact (Ends.pure ⟨rfl, hwalked⟩).ensures
  | some s =>
    rw [hfree] at hbegun
    obtain ⟨⟨port, rfl⟩, hborrowed⟩ := hbegun
    exact useChannel_ensures hH hok hborrowed port hserver hpacket hfits

end Habit

/-! ## Resolutions -/

/-- A resolution gets so far as to have a query to send. -/
structure Dns.Resolver.Asks (resolver : Resolver) (host : String) (packet : List UInt8) :
    Prop where
  name : Ipv4.parse? host.toUTF8.toList = none
  server : resolver.server ≠ Ipv4.unspecified
  packet : query resolver.advance.lastId host.toUTF8.toList = .ok packet

namespace Habit

variable {H : Habit σ} {device : Device σ}

/-- All ways in which a resolution can end. -/
inductive Resolves (H : Habit σ) (resolver : Resolver) (host : String) (timeout : Int) (clock : τ)
    (device : Device σ) : (Resolution × Resolver) × τ → Device σ → Prop where
  /-- The host name is an address. -/
  | address {ip : Ipv4} (h : Ipv4.parse? host.toUTF8.toList = some ip) :
    Resolves H resolver host timeout clock device ((.ok ip, resolver), clock) device
  /-- There is nobody to ask. -/
  | noServer (hname : Ipv4.parse? host.toUTF8.toList = none)
    (h : resolver.server = Ipv4.unspecified) :
    Resolves H resolver host timeout clock device ((.error .invalidServer, resolver), clock) device
  /-- There is no such name. -/
  | noName {cause : ResolveError} (hname : Ipv4.parse? host.toUTF8.toList = none)
    (hserver : resolver.server ≠ Ipv4.unspecified)
    (h : query resolver.advance.lastId host.toUTF8.toList = .error cause) :
    Resolves H resolver host timeout clock device ((.error cause, resolver.advance), next clock)
      device
  /-- There is no free socket. -/
  | noSocket {packet : List UInt8} {now : Device σ} (hasks : resolver.Asks host packet)
    (hfull : device.chip.freeSlot = none) (hwalked : H.Walked H.Looks device now) :
    Resolves H resolver host timeout clock device
      ((.error .noSocket, resolver.advance), next clock) now
  /-- The first free socket was lent to the resolver. -/
  | lent {packet : List UInt8} {s : SocketId} {now : Device σ} {result : Resolution} {final : τ}
    (hasks : resolver.Asks host packet) (hfree : device.chip.freeSlot = some s)
    (hlent : H.Lent resolver.server
      (.start resolver.advance.lastId host (shown clock) timeout) packet (next clock) s device
      (result, final) now) :
    Resolves H resolver host timeout clock device ((result, resolver.advance), final) now

/-- If there is a query to send and a free socket, the socket was lent to the resolver. -/
theorem Resolves.lent_of {resolver : Resolver} {host : String} {timeout : Int} {clock : τ}
    {packet : List UInt8} {s : SocketId} {r : (Resolution × Resolver) × τ} {now : Device σ}
    (h : H.Resolves resolver host timeout clock device r now) (hasks : resolver.Asks host packet)
    (hfree : device.chip.freeSlot = some s) : r.1.2 = resolver.advance ∧
      H.Lent resolver.server (.start resolver.advance.lastId host (shown clock) timeout) packet
        (next clock) s device (r.1.1, r.2) now := by
  cases h with
  | address h =>
    rw [hasks.name] at h
    cases h
  | noServer _ h => exact absurd h hasks.server
  | noName _ _ h =>
    rw [hasks.packet] at h
    cases h
  | noSocket _ hfull _ =>
    rw [hfree] at hfull
    cases hfull
  | lent hasks' hfree' hlent =>
    cases hasks.packet.symm.trans hasks'.packet
    cases hfree.symm.trans hfree'
    exact ⟨rfl, hlent⟩

/-- If there is a query to send and a free socket, the query leaves unless its transmission times
out. -/
theorem Resolves.sent_of_reaches {resolver : Resolver} {host : String} {timeout : Int} {clock : τ}
    {packet : List UInt8} {s : SocketId} {r : (Resolution × Resolver) × τ} {now : Device σ}
    (h : H.Resolves resolver host timeout clock device r now) (hasks : resolver.Asks host packet)
    (hfree : device.chip.freeSlot = some s) (hreaches : device.chip.Reaches) :
    now.chip.sent = device.chip.sent ++ [⟨s, resolver.server, dnsPort, packet⟩] := by
  obtain ⟨-, hlent⟩ := h.lent_of hasks hfree
  obtain ⟨-, -, hfails⟩ | ⟨hsent, -⟩ := hlent.outcome
  · exact absurd hreaches hfails
  · exact hsent

/-- With time that advances a resolution ends, and every resolution that ends does so in one of
these ways. -/
theorem resolve_ensures (hH : H.Calm) (hok : H.ok device.board) (resolver : Resolver)
    (host : String) (timeout : Int) (clock : τ) :
    Ensures (Advances clock) (resolver.resolve host timeout clock) device
      (H.Resolves resolver host timeout clock device) := by
  unfold Resolver.resolve
  dsimp only
  cases hname : Ipv4.parse? host.toUTF8.toList with
  | some ip => exact (Ends.pure (.address hname)).ensures
  | none =>
    by_cases hserver : resolver.server = Ipv4.unspecified
    · rw [if_pos hserver]
      exact (Ends.pure (.noServer hname hserver)).ensures
    rw [if_neg hserver]
    cases hquery : query resolver.advance.lastId host.toUTF8.toList with
    | error cause => exact (Ends.pure (.noName hname hserver hquery)).ensures
    | ok packet =>
      obtain ⟨hpacket, hfits⟩ := query_fits hquery
      have hasks : resolver.Asks host packet := ⟨hname, hserver, hquery⟩
      have hexpires (hadvances : Advances clock) :
          (PendingQuery.start resolver.advance.lastId host (shown clock) timeout).Expires
            (next clock) (readingsUntil (next clock) (addTime (shown clock) timeout)) := by
        obtain ⟨count, hcount, hshown⟩ := hadvances 1 _ (addTime_mem (shown clock) timeout).2
        exact ⟨count, hcount, decide_eq_true hshown⟩
      show Ensures _ ((ask resolver.server
        (.start resolver.advance.lastId host (shown clock) timeout) packet (next clock) >>= fun r =>
          Pure.pure ((r.1, resolver.advance), r.2) : DeviceM σ _)) device _
      refine Ensures.bind ((ask_ensures hH hok hserver hpacket hfits).under hexpires) ?_
      rintro ⟨result, final⟩ d hanswer
      cases hfree : device.chip.freeSlot with
      | none =>
        rw [hfree] at hanswer
        obtain ⟨hresult, hwalked⟩ := hanswer
        cases hresult
        exact (Ends.pure (.noSocket hasks hfree hwalked)).ensures
      | some s =>
        rw [hfree] at hanswer
        exact (Ends.pure (.lent hasks hfree hanswer)).ensures

end Habit

end Resolving

end SpiEthernet
