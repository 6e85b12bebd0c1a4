import SpiEthernet.Proofs.Rings.Accounts
import SpiEthernet.Proofs.Send.Datagram

/-!
# Datagrams that were given up

Beginning a datagram only counts its bytes anew: the chip's pointer stays behind whatever was staged
before, until the first byte that is staged moves it back. So nothing of a datagram that was given
up is left in the next one if that has any bytes, and all of it leaves in its place if it has none.
This is so whatever happens meanwhile, since nothing that happens touches the transmit side of a
socket.

* `sendDatagram_leads` : what leaves on a board on which anything may happen.
* `abandoned_sent_if_nothing_written` : what a datagram behind one that was given up holds.
-/

namespace SpiEthernet

/-! ## What leaves -/

/-- What leaves in a datagram: the bytes that have been written to it, or what was staged before if
there are none. -/
def Chip.payloadOf (chip : Chip) (s : SocketId) (content : List UInt8) : List UInt8 :=
  if content.isEmpty then (chip.stagedPacket s).payload else content

/-- A packet has left the socket, or has been given up, and nothing is staged any more. -/
structure Chip.Posts (chip : Chip) (s : SocketId) (packet : SentPacket) (chip' : Chip) : Prop where
  sent : chip'.sent = chip.sent ++ if chip.latches[s].timesOut then [] else [packet]
  staged : chip'.wordOf .txWrite s = chip'.wordOf .txRead s

section Leading

variable {s : SocketId} {outlet : Outlet} {content : List UInt8} {chip chip' : Chip}

/-- What is transmitted of a draft in an outlet that shows the chip as it was. -/
theorem Chip.Offers.posts (h : chip.Offers s outlet) (hsound : outlet.Sound)
    (hfits : content.length ≤ ringSize) (destination : Ipv4) (destinationPort : UInt16)
    (h' : chip'.Offers s
      ((({ outlet with destination, destinationPort } : Outlet).draft content).transmitted s)) :
    chip.Posts s ⟨s, destination, destinationPort, chip.payloadOf s content⟩ chip' := by
  obtain ⟨-, hpayload⟩ := Outlet.payload_draft { outlet with destination, destinationPort } content
    hfits hsound
  have hstaged : (chip.stagedPacket s).payload = outlet.payload :=
    congrArg SentPacket.payload (h.stagedPacket_eq hsound)
  have hleft : chip.payloadOf s content = (({ outlet with destination, destinationPort } :
      Outlet).draft content).payload := by
    rw [hpayload, Chip.payloadOf, hstaged]
    rfl
  refine ⟨?_, h'.pointer.trans h'.start.symm⟩
  rw [h'.sent, hleft, h.timesOut, h.sent]
  cases content <;> cases outlet.timesOut <;>
    simp [Outlet.transmitted, Outlet.released, Outlet.draft]

theorem robust_offers (s : SocketId) (outlet : Outlet) :
    Robust Frame.IsQuiet fun board : Board => board.chip.Offers s outlet :=
  Board.robust_of_chip (J := fun chip => chip.Offers s outlet) (fun _ => id) (fun _ h => h.steady)
    (fun _ _ h hf => (h.serve hf).afterFrame) fun _ h => h.noticed

/-- Whatever happens meanwhile, what is staged leaves when the chip is told to transmit. -/
theorem sendDatagram_leads (hsound : outlet.Sound) :
    Leads (fun d : Device Board => d.chip.Offers s outlet) (sendDatagram s).run
      fun _ d => d.chip.Offers s (outlet.transmitted s) := by
  have hclear : Leads (fun d : Device Board => d.chip.Offers s outlet) (clearSendFlags s)
      fun _ d => d.chip.Offers s outlet := (robust_offers s outlet).clearSendFlags s
  have hissue : Leads (fun d : Device Board => d.chip.Offers s outlet) (issue s .send)
      fun _ d => d.chip.Offers s (outlet.transmitted s) := by
    refine Leads.of_ends fun device h => ?_
    have hok : Habit.free.ok device.board := h.steady
    refine (Habit.free.issue_ends_of hok (Endpoint.steady_turn_held h.steady _)).mono ?_
    rintro _ device' ⟨given, o, reply, hgiven, -, hwalked⟩
    have hserved : (device.chip.serve (Frame.write (SocketRegister.command.address s)
        SocketCommand.send.code)).2 = device.chip.command s SocketCommand.send.code := by
      rw [Chip.serve_write]
      exact Chip.write_command h.steady.present s _
    have hsent : Habit.free.Offers s (outlet.transmitted s) given :=
      hgiven.offers (by rw [hserved]; exact h.send hsound)
    exact (hwalked.offers hsent).chip
  have hawait : Leads (fun d : Device Board => d.chip.Offers s (outlet.transmitted s))
      (awaitSent s false).run fun _ d => d.chip.Offers s (outlet.transmitted s) :=
    (robust_offers s (outlet.transmitted s)).awaitSent s nofun
  exact Leads.sure_bind hclear fun _ => Leads.sure_bind hissue fun _ => hawait

/-! ## Attempts -/

theorem startDatagram_leads (ip : Ipv4) (port : UInt16) :
    Leads (fun d : Device Board => d.chip.Offers s outlet) (startDatagram s ip port).run
      fun r d => r.isOk →
        d.chip.Offers s { outlet with destination := ip, destinationPort := port } := by
  by_cases haddressed : ip = Ipv4.unspecified ∨ port = 0
  · unfold startDatagram
    rw [if_pos (by simpa using haddressed)]
    exact Leads.pure fun _ _ => nofun
  · rw [not_or] at haddressed
    refine Leads.of_ends fun device h => ?_
    have hoffers : Habit.free.Offers s outlet device := ⟨h.steady, h⟩
    exact (Habit.startDatagram_ends hoffers haddressed.1 haddressed.2).mono
      fun _ _ hd _ => hd.2.chip

/-- Data that are staged as a whole are no more than fit. -/
theorem stageWhole_leads (data : List UInt8) (hfree : outlet.free.toNat ≤ ringSize) :
    Leads (fun d : Device Board => d.chip.Offers s outlet) (stageWhole s data).run
      fun r d => r.isOk → data.length ≤ ringSize ∧ d.chip.Offers s (outlet.draft data) := by
  refine Leads.of_ends fun device h => ?_
  have hoffers : Habit.free.Offers s outlet device := ⟨h.steady, h⟩
  refine (Habit.stageWhole_drafts hoffers data hfree).mono fun r d hd => ?_
  split at hd
  · obtain ⟨rfl, -⟩ := hd
    exact nofun
  · exact fun _ => ⟨by omega, hd.2.chip⟩

/-- A draft is transmitted, like whatever else was staged. -/
theorem sendDraft_leads (data : List UInt8) (hsound : outlet.Sound) :
    Leads (fun d : Device Board => data.length ≤ ringSize ∧ d.chip.Offers s (outlet.draft data))
      (sendDatagram s).run fun r d => r.isOk →
        data.length ≤ ringSize ∧ d.chip.Offers s ((outlet.draft data).transmitted s) := by
  rintro device r device' ⟨hfits, h⟩ hrun _
  exact ⟨hfits, sendDatagram_leads (outlet.payload_draft data hfits hsound).1 _ _ _ h hrun⟩

/-- Closing a socket because of a failure does not make up for the failure. -/
theorem closingOnFailure_leads {α : Type} (s : SocketId) {action : Attempt Board α}
    {I J : Device Board → Prop} (h : Leads I action.run fun r d => r.isOk → J d) :
    Leads I (closingOnFailure s action).run fun r d => r.isOk → J d := by
  refine Leads.tryCatch h (fun _ _ hd => hd) fun cause => ?_
  exact Leads.attempt (R := fun _ _ => True) (fun _ _ _ _ _ => trivial)
    (fun _ => Leads.pure fun _ _ => nofun) fun _ _ _ => nofun

/-! ## On a channel -/

/-- The datagram that was begun leaves as it was written, or what was staged before does. -/
theorem endPacket_leads {channel : Channel} (hsound : outlet.Sound)
    (hfree : outlet.free.toNat ≤ ringSize) :
    Leads (Channel.Drafts Habit.free outlet content s channel) (Channel.endPacket.run channel)
      fun _ d => d.chip.Offers s ((outlet.draft content).transmitted s) := by
  rintro d r d' ⟨rfl, hwritten, hfits, hoffers⟩ hrun
  obtain ⟨hknown, -⟩ := outlet.payload_draft content (Nat.le_trans hfits hfree) hsound
  have hleads : Leads (fun d : Device Board => d.chip.Offers channel.socket (outlet.draft content))
      (Channel.endPacket.run channel) fun _ d =>
        d.chip.Offers channel.socket ((outlet.draft content).transmitted channel.socket) := by
    unfold Channel.endPacket
    refine Leads.current_bind ?_
    rw [hwritten]
    exact Leads.change_bind (Leads.onSocket (sendDatagram_leads hknown))
  exact hleads d r d' hoffers.chip hrun

/-- The pieces of a datagram that was begun are written, and the datagram is ended. -/
theorem pieces_leads {channel : Channel} (hsound : outlet.Sound)
    (hfree : outlet.free.toNat ≤ ringSize) (chunks : List (List UInt8)) :
    Leads (Channel.Drafts Habit.free outlet [] s channel)
      ((chunks.map ChannelOperation.writePacket ++ [ChannelOperation.endPacket]).mapM
        ChannelOperation.perform channel)
      fun _ d => d.chip.Offers s
        ((outlet.draft (chunks.flatten.take outlet.free.toNat)).transmitted s) := by
  refine Leads.mapM_concat (R := fun r => Channel.Drafts Habit.free outlet
    (chunks.flatten.take outlet.free.toNat) s r.2) ?_ fun outcomes channel' => ?_
  · exact Leads.of_ends fun d h => (Channel.writeChunks_ends hfree chunks h).mono fun _ _ hd => hd.2
  · exact Leads.attemptingOn (endPacket_leads hsound hfree)

end Leading

/-! ## Behind a datagram that was given up -/

/-- Whatever was staged on a socket and not sent, and whatever happens meanwhile: a datagram that is
built piece by piece, and data that are sent as a whole, leave as they are if there is at least one
byte of them. If there is none, what was staged before leaves in their place. -/
theorem abandoned_sent_if_nothing_written {device : Device Board} {s : SocketId}
    (hsteady : device.chip.Steady) (hbalanced : device.chip.BalancedTx s) :
    (∀ (channel : Channel) (ip : Ipv4) (port : UInt16) (chunks : List (List UInt8)),
      channel.socket = s → ip ≠ Ipv4.unspecified → port ≠ 0 →
        Leads (fun d => d = device)
          ((ChannelOperation.beginPacket ip port ::
            (chunks.map .writePacket ++ [.endPacket])).mapM ChannelOperation.perform channel)
          fun _ d => device.chip.Posts s ⟨s, ip, port, device.chip.payloadOf s
            (chunks.flatten.take (device.chip.wordOf .txFree s).toNat)⟩ d.chip) ∧
      (∀ (data : List UInt8) (ip : Ipv4) (port : UInt16),
        Leads (fun d => d = device) (sendTo s data ip port).run fun r d => r.isOk →
          device.chip.Posts s ⟨s, ip, port, device.chip.payloadOf s data⟩ d.chip) ∧
      ∀ data : List UInt8,
        Leads (fun d => d = device) (sendRaw s data).run fun r d => r.isOk →
          device.chip.Posts s { device.chip.stagedPacket s with
            payload := device.chip.payloadOf s data } d.chip := by
  obtain ⟨outlet, hoffers, hsound, hfree, -⟩ := hbalanced.offers hsteady
  have hroom : (device.chip.wordOf .txFree s).toNat = outlet.free.toNat :=
    congrArg UInt16.toNat hoffers.free
  refine ⟨fun channel ip port chunks hsocket hip hport => ?_, fun data ip port => ?_,
    fun data => ?_⟩
  · rw [hroom]
    have hfits : (chunks.flatten.take outlet.free.toNat).length ≤ ringSize :=
      Nat.le_trans (List.length_take_le _ _) hfree
    have hbegun : Leads (fun d => d = device)
        (ChannelOperation.perform (.beginPacket ip port) channel) fun r =>
          Channel.Drafts Habit.free { outlet with destination := ip, destinationPort := port } [] s
            r.2 := by
      refine Leads.of_ends ?_
      rintro _ rfl
      exact Ends.attemptingOn ((Channel.beginPacket_ends (H := Habit.free) hsocket
        ⟨hsteady, hoffers⟩ hip hport).mono fun _ _ hd => hd.2)
    refine Leads.mapM_cons hbegun fun _ channel' d r d' hdrafts hrun => ?_
    have haimed : Outlet.Sound { outlet with destination := ip, destinationPort := port } := hsound
    exact hoffers.posts hsound hfits ip port (pieces_leads haimed hfree chunks d r d' hdrafts hrun)
  · have hsent : Leads (fun d : Device Board => d.chip.Offers s outlet) (sendTo s data ip port).run
        fun r d => r.isOk → data.length ≤ ringSize ∧ d.chip.Offers s
          ((({ outlet with destination := ip, destinationPort := port } : Outlet).draft
            data).transmitted s) := by
      refine Leads.succeeding (startDatagram_leads ip port) fun _ => ?_
      refine Leads.succeeding (stageWhole_leads data hfree) fun _ => ?_
      have haimed : Outlet.Sound { outlet with destination := ip, destinationPort := port } :=
        hsound
      refine Leads.succeeding (sendDraft_leads data haimed) fun _ => ?_
      exact Leads.pure fun _ hd _ => hd
    rintro _ r d' hd hrun hr
    rw [hd] at hrun
    obtain ⟨hfits, hd'⟩ := hsent device r d' hoffers hrun hr
    exact hoffers.posts hsound hfits ip port hd'
  · have hsent : Leads (fun d : Device Board => d.chip.Offers s outlet) (sendRaw s data).run
        fun r d => r.isOk → data.length ≤ ringSize ∧ d.chip.Offers s
          ((outlet.draft data).transmitted s) := by
      refine Leads.succeeding (stageWhole_leads data hfree) fun _ => ?_
      refine Leads.succeeding (closingOnFailure_leads s (sendDraft_leads data hsound)) fun _ => ?_
      exact Leads.pure fun _ hd _ => hd
    rintro _ r d' hd hrun hr
    rw [hd] at hrun
    obtain ⟨hfits, hd'⟩ := hsent device r d' hoffers hrun hr
    rw [hoffers.stagedPacket_eq hsound]
    exact hoffers.posts hsound hfits outlet.destination outlet.destinationPort hd'

/-- Three bytes are staged and given up, and leave in a datagram that is begun and ended at once. -/
theorem abandoned_sent_if_nothing_written_posting :
    Ends (buffer 1 0 [1, 2, 3]).run ⟨Board.posting, Controller.new⟩ fun _ staged =>
      Ends ([.beginPacket ⟨10, 0, 0, 8⟩ 53, .endPacket].mapM ChannelOperation.perform
        (.fresh 1 5000)) staged fun _ d =>
          d.chip.sent = [⟨1, ⟨10, 0, 0, 8⟩, 53, [1, 2, 3]⟩] := by
  obtain ⟨outlet, hempties, hoffers⟩ := Board.shows_posting.offers
  have hroom : outlet.free.toNat = 2048 := hempties.room
  have hfree : outlet.free.toNat ≤ 2048 := Nat.le_of_eq hroom
  have hpatient : outlet.timesOut = false := by
    refine hoffers.chip.timesOut.symm.trans ?_
    show (Chip.setPointers _ 1 0xFFFE 0).latches[(1 : SocketId)].timesOut = false
    simp only [Chip.setPointers, Chip.latches_setWordOf, Chip.latches_mapLatch_self]
    rfl
  have hbuffer := Habit.buffer_ends hoffers [1, 2, 3] hfree
    fun (_ : (0 : UInt16).toNat < _) => Nat.zero_le _
  rw [hroom] at hbuffer
  refine hbuffer.mono ?_
  rintro _ staged ⟨-, hstaged⟩
  have hdraft : Habit.alone.Offers 1 (outlet.draft [1, 2, 3]) staged := by
    rw [← show outlet.stage 0 [1, 2, 3] = outlet.draft [1, 2, 3] from
      outlet.stage_draft [] [1, 2, 3] (Nat.zero_le _)]
    exact hstaged
  obtain ⟨hsound, hpayload⟩ := outlet.payload_draft [1, 2, 3] (by decide) hempties.sound
  -- the calls come to an end, and what has left then follows
  have hends : Ends ([.beginPacket ⟨10, 0, 0, 8⟩ 53, .endPacket].mapM ChannelOperation.perform
      (.fresh 1 5000)) staged fun _ _ => True := by
    refine Ends.mapM_cons (Ends.attemptingOn (Q := fun r d => Channel.Drafts Habit.alone
      { outlet.draft [1, 2, 3] with destination := ⟨10, 0, 0, 8⟩, destinationPort := 53 } [] 1
        r.2 d)
      ((Channel.beginPacket_ends rfl hdraft (by decide) (by decide)).mono fun _ _ hd => hd.2)) ?_
    rintro _ channel d hd
    refine Ends.mapM_cons (Ends.attemptingOn (Q := fun _ _ => True)
      ((Channel.endPacket_ends Habit.alone_calm hd hfree hsound).mono fun _ _ _ => trivial)) ?_
    exact fun _ _ _ _ => Ends.pure trivial
  obtain ⟨r, d, hrun, -⟩ := hends
  have hposts := (abandoned_sent_if_nothing_written hdraft.chip.steady
    (hdraft.chip.balanced hsound hfree)).1 (.fresh 1 5000) ⟨10, 0, 0, 8⟩ 53 [] rfl (by decide)
    (by decide) staged r d rfl hrun
  refine ⟨r, d, hrun, hposts.sent.trans ?_⟩
  have hleft : staged.chip.payloadOf 1 [] = [1, 2, 3] :=
    (congrArg SentPacket.payload (hdraft.chip.stagedPacket_eq hsound)).trans hpayload
  rw [List.flatten_nil, List.take_nil, hleft, hdraft.chip.timesOut, hdraft.chip.sent]
  show outlet.sent ++ (if outlet.timesOut then [] else _) = _
  rw [hempties.sent, hpatient]
  rfl

end SpiEthernet
