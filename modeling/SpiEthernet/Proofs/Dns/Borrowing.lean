import SpiEthernet.Proofs.Operation.Tending
import SpiEthernet.Proofs.Receive.Inbox
import SpiEthernet.Proofs.Send.Draft
import SpiEthernet.Proofs.Send.Duplex

/-!
# Borrowing a channel

A resolver takes the first socket that is free and opens it for datagrams. The socket then holds
what has arrived since it was opened, nothing is staged on it, and of the other sockets nothing was
touched. A query fits into the empty transmit ring, so it leaves as one packet unless the
transmission times out; meanwhile the socket goes on receiving. Whether transmissions time out is
not changed by opening a socket.

* `Opens.reaches` : if no transmission times out before a socket is opened, none does behind it.
* `begin_borrows` : which socket is taken, and in which state it is then.
* `sendQuery_asks` : what is sent, and how sending ends.
-/

namespace SpiEthernet

/-! ## Free sockets -/

/-- Whether a socket shows that it is free for a new owner. -/
def Chip.isFree (chip : Chip) (s : SocketId) : Bool :=
  (SocketStatus.ofByte (chip.byteOf .status s)).isReusable

/-- The first socket that is free for a new owner. -/
def Chip.freeSlot (chip : Chip) : Option SocketId := SocketId.all.find? chip.isFree

theorem Chip.freeSlot_eq_none {chip : Chip} :
    chip.freeSlot = none ↔ ∀ s, chip.isFree s = false := by
  rw [freeSlot, List.find?_eq_none]
  exact ⟨fun h s => by simpa using h s (SocketId.mem_all s), fun h s _ => by simp [h s]⟩

/-! ## Rings that were opened -/

/-- Nothing is staged, and the whole ring is free. -/
structure Outlet.IsBlank (outlet : Outlet) : Prop where
  pointer : outlet.pointer = outlet.start
  free : outlet.free = UInt16.ofNat ringSize

theorem Outlet.IsBlank.sound {outlet : Outlet} (h : outlet.IsBlank) : outlet.Sound := by
  rw [Outlet.Sound, h.pointer, UInt16.sub_self]
  exact Nat.zero_le _

/-- The command to open a socket empties its transmit ring. -/
theorem Chip.offers_open {chip : Chip} (hsteady : chip.Steady) (s : SocketId) :
    ∃ outlet : Outlet, outlet.IsBlank ∧ outlet.sent = chip.sent ∧
      (chip.write (SocketRegister.command.address s) SocketCommand.open.code).Offers s outlet := by
  have hlocal : (Frame.write (SocketRegister.command.address s)
      SocketCommand.open.code).IsLocal := Habit.isLocal_command rfl
  have hwritten := hsteady.serve (Frame.write (SocketRegister.command.address s)
    SocketCommand.open.code)
  have hsent := sent_serve hsteady.present hlocal
  rw [serve_write, write_command hsteady.present] at hwritten hsent
  rw [write_command hsteady.present]
  have hword {r : SocketRegister} (hw : r.width = 2) :=
    wordOf_setPointers (((chip.setByteOf .command s SocketCommand.open.code).mapLatch s
      fun latch => { latch with busy := chip.commandLatency.toNat }).setStatus s
        (openedStatus (((chip.setByteOf .command s SocketCommand.open.code).mapLatch s
          fun latch => { latch with busy := chip.commandLatency.toNat }).byteOf .mode s)))
      s s 0 0 hw
  simp only [command, SocketCommand.ofCode?_code, run] at hwritten hsent ⊢
  refine ⟨{ start := 0, pointer := 0, free := UInt16.ofNat ringSize, bytes := []
            destination := _, destinationPort := _, timesOut := _, sent := chip.sent },
    ⟨rfl, rfl⟩, rfl,
    { steady := hwritten, latch := ?_, timesOut := rfl, start := ?_, pointer := ?_, free := ?_
      fits := Nat.zero_le _, ring := fun i hi => absurd hi (Nat.not_lt_zero i)
      destination := rfl, destinationPort := rfl, sent := hsent }⟩
  · simp only [setPointers, latches_setWordOf, latches_mapLatch_self]
  · exact (hword rfl).trans (if_pos rfl)
  · exact (hword rfl).trans (if_pos rfl)
  · exact (hword rfl).trans (if_pos rfl)

/-- What was staged on a socket before it was opened does not matter. -/
theorem Endpoint.Opens.offers {s : SocketId} {start opening now : Endpoint}
    (h : start.Opens s opening now) (hs : start.chip.Steady) :
    ∃ outlet : Outlet, outlet.IsBlank ∧ outlet.sent = start.chip.sent ∧
      now.chip.Offers s outlet := by
  obtain ⟨_, hbefore⟩ := h.before
  obtain ⟨_, hsince⟩ := h.since
  obtain ⟨outlet, hblank, hsent, hoffers⟩ := Chip.offers_open (hbefore.steady hs) s
  exact ⟨outlet, hblank, hsent.trans (hbefore.sent (fun _ => id) hs),
    hsince.offers (fun _ => id) hoffers.afterFrame⟩

/-! ## Transmissions that reach somebody -/

namespace Chip

variable {chip : Chip} {s : SocketId}

/-- No transmission times out. -/
def Reaches (chip : Chip) : Prop := ∀ s : SocketId, chip.latches[s].timesOut = false

theorem Reaches.mapLatch (h : chip.Reaches) (s : SocketId) (f : SocketLatch → SocketLatch)
    (hf : ∀ latch, (f latch).timesOut = latch.timesOut) : (chip.mapLatch s f).Reaches := by
  intro t
  by_cases hst : s = t
  · subst hst
    rw [latches_mapLatch_self, hf, h]
  · rw [latches_mapLatch_of_ne _ _ hst, h]

theorem Reaches.run (h : chip.Reaches) (command : SocketCommand) :
    (chip.run s command).Reaches := by
  intro t
  cases command with
  | «open» =>
    have hshown : (chip.setStatus s (openedStatus (chip.byteOf .mode s))).Reaches := h
    simp only [Chip.run, setPointers, latches_setWordOf]
    refine hshown.mapLatch s _ ?_ t
    exact fun _ => rfl
  | listen | close => exact h t
  | connect | disconnect =>
    simp only [Chip.run, latches_raiseSocket]
    exact h t
  | send | sendMac | sendKeep =>
    have hread : (chip.setWordOf .txRead s (chip.wordOf .txWrite s)).Reaches := h
    simp only [Chip.run, latches_transmit, releaseTx, latches_setWordOf]
    refine hread.mapLatch s _ ?_ t
    exact fun _ => rfl
  | receive =>
    simp only [Chip.run, updateRxSize, latches_setWordOf]
    refine h.mapLatch s _ ?_ t
    exact fun _ => rfl

theorem Reaches.serve (h : chip.Reaches) (hpresent : chip.absent = none) (frame : Frame) :
    (chip.serve frame).2.Reaches := by
  obtain ⟨direction, target, data⟩ := frame
  cases direction with
  | read =>
    show (chip.read target).2.Reaches
    have heffect := readEffect hpresent target
    generalize (chip.read target).1 = value, (chip.read target).2 = after at heffect
    cases heffect with
    | busy t => exact h.mapLatch t _ fun _ => rfl
    | resetting | interrupts | accepted | txWrite | memory => exact h
  | write =>
    show (chip.write target data).Reaches
    have heffect := writeEffect hpresent target data
    generalize chip.write target data = after at heffect
    cases heffect with
    | reset =>
      intro t
      have hlatch : chip.powerOn.latches[t] = {} := Vector.getElem_replicate t.isLt
      show chip.powerOn.latches[t].timesOut = false
      rw [hlatch]
    | clearGlobal | clearSocket | memory => exact h
    | command t =>
      have hshown : (chip.setByteOf .command t data).Reaches := h
      have hgiven := hshown.mapLatch t
        (fun latch => { latch with busy := chip.commandLatency.toNat }) fun _ => rfl
      unfold Chip.command
      split
      · exact hgiven.run _
      · exact hgiven

end Chip

theorem Endpoint.Passes.reaches {P : Frame → Prop} {start now : Endpoint} {o : List Occurrence}
    (h : start.Passes P o now) (hP : ∀ frame, P frame → frame.IsLocal) (hs : start.chip.Steady)
    (hreaches : start.chip.Reaches) : now.chip.Reaches := by
  refine h.chip_induction (I := fun c _ => c.Reaches) (A := fun _ => True) hP [] hs
    (fun _ _ => trivial) hreaches ?_ ?_ fun _ _ => id
  · intro chip _ frame hsteady _ hc
    exact hc.serve hsteady.present frame
  · intro chip _ event hordinary _ hc t
    rw [chip.latches_happen hordinary]
    exact hc t

theorem Endpoint.Opens.reaches {s : SocketId} {start opening now : Endpoint}
    (h : start.Opens s opening now) (hs : start.chip.Steady) (hreaches : start.chip.Reaches) :
    now.chip.Reaches := by
  obtain ⟨_, hpasses⟩ := h.passes
  exact hpasses.reaches (fun _ => id) hs hreaches

/-! ## Use -/

theorem Frame.IsSending.uses {s : SocketId} {frame : Frame} (h : frame.IsSending s) :
    frame.Uses s := by
  rcases h with hstaging | hquiet | rfl
  · exact hstaging.uses
  · exact hquiet.uses s
  · exact Frame.uses_write (SocketId.owns_register .command s (i := 0) (by decide))
      fun _ => by decide

/-- What has happened since a socket was opened. -/
theorem Endpoint.Opens.occurrencesSince_append {P : Frame → Prop} {s : SocketId}
    {start opening middle now : Endpoint} {o : List Occurrence} (h : start.Opens s opening middle)
    (hpasses : middle.Passes P o now) :
    now.occurrencesSince opening = middle.occurrencesSince opening ++ o := by
  obtain ⟨o', hsince⟩ := h.since
  have hall := (hsince.mono (R := fun _ => True) fun _ _ => trivial).trans
    (hpasses.mono fun _ _ => trivial)
  rw [Opens.occurrencesSince_eq hall, Opens.occurrencesSince_eq hsince, List.append_assoc]

section Borrowing

variable {σ : Type} [Host σ] [Wired σ]

namespace Habit

variable {H : Habit σ} {s : SocketId} {device start now : Device σ}

/-! ## Taking a socket -/

/-- If nothing but arrivals happens, the first socket that is free is found. -/
theorem firstReusable_takes (hH : H.Calm) (sockets : List SocketId) :
    ∀ {device : Device σ}, H.ok device.board →
      Ends (firstReusable sockets).run device fun r device' => H.Walked H.Looks device device' ∧
        r = match sockets.find? device.chip.isFree with
          | some s => .ok s
          | none => .error .noFreeSocket := by
  induction sockets with
  | nil => exact fun hok => Ends.fail ⟨.refl hok, rfl⟩
  | cons s rest ih =>
    intro device hok
    refine Ends.sure_bind (H.status_ends hok) ?_
    rintro shown d1 ⟨hd1, rfl⟩
    change Ends (if device.chip.isFree s then _ else _ : Attempt σ SocketId).run _ _
    by_cases hfree : device.chip.isFree s
    · rw [if_pos hfree]
      exact Ends.pure ⟨hd1, by rw [List.find?_cons_of_pos hfree]⟩
    · rw [if_neg hfree]
      refine (ih hd1.ok).mono ?_
      rintro r d2 ⟨hd2, hr⟩
      refine ⟨hd1.trans hd2, ?_⟩
      have hsame : d1.chip.isFree = device.chip.isFree := by
        funext t
        rw [Chip.isFree, hd1.byteOf_status hok ((hH.visited hok).statusStays t), Chip.isFree]
      rw [List.find?_cons_of_neg hfree, hr, hsame]

/-- A free socket has been opened for datagrams, and nothing was done about the others. -/
structure Borrowed (H : Habit σ) (s : SocketId) (start now : Device σ) : Prop where
  opened : H.Opened s .udp start now
  tended : H.Tended (Frame.Concerns s) s start now

/-- The first free socket is borrowed; if there is none, the driver has only looked. -/
theorem begin_borrows (hH : H.Calm) (hok : H.ok device.board) :
    Ends (Channel.begin 0).run device fun r device' =>
      match device.chip.freeSlot with
      | some s => (∃ port, r = .ok (.fresh s port)) ∧ H.Borrowed s device device'
      | none => (∃ cause, r = .error cause) ∧ H.Walked H.Looks device device' := by
  refine Ends.attempt (firstReusable_takes hH SocketId.all hok) ?_ ?_
  · rintro s d1 ⟨hd1, hr⟩
    have hfree : device.chip.freeSlot = some s := by
      rw [Chip.freeSlot]
      split at hr
      · next hfound =>
        rw [hfound]
        cases hr
        rfl
      · cases hr
    rw [hfree]
    have hcame := hd1.came fun _ => Looks.isLocal
    have htended : H.Tended (Frame.Concerns s) s device d1 := by
      refine hd1.tended hok (fun frame h => .inr ?_) fun frame h hw => ?_
      · exact Frame.isQuiet_of_read (hH.looks h)
      · exact absurd hw (by rw [hH.looks h]; decide)
    have hmode : SocketMode.ofRegister? (SocketMode.udp.code ||| 0) = some .udp := by decide
    have hopens : Succeeds (H.Tended (Frame.Concerns s) s device) (openSocket s .udp 0 0).run :=
      openSocket_tends hH (fun _ h => h.concerns)
        (.inl fun _ => SocketId.owns_register .command s (i := 0) (by decide)) _ _ _
    refine Ends.attempt ((hopens d1 htended).and
      (H.openSocket_ends hd1.ok hmode (by decide) 0)) ?_ ?_
    · rintro port d2 ⟨htended, hopened, -⟩
      exact Ends.pure ⟨⟨port, rfl⟩, (hopened port rfl).after_came hok hcame, htended⟩
    · rintro cause d2 ⟨-, -, hsucceeds⟩
      obtain ⟨_, hr⟩ := hsucceeds ((hH.visited hd1.ok).statusStays s)
      cases hr
  · rintro cause d1 ⟨hd1, hr⟩
    have hfree : device.chip.freeSlot = none := by
      rw [Chip.freeSlot]
      split at hr
      · cases hr
      · next hfound => exact hfound
    rw [hfree]
    exact ⟨⟨cause, rfl⟩, hd1⟩

/-! ## Asking -/

open Dns

variable {channel : Channel} {outlet : Outlet} {server : Ipv4} {packet : List UInt8}

/-- All of a query that fits is staged. -/
theorem writeQuery_ends (hblank : outlet.IsBlank)
    (hdrafts : Channel.Drafts H outlet [] s channel device) (hfits : packet.length ≤ 2048) :
    Ends ((Channel.writePacket packet).run channel) device fun r device' =>
      r.1 = .ok packet.length ∧ Channel.Drafts H outlet packet s r.2 device' := by
  have hroom : outlet.free.toNat - ([] : List UInt8).length = 2048 := by
    rw [hblank.free]
    rfl
  have hfree : outlet.free.toNat ≤ 2048 := by
    rw [hblank.free]
    exact Nat.le_refl 2048
  refine (Channel.writePacket_ends hdrafts hfree packet).mono ?_
  rintro ⟨r, channel'⟩ d ⟨hr, hd⟩
  rw [hroom, List.nil_append, List.take_of_length_le hfits] at hd
  rw [hroom, writeOutcome, if_neg (by simp), List.take_of_length_le hfits] at hr
  refine ⟨?_, hd⟩
  cases r with
  | error cause => cases hr
  | ok count => exact congrArg Except.ok (Outcome.number.inj hr)

/-- A query that fits leaves as one packet, unless its transmission times out. -/
theorem sendQuery_transmits (hH : H.Calm) (hblank : outlet.IsBlank)
    (hoffers : H.Offers channel.socket outlet device) (hserver : server ≠ Ipv4.unspecified)
    (hpacket : packet ≠ []) (hfits : packet.length ≤ 2048) :
    Ends ((sendQuery server packet).run channel) device fun r device' =>
      if outlet.timesOut then r.1 = .error .sendTimeout ∧ device'.chip.sent = outlet.sent
      else r.1 = .ok () ∧
        device'.chip.sent = outlet.sent ++ [⟨channel.socket, server, dnsPort, packet⟩] := by
  unfold sendQuery
  refine Ends.channel_attempt (Channel.beginPacket_ends rfl hoffers hserver (by decide)) ?_
    (by rintro _ _ _ ⟨hr, -⟩; cases hr)
  rintro _ c1 d1 ⟨-, h1⟩
  have hblank' : ({ outlet with destination := server, destinationPort := dnsPort } :
      Outlet).IsBlank := ⟨hblank.pointer, hblank.free⟩
  refine Ends.channel_attempt (writeQuery_ends hblank' h1 hfits) ?_
    (by rintro _ _ _ ⟨hr, -⟩; cases hr)
  rintro count c2 d2 ⟨hcount, h2⟩
  cases hcount
  rw [if_neg (Nat.lt_irrefl _)]
  have hfree : outlet.free.toNat ≤ 2048 := by
    rw [hblank.free]
    exact Nat.le_refl 2048
  refine (Channel.endPacket_ends hH h2 hfree hblank'.sound).mono ?_
  rintro ⟨r, c3⟩ d3 ⟨hr, -, h3⟩
  obtain ⟨-, hpayload⟩ := Outlet.payload_draft_of_ne_nil
    { outlet with destination := server, destinationPort := dnsPort } packet hpacket hfits
  have hsent := h3.chip.sent
  rw [Outlet.transmitted, hpayload] at hsent
  cases packet with
  | nil => exact absurd rfl hpacket
  | cons byte rest =>
    dsimp only at hr
    subst hr
    cases hout : outlet.timesOut with
    | true =>
      simp only [Outlet.draft_cons, hout, if_true] at hsent ⊢
      exact ⟨trivial, hsent⟩
    | false =>
      simp only [Outlet.draft_cons, hout, Bool.false_eq_true, if_false] at hsent ⊢
      exact ⟨trivial, hsent⟩

/-- Sending a query tends its socket, and leaves alone what is unread of a datagram. -/
theorem sendQuery_tends (hH : H.Calm) (hok : H.ok device.board) {r : Except Error Unit × Channel}
    (hrun : (sendQuery server packet).run channel device = .ok (r, now)) :
    r.2.socket = channel.socket ∧ r.2.remaining = channel.remaining ∧
      H.Tended (Frame.IsSending channel.socket) channel.socket device now := by
  have hposts := posts_tended (P := Frame.IsSending channel.socket) (s := channel.socket) hH
    (fun _ h => .inr (.inl h)) (fun _ h => .inl h) (.inr (.inr rfl)) device
  obtain ⟨hremaining, hsocket, htended⟩ :=
    (hposts.within channel.remaining).sendQuery server packet channel device r now
      ⟨rfl, rfl, .refl hok⟩ hrun
  exact ⟨hsocket, hremaining, htended⟩

/-- A query has been sent, or sending it has failed because the transmission timed out; meanwhile
the socket has gone on receiving. -/
structure Asked (H : Habit σ) (server : Ipv4) (packet : List UInt8) (channel : Channel)
    (device : Device σ) (r : Except Error Unit × Channel) (device' : Device σ) : Prop where
  socket : r.2.socket = channel.socket
  tended : H.Tended (Frame.IsSending channel.socket) channel.socket device device'
  sent : device'.chip.sent = device.chip.sent ++
    if r.1.isOk then [⟨channel.socket, server, dnsPort, packet⟩] else []
  reaches (h : device.chip.Reaches) : r.1 = .ok ()
  shows {inbox : Inbox} (h : inbox.Shows H channel.socket channel device) :
    ∃ inbox' : Inbox, inbox'.Shows H channel.socket r.2 device' ∧
      inbox'.queue = inbox.queue ++ arrivals channel.socket
        ((Wired.endpoint device'.board).occurrencesSince (Wired.endpoint device.board))

theorem sendQuery_asks (hH : H.Calm) (hblank : outlet.IsBlank)
    (hoffers : H.Offers channel.socket outlet device) (hserver : server ≠ Ipv4.unspecified)
    (hpacket : packet ≠ []) (hfits : packet.length ≤ 2048) :
    Ends ((sendQuery server packet).run channel) device
      (H.Asked server packet channel device) := by
  obtain ⟨r, device', hrun, hr⟩ :=
    sendQuery_transmits hH hblank hoffers hserver hpacket hfits
  obtain ⟨hsocket, hremaining, htended⟩ := sendQuery_tends hH hoffers.ok hrun
  refine ⟨r, device', hrun, hsocket, htended, ?_, fun hreaches => ?_, ?_⟩
  · rw [hoffers.chip.sent]
    cases hout : outlet.timesOut with
    | true =>
      rw [hout, if_pos rfl] at hr
      rw [hr.1, hr.2]
      exact (List.append_nil _).symm
    | false =>
      rw [hout, if_neg Bool.false_ne_true] at hr
      rw [hr.1, hr.2]
      rfl
  · have hout : outlet.timesOut = false := hoffers.chip.timesOut.symm.trans (hreaches channel.socket)
    rw [hout, if_neg Bool.false_ne_true] at hr
    exact hr.1
  · rintro inbox ⟨-, -, ⟨start, hholds⟩, hcount, -⟩
    obtain ⟨o, hpasses, -⟩ := htended.moves
    have hholds' := hpasses.holds_of_isSending hholds rfl
    rw [Inlet.aligned_after] at hholds'
    rw [hpasses.occurrencesSince]
    exact ⟨⟨inbox.queue ++ arrivals channel.socket o, inbox.unread, r.2.remote⟩,
      ⟨htended.ok, hsocket, ⟨start, hholds'⟩, hremaining.trans hcount, rfl⟩, rfl⟩

end Habit

end Borrowing

end SpiEthernet
