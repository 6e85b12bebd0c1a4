import SpiEthernet.Proofs.Dns.Resolving

/-!
# What a resolution comes to

Seen from outside, two things can be said about a resolution, whatever arrives while it runs,
whatever tells it the time, and whichever way it ends. Its result depends on nothing but the
datagrams that the chip takes in from the moment on in which the socket is opened: neither what was
in the socket's buffers before, nor what comes from elsewhere, does matter, however long it is and
whatever is left unread of it. And it leaves nothing behind: the socket it was lent is free again,
the others are as they were, and no more than one packet has left.

* `first_reply_decides` : the first reply that settles the query decides.
* `resolve_footprint` : what is left behind.
-/

namespace SpiEthernet

open Dns Timepiece

/-! ## The result -/

/-- If the query of a resolution has been sent, its result is what the first of the datagrams
settles it with that settles it at all, provided that its turn comes before the deadline; otherwise
it is a timeout. The datagrams are those that the chip has taken in since the socket was opened.
They have their turns in the order in which they have arrived, one with every poll from the time on
when the query has been sent. -/
theorem first_reply_decides {τ : Type} [Timepiece τ] {device : Device Board}
    (hundisturbed : device.board.Undisturbed) (hvisited : device.chip.Visited) {s : SocketId}
    (hfree : device.chip.freeSlot = some s)
    (hsuits : ∀ scheduled ∈ device.chip.queue, scheduled.event.suits s .udp)
    (resolver : Resolver) (host : String) (timeout : Int) (clock : τ) :
    Ensures (Advances clock) (resolver.resolve host timeout clock) device fun r device' =>
      device'.chip.sent ≠ device.chip.sent → ∃ opening, ∃ opened : Device Board,
        (Wired.endpoint device.board).Opens s opening (Wired.endpoint opened.board) ∧
        Attends s resolver.server (.start resolver.advance.lastId host (shown clock) timeout)
          (next clock) opened
          (arrivals s ((Wired.endpoint opened.board).occurrencesSince opening)) r.1.1 r.2 device' ∧
        Decided resolver.server (.start resolver.advance.lastId host (shown clock) timeout)
          (next clock) (arrivals s ((Wired.endpoint device'.board).occurrencesSince opening))
          r.1.1 r.2 := by
  have hok : Habit.visited.ok device.board := ⟨hundisturbed, hvisited⟩
  refine (Habit.resolve_ensures Habit.visited_calm hok resolver host timeout clock).mono ?_
  intro r device' hresolves hsent
  cases hresolves with
  | address | noServer | noName => exact absurd rfl hsent
  | noSocket hasks hfull hwalked =>
    rw [hfree] at hfull
    cases hfull
  | lent hasks hfree' hlent =>
    obtain rfl := Option.some.inj (hfree.symm.trans hfree')
    obtain ⟨-, hsame, -⟩ | ⟨-, hdecides⟩ := hlent.outcome
    · exact absurd hsame hsent
    · obtain ⟨opening, opened, hopens, hattends⟩ := hdecides hsuits
      refine ⟨opening, opened, hopens, hattends, ?_⟩
      obtain ⟨o, hpasses, hdecided⟩ := hattends.decided
      rw [hopens.occurrencesSince_append hpasses, arrivals_append]
      exact hdecided

/-- A board whose handler is not connected. A peer is going to answer a query, and a datagram that
is too short to be a reply is on its way from the same place. -/
def Board.answering : Board := (Board.new none ⟨none, .off⟩).withChip
  { (Chip.new none).schedule 900 (.udp 0 ⟨10, 0, 0, 7⟩ 53 [1, 2, 3]) with
    replies := [some ⟨40, ⟨10, 0, 0, 7⟩, 53, [0, 0, 0x81, 0x83, 0, 0, 0, 0, 0, 0, 0, 0], some 0⟩] }

/-- A driver on the board that has done nothing yet. -/
def Device.answering : Device Board := ⟨Board.answering, Controller.new⟩

theorem Device.visited_answering :
    Device.answering.board.Undisturbed ∧ Device.answering.chip.Visited := by
  refine ⟨fun hhooked => absurd hhooked Bool.false_ne_true, rfl, fun scheduled hs => ?_⟩
  rw [List.mem_singleton.1 hs]
  rfl

theorem Device.freeSlot_answering : Device.answering.chip.freeSlot = some 0 := by
  have hfree : Device.answering.chip.isFree 0 = true := by
    show (SocketStatus.ofByte ((Chip.new none).byteOf .status 0)).isReusable = true
    rw [Chip.byteOf_new none 0 (r := .status) rfl]
    rfl
  exact List.find?_cons_of_pos hfree

theorem Device.reaches_answering : Device.answering.chip.Reaches := by
  intro s
  show (Chip.new none).latches[s].timesOut = false
  rw [show (Chip.new none).latches[s] = {} from Vector.getElem_replicate s.isLt]

theorem Device.suits_answering :
    ∀ scheduled ∈ Device.answering.chip.queue, scheduled.event.suits 0 .udp := by
  intro scheduled hs
  rw [List.mem_singleton.1 hs]
  simp [Event.suits, Event.delivery?, Event.datagram?]

/-- The query for the addresses of `example.com`. -/
def exampleQuery (id : UInt16) : List UInt8 :=
  queryHeader id ++ [7, 101, 120, 97, 109, 112, 108, 101, 3, 99, 111, 109, 0] ++ addressQuestion

theorem Dns.Resolver.asks_example (lastId : UInt16) :
    Resolver.Asks ⟨⟨10, 0, 0, 7⟩, lastId⟩ "example.com" (exampleQuery (lastId + 1)) := by
  have hlabels : labels? "example.com".toUTF8.toList =
      some [[101, 120, 97, 109, 112, 108, 101], [99, 111, 109]] := by decide +kernel
  have hserver : (⟨10, 0, 0, 7⟩ : Ipv4) ≠ Ipv4.unspecified := by decide
  refine ⟨by decide +kernel, hserver, ?_⟩
  rw [query, hlabels]
  rfl

/-- A resolution on the board ends, whatever its timeout is. -/
theorem Device.resolves_answering (resolver : Resolver) (host : String) (timeout : Int) :
    Ends (resolver.resolve host timeout (⟨0, 1⟩ : Clock)) Device.answering
      (Habit.visited.Resolves resolver host timeout (⟨0, 1⟩ : Clock) Device.answering) :=
  (Habit.resolve_ensures Habit.visited_calm Device.visited_answering resolver host timeout _).ends
    (Clock.advances (by decide))

/-- The query leaves, and what arrives from then on decides. -/
theorem first_reply_decides_answering :
    Ends (Resolver.resolve ⟨⟨10, 0, 0, 7⟩, 41⟩ "example.com" 100 (⟨0, 1⟩ : Clock))
      Device.answering fun r device' =>
        device'.chip.sent = [⟨0, ⟨10, 0, 0, 7⟩, dnsPort, exampleQuery 42⟩] ∧
        ∃ opening, ∃ opened : Device Board,
          (Wired.endpoint Board.answering).Opens 0 opening (Wired.endpoint opened.board) ∧
          Attends 0 ⟨10, 0, 0, 7⟩ ⟨42, "example.com", 100⟩ (⟨1, 1⟩ : Clock) opened
            (arrivals 0 ((Wired.endpoint opened.board).occurrencesSince opening)) r.1.1 r.2
            device' ∧
          Decided ⟨10, 0, 0, 7⟩ ⟨42, "example.com", 100⟩ (⟨1, 1⟩ : Clock)
            (arrivals 0 ((Wired.endpoint device'.board).occurrencesSince opening)) r.1.1 r.2 := by
  obtain ⟨hundisturbed, hvisited⟩ := Device.visited_answering
  have hdecides := (first_reply_decides hundisturbed hvisited Device.freeSlot_answering
    Device.suits_answering ⟨⟨10, 0, 0, 7⟩, 41⟩ "example.com" 100 (⟨0, 1⟩ : Clock)).ends
      (Clock.advances (by decide))
  refine (hdecides.and (Device.resolves_answering _ _ _)).mono ?_
  rintro r device' ⟨hdecides, hresolves⟩
  have hsent := hresolves.sent_of_reaches (Dns.Resolver.asks_example 41) Device.freeSlot_answering
    Device.reaches_answering
  refine ⟨hsent, hdecides fun hsame => ?_⟩
  rw [hsame] at hsent
  exact List.cons_ne_nil _ _ (List.self_eq_append_right.1 hsent)

/-! ## What is left behind -/

section Footprint

variable {σ : Type} [Host σ] [Wired σ]

/-- Nothing has happened to a socket but what was delivered to it; flags of it may have moved from
the chip to the driver. -/
structure Device.Spared (t : SocketId) (start now : Device σ) : Prop where
  chip : (start.chip.afterDeliveries t ((Wired.endpoint now.board).occurrencesSince
    (Wired.endpoint start.board))).SameSocket now.chip t
  flags : Flow (.socket t) ((Wired.endpoint now.board).occurrencesSince
    (Wired.endpoint start.board)) start.chip start.controller.sticky now.chip now.controller.sticky
  localPort : now.controller.localPorts[t] = start.controller.localPorts[t]

/-- What a resolution leaves behind, whichever way it ends. -/
structure Dns.Resolver.Footprint (resolver : Resolver) (host : String) (start : Device σ)
    (r : Resolution × Resolver) (now : Device σ) : Prop where
  /-- Without a query nothing is exchanged at all. -/
  silent (h : (Ipv4.parse? host.toUTF8.toList).isSome ∨ resolver.server = Ipv4.unspecified ∨
    labels? host.toUTF8.toList = none) : now = start
  server : r.2.server = resolver.server
  /-- Every query has a new id. -/
  lastId : r.2.lastId =
    if (Ipv4.parse? host.toUTF8.toList).isSome ∨ resolver.server = Ipv4.unspecified then
      resolver.lastId
    else resolver.lastId + 1
  /-- Without a free socket the driver only looks. -/
  full {packet : List UInt8} (hasks : resolver.Asks host packet)
    (hfull : ∀ s, start.chip.isFree s = false) : r.1 = .error .noSocket ∧
      now.controller = start.controller ∧ ∃ o, (Wired.endpoint start.board).Passes
        (fun frame => frame.direction = .read) o (Wired.endpoint now.board)
  /-- The socket that was taken is free again. -/
  released {packet : List UInt8} {s : SocketId} (hasks : resolver.Asks host packet)
    (hfree : start.chip.freeSlot = some s) : now.Released s
  /-- The query is sent once, unless sending fails. -/
  sent {packet : List UInt8} {s : SocketId} (hasks : resolver.Asks host packet)
    (hfree : start.chip.freeSlot = some s) :
    r.1 = .error .sendFailed ∧ now.chip.sent = start.chip.sent ∨
      now.chip.sent = start.chip.sent ++ [⟨s, resolver.server, dnsPort, packet⟩]
  /-- The other sockets are spared. -/
  others {packet : List UInt8} {s t : SocketId} (hasks : resolver.Asks host packet)
    (hfree : start.chip.freeSlot = some s) (hst : s ≠ t) : Device.Spared t start now

namespace Dns.Resolver

variable {resolver : Resolver} {host : String} {start now : Device σ} {r : Resolution × Resolver}

/-- There is a query to send if the resolution does not end before. -/
theorem Asks.not_silent {packet : List UInt8} (h : resolver.Asks host packet) :
    ¬((Ipv4.parse? host.toUTF8.toList).isSome ∨ resolver.server = Ipv4.unspecified ∨
      labels? host.toUTF8.toList = none) := by
  rintro (hname | hserver | hlabels)
  · rw [h.name] at hname
    cases hname
  · exact h.server hserver
  · have hpacket := h.packet
    rw [query, hlabels] at hpacket
    cases hpacket

/-- If there is a query to send, there is somebody to ask. -/
theorem Asks.not_idle {packet : List UInt8} (h : resolver.Asks host packet) :
    ¬((Ipv4.parse? host.toUTF8.toList).isSome ∨ resolver.server = Ipv4.unspecified) :=
  fun hidle => h.not_silent (hidle.imp_right .inl)

theorem Footprint.of_silent (h : ∀ packet, ¬resolver.Asks host packet)
    (hid : r.2 = if (Ipv4.parse? host.toUTF8.toList).isSome ∨
      resolver.server = Ipv4.unspecified then resolver else resolver.advance) :
    resolver.Footprint host start r start where
  silent _ := rfl
  server := by
    rw [hid]
    split <;> rfl
  lastId := by
    rw [hid]
    split <;> rfl
  full hasks := absurd hasks (h _)
  released hasks := absurd hasks (h _)
  sent hasks := absurd hasks (h _)
  others hasks := absurd hasks (h _)

end Dns.Resolver

namespace Habit

variable {H : Habit σ} {start now : Device σ} {s t : SocketId}

/-- A socket that was not tended was spared. -/
theorem Tended.spared (hH : H.Calm) (hok : H.ok start.board)
    (h : H.Tended (Frame.Concerns s) s start now) (hst : s ≠ t) : Device.Spared t start now := by
  obtain ⟨o, hpasses, hflow⟩ := h.moves
  have hsame := hpasses.sameSocket (fun _ => id) (hH.visited hok) hst
  have hsince := hpasses.occurrencesSince
  refine ⟨?_, ?_, h.localPorts t hst⟩
  · rw [hsince]
    exact hsame
  · rw [hsince]
    exact hflow t hst

/-- Whichever way a resolution ends, it leaves behind what it may. -/
theorem Resolves.footprint {τ : Type} [Timepiece τ] {resolver : Resolver} {host : String}
    {timeout : Int} {clock : τ} {r : (Resolution × Resolver) × τ} (hH : H.Calm)
    (hok : H.ok start.board) (h : H.Resolves resolver host timeout clock start r now) :
    resolver.Footprint host start r.1 now := by
  cases h with
  | address h =>
    refine .of_silent (fun _ hasks => hasks.not_silent (.inl (h ▸ rfl))) ?_
    exact (if_pos (.inl (h ▸ rfl))).symm
  | noServer hname h =>
    exact .of_silent (fun _ hasks => hasks.server h) (if_pos (.inr h)).symm
  | noName hname hserver h =>
    refine .of_silent (fun _ hasks => ?_) (if_neg ?_).symm
    · rw [hasks.packet] at h
      cases h
    · rw [hname]
      exact fun hends => hends.elim Bool.false_ne_true hserver
  | noSocket hasks hfull hwalked =>
    obtain ⟨o, hpasses⟩ := hwalked.passes
    exact {
      silent := fun h => absurd h hasks.not_silent
      server := rfl
      lastId := (if_neg hasks.not_idle).symm
      full := fun _ _ => ⟨rfl, hwalked.controller, o, hpasses.mono fun _ hf => hH.looks hf⟩
      released := fun _ hfree => absurd (hfull.symm.trans hfree) nofun
      sent := fun _ hfree => absurd (hfull.symm.trans hfree) nofun
      others := fun _ hfree => absurd (hfull.symm.trans hfree) nofun }
  | @lent packet s _ result final hasks hfree hlent =>
    have hsame {t : SocketId} (h : start.chip.freeSlot = some t) : s = t :=
      Option.some.inj (hfree.symm.trans h)
    refine {
      silent := fun h => absurd h hasks.not_silent
      server := rfl
      lastId := (if_neg hasks.not_idle).symm
      full := fun _ hfull =>
        absurd ((Chip.freeSlot_eq_none.2 hfull).symm.trans hfree) nofun
      released := fun _ h => hsame h ▸ hlent.released
      sent := fun hasks' h => ?_
      others := fun _ h hst => hlent.tended.spared hH hok (hsame h ▸ hst) }
    obtain rfl := hsame h
    cases hasks.packet.symm.trans hasks'.packet
    exact hlent.outcome.imp (fun h => ⟨h.1, h.2.1⟩) And.left

end Habit

end Footprint

/-- Whichever way a resolution ends, whatever arrives meanwhile: without a query nothing is
exchanged, every query has a new id, and without a free socket the driver only looks. Otherwise the
query leaves once unless sending fails, the socket that was taken is free again, and nothing has
happened to the others. -/
theorem resolve_footprint {τ : Type} [Timepiece τ] {device : Device Board}
    (hundisturbed : device.board.Undisturbed) (hvisited : device.chip.Visited)
    (resolver : Resolver) (host : String) (timeout : Int) (clock : τ) :
    Ensures (Advances clock) (resolver.resolve host timeout clock) device fun r device' =>
      resolver.Footprint host device r.1 device' := by
  have hok : Habit.visited.ok device.board := ⟨hundisturbed, hvisited⟩
  exact (Habit.resolve_ensures Habit.visited_calm hok resolver host timeout clock).mono
    fun _ _ h => h.footprint Habit.visited_calm hok

/-- The id of the query starts again, and it leaves; but there is no time to wait for a reply. -/
theorem resolve_footprint_answering :
    Ends (Resolver.resolve ⟨⟨10, 0, 0, 7⟩, 0xFFFF⟩ "example.com" 0 (⟨0, 1⟩ : Clock))
      Device.answering fun r device' =>
        Resolver.Footprint ⟨⟨10, 0, 0, 7⟩, 0xFFFF⟩ "example.com" Device.answering r.1 device' ∧
          r.1 = (.error .timeout, ⟨⟨10, 0, 0, 7⟩, 0⟩) ∧
            device'.chip.sent = [⟨0, ⟨10, 0, 0, 7⟩, dnsPort, exampleQuery 0⟩] := by
  obtain ⟨hundisturbed, hvisited⟩ := Device.visited_answering
  have hleaves := (resolve_footprint hundisturbed hvisited ⟨⟨10, 0, 0, 7⟩, 0xFFFF⟩ "example.com" 0
    (⟨0, 1⟩ : Clock)).ends (Clock.advances (by decide))
  refine (hleaves.and (Device.resolves_answering _ _ _)).mono ?_
  rintro ⟨⟨result, resolver⟩, final⟩ device' ⟨hleaves, hresolves⟩
  obtain ⟨hresolver, hlent⟩ := hresolves.lent_of (Dns.Resolver.asks_example 0xFFFF)
    Device.freeSlot_answering
  obtain ⟨-, -, hfails⟩ | ⟨hsent, hdecides⟩ := hlent.outcome
  · exact absurd Device.reaches_answering hfails
  obtain ⟨opening, opened, -, hattends⟩ := hdecides Device.suits_answering
  obtain ⟨_, -, hdecided⟩ := hattends.decided
  have htimeout : result = .error .timeout := hdecided.late (by decide)
  have hresolver : resolver = ⟨⟨10, 0, 0, 7⟩, 0⟩ := hresolver
  rw [htimeout, hresolver] at hleaves ⊢
  exact ⟨hleaves, rfl, hsent⟩

end SpiEthernet
