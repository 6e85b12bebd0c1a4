import SpiEthernet.Dns.Resolver
import SpiEthernet.Operation.Channel
import SpiEthernet.Proofs.Operation.Device

/-!
# What channels and the resolver do to a board

A channel works on its socket with the driver's calls and remembers something of its own: whether a
datagram was begun, and how much of the incoming datagram is unread. Only receiving changes the
latter. So a property that speaks of the socket and of the unread bytes beside the board is kept by
every operation on a channel if the calls that move pointers respect it. A resolver borrows a
channel and reads a clock, which is no part of the board.

* `Serves.performChannel` : every operation on a channel follows what the calls on its socket do.
* `Robust.resolve` : a resolution keeps what harmless frames do not break.
-/

namespace SpiEthernet

/-! ## Computations on a channel -/

/-- No run of a computation on a channel that comes to an end leads out of `I`, which speaks of the
channel's socket, of the unread bytes of its incoming datagram, and of the device. -/
def Follows {σ α : Type} (I : SocketId → Nat → Device σ → Prop) (action : ChannelM σ α) : Prop :=
  ∀ channel, Leads (I channel.socket channel.remaining) (action channel)
    fun r => I r.2.socket r.2.remaining

namespace Follows

variable {σ α β : Type} {I : SocketId → Nat → Device σ → Prop}

theorem pure (a : α) : Follows I (Pure.pure a : ChannelM σ α) :=
  fun _ => Leads.pure fun _ => id

theorem bind {action : ChannelM σ α} {k : α → ChannelM σ β} (h : Follows I action)
    (hk : ∀ a, Follows I (k a)) : Follows I (action >>= k) := by
  intro channel
  show Leads _ (action channel >>= fun r => k r.1 r.2) _
  exact Leads.bind (h channel) fun r => hk r.1 r.2

theorem ite {c : Prop} [Decidable c] {action other : ChannelM σ α} (h : Follows I action)
    (h' : Follows I other) : Follows I (if c then action else other) := by
  split
  · exact h
  · exact h'

theorem attempt {action : ChannelAttempt σ α} {k : α → ChannelAttempt σ β}
    (h : Follows I action.run) (hk : ∀ a, Follows I (k a).run) : Follows I (action >>= k).run := by
  refine bind h ?_
  rintro (cause | a)
  · exact pure (Except.error cause)
  · exact hk a

theorem attempt_ite {c : Prop} [Decidable c] {action other : ChannelAttempt σ α}
    (h : Follows I action.run) (h' : Follows I other.run) :
    Follows I (if c then action else other).run := by
  split
  · exact h
  · exact h'

theorem attempt_guarded {c : Prop} [Decidable c] {action : ChannelAttempt σ PUnit}
    {k : PUnit → ChannelAttempt σ α} (h : Follows I action.run) (hk : Follows I (k ⟨⟩).run) :
    Follows I (if c then action >>= k else k ⟨⟩).run :=
  attempt_ite (attempt h fun _ => hk) hk

theorem fail (cause : Error) : Follows I (Channel.failWith cause : ChannelAttempt σ α).run :=
  pure (Except.error cause)

theorem current : Follows I (Channel.current : ChannelAttempt σ Channel).run :=
  fun _ => Leads.pure fun _ => id

/-- The channel may change if its socket and the unread bytes stay. -/
theorem change {f : Channel → Channel} (hsocket : ∀ channel, (f channel).socket = channel.socket)
    (hremaining : ∀ channel, (f channel).remaining = channel.remaining) :
    Follows I (Channel.change f : ChannelAttempt σ Unit).run := by
  refine fun channel => Leads.pure fun d hd => ?_
  show I (f channel).socket (f channel).remaining d
  rwa [hsocket, hremaining]

theorem lift {action : DeviceM σ α} (h : ∀ s n, Keeps (I s n) action) :
    Follows I (StateT.lift action : ChannelM σ α) :=
  fun channel => Leads.bind (h channel.socket channel.remaining) fun _ => Leads.pure fun _ => id

theorem onSocket {action : SocketId → Attempt σ α} (h : ∀ s n, Keeps (I s n) (action s)) :
    Follows I (Channel.onSocket action).run :=
  fun channel => Leads.bind (h channel.socket channel.remaining) fun _ => Leads.pure fun _ => id

theorem attemptingOn {f : α → Outcome} {action : ChannelAttempt σ α} (h : Follows I action.run) :
    Follows I (attemptingOn f action) :=
  bind h fun _ => pure _

theorem looking {f : Channel → Outcome} : Follows I (looking f : ChannelM σ Outcome) :=
  fun _ => Leads.pure fun _ => id

end Follows

/-! ## Opening -/

namespace Robust

variable {σ : Type} [Host σ] {I : σ → Prop} (h : Robust Frame.IsRoutine I)
  (hopening : ∀ s, Keeps (fun d : Device σ => I d.board) (SpiEthernet.issue s .open))

include h hopening

theorem begin (wanted : UInt16) : Keeps (fun d : Device σ => I d.board) (Channel.begin wanted) := by
  refine Keeps.bind (h.firstReusable SocketId.all) fun s => ?_
  exact Keeps.bind (h.openSocket s (hopening s) _ _ _) fun _ => Keeps.pure _

theorem beginMulticast (group : Ipv4) (wanted : UInt16) :
    Keeps (fun d : Device σ => I d.board) (Channel.beginMulticast group wanted) := by
  unfold Channel.beginMulticast
  refine Keeps.guarded (Keeps.fail _) (Keeps.bind (h.firstReusable SocketId.all) fun s => ?_)
  refine Keeps.bind (h.startDatagram s _ _) fun _ => ?_
  refine Keeps.bind (Keeps.sure (h.setDestinationMac s _)) fun _ => ?_
  refine Keeps.bind (h.openSocket s (hopening s) _ _ _) fun chosen => ?_
  exact Keeps.bind (Keeps.sure (h.note _)) fun _ => Keeps.pure _

end Robust

/-! ## Operations on a channel -/

/-- The unread bytes of the datagram that a header announces. -/
def announced : Except Error (Option DatagramInfo) → Nat
  | .ok (some info) => info.length
  | _ => 0

/-- A property that speaks of a socket and of the unread bytes of a datagram in its ring is
respected by the calls with which a channel sends. -/
structure Posts {σ : Type} [Host σ] (I : SocketId → Nat → Device σ → Prop) : Prop where
  startDatagram (s : SocketId) (n : Nat) (ip : Ipv4) (destinationPort : UInt16) :
    Keeps (I s n) (startDatagram s ip destinationPort)
  freeTx (s : SocketId) (n : Nat) : Keeps (I s n) (freeTx s)
  buffer (s : SocketId) (n : Nat) (offset : UInt16) (data : List UInt8) :
    Keeps (I s n) (buffer s offset data)
  sendDatagram (s : SocketId) (n : Nat) : Keeps (I s n) (sendDatagram s)

/-- Such a property is respected by all calls that a channel makes, and by remarks. -/
structure Serves {σ : Type} [Host σ] (I : SocketId → Nat → Device σ → Prop) : Prop extends
    Posts I where
  note (s : SocketId) (n : Nat) (notice : Notice) : Keeps (I s n) (note notice)
  status (s : SocketId) (n : Nat) : Keeps (I s n) (status s)
  peekByte (s : SocketId) (n : Nat) : Keeps (I s n) (peekByte s)
  header (s : SocketId) :
    Leads (I s 0) (receiveHeader s).run fun r => I s (announced r)
  take (s : SocketId) (n count : Nat) (hcount : count ≤ n) :
    Leads (I s n)
      (do
        let bytes ← fetch s count false
        sure (issue s .receive)
        return bytes : Attempt σ (List UInt8)).run
      fun r => I s (if r.isOk then n - count else n)
  discard (s : SocketId) (n : Nat) : Leads (I s n)
    (do
      skip s (UInt16.ofNat n)
      issue s .receive) fun _ => I s 0

/-- What routine frames do not break, a channel respects if the calls that move pointers do. -/
theorem Serves.of_robust {σ : Type} [Host σ] {I : SocketId → Nat → σ → Prop}
    (robust : ∀ s n, Robust Frame.IsRoutine (I s n))
    (buffer : ∀ s n offset data, Keeps (fun d : Device σ => I s n d.board) (buffer s offset data))
    (header : ∀ s, Leads (fun d : Device σ => I s 0 d.board) (receiveHeader s).run
      fun r d => I s (announced r) d.board)
    (take : ∀ s n count, count ≤ n → Leads (fun d : Device σ => I s n d.board)
      (do
        let bytes ← fetch s count false
        sure (issue s .receive)
        return bytes : Attempt σ (List UInt8)).run
      fun r d => I s (if r.isOk then n - count else n) d.board)
    (discard : ∀ s n, Leads (fun d : Device σ => I s n d.board)
      (do
        skip s (UInt16.ofNat n)
        issue s .receive) fun _ d => I s 0 d.board) :
    Serves fun s n (d : Device σ) => I s n d.board where
  startDatagram s n := (robust s n).startDatagram s
  freeTx s n := (robust s n).settledWord _
  buffer := buffer
  sendDatagram s n := (robust s n).sendDatagram s
  note s n := (robust s n).note
  status s n := (robust s n).quiet.status s
  peekByte s n := (robust s n).peekByte s
  header := header
  take := take
  discard := discard

theorem Serves.all {σ ι : Type} [Host σ] {I : ι → SocketId → Nat → Device σ → Prop}
    (h : ∀ i, Serves (I i)) : Serves fun s n d => ∀ i, I i s n d where
  startDatagram s n ip port := Leads.all fun i => (h i).startDatagram s n ip port
  freeTx s n := Leads.all fun i => (h i).freeTx s n
  buffer s n offset data := Leads.all fun i => (h i).buffer s n offset data
  sendDatagram s n := Leads.all fun i => (h i).sendDatagram s n
  note s n notice := Leads.all fun i => (h i).note s n notice
  status s n := Leads.all fun i => (h i).status s n
  peekByte s n := Leads.all fun i => (h i).peekByte s n
  header s := Leads.all fun i => (h i).header s
  take s n count hcount := Leads.all fun i => (h i).take s n count hcount
  discard s n := Leads.all fun i => (h i).discard s n

namespace Posts

variable {σ : Type} [Host σ] {I : SocketId → Nat → Device σ → Prop} (h : Posts I)

include h

/-- No such call changes what is unread of the incoming datagram. -/
theorem within (unread : Nat) : Posts fun s n d => n = unread ∧ I s n d where
  startDatagram s n ip port := Keeps.when fun _ => h.startDatagram s n ip port
  freeTx s n := Keeps.when fun _ => h.freeTx s n
  buffer s n offset data := Keeps.when fun _ => h.buffer s n offset data
  sendDatagram s n := Keeps.when fun _ => h.sendDatagram s n

theorem beginPacket (ip : Ipv4) (destinationPort : UInt16) :
    Follows I (Channel.beginPacket ip destinationPort).run :=
  Follows.attempt (Follows.onSocket fun s n => h.startDatagram s n _ _) fun _ =>
    Follows.change (fun _ => rfl) fun _ => rfl

theorem writePacket (data : List UInt8) : Follows I (Channel.writePacket data).run := by
  refine Follows.attempt Follows.current fun channel => ?_
  cases channel.written with
  | none => exact Follows.fail _
  | some offset =>
    refine Follows.attempt (Follows.onSocket fun s n => h.buffer s n _ _) fun count => ?_
    refine Follows.attempt_ite (Follows.attempt (Follows.onSocket fun s n =>
      Keeps.sure (h.freeTx s n)) fun free => ?_) ?_
    · exact Follows.attempt (Follows.fail _) fun _ =>
        Follows.attempt (Follows.change (fun _ => rfl) fun _ => rfl) fun _ => Follows.pure _
    · exact Follows.attempt (Follows.change (fun _ => rfl) fun _ => rfl) fun _ => Follows.pure _

theorem writeRest (fuel : Nat) : ∀ data, Follows I (Channel.writeRest data fuel).run := by
  induction fuel with
  | zero => exact fun _ => Follows.pure _
  | succ fuel ih =>
    exact fun data =>
      Follows.attempt_ite (Follows.attempt (h.writePacket data) fun _ => ih _) (Follows.pure _)

theorem endPacket : Follows I (Channel.endPacket (σ := σ)).run := by
  refine Follows.attempt Follows.current fun channel => ?_
  refine Follows.attempt_guarded (Follows.fail _) ?_
  refine Follows.attempt (Follows.change (fun _ => rfl) fun _ => rfl) fun _ => ?_
  exact Follows.onSocket h.sendDatagram

end Posts

namespace Serves

variable {σ : Type} [Host σ] {I : SocketId → Nat → Device σ → Prop} (h : Serves I)

include h

/-- Whatever was unread is gone before the next header is taken. -/
theorem parsePacket : Follows I (Channel.parsePacket (σ := σ)).run := by
  intro channel
  refine Leads.channel_attempt (R := fun r d => r.2.remaining = 0 ∧ I r.2.socket 0 d)
    ?_ (fun _ c => ?_) ?_
  · refine Leads.current_bind ?_
    by_cases hrest : 0 < channel.remaining
    · rw [if_pos hrest]
      refine Leads.sure_socket_bind (h.discard channel.socket channel.remaining) fun _ => ?_
      exact Leads.pure fun _ hd => ⟨rfl, hd⟩
    · rw [if_neg hrest]
      have hzero : channel.remaining = 0 := Nat.eq_zero_of_not_pos hrest
      rw [hzero]
      exact Leads.pure fun _ hd => ⟨hzero, hd⟩
  · refine Leads.socket_bind (R := fun r d => c.remaining = 0 ∧ I c.socket (announced r) d)
      ?_ (fun header => ?_) ?_
    · intro d r d' ⟨hzero, hd⟩ hrun
      exact ⟨hzero, h.header c.socket d r d' hd hrun⟩
    · cases header with
      | none =>
        refine Leads.pure fun d ⟨hzero, hd⟩ => ?_
        show I c.socket c.remaining d
        rw [hzero]
        exact hd
      | some info => exact Leads.change_bind (Leads.pure fun _ ⟨_, hd⟩ => hd)
    · rintro cause d ⟨hzero, hd⟩
      show I c.socket c.remaining d
      rw [hzero]
      exact hd
  · rintro cause c d ⟨hzero, hd⟩
    show I c.socket c.remaining d
    rwa [hzero]

theorem readPacket (room : Nat) : Follows I (Channel.readPacket room).run := by
  intro channel
  refine Leads.current_bind ?_
  dsimp only
  split
  · exact Leads.pure fun _ => id
  · refine Leads.socket_bind (h.take channel.socket channel.remaining
      (min channel.remaining room) (Nat.min_le_left _ _)) (fun bytes => ?_) fun _ _ hd => hd
    exact Leads.change_bind (Leads.pure fun _ hd => hd)

/-- Every operation on a channel respects what the calls on its socket respect. -/
theorem performChannel (operation : ChannelOperation) :
    Follows I (operation.perform (σ := σ)) := by
  cases operation with
  | status =>
    exact Follows.attemptingOn (Follows.onSocket fun s n => Keeps.sure (h.status s n))
  | beginPacket ip destinationPort => exact Follows.attemptingOn (h.beginPacket ip destinationPort)
  | writePacket data => exact Follows.attemptingOn (h.writePacket data)
  | writeAll data => exact Follows.attemptingOn (h.writeRest data.length data)
  | endPacket => exact Follows.attemptingOn h.endPacket
  | flush =>
    refine Follows.attemptingOn (Follows.attempt Follows.current fun channel => ?_)
    exact Follows.attempt_ite h.endPacket (Follows.pure _)
  | parsePacket => exact Follows.attemptingOn h.parsePacket
  | readPacket room => exact Follows.attemptingOn (h.readPacket room)
  | peek =>
    refine Follows.attemptingOn (Follows.attempt Follows.current fun channel => ?_)
    exact Follows.attempt_ite (Follows.pure _)
      (Follows.onSocket h.peekByte)
  | available | readReady | remote => exact Follows.looking

end Serves

/-! ## Resolving -/

namespace Follows

open Dns

variable {σ τ α β : Type} {I : SocketId → Nat → Device σ → Prop}

theorem timed_bind {action : TimedM τ σ α} {k : α → TimedM τ σ β}
    (h : ∀ clock, Follows I (action clock)) (hk : ∀ a clock, Follows I (k a clock)) (clock : τ) :
    Follows I ((action >>= k) clock) :=
  bind (h clock) fun r => hk r.1 r.2

theorem untimed {action : ChannelM σ α} (h : Follows I action) (clock : τ) :
    Follows I (Dns.untimed action clock) :=
  bind h fun _ => pure _

theorem timed_pollWithin {step : TimedM τ σ (Option α)} (h : ∀ clock, Follows I (step clock))
    (bound : Nat) : ∀ clock, Follows I (SpiEthernet.pollWithin step bound clock) := by
  induction bound with
  | zero => exact fun _ _ => nofun
  | succ bound ih =>
    refine timed_bind h ?_
    rintro (_ | result)
    · exact ih
    · exact fun _ => pure _

end Follows

section Resolve

open Dns

variable {σ τ : Type} [Host σ] [Timepiece τ] {I : SocketId → Nat → Device σ → Prop}

theorem Posts.sendQuery (h : Posts I) (server : Ipv4) (packet : List UInt8) :
    Follows I (sendQuery server packet).run := by
  refine Follows.attempt (h.beginPacket _ _) fun _ => ?_
  refine Follows.attempt (h.writePacket _) fun count => ?_
  exact Follows.attempt_guarded (Follows.fail _) h.endPacket

namespace Serves

variable (h : Serves I)

include h

theorem remark (notice : Notice) : Follows I (remark notice) :=
  Follows.lift fun s n => h.note s n notice

theorem pollReply (server : Ipv4) (id : UInt16) : Follows I (pollReply server id) := by
  have hjudge : Follows I (judgePacket id) := by
    refine Follows.bind (h.readPacket _) ?_
    rintro (cause | bytes)
    · exact Follows.pure _
    dsimp only
    cases judge bytes id with
    | wrongId | malformed => exact Follows.bind (h.remark _) fun _ => Follows.pure _
    | _ => exact Follows.pure _
  refine Follows.bind h.parsePacket ?_
  rintro (cause | _ | count)
  · exact Follows.pure _
  · exact Follows.pure _
  refine Follows.bind (fun _ => Leads.pure fun _ hd => hd) fun channel => Follows.ite ?_ hjudge
  exact Follows.bind (h.remark _) fun _ => Follows.pure _

/-- Asking and waiting are nothing but calls on a channel. -/
theorem converse (server : Ipv4) (query : PendingQuery) (packet : List UInt8) :
    ∀ clock : τ, Follows I (converse server query packet clock) := by
  have hpoll : ∀ clock : τ, Follows I (pollUntilDeadline server query clock) := by
    refine Follows.timed_bind (fun _ => Follows.pure _) fun now clock => ?_
    show Follows I ((if query.expired now then _ else _ : TimedM τ σ _) clock)
    split
    · refine Follows.timed_bind (Follows.untimed (h.remark _)) ?_ clock
      exact fun _ _ => Follows.pure _
    · exact Follows.untimed (h.pollReply _ _) clock
  have hawait : ∀ clock : τ, Follows I (awaitReply server query clock) := by
    refine Follows.timed_bind (Follows.untimed (Follows.lift fun _ _ => Keeps.patience)) ?_
    refine fun polls => Follows.timed_bind (fun _ => Follows.pure _) fun clock => ?_
    exact Follows.timed_pollWithin hpoll _
  refine Follows.timed_bind (Follows.untimed (h.sendQuery server packet)) ?_
  rintro (cause | _)
  · refine Follows.timed_bind (Follows.untimed (h.remark _)) ?_
    exact fun _ _ => Follows.pure _
  · refine Follows.timed_bind (Follows.untimed (h.remark _)) fun _ => ?_
    refine Follows.timed_bind hawait fun result => ?_
    refine Follows.timed_bind (Follows.untimed (h.remark _)) ?_
    exact fun _ _ => Follows.pure _

end Serves

/-! ## Borrowing a channel -/

variable {α : Type} {J Q : Device σ → Prop}

/-- What the use of a channel leads to is what closing its socket makes of it. -/
theorem leads_useChannel (channel : Channel) {action : ChannelM σ α}
    (haction : Keeps J (action channel)) (hclose : ∀ s, Leads J (close s) fun _ => Q) :
    Leads J (channel.useChannel action) fun _ => Q :=
  Leads.bind haction fun (_, channel) => Leads.bind (hclose channel.socket) fun _ =>
    Leads.pure fun _ => id

/-- A resolution either does nothing with the device, or it opens a channel and, if that succeeds,
asks over it and closes it again. -/
theorem leads_resolve {I : Device σ → Prop} (resolver : Resolver) (host : String) (timeout : Int)
    (clock : τ) (hnothing : ∀ d, I d → Q d)
    (hbegin : Leads I (Channel.begin 0).run fun r d =>
      match r with
      | .error _ => Q d
      | .ok _ => J d)
    (hconverse : ∀ server query packet (clock : τ) (channel : Channel),
      Keeps J (Dns.converse server query packet clock channel))
    (hclose : ∀ s, Leads J (close s) fun _ => Q) :
    Leads I (resolver.resolve host timeout clock) fun _ => Q := by
  have hask : ∀ server query packet (clock : τ),
      Leads I (ask server query packet clock) fun _ => Q := by
    intro server query packet clock
    refine Leads.bind hbegin ?_
    rintro (cause | channel)
    · exact Leads.pure fun _ => id
    · exact leads_useChannel channel (hconverse server query packet clock channel) hclose
  have hbind {α β : Type} {action : StateT τ (DeviceM σ) α} {k : α → StateT τ (DeviceM σ) β}
      {R : Device σ → Prop} (h : ∀ clock, Leads I (action clock) fun _ => R)
      (hk : ∀ a clock, Leads R (k a clock) fun _ => Q) (clock : τ) :
      Leads I ((action >>= k) clock) fun _ => Q :=
    Leads.bind (h clock) fun r => hk r.1 r.2
  unfold Resolver.resolve
  dsimp only
  cases Ipv4.parse? host.toUTF8.toList with
  | some ip => exact Leads.pure hnothing
  | none =>
    split
    · exact Leads.pure hnothing
    refine hbind (fun _ => Leads.pure fun _ => id) (fun now clock => ?_) clock
    cases query resolver.advance.lastId host.toUTF8.toList with
    | error cause => exact Leads.pure hnothing
    | ok packet => exact hbind (hask _ _ _) (fun _ _ => Leads.pure fun _ => id) clock

end Resolve

/-! ## Harmless frames -/

namespace Robust

variable {σ α : Type} [Host σ] {I : σ → Prop}

/-- What routine frames do not break, all that a channel does beside opening respects if moving
pointers does not break it either. -/
theorem serves_of_pointers (h : Robust Frame.IsRoutine I)
    (hpointer : ∀ (s : SocketId) (r : SocketRegister), r.width = 2 → ∀ pointer,
      Keeps (fun d : Device σ => I d.board)
        (onLink (SpiEthernet.writeWord (r.address s) pointer))) :
    Serves fun (_ : SocketId) (_ : Nat) (d : Device σ) => I d.board :=
  Serves.of_robust (I := fun _ _ => I) (fun _ _ => h)
    (fun s _ => h.buffer s (hpointer s .txWrite rfl))
    (fun s => h.receiveHeader s (hpointer s .rxRead rfl))
    (fun s _ count _ => h.take s (hpointer s .rxRead rfl) count)
    fun s _ => Keeps.bind (h.skip s (hpointer s .rxRead rfl) _) fun _ =>
      h.issue s .receive (by decide)

variable (h : Robust Frame.IsHarmless I)

include h

theorem serves : Serves fun (_ : SocketId) (_ : Nat) (d : Device σ) => I d.board :=
  h.routine.serves_of_pointers fun s r hw => h.writePointer s r hw

/-- Every operation on a channel keeps what harmless frames do not break. -/
theorem performChannel (operation : ChannelOperation) :
    Keeps (fun d : Device σ => I d.board) (operation.perform (σ := σ)) :=
  h.serves.performChannel operation

theorem useChannel (channel : Channel) {action : ChannelM σ α}
    (haction : Keeps (fun d : Device σ => I d.board) action) :
    Keeps (fun d : Device σ => I d.board) (channel.useChannel action) :=
  leads_useChannel channel (haction channel) h.routine.close

open Dns

/-- A resolution keeps what harmless frames do not break. -/
theorem resolve {τ : Type} [Timepiece τ] (resolver : Resolver) (host : String) (timeout : Int) :
    Keeps (fun d : Device σ => I d.board)
      (resolver.resolve host timeout : StateT τ (DeviceM σ) _) := by
  have hbegin : Keeps (fun d : Device σ => I d.board) (Channel.begin 0 : Attempt σ Channel) :=
    h.routine.begin (fun s => (h.withstands s).opening) 0
  refine fun clock => leads_resolve resolver host timeout clock (fun _ => id) ?_
    (fun server query packet clock => h.serves.converse server query packet clock) h.routine.close
  intro d r d' hd hrun
  have hd' := hbegin d r d' hd hrun
  cases r <;> exact hd'

end Robust

end SpiEthernet
