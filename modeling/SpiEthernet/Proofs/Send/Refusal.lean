import SpiEthernet.Proofs.Operation.Isolation
import SpiEthernet.Proofs.Send.Destination

/-!
# What a refused call leaves behind

A call may be refused for its arguments, for the room that there is, or because no datagram was
begun. Most calls are refused before they have written anything, so everything is as it was and a
datagram that is being built can go on. The two that send a datagram to a given destination set the
destination before they ask for room. When they are refused for lack of room, the destination stays
set, and a datagram that is being built on the socket leaves for it.

* `Refuses` : what a device is like where a call has been refused.
* `refused_call_leaves` : all calls together.
-/

namespace SpiEthernet

/-! ## Refusals -/

/-- Whether a failure says that a call was refused: for its arguments, for the room that there is,
or because no datagram was begun. -/
def Error.isRefusal : Error → Bool
  | invalidAddress | insufficientSpace _ _ | transferTooLarge _ _ | noPacket => true
  | _ => false

/-- The attempt may fail, but it is never refused. -/
def NeverRefused {σ α : Type} (m : Attempt σ α) : Prop :=
  Leads (fun _ => True) m.run fun r _ => ∀ cause, r = .error cause → cause.isRefusal = false

namespace NeverRefused

variable {σ α β : Type}

theorem pure (a : α) : NeverRefused (Pure.pure a : Attempt σ α) :=
  Leads.pure fun _ _ => nofun

theorem fail {cause : Error} (h : cause.isRefusal = false) :
    NeverRefused (fail cause : Attempt σ α) :=
  Leads.pure fun _ _ _ hcause => Except.error.inj hcause ▸ h

theorem sure (m : DeviceM σ α) : NeverRefused (sure m) :=
  Leads.sure fun _ _ _ _ _ => nofun

theorem attempt {m : Attempt σ α} {k : α → Attempt σ β} (h : NeverRefused m)
    (hk : ∀ a, NeverRefused (k a)) : NeverRefused (m >>= k) :=
  Leads.attempt h (fun a => (hk a).mono fun _ _ => trivial)
    fun cause _ hcause _ heq => Except.error.inj heq ▸ hcause cause rfl

theorem ite {c : Prop} [Decidable c] {m m' : Attempt σ α} (h : NeverRefused m)
    (h' : NeverRefused m') : NeverRefused (if c then m else m') := by
  split
  · exact h
  · exact h'

theorem pollWithin {step : Attempt σ (Option α)} (h : NeverRefused step) (bound : Nat) :
    NeverRefused (SpiEthernet.pollWithin step bound) := by
  induction bound with
  | zero =>
    intro x a x' _ hrun
    cases hrun
  | succ bound ih =>
    refine attempt h fun r => ?_
    cases r with
    | some a => exact pure a
    | none => exact ih

variable [Host σ] (s : SocketId)

/-- A transmission may time out. -/
theorem sendDatagram : NeverRefused (sendDatagram (σ := σ) s) := by
  refine attempt (sure _) fun _ => attempt (sure _) fun _ => attempt (sure _) fun bound => ?_
  refine pollWithin (attempt (sure _) fun _ => attempt (sure _) fun flags => ?_) bound
  refine ite (pure _) (ite (attempt (sure _) fun _ => ?_) (pure _))
  exact fail rfl

theorem closingOnFailure {m : Attempt σ α} (h : NeverRefused m) :
    NeverRefused (closingOnFailure s m) := by
  refine Leads.tryCatch h (fun _ _ => id) fun cause device r device' hcause hrun => ?_
  exact attempt (sure _) (fun _ => fail (hcause cause rfl)) device r device' trivial hrun

/-- Bytes that fit into a ring may be fetched. -/
theorem fetch {count : Nat} (hfits : count ≤ ringSize) (peek : Bool) :
    NeverRefused (fetch (σ := σ) s count peek) := by
  unfold SpiEthernet.fetch
  rw [checkLength_of_le hfits, pure_bind]
  refine ite (pure _) (attempt (sure _) fun pointer => ?_)
  refine attempt (sure _) fun head => attempt (sure _) fun tail => ?_
  exact ite (attempt (sure _) fun _ => pure _) (pure _)

end NeverRefused

/-! ## Calls on a socket -/

section Device

variable {σ α β : Type} [Host σ] [Wired σ]

namespace Habit

/-- Where a call has been refused, the device holds a memory and otherwise is as it was. -/
def Refuses (H : Habit σ) (start : Device σ) (memory : Memory) (r : Except Error α)
    (now : Device σ) : Prop :=
  H.ok now.board ∧ ∀ cause, r = .error cause → cause.isRefusal → H.Rewritten start memory now

/-- Beside that, the call is refused if it is about more bytes than there is room for. -/
def RefusesBeyond (H : Habit σ) (start : Device σ) (memory : Memory) (s : SocketId) (count : Nat)
    (r : Except Error α) (now : Device σ) : Prop :=
  let free := (start.chip.wordOf .txFree s).toNat
  H.Refuses start memory r now ∧ (free < count → r = .error (.insufficientSpace count free))

variable {H : Habit σ} {s : SocketId} {start device : Device σ} {memory : Memory}

theorem Rewritten.refuses {r : Except Error α} (h : H.Rewritten start memory device) :
    H.Refuses start memory r device :=
  ⟨h.ok, fun _ _ _ => h⟩

theorem refuses_ok {a : α} (hok : H.ok device.board) : H.Refuses start memory (.ok a) device :=
  ⟨hok, fun _ => nofun⟩

/-- A refusal in the first part of a call is a refusal of the call. -/
theorem refuses_attempt {m : Attempt σ α} {k : α → Attempt σ β}
    (h : Ends m.run device (H.Refuses start memory))
    (hk : ∀ a d, H.ok d.board → Ends (k a).run d (H.Refuses start memory)) :
    Ends (m >>= k).run device (H.Refuses start memory) :=
  Ends.attempt h (fun a d hd => hk a d hd.1) fun cause _ hd =>
    ⟨hd.1, fun _ heq => Except.error.inj heq ▸ hd.2 cause rfl⟩

theorem refusesBeyond_attempt {m : Attempt σ α} {k : α → Attempt σ β} {count : Nat}
    (h : Ends m.run device (H.RefusesBeyond start memory s count))
    (hk : ∀ a d, H.ok d.board → Ends (k a).run d (H.Refuses start memory)) :
    Ends (m >>= k).run device (H.RefusesBeyond start memory s count) := by
  refine Ends.attempt h (fun a d hd => ?_) fun cause d hd => ?_
  · exact (hk a d hd.1.1).mono fun _ _ hr => ⟨hr, fun hlong => nomatch hd.2 hlong⟩
  · refine ⟨⟨hd.1.1, fun _ heq => Except.error.inj heq ▸ hd.1.2 cause rfl⟩, fun hlong => ?_⟩
    exact congrArg Except.error (Except.error.inj (hd.2 hlong))

/-- A call that is never refused comes to an end without a refusal. -/
theorem ends_of_never {P : Frame → Prop} {m : Attempt σ α} (hok : H.ok device.board)
    (hm : Succeeds (H.Tended P s device) m.run) (hnever : NeverRefused m) :
    Ends m.run device fun r now =>
      H.ok now.board ∧ ∀ cause, r = .error cause → ¬cause.isRefusal := by
  obtain ⟨r, now, hrun, htended⟩ := hm device (.refl hok)
  refine ⟨r, now, hrun, htended.ok, fun cause hcause => ?_⟩
  rw [hnever _ _ _ trivial hrun cause hcause]
  exact Bool.false_ne_true

theorem refuses_of_never {P : Frame → Prop} {m : Attempt σ α} (hok : H.ok device.board)
    (hm : Succeeds (H.Tended P s device) m.run) (hnever : NeverRefused m) :
    Ends m.run device (H.Refuses start memory) :=
  (ends_of_never hok hm hnever).mono fun _ _ hr =>
    ⟨hr.1, fun cause hcause hrefusal => absurd hrefusal (hr.2 cause hcause)⟩

section Calm

variable (hH : H.Calm)

include hH

theorem sendDatagram_refuses (hok : H.ok device.board) :
    Ends (sendDatagram s).run device (H.Refuses start memory) :=
  refuses_of_never hok (sent_tends hH) (.sendDatagram s)

/-! ### Room -/

theorem freeTx_rewritten (h : H.Rewritten start memory device) :
    Ends (freeTx s) device fun free now =>
      free = memory.readWord (SocketRegister.txFree.address s).toNat ∧
        H.Rewritten start memory now := by
  refine (H.settledWord_ends h.ok (r := .txFree) rfl (by decide)).mono ?_
  rintro free now ⟨hwalked, o, first, second, hstart, hfirst, hsecond⟩
  have hnow := h.walked hH hwalked
  have hread {e e' : Endpoint} {o : List Occurrence} (he : e.Passes H.Looks o e')
      (hchip : start.chip.Rewritten memory e.chip) : start.chip.Rewritten memory e'.chip :=
    (he.mono fun _ => hH.looks).rewritten hchip
  -- the second reading found nothing to come, so it has read what is there now
  obtain ⟨o', hpasses⟩ := hfirst.passes
  have hbefore := hread hpasses (hread hstart h.chip)
  obtain ⟨-, hfree⟩ :=
    hsecond.eq_of_nothing_pending hbefore.steady hbefore.still.queue rfl
  refine ⟨hfree.trans ?_, hnow⟩
  show now.chip.memory.readWord _ = _
  rw [hnow.chip.memory]

/-- Data are staged, or nothing is written. -/
theorem stage_leaves (h : H.Rewritten start memory device) (offset : UInt16) (data : List UInt8) :
    Ends (stage s offset data).run device fun r now => H.Rewritten start (if r.isOk then
      memory.staged s (start.chip.latches[s].txWrite + offset) data else memory) now := by
  by_cases hfits : data.length ≤ ringSize
  · refine (stage_rewritten hH h offset hfits).mono ?_
    rintro _ now ⟨rfl, hnow⟩
    exact hnow
  · exact ⟨_, device, stage_of_too_long s offset (Nat.lt_of_not_le hfits) device, h⟩

theorem stage_refuses (h : H.Rewritten start memory device) (offset : UInt16) (data : List UInt8) :
    Ends (stage s offset data).run device (H.Refuses start memory) :=
  (stage_leaves hH h offset data).mono fun _ _ hnow =>
    ⟨hnow.ok, fun _ hcause _ => by rwa [hcause] at hnow⟩

/-- Where nothing has been buffered, nothing has been written. -/
theorem buffer_leaves (h : H.Rewritten start memory device) (offset : UInt16) (data : List UInt8) :
    Ends (buffer s offset data).run device fun r now =>
      (∀ count, r = .ok count → count = 0) → H.Rewritten start memory now := by
  unfold buffer
  refine Ends.sure_bind (freeTx_rewritten hH h) ?_
  rintro free d1 ⟨-, h1⟩
  refine Ends.attempt (stage_leaves hH h1 offset _) ?_ fun _ _ hd _ => hd
  rintro _ d2 h2
  refine Ends.pure fun hnothing => ?_
  have hnil := List.length_eq_zero_iff.1 (hnothing _ rfl)
  rw [hnil] at h2
  exact h2

theorem stageWhole_refuses (h : H.Rewritten start memory device) (data : List UInt8)
    (hroom : memory.readWord (SocketRegister.txFree.address s).toNat =
      start.chip.wordOf .txFree s) :
    Ends (stageWhole s data).run device (H.RefusesBeyond start memory s data.length) := by
  unfold stageWhole
  refine Ends.sure_bind (freeTx_rewritten hH h) ?_
  rintro _ d1 ⟨rfl, h1⟩
  rw [hroom]
  dsimp only
  by_cases hlong : (start.chip.wordOf .txFree s).toNat < data.length
  · rw [if_pos hlong]
    exact Ends.fail ⟨h1.refuses, fun _ => rfl⟩
  · rw [if_neg hlong]
    exact (stage_refuses hH h1 0 data).mono fun _ _ hr => ⟨hr, fun h => absurd h hlong⟩

/-! ### Destinations -/

theorem startDatagram_rewritten (h : H.Rewritten start memory device) {ip : Ipv4} {port : UInt16}
    (husable : ¬(ip = Ipv4.unspecified || port = 0)) :
    Ends (startDatagram s ip port).run device fun r now =>
      r = .ok () ∧ H.Rewritten start (memory.redirected s ip port) now := by
  unfold startDatagram
  rw [if_neg husable]
  exact Ends.sure ((setDestination_rewritten hH h ip port).mono fun _ _ hnow => ⟨rfl, hnow⟩)

theorem startDatagram_refuses (h : H.Rewritten start memory device) (ip : Ipv4) (port : UInt16) :
    Ends (startDatagram s ip port).run device (H.Refuses start memory) := by
  by_cases hunusable : (ip = Ipv4.unspecified || port = 0) = true
  · unfold startDatagram
    rw [if_pos hunusable]
    exact Ends.pure h.refuses
  · refine (startDatagram_rewritten hH h hunusable).mono ?_
    rintro _ now ⟨rfl, hnow⟩
    exact refuses_ok hnow.ok

theorem connect_refuses (h : H.Rewritten start memory device) (ip : Ipv4) (port : UInt16) :
    Ends (connect s ip port).run device (H.Refuses start memory) := by
  have hconnect : Succeeds (H.Tended (Frame.Concerns s) s device) (connect s ip port).run :=
    connect_tends hH ip port
  unfold connect at hconnect ⊢
  by_cases hunusable : (ip.isUnusable || port = 0) = true
  · rw [if_pos hunusable]
    exact Ends.pure h.refuses
  · rw [if_neg hunusable] at hconnect ⊢
    exact refuses_of_never h.ok hconnect (.attempt (.sure _) fun _ => .sure _)

theorem fetch_refuses (h : H.Rewritten start memory device) (count : Nat) (peek : Bool) :
    Ends (fetch s count peek).run device (H.Refuses start memory) := by
  by_cases hfits : count ≤ ringSize
  · exact refuses_of_never h.ok (received_tends hH (Travels.fetch H s count peek))
      (.fetch s hfits peek)
  · refine ⟨.error (.transferTooLarge count ringSize), device, ?_, h.refuses⟩
    unfold fetch
    rw [checkLength_of_lt (Nat.lt_of_not_le hfits)]
    rfl

/-! ### Datagrams in one go -/

theorem sendRaw_refuses (h : H.Rewritten start memory device) (data : List UInt8)
    (hroom : memory.readWord (SocketRegister.txFree.address s).toNat =
      start.chip.wordOf .txFree s) :
    Ends (sendRaw s data).run device (H.RefusesBeyond start memory s data.length) := by
  unfold sendRaw
  refine refusesBeyond_attempt (stageWhole_refuses hH h data hroom) fun _ d1 hok1 => ?_
  have hclosing : Succeeds (H.Tended (Frame.Concerns s) s d1)
      (closingOnFailure s (sendDatagram s)).run := by
    refine Succeeds.tryCatch (sent_tends hH) fun cause => ?_
    exact Succeeds.sure_bind (closed_tends hH) fun _ => Succeeds.fail cause
  refine refuses_attempt (refuses_of_never hok1 hclosing (.closingOnFailure s (.sendDatagram s)))
    fun _ d2 hok2 => ?_
  exact Ends.pure (refuses_ok hok2)

/-- The address is set before anything is asked about room. -/
theorem sendRawTo_refuses (h : H.Rewritten start memory device) (data : List UInt8) {ip : Ipv4}
    (husable : ip ≠ Ipv4.unspecified)
    (hroom : (memory.addressed s ip).readWord (SocketRegister.txFree.address s).toNat =
      start.chip.wordOf .txFree s) :
    Ends (sendRawTo s data ip).run device
      (H.RefusesBeyond start (memory.addressed s ip) s data.length) := by
  unfold sendRawTo
  rw [if_neg husable]
  refine Ends.sure_bind (setAddress_rewritten hH h ip) ?_
  exact fun _ d1 h1 => sendRaw_refuses hH h1 data hroom

theorem sendTo_refuses (h : H.Rewritten start memory device) (data : List UInt8) {ip : Ipv4}
    {port : UInt16} (husable : ¬(ip = Ipv4.unspecified || port = 0))
    (hroom : (memory.redirected s ip port).readWord (SocketRegister.txFree.address s).toNat =
      start.chip.wordOf .txFree s) :
    Ends (sendTo s data ip port).run device
      (H.RefusesBeyond start (memory.redirected s ip port) s data.length) := by
  unfold sendTo
  refine Ends.attempt_of_ok (startDatagram_rewritten hH h husable) ?_
  intro d1 h1
  refine refusesBeyond_attempt (stageWhole_refuses hH h1 data hroom) fun _ d2 hok2 => ?_
  exact refuses_attempt (sendDatagram_refuses hH hok2) fun _ d3 hok3 => Ends.pure (refuses_ok hok3)

/-! ### Datagrams piece by piece -/

/-- Where a call on a channel has been refused, the channel is as it was, and so is its device. -/
def RefusesOn (H : Habit σ) (start : Device σ) (memory : Memory) (channel : Channel)
    (r : Except Error α × Channel) (now : Device σ) : Prop :=
  ∀ cause, r.1 = .error cause → cause.isRefusal → r.2 = channel ∧ H.Rewritten start memory now

theorem beginPacket_refuses (h : H.Rewritten start memory device) (channel : Channel) (ip : Ipv4)
    (port : UInt16) :
    Ends ((Channel.beginPacket ip port).run channel) device (H.RefusesOn start memory channel) := by
  unfold Channel.beginPacket
  refine Ends.socket_bind (startDatagram_refuses hH h ip port) ?_ ?_
  · exact fun _ d _ => Ends.pure fun _ => nofun
  · exact fun _ d hd cause hcause hrefusal => ⟨rfl, hd.2 cause hcause hrefusal⟩

/-- A piece of which nothing fits is refused behind an attempt to write no bytes. -/
theorem writePacket_refuses (h : H.Rewritten start memory device) (channel : Channel)
    (data : List UInt8) :
    Ends ((Channel.writePacket data).run channel) device (H.RefusesOn start memory channel) := by
  unfold Channel.writePacket
  refine Ends.current_bind ?_
  cases hwritten : channel.written with
  | none => exact Ends.pure fun _ _ _ => ⟨rfl, h⟩
  | some offset =>
    refine Ends.socket_bind (buffer_leaves hH h offset data) (fun count d1 h1 => ?_)
      fun cause d1 h1 _ _ _ => ⟨rfl, h1 fun _ => nofun⟩
    by_cases hnothing : (count = 0 && !data.isEmpty) = true
    · rw [if_pos hnothing]
      have hzero : count = 0 := of_decide_eq_true (Bool.and_eq_true_iff.1 hnothing).1
      have hfree := freeTx_rewritten hH (s := channel.socket)
        (h1 fun _ hcount => Except.ok.inj hcount ▸ hzero)
      refine Ends.socket_bind (R := fun _ d => H.Rewritten start memory d)
        (Ends.sure (hfree.mono fun _ _ hd => hd.2)) (fun free d2 h2 => ?_)
        fun _ d2 h2 _ _ _ => ⟨rfl, h2⟩
      exact Ends.pure fun _ _ _ => ⟨rfl, h2⟩
    · rw [if_neg hnothing]
      exact Ends.change_bind (Ends.pure fun _ => nofun)

theorem endPacket_refuses (h : H.Rewritten start memory device) (channel : Channel) :
    Ends (Channel.endPacket.run channel) device (H.RefusesOn start memory channel) := by
  unfold Channel.endPacket
  refine Ends.current_bind ?_
  by_cases hnone : channel.written.isNone = true
  · rw [if_pos hnone]
    exact Ends.pure fun _ _ _ => ⟨rfl, h⟩
  · rw [if_neg hnone]
    refine Ends.change_bind (Ends.onSocket ?_)
    refine (ends_of_never h.ok (sent_tends hH) (.sendDatagram _)).mono ?_
    exact fun r d hd cause hcause hrefusal => absurd hrefusal (hd.2 cause hcause)

end Calm

end Habit

end Device

/-! ## All of them -/

namespace SocketOperation

/-- The calls on a socket that look at their arguments, or at the room that there is. -/
def isGuarded : SocketOperation → Bool
  | connect _ _ | startDatagram _ _ | sendTo _ _ _ | sendRaw _ | sendRawTo _ _ | stage _ _
  | fetch _ _ => true
  | _ => false

/-- The destination that a call sets before it asks for room. -/
def redirect (s : SocketId) (chip : Chip) : SocketOperation → Option (Ipv4 × UInt16)
  | sendTo _ ip port => if ip = Ipv4.unspecified || port = 0 then none else some (ip, port)
  | sendRawTo _ ip =>
    if ip = Ipv4.unspecified then none else some (ip, chip.wordOf .peerPort s)
  | _ => none

/-- The bytes that a call wants to send to a destination that it sets. -/
def handed : SocketOperation → List UInt8
  | sendTo data _ _ | sendRawTo data _ => data
  | _ => []

/-- What a call that is refused leaves in memory. -/
def refusedMemory (operation : SocketOperation) (s : SocketId) (chip : Chip) : Memory :=
  match operation.redirect s chip with
  | none => chip.memory
  | some (ip, port) => chip.memory.redirected s ip port

/-- What a socket has to send behind a call that is refused. -/
def refusedPacket (operation : SocketOperation) (s : SocketId) (chip : Chip) : SentPacket :=
  match operation.redirect s chip with
  | none => chip.stagedPacket s
  | some (ip, port) => { chip.stagedPacket s with destination := ip, destinationPort := port }

theorem stagedPacket_of_refused {operation : SocketOperation} {s : SocketId} {chip chip' : Chip}
    (h : chip'.memory = operation.refusedMemory s chip) :
    chip'.stagedPacket s = operation.refusedPacket s chip := by
  unfold refusedMemory at h
  unfold refusedPacket
  split at h
  · simp only [Chip.stagedPacket, Chip.wordOf, h]
  · exact Chip.stagedPacket_of_redirected h

end SocketOperation

/-- The calls with which a datagram is built on a channel. -/
def ChannelOperation.isBuilding : ChannelOperation → Bool
  | beginPacket _ _ | writePacket _ | endPacket => true
  | _ => false

section Device

variable {σ α : Type} [Host σ] [Wired σ]

namespace Habit

/-- Where a call on a socket has been refused, nothing is different but the destination that it has
set; and where it has set one, it is refused if its data are longer than the room. -/
def RefusesCall (H : Habit σ) (s : SocketId) (operation : SocketOperation) (start : Device σ)
    (r : Outcome) (now : Device σ) : Prop :=
  let free := (start.chip.wordOf .txFree s).toNat
  let count := operation.handed.length
  (∀ cause, r = .failed cause → cause.isRefusal →
    H.Rewritten start (operation.refusedMemory s start.chip) now) ∧
  (operation.redirect s start.chip ≠ none → free < count →
    r = .failed (.insufficientSpace count free))

variable {H : Habit σ} {s : SocketId} {start device : Device σ} {memory : Memory}
  {operation : SocketOperation} {f : α → Outcome} {action : Attempt σ α}

omit [Host σ] [Wired σ] in
/-- What an operation answers where its attempt is refused. -/
theorem refused_attempting (hf : ∀ a cause, f a ≠ .failed cause)
    {Q : Except Error α → Device σ → Prop} (h : Ends action.run device Q) :
    Ends (attempting f action) device fun r now => ∃ r', Q r' now ∧
      r = Outcome.ofResult f r' ∧ ∀ cause, r = .failed cause → r' = .error cause := by
  refine Ends.bind h fun r' now hr' => Ends.pure ⟨r', hr', rfl, fun cause hcause => ?_⟩
  cases r' with
  | ok a => exact absurd hcause (hf a cause)
  | error c => exact congrArg Except.error (Outcome.failed.inj hcause)

theorem Refuses.call (hredirect : operation.redirect s start.chip = none)
    (hf : ∀ a cause, f a ≠ .failed cause)
    (h : Ends action.run device (H.Refuses start start.chip.memory)) :
    Ends (attempting f action) device (H.RefusesCall s operation start) := by
  refine (refused_attempting hf h).mono ?_
  rintro r now ⟨r', hr', -, hback⟩
  refine ⟨fun cause hcause hrefusal => ?_, fun hsome => absurd hredirect hsome⟩
  rw [SocketOperation.refusedMemory, hredirect]
  exact hr'.2 cause (hback cause hcause) hrefusal

theorem RefusesBeyond.call {ip : Ipv4} {port : UInt16}
    (hredirect : operation.redirect s start.chip = some (ip, port))
    (hf : ∀ a cause, f a ≠ .failed cause)
    (h : Ends action.run device (H.RefusesBeyond start (start.chip.memory.redirected s ip port) s
      operation.handed.length)) :
    Ends (attempting f action) device (H.RefusesCall s operation start) := by
  refine (refused_attempting hf h).mono ?_
  rintro r now ⟨r', ⟨hr', hlong⟩, rfl, hback⟩
  refine ⟨fun cause hcause hrefusal => ?_, fun _ hfree => ?_⟩
  · rw [SocketOperation.refusedMemory, hredirect]
    exact hr'.2 cause (hback cause hcause) hrefusal
  · rw [hlong hfree]
    rfl

theorem RefusesOn.call {channel : Channel} {action : ChannelAttempt σ α}
    (hf : ∀ a cause, f a ≠ .failed cause)
    (h : Ends (action.run channel) device (H.RefusesOn start memory channel)) :
    Ends (attemptingOn f action channel) device fun r now => ∀ cause, r.1 = .failed cause →
      cause.isRefusal → r.2 = channel ∧ H.Rewritten start memory now := by
  refine Ends.attemptingOn (h.mono ?_)
  rintro ⟨c | a, channel'⟩ now hr cause hcause
  · exact hr cause (congrArg Except.error (Outcome.failed.inj hcause))
  · exact absurd hcause (hf a cause)

variable (hH : H.Calm)

include hH

/-- Every call that looks at its arguments or at the room comes to an end, and leaves what it should
if it is refused. -/
theorem performSocket_refuses (h : H.Rewritten device device.chip.memory device)
    (hguarded : operation.isGuarded) :
    Ends (operation.perform s) device (H.RefusesCall s operation device) := by
  cases operation with
  | connect ip port => exact Refuses.call rfl (fun _ _ => nofun) (connect_refuses hH h ip port)
  | startDatagram ip port =>
    exact Refuses.call rfl (fun _ _ => nofun) (startDatagram_refuses hH h ip port)
  | stage offset data =>
    exact Refuses.call rfl (fun _ _ => nofun) (stage_refuses hH h offset data)
  | fetch count stay => exact Refuses.call rfl (fun _ _ => nofun) (fetch_refuses hH h count stay)
  | sendRaw data =>
    exact Refuses.call rfl (fun _ _ => nofun)
      ((sendRaw_refuses hH h data rfl).mono fun _ _ hr => hr.1)
  | sendTo data ip port =>
    by_cases hunusable : (ip = Ipv4.unspecified || port = 0) = true
    · refine Refuses.call (if_pos hunusable) (fun _ _ => nofun) ?_
      unfold sendTo startDatagram
      rw [if_pos hunusable]
      exact Ends.pure h.refuses
    · refine RefusesBeyond.call (if_neg hunusable) (fun _ _ => nofun) ?_
      exact sendTo_refuses hH h data hunusable (Memory.readWord_redirected (by decide))
  | sendRawTo data ip =>
    by_cases hunusable : ip = Ipv4.unspecified
    · refine Refuses.call (if_pos hunusable) (fun _ _ => nofun) ?_
      unfold sendRawTo
      rw [if_pos hunusable]
      exact Ends.pure h.refuses
    · refine RefusesBeyond.call (if_neg hunusable) (fun _ _ => nofun) ?_
      have hself : device.chip.memory.redirected s ip (device.chip.wordOf .peerPort s) =
          device.chip.memory.addressed s ip := Memory.redirected_self
      rw [hself]
      refine sendRawTo_refuses hH h data hunusable ?_
      rw [← hself]
      exact Memory.readWord_redirected (by decide)
  | _ => cases hguarded

theorem performChannel_refuses (h : H.Rewritten start memory device) (channel : Channel)
    {operation : ChannelOperation} (hbuilding : operation.isBuilding) :
    Ends (operation.perform channel) device fun r now => ∀ cause, r.1 = .failed cause →
      cause.isRefusal → r.2 = channel ∧ H.Rewritten start memory now := by
  cases operation with
  | beginPacket ip port =>
    exact RefusesOn.call (fun _ _ => nofun) (beginPacket_refuses hH h channel ip port)
  | writePacket data =>
    exact RefusesOn.call (fun _ _ => nofun) (writePacket_refuses hH h channel data)
  | endPacket => exact RefusesOn.call (fun _ _ => nofun) (endPacket_refuses hH h channel)
  | _ => cases hbuilding

end Habit

end Device

/-- Where nobody else uses the link and nothing is scheduled for the chip, a call that is refused
leaves the chip's memory, the packets that left and all that the driver and the channel remember as
they were, with one exception. A call that sends data to a destination, and is refused for lack of
room, has set the destination, so what is staged on the socket leaves for it from then on; and it is
always refused so if its data are longer than the room. -/
theorem refused_call_leaves {device : Device Board} (hundisturbed : device.board.Undisturbed)
    (hstill : device.chip.Still) :
    (∀ (s : SocketId) (operation : SocketOperation), operation.isGuarded →
      Ends (operation.perform s) device fun r device' =>
        let free := (device.chip.wordOf .txFree s).toNat
        let count := operation.handed.length
        (∀ cause, r = .failed cause → cause.isRefusal →
          Habit.visited.Rewritten device (operation.refusedMemory s device.chip) device' ∧
            device'.chip.stagedPacket s = operation.refusedPacket s device.chip) ∧
        (operation.redirect s device.chip ≠ none → free < count →
          r = .failed (.insufficientSpace count free))) ∧
    (∀ (channel : Channel) (operation : ChannelOperation), operation.isBuilding →
      Ends (operation.perform channel) device fun r device' =>
        ∀ cause, r.1 = .failed cause → cause.isRefusal →
          r.2 = channel ∧ Habit.visited.Rewritten device device.chip.memory device') := by
  have hstart : Habit.visited.Rewritten device device.chip.memory device :=
    ⟨⟨hundisturbed, hstill.visited⟩, hstill.rewritten, rfl⟩
  constructor
  · intro s operation hguarded
    refine (Habit.performSocket_refuses Habit.visited_calm hstart hguarded).mono ?_
    rintro r device' ⟨hrefused, hlong⟩
    refine ⟨fun cause hcause hrefusal => ?_, hlong⟩
    have hleft := hrefused cause hcause hrefusal
    exact ⟨hleft, SocketOperation.stagedPacket_of_refused hleft.chip.memory⟩
  · exact fun channel operation hbuilding =>
      Habit.performChannel_refuses Habit.visited_calm hstart channel hbuilding

/-- Three bytes are staged for one peer, and a datagram for another one is refused since it is
longer than a ring. What is staged then leaves for the other peer. -/
theorem refused_call_leaves_posting :
    Ends (do startDatagram 1 ⟨10, 0, 0, 7⟩ 53; buffer 1 0 [1, 2, 3] : Attempt Board Nat).run
      ⟨Board.posting, Controller.new⟩ fun _ staged =>
        staged.chip.stagedPacket 1 = ⟨1, ⟨10, 0, 0, 7⟩, 53, [1, 2, 3]⟩ ∧
        Ends (SocketOperation.perform 1 (.sendTo (List.replicate 3000 0) ⟨10, 0, 0, 8⟩ 53)) staged
          fun r device' => r = .failed (.insufficientSpace 3000 2048) ∧
            device'.chip.stagedPacket 1 = ⟨1, ⟨10, 0, 0, 8⟩, 53, [1, 2, 3]⟩ := by
  obtain ⟨outlet, hempties, hoffers⟩ := Board.shows_posting.offers
  have hroom : outlet.free.toNat = 2048 := hempties.room
  refine Ends.attempt (Habit.startDatagram_ends hoffers
    (show (⟨10, 0, 0, 7⟩ : Ipv4) ≠ Ipv4.unspecified by decide) (show (53 : UInt16) ≠ 0 by decide))
    ?_ (by rintro _ _ ⟨hr, -⟩; cases hr)
  rintro _ begun ⟨-, hbegun⟩
  generalize houtlet : { outlet with
    destination := (⟨10, 0, 0, 7⟩ : Ipv4), destinationPort := 53 } = addressed at hbegun
  have hfree : addressed.free.toNat = 2048 := by rw [← houtlet, hroom]
  have hsound : addressed.Sound := by
    rw [← houtlet]
    exact hempties.sound
  have hbuffer := Habit.buffer_ends hbegun [1, 2, 3] (Nat.le_of_eq hfree)
    fun (_ : (0 : UInt16).toNat < _) => Nat.zero_le _
  rw [hfree] at hbuffer
  refine hbuffer.mono ?_
  rintro _ staged ⟨-, hstaged⟩
  have hdraft : Habit.alone.Offers 1 (addressed.draft [1, 2, 3]) staged := by
    rw [← show addressed.stage 0 [1, 2, 3] = addressed.draft [1, 2, 3] from
      addressed.stage_draft [] [1, 2, 3] (Nat.zero_le _)]
    exact hstaged
  obtain ⟨hsound', hpayload⟩ := addressed.payload_draft [1, 2, 3] (by decide) hsound
  have hpacket : staged.chip.stagedPacket 1 = ⟨1, ⟨10, 0, 0, 7⟩, 53, [1, 2, 3]⟩ := by
    rw [hdraft.chip.stagedPacket_eq hsound', hpayload, ← houtlet]
    rfl
  have hlong : (staged.chip.wordOf .txFree 1).toNat = 2048 := by
    rw [hdraft.chip.free, Outlet.free_draft, hfree]
  obtain ⟨hundisturbed, hsilent⟩ := hdraft.ok
  refine ⟨hpacket, ((refused_call_leaves hundisturbed ⟨hsilent.present, hsilent.queue⟩).1 1
    (.sendTo (List.replicate 3000 0) ⟨10, 0, 0, 8⟩ 53) rfl).mono ?_⟩
  rintro r device' ⟨hrefused, hshort⟩
  have hlength : (List.replicate 3000 (0 : UInt8)).length = 3000 := List.length_replicate
  have hr := hshort nofun (by rw [hlong]; show 2048 < (List.replicate 3000 _).length; omega)
  rw [hlong] at hr
  refine ⟨hr.trans (by rw [SocketOperation.handed, hlength]), ?_⟩
  refine (hrefused _ hr rfl).2.trans ?_
  show { staged.chip.stagedPacket 1 with
    destination := (⟨10, 0, 0, 8⟩ : Ipv4), destinationPort := (53 : UInt16) } = _
  rw [hpacket]

end SpiEthernet
