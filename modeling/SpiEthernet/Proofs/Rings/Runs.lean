import SpiEthernet.Proofs.Receive.Opening
import SpiEthernet.Proofs.Rings.Upkeep

/-!
# The rings along every run

A device is used by calling its operations one after the other, and while a channel is live, by the
operations on the channel alone, until it is closed. The rings of all sockets are balanced wherever
such a run pauses, whatever has arrived and whatever the bytes in the rings claim to be, and what a
live channel counts as unread is in its ring.

* `Runs.accounts` : every ring has an account wherever a run pauses.
* `rings_balanced` : what that says about the registers.
-/

namespace SpiEthernet

/-- An operation that moves bytes or a pointer without giving a command. -/
def DeviceOperation.isBare : DeviceOperation → Bool
  | socket _ operation => operation.isBare
  | _ => false

/-- A run pauses at a device, with a channel if one is live. -/
inductive Runs (start : Device Board) : Option Channel → Device Board → Prop where
  | refl : Runs start none start
  | operation {device device' : Device Board} {outcome : Outcome} (h : Runs start none device)
    (operation : DeviceOperation) (hbare : operation.isBare = false)
    (hrun : operation.perform device = .ok (outcome, device')) : Runs start none device'
  | begin {device device' : Device Board} {result : Except Error Channel}
    (h : Runs start none device) (wanted : UInt16)
    (hrun : (Channel.begin wanted).run device = .ok (result, device')) :
    Runs start result.toOption device'
  | beginMulticast {device device' : Device Board} {result : Except Error Channel}
    (h : Runs start none device) (group : Ipv4) (wanted : UInt16)
    (hrun : (Channel.beginMulticast group wanted).run device = .ok (result, device')) :
    Runs start result.toOption device'
  | call {device device' : Device Board} {channel channel' : Channel} {outcome : Outcome}
    (h : Runs start (some channel) device) (operation : ChannelOperation)
    (hrun : operation.perform channel device = .ok ((outcome, channel'), device')) :
    Runs start (some channel') device'
  | close {device device' : Device Board} {channel : Channel}
    (h : Runs start (some channel) device)
    (hrun : close channel.socket device = .ok ((), device')) : Runs start none device'

/-! ## Beginning a channel -/

/-- A channel that has just been begun counts nothing as unread. -/
def StartsEmpty (result : Except Error Channel) : Prop :=
  ∀ channel, result = .ok channel → channel.remaining = 0

section Begin

variable {σ α : Type}

/-- What is done before a channel is made does not matter. -/
theorem startsEmpty_attempt {m : Attempt σ α} {k : α → Attempt σ Channel}
    (hk : ∀ a, Leads (fun _ => True) (k a).run fun r _ => StartsEmpty r) :
    Leads (fun _ => True) (m >>= k).run fun r _ => StartsEmpty r :=
  Leads.attempt (R := fun _ _ => True) (fun _ _ _ _ _ => trivial) hk fun _ _ _ => nofun

theorem startsEmpty_fresh (s : SocketId) (localPort : UInt16) :
    Leads (fun _ => True) (pure (Channel.fresh s localPort) : Attempt σ Channel).run
      fun r _ => StartsEmpty r := by
  refine Leads.pure fun _ _ channel hr => ?_
  cases hr
  rfl

variable [Host σ]

theorem begin_startsEmpty (wanted : UInt16) :
    Leads (fun _ => True) (Channel.begin (σ := σ) wanted).run fun r _ => StartsEmpty r :=
  startsEmpty_attempt fun _ => startsEmpty_attempt fun _ => startsEmpty_fresh _ _

theorem beginMulticast_startsEmpty (group : Ipv4) (wanted : UInt16) :
    Leads (fun _ => True) (Channel.beginMulticast (σ := σ) group wanted).run
      fun r _ => StartsEmpty r := by
  have hjoins : Leads (fun _ => True) (do
      let s ← allocate
      startDatagram s group wanted
      sure (setDestinationMac s group.multicastMac)
      let chosen ← openSocket s .udp OptionFlag.multicast wanted
      sure (note (.joined s group))
      return Channel.fresh s chosen : Attempt σ Channel).run fun r _ => StartsEmpty r := by
    refine startsEmpty_attempt fun s => startsEmpty_attempt fun _ => ?_
    refine startsEmpty_attempt fun _ => startsEmpty_attempt fun chosen => ?_
    exact startsEmpty_attempt fun _ => startsEmpty_fresh s chosen
  unfold Channel.beginMulticast
  split
  · exact startsEmpty_attempt fun _ => hjoins
  · exact hjoins

end Begin

/-! ## Along a run -/

/-- How much of a ring a live channel claims. -/
def Ring.claimedBy (ring : Ring) : Option Channel → Nat
  | some channel => ring.claimed channel.socket channel.remaining
  | none => 0

/-- Every ring has an account, in which the unread bytes of a live channel are claimed. -/
def Board.Accounted (live : Option Channel) (board : Board) : Prop :=
  ∀ ring : Ring, board.chip.Accounts (ring.claimedBy live) ring

/-- A channel that counts nothing as unread claims nothing. -/
theorem Board.Accounted.of_startsEmpty {board : Board} (h : board.Accounted none)
    {result : Except Error Channel} (hempty : StartsEmpty result) :
    board.Accounted result.toOption := by
  intro ring
  cases result with
  | error cause => exact h ring
  | ok channel =>
    show board.chip.Accounts (ring.claimed channel.socket channel.remaining) ring
    rw [hempty channel rfl, ring.claimed_zero]
    exact h ring

theorem withstands_accounted (s : SocketId) : Withstands (Board.Accounted none) s :=
  Withstands.all (withstands_accounts s)

/-- The unread bytes of a channel are claimed along everything that is called on it. -/
theorem serves_accounted :
    Serves fun s n (d : Device Board) => ∀ ring, d.board.chip.Accounts (ring.claimed s n) ring :=
  Serves.all serves_accounts

/-- Every operation but the bare ones keeps the account of every ring. -/
theorem keeps_perform {operation : DeviceOperation} (hbare : operation.isBare = false) :
    Keeps (fun d : Device Board => d.board.Accounted none) operation.perform := by
  cases operation with
  | init => exact Keeps.attempting (Leads.all fun _ => keeps_init)
  | socket s operation => exact (withstands_accounted s).performSocket operation hbare
  | _ => exact (withstands_accounted 0).robust.performCommon nofun nofun

namespace Runs

variable {start device : Device Board} {live : Option Channel}

theorem accounts (h : Runs start live device) (hstart : start.board.Accounted none) :
    device.board.Accounted live := by
  have hrobust := (withstands_accounted 0).robust
  have hopening (s : SocketId) := (withstands_accounted s).opening
  induction h with
  | refl => exact hstart
  | operation _ operation hbare hrun ih => exact keeps_perform hbare _ _ _ ih hrun
  | begin _ wanted hrun ih =>
    have hkept := hrobust.begin hopening wanted _ _ _ ih hrun
    exact hkept.of_startsEmpty (begin_startsEmpty wanted _ _ _ trivial hrun)
  | beginMulticast _ group wanted hrun ih =>
    have hkept := hrobust.beginMulticast hopening group wanted _ _ _ ih hrun
    exact hkept.of_startsEmpty (beginMulticast_startsEmpty group wanted _ _ _ trivial hrun)
  | call _ operation hrun ih => exact serves_accounted.performChannel operation _ _ _ _ ih hrun
  | close _ hrun ih => exact hrobust.close _ _ _ _ (fun ring => (ih ring).unclaimed) hrun

end Runs

/-- Wherever a run pauses that has begun with balanced rings, the rings of all sockets are
balanced, and what a live channel counts as unread is in its receive ring. -/
theorem rings_balanced {start device : Device Board} {live : Option Channel}
    (hsteady : start.chip.Steady)
    (hstart : ∀ s, start.chip.BalancedTx s ∧ start.chip.BalancedRx s)
    (hruns : Runs start live device) :
    (∀ s, device.chip.BalancedTx s ∧ device.chip.BalancedRx s) ∧
      ∀ channel ∈ live, channel.remaining ≤ (device.chip.wordOf .rxSize channel.socket).toNat := by
  have haccounts := hruns.accounts fun ring => by
    cases ring with
    | transmit s => exact ⟨hsteady, (hstart s).1⟩
    | receive s => exact ⟨hsteady, (hstart s).2, Nat.zero_le _⟩
  refine ⟨fun s => ⟨(haccounts (.transmit s)).2, (haccounts (.receive s)).2.1⟩, ?_⟩
  rintro channel ⟨⟩
  have hclaimed := (haccounts (.receive channel.socket)).2.2
  rwa [Ring.claimedBy, Ring.claimed_self] at hclaimed

/-- A chip that has just been powered up, to which bytes are going to arrive that look like the
header of a long datagram with one byte behind it. -/
def Chip.littered : Chip :=
  (Chip.new none).schedule 40 (.tcp 0 [10, 0, 0, 7, 0, 53, 255, 255, 1])

/-- A device that leads to such a chip. -/
def Device.littered : Device Board := ⟨Board.pristine.withChip Chip.littered, Controller.new⟩

/-- A channel is begun, and asked for a datagram. -/
theorem rings_balanced_littered :
    Ends (Channel.begin 5000).run Device.littered fun r d => ∃ channel,
      r = .ok channel ∧ Ends (ChannelOperation.parsePacket.perform channel) d fun r' d' =>
        (∀ s, d'.chip.BalancedTx s ∧ d'.chip.BalancedRx s) ∧
          r'.2.remaining ≤ (d'.chip.wordOf .rxSize r'.2.socket).toNat := by
  have hsteady : Device.littered.chip.Steady := Board.shares_pristine.steady.schedule 40 rfl
  have hempty (s : SocketId) : Device.littered.chip.Emptied s := by
    have hsame : (Chip.new none).powerOn.SameWords Chip.littered s :=
      Chip.sameWords_of_memory rfl rfl
    exact hsame.emptied (Chip.emptied_powerOn _ s)
  have hbalanced (s : SocketId) :
      Device.littered.chip.BalancedTx s ∧ Device.littered.chip.BalancedRx s :=
    ⟨(hempty s).balancedTx hsteady.present, (hempty s).balancedRx⟩
  have hstays (s : SocketId) : Device.littered.chip.StatusStays s := by
    intro scheduled hs
    rw [List.mem_singleton.1 hs]
    rfl
  have hfree : (SocketStatus.ofByte (Device.littered.chip.byteOf .status 0)).isReusable := by
    show (SocketStatus.ofByte ((Chip.new none).byteOf .status 0)).isReusable
    rw [Chip.byteOf_new none 0 (r := .status) rfl]
    rfl
  have hok : Habit.free.ok Device.littered.board := hsteady
  obtain ⟨r, d, hbegin, hfresh, hsucceeds⟩ := Habit.begin_ends hok 5000
  obtain ⟨channel, rfl⟩ := hsucceeds hstays ⟨0, hfree⟩
  have hruns : Runs Device.littered (some channel) d := .begin .refl 5000 hbegin
  have hparse : Ends (ChannelOperation.parsePacket.perform channel) d fun _ _ => True := by
    obtain ⟨hchannel, hopened⟩ := hfresh channel rfl
    have hnothing : channel.remaining = 0 := congrArg Channel.remaining hchannel
    have hrings := (rings_balanced hsteady hbalanced hruns).1
    obtain ⟨bytes, hbytes, -⟩ := (hrings channel.socket).2.passing (Habit.free.steady hopened.ok)
    refine Ends.attemptingOn (Ends.channel_attempt (R := fun r' d' => r'.2 = channel ∧ d' = d)
      (Ends.current_bind ?_) ?_ fun _ _ _ _ => trivial)
    · rw [hnothing]
      exact Ends.pure ⟨rfl, rfl⟩
    · rintro _ _ _ ⟨rfl, rfl⟩
      refine Ends.socket_bind (Habit.receiveHeader_passing hopened.ok hbytes) ?_
        fun _ _ _ => trivial
      rintro (_ | info) d2 _ <;> exact Ends.pure trivial
  obtain ⟨⟨outcome, channel'⟩, d', hcall, -⟩ := hparse
  exact ⟨_, d, hbegin, channel, rfl, _, d', hcall, (rings_balanced hsteady hbalanced
    (hruns.call .parsePacket hcall)).1, (rings_balanced hsteady hbalanced
      (hruns.call .parsePacket hcall)).2 channel' rfl⟩

end SpiEthernet
