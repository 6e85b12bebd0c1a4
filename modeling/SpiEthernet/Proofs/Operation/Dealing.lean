import SpiEthernet.Proofs.Interrupt.Emptying
import SpiEthernet.Proofs.Operation.Closing
import SpiEthernet.Proofs.Rings.Pointers

/-!
# Dealing with a socket

What the driver does about a socket shows in the trace: it gives the socket commands, and it looks
at its status. If nothing but the statuses of sockets changes by itself, then everything else that a
socket's slot holds is what the driver has put there, and all that the handler can do to it is to
clear flags.

* `Passes.sameSlot`, `Passes.deals` : frames that only look or clear flags leave a slot alone.
* `Habit.attended` : whatever the state of a board, it exchanges no other frames by itself.
* `Dealt.read`, `Dealt.write`, `Dealt.issue` : what is known of a slot behind a frame or a command.
-/

namespace SpiEthernet

/-! ## Dealings in the trace -/

/-- Something that the driver does about a socket. -/
inductive Dealing where
  /-- It gives the socket a command. -/
  | gave (code : UInt8)
  /-- It looks at the status of the socket. -/
  | saw (raw : UInt8)
deriving DecidableEq, Repr

/-- What an access does about a socket, if anything. -/
def Access.dealing? (s : SocketId) (access : Access) : Option Dealing :=
  match access.direction with
  | .write =>
    if access.address = SocketRegister.command.address s then some (.gave access.data) else none
  | .read =>
    if access.address = SocketRegister.status.address s then some (.saw access.data) else none

/-- What has been done about a socket since the link was in an earlier state. -/
def Endpoint.dealingsSince (now start : Endpoint) (s : SocketId) : List Dealing :=
  (now.trace.toList.drop start.trace.size).filterMap (·.dealing? s)

/-- A frame that only looks or clears flags, and does not look at a status. -/
def Frame.IsUpkeep (frame : Frame) : Prop :=
  frame.IsQuiet ∧ ∀ s, frame.address ≠ SocketRegister.status.address s

namespace Frame

variable {frame : Frame} {access : Access} {s : SocketId}

/-- Upkeep does nothing about a socket. -/
theorem IsUpkeep.dealing (h : frame.IsUpkeep) (hdirection : access.direction = frame.direction)
    (haddress : access.address = frame.address) : access.dealing? s = none := by
  unfold Access.dealing?
  rw [hdirection, haddress]
  cases hd : frame.direction with
  | read => exact if_neg (h.2 s)
  | write =>
    refine if_neg fun hcommand => ?_
    rcases h.1 hd with hi | ⟨t, ht⟩
    · exact SocketRegister.address_ne_of_lt _ _ (by decide) (hcommand.symm.trans hi)
    · cases (SocketRegister.address_inj (hcommand.symm.trans ht)).1

theorem isUpkeep_read {address : UInt16} (h : ∀ s, address ≠ SocketRegister.status.address s) :
    (Frame.read address).IsUpkeep := ⟨isQuiet_read _, h⟩

theorem isUpkeep_read_register {r : SocketRegister} (h : r ≠ .status) (s : SocketId) :
    (Frame.read (r.address s)).IsUpkeep :=
  isUpkeep_read fun _ hs => h (SocketRegister.address_inj hs).1

theorem isUpkeep_read_common {address : UInt16} (h : address.toNat < 0x0400) :
    (Frame.read address).IsUpkeep :=
  isUpkeep_read fun _ hs => SocketRegister.address_ne_of_lt _ _ h hs.symm

theorem isUpkeep_write_interrupt (s : SocketId) (value : UInt8) :
    (Frame.write (SocketRegister.interrupt.address s) value).IsUpkeep :=
  ⟨fun _ => .inr ⟨s, rfl⟩, fun _ hs => nomatch (SocketRegister.address_inj hs).1⟩

theorem isUpkeep_write_global (value : UInt8) :
    (Frame.write CommonRegister.interrupt.address value).IsUpkeep :=
  ⟨fun _ => .inl rfl, fun s hs =>
    SocketRegister.address_ne_of_lt .status s
      (show CommonRegister.interrupt.address.toNat < 0x0400 by decide) hs.symm⟩

end Frame

namespace Endpoint

variable {s : SocketId} {start middle now : Endpoint} {o : List Occurrence}
  {dealings further : List Dealing}

/-- Between two states of the link, certain things have been done about a socket. -/
def Deals (start : Endpoint) (s : SocketId) (dealings : List Dealing) (now : Endpoint) : Prop :=
  ∃ added, start.Traces added now ∧ added.filterMap (·.dealing? s) = dealings

theorem Deals.refl (start : Endpoint) (s : SocketId) : start.Deals s [] start :=
  ⟨[], (List.append_nil _).symm, rfl⟩

theorem Deals.trans (h : start.Deals s dealings middle) (h' : middle.Deals s further now) :
    start.Deals s (dealings ++ further) now := by
  obtain ⟨added, htrace, rfl⟩ := h
  obtain ⟨more, htrace', rfl⟩ := h'
  exact ⟨added ++ more, htrace.trans htrace', List.filterMap_append⟩

theorem Deals.dealingsSince (h : start.Deals s dealings now) :
    now.dealingsSince start s = dealings := by
  obtain ⟨added, htrace, rfl⟩ := h
  rw [Endpoint.dealingsSince, show now.trace.toList = _ from htrace]
  simp

theorem Passes.deals (h : start.Passes Frame.IsUpkeep o now) : start.Deals s [] now := by
  obtain ⟨added, htrace, hframes⟩ := h.traces
  refine ⟨added, htrace, List.filterMap_eq_nil_iff.2 fun access hmem => ?_⟩
  obtain ⟨frame, hupkeep, hdirection, haddress⟩ := hframes access hmem
  exact hupkeep.dealing hdirection haddress

end Endpoint

/-! ## What a slot holds -/

namespace Chip

variable {chip chip' chip'' : Chip} {s t : SocketId} {frame : Frame}

/-- Nothing is going to happen but changes of status. -/
def OnlyStatuses (chip : Chip) : Prop :=
  ∀ scheduled ∈ chip.queue, ∃ t status, scheduled.event = .setStatus t status

/-- The second state has the same slot, but for the status and for flags that have been cleared. -/
structure SameSlot (chip chip' : Chip) (s : SocketId) : Prop where
  words : chip.SameWords chip' s
  mode : chip'.byteOf .mode s = chip.byteOf .mode s
  command : chip'.byteOf .command s = chip.byteOf .command s
  unflagged : chip.byteOf .interrupt s = 0 → chip'.byteOf .interrupt s = 0

theorem sameSlot_of_memory (hmemory : chip'.memory = chip.memory)
    (hlatches : chip'.latches = chip.latches) : chip.SameSlot chip' s := by
  refine ⟨sameWords_of_memory hmemory hlatches, ?_, ?_, fun h => ?_⟩
  · rw [byteOf, hmemory, byteOf]
  · rw [byteOf, hmemory, byteOf]
  · rw [byteOf, hmemory]
    exact h

theorem SameSlot.trans (h : chip.SameSlot chip' s) (h' : chip'.SameSlot chip'' s) :
    chip.SameSlot chip'' s where
  words := h.words.trans h'.words
  mode := h'.mode.trans h.mode
  command := h'.command.trans h.command
  unflagged := h'.unflagged ∘ h.unflagged

theorem sameSlot_setStatus (chip : Chip) (s t : SocketId) (status : SocketStatus) :
    chip.SameSlot (chip.setStatus t status) s := by
  have hkept {r : SocketRegister} (hr : SocketRegister.status ≠ r) :
      (chip.setStatus t status).byteOf r s = chip.byteOf r s := by
    rw [setStatus, byteOf_setByteOf, if_neg fun h => hr h.1]
  refine ⟨chip.sameWords_setByteOf s t _ rfl, hkept (by decide), hkept (by decide), fun h => ?_⟩
  rw [hkept (by decide)]
  exact h

theorem sameSlot_serve (h : chip.absent = none) (hquiet : frame.IsQuiet) (s : SocketId) :
    chip.SameSlot (chip.serve frame).2 s := by
  obtain ⟨busy, -, hlatch⟩ := latches_serve_of_isQuiet h hquiet s
  have hbyte {r : SocketRegister} (hr : r ≠ .interrupt) := byteOf_serve_of_isQuiet h hquiet hr s
  refine ⟨⟨by rw [hlatch], by rw [hlatch], fun hw => wordOf_serve_of_isQuiet h hquiet hw s⟩,
    hbyte (by decide), hbyte (by decide), fun hzero => ?_⟩
  obtain ⟨direction, address, data⟩ := frame
  cases direction with
  | read =>
    show (chip.read address).2.byteOf .interrupt s = 0
    rw [byteOf, (readEffect h address).memory_eq]
    exact hzero
  | write =>
    show (chip.write address data).byteOf .interrupt s = 0
    rcases hquiet rfl with ha | ⟨t, ha⟩
    · rw [show address = _ from ha, write_interrupt h]
      exact (byteOf_clearBits _ _ s).trans hzero
    · rw [show address = _ from ha, write_socketInterrupt h, byteOf_setByteOf]
      split
      · next hst =>
        rw [hst.2, hzero]
        exact UInt8.zero_and
      · exact hzero

theorem sameSlot_happen {event : Event} (h : ∃ t status, event = .setStatus t status) :
    chip.SameSlot (chip.happen event) s := by
  obtain ⟨t, status, rfl⟩ := h
  exact chip.sameSlot_setStatus s t status

theorem OnlyStatuses.sameSlot_afterFrame (h : chip.OnlyStatuses) (s : SocketId) :
    chip.SameSlot chip.afterFrame s :=
  afterFrame_induction [] (P := fun c _ => chip.SameSlot c s) (sameSlot_of_memory rfl rfl)
    fun _ _ scheduled hs hc => hc.trans (sameSlot_happen (h scheduled hs))

theorem OnlyStatuses.steady (h : chip.OnlyStatuses) (hpresent : chip.absent = none) :
    chip.Steady := by
  refine ⟨hpresent, fun scheduled hs => ?_⟩
  obtain ⟨_, _, hevent⟩ := h scheduled hs
  rw [hevent]
  rfl

end Chip

namespace Endpoint

variable {P : Frame → Prop} {s : SocketId} {start now : Endpoint} {o : List Occurrence}

theorem Passes.onlyStatuses (h : start.Passes P o now) (hP : ∀ frame, P frame → frame.IsLocal)
    (hs : start.chip.Steady) (honly : start.chip.OnlyStatuses) : now.chip.OnlyStatuses :=
  fun scheduled hq => honly scheduled (h.mem_queue hP hs hq)

/-- Frames that only look or clear flags leave a slot alone. -/
theorem Passes.sameSlot (h : start.Passes P o now) (hP : ∀ frame, P frame → frame.IsQuiet)
    (hs : start.chip.Steady) (honly : start.chip.OnlyStatuses) :
    start.chip.SameSlot now.chip s := by
  refine h.chip_induction (I := fun c _ => start.chip.SameSlot c s)
    (A := fun event => ∃ t status, event = .setStatus t status)
    (fun frame hf => (hP frame hf).isLocal) [] hs honly (Chip.sameSlot_of_memory rfl rfl) ?_ ?_ ?_
  · intro chip _ frame hsteady hf hc
    exact (hc.trans (Chip.sameSlot_serve hsteady.present (hP frame hf) s)).trans
      (Chip.sameSlot_of_memory rfl rfl)
  · intro chip _ event _ hevent hc
    exact hc.trans (Chip.sameSlot_happen hevent)
  · intro chip _ hc
    exact hc.trans (Chip.sameSlot_of_memory rfl rfl)

end Endpoint

/-! ## Boards that attend to flags only -/

section Bench

variable {α : Type} {start : Bench}

/-- Since a bench was in an earlier state, the chip has been attended to and nothing else. -/
def Bench.Upkept (start now : Bench) : Prop :=
  now.endpoint.chip.Steady ∧ ∃ o, start.endpoint.Passes Frame.IsUpkeep o now.endpoint

theorem Habit.Travels.upkept {m : DeviceM Bench α} (h : Habit.bench.Travels Frame.IsUpkeep m) :
    Keeps (fun d : Device Bench => start.Upkept d.board) m := by
  refine Keeps.of_ends fun device ⟨hsteady, o, hpasses⟩ => (h device hsteady).mono ?_
  rintro _ device' ⟨hok, -, ⟨o', hpasses'⟩, -⟩
  exact ⟨hok, _, hpasses.trans hpasses'⟩

theorem upkept_drainSocket (seen : UInt8) (s : SocketId) :
    Keeps (fun d : Device Bench => start.Upkept d.board) (drainSocket seen s) := by
  have hbetween : ∀ frame, Habit.bench.between frame → frame.IsUpkeep := fun _ => False.elim
  refine Keeps.ite (Keeps.bind (Habit.Travels.readByte_of hbetween
    (Frame.isUpkeep_read_register (by decide) s)).upkept fun raw => ?_) (Keeps.pure _)
  refine Keeps.ite (Keeps.bind (Keeps.onController _) fun _ => ?_) (Keeps.pure _)
  have hlocal := Habit.isLocal_write_interrupt s raw
  exact (Habit.Travels.exchanged hbetween (Frame.isUpkeep_write_interrupt s raw) hlocal
    fun _ hx => Habit.bench.writeByte_ends hx hlocal).upkept

theorem upkept_drainGlobal (seen : UInt8) :
    Keeps (fun d : Device Bench => start.Upkept d.board) (drainGlobal seen) := by
  have hbetween : ∀ frame, Habit.bench.between frame → frame.IsUpkeep := fun _ => False.elim
  have hnote (notice : Notice) : Keeps (fun d : Device Bench => start.Upkept d.board)
      (note notice) := (Habit.Travels.note notice).upkept
  have hlatch : Keeps (fun d : Device Bench => start.Upkept d.board) latchUnreachable := by
    have hframes : ∀ frame ∈ Frame.reads CommonRegister.unreachableIp.address 4,
        frame.direction = .read ∧ frame.address.toNat < 0x0400 := by decide
    refine Keeps.bind (Habit.Travels.readIpv4_of hbetween fun frame hm => ?_).upkept fun _ => ?_
    · obtain ⟨hread, haddress⟩ := hframes frame hm
      exact ⟨Frame.isQuiet_of_read hread, fun _ hs =>
        SocketRegister.address_ne_of_lt _ _ haddress hs.symm⟩
    refine Keeps.bind (Habit.Travels.readWord_of hbetween
      (Frame.isUpkeep_read_common (by decide)) (Frame.isUpkeep_read_common (by decide))).upkept
      fun _ => ?_
    exact Keeps.bind (hnote _) fun _ => Keeps.onController _
  unfold drainGlobal
  refine Keeps.guarded hlatch ?_
  refine Keeps.guarded (hnote _) ?_
  refine Keeps.bind (Keeps.onController _) fun _ => Keeps.ite ?_ (Keeps.pure _)
  have hlocal := Habit.isLocal_write_global (seen &&& InterruptFlag.global)
  exact (Habit.Travels.exchanged hbetween (Frame.isUpkeep_write_global _) hlocal
    fun _ hx => Habit.bench.writeByte_ends hx hlocal).upkept

/-- A drain looks at no status, and all it writes to are interrupt registers. -/
theorem upkept_drain : Keeps (fun d : Device Bench => start.Upkept d.board) drain := by
  have hbetween : ∀ frame, Habit.bench.between frame → frame.IsUpkeep := fun _ => False.elim
  have hpasses (passes : Nat) : ∀ seen,
      Keeps (fun d : Device Bench => start.Upkept d.board) (drainPasses seen passes) := by
    induction passes with
    | zero => exact fun seen => Keeps.bind (Habit.Travels.note _).upkept fun _ => Keeps.pure _
    | succ passes ih =>
      intro seen
      refine Keeps.bind (Habit.Travels.readByte_of hbetween
        (Frame.isUpkeep_read_common (by decide))).upkept fun current => ?_
      refine Keeps.ite (Keeps.pure _) ?_
      refine Keeps.bind (Keeps.forM fun s _ => upkept_drainSocket current s) fun _ => ?_
      exact Keeps.bind (upkept_drainGlobal current) fun _ => ih _
  exact hpasses drainPassLimit 0

/-- Letting the interrupt through leads to no more than a drain. -/
theorem Board.unmask_upkept {board : Board} (h : board.chip.Steady) :
    Ends unmask board fun _ board' => board.bench.Upkept board'.bench := by
  have hsteady : board.noticed.bench.endpoint.chip.Steady := h.of_casing rfl
  have hnoticed : board.bench.Upkept board.noticed.bench :=
    ⟨hsteady, [], (Endpoint.Passes.refl.mask false).notice⟩
  refine (unmask_ensures (c := True) hnoticed fun controller => Ends.ensures ?_).ends trivial
  exact upkept_drain.ends hnoticed ((Habit.bench.drain_ends ⟨_, controller⟩ hsteady).mono
    fun _ _ _ => trivial)

end Bench

theorem Board.restoreInterrupt_upkept {board : Board} (before : Bool) (h : board.chip.Steady) :
    Ends (SerialLink.restoreInterrupt before) board fun _ board' => board'.chip.Steady ∧
      ∃ o, board.bench.endpoint.Passes Frame.IsUpkeep o board'.bench.endpoint := by
  cases before with
  | false => exact ⟨(), board, rfl, h, [], .refl⟩
  | true => exact Board.unmask_upkept h

/-- Whatever the state of a board, it exchanges no frames by itself but those of a drain, and a
drain looks at no status. -/
def Habit.attended : Habit Board :=
  { Habit.free with
    between := Frame.IsUpkeep
    isQuiet := fun h => h.1
    restore := fun before h => (Board.restoreInterrupt_upkept before h).mono fun _ _ h' =>
      ⟨h'.1, h'.2, fun _ => .inr trivial⟩ }

/-! ## What is known of a slot -/

section Dealt

variable {σ : Type} [Host σ] [Wired σ]

/-- A property of a chip that depends on nothing of it but what a slot holds beside its status. -/
def Chip.OfSlot (s : SocketId) (P : Chip → Prop) : Prop :=
  ∀ ⦃chip chip' : Chip⦄, chip.SameSlot chip' s → P chip → P chip'

namespace Habit

/-- Since a device was in an earlier state, certain things have been done about a socket, and the
chip has certain properties now. -/
structure Dealt (H : Habit σ) (s : SocketId) (start : Device σ) (dealings : List Dealing)
    (controller : Controller) (P : Chip → Prop) (now : Device σ) : Prop where
  ok : H.ok now.board
  only : now.chip.OnlyStatuses
  deals : (Wired.endpoint start.board).Deals s dealings (Wired.endpoint now.board)
  controller : now.controller = controller
  chip : P now.chip

variable {H : Habit σ} (hH : ∀ frame, H.between frame → frame.IsUpkeep) {s : SocketId}
  {start now now' : Device σ} {dealings : List Dealing} {c : Controller} {P R : Chip → Prop}
  {frame : Frame} {value : UInt8} {o : List Occurrence}

theorem Dealt.begin (hok : H.ok start.board) (honly : start.chip.OnlyStatuses) (s : SocketId) :
    H.Dealt s start [] start.controller (fun _ => True) start :=
  ⟨hok, honly, .refl _ _, rfl, trivial⟩

theorem Dealt.mono (h : H.Dealt s start dealings c P now) (hR : P now.chip → R now.chip) :
    H.Dealt s start dealings c R now := ⟨h.ok, h.only, h.deals, h.controller, hR h.chip⟩

/-- Changing what the driver remembers concerns no chip. -/
theorem Dealt.changed (h : H.Dealt s start dealings c P now) (c' : Controller) :
    H.Dealt s start dealings c' P ⟨now.board, c'⟩ := ⟨h.ok, h.only, h.deals, rfl, h.chip⟩

section

include hH

theorem Exchanged.deals {x x' : σ} (h : H.Exchanged x frame value o x') :
    (Wired.endpoint x).Deals s ((frame.access true value).dealing? s).toList
      (Wired.endpoint x') := by
  obtain ⟨o', -, hwalk⟩ := h.walk
  have hentry : (Wired.endpoint x).held.entry frame = frame.access true value := by
    rw [Endpoint.entry_eq, h.reply]
    rfl
  have hturn : (Wired.endpoint x).Deals s ((frame.access true value).dealing? s).toList
      ((Wired.endpoint x).held.turn frame).2 := by
    refine ⟨[frame.access true value], ?_, ?_⟩
    · rw [← hentry]
      exact Array.toList_push
    · cases hdealing : (frame.access true value).dealing? s <;> simp [hdealing]
  simpa using hturn.trans ((hwalk.mono hH).deals (s := s))

/-- What is known of a slot behind a frame follows from what the frame does to it. -/
theorem Dealt.exchanged (h : H.Dealt s start dealings c P now)
    (hexchanged : H.Exchanged now.board frame value o now'.board)
    (hcontroller : now'.controller = now.controller) (hf : frame.IsLocal) (hR : Chip.OfSlot s R)
    (hserve : now.chip.absent = none → P now.chip → R (now.chip.serve frame).2) :
    H.Dealt s start (dealings ++ ((frame.access true value).dealing? s).toList) c R now' := by
  obtain ⟨o', -, hwalk⟩ := hexchanged.walk
  have hsteady := H.steady h.ok
  have hturned := Endpoint.steady_turn_held hsteady frame
  have hserved : (now.chip.serve frame).2.OnlyStatuses := by
    unfold Chip.OnlyStatuses
    rw [Chip.queue_of_casing (Chip.casing_serve hsteady.present hf)]
    exact h.only
  have honly : ((Wired.endpoint now.board).held.turn frame).2.chip.OnlyStatuses := by
    intro scheduled hs
    have hs : scheduled ∈ (now.chip.serve frame).2.afterFrame.queue := hs
    rw [(hsteady.serve frame).queue_afterFrame] at hs
    exact hserved scheduled (List.mem_filter.1 hs).1
  have hslot : (now.chip.serve frame).2.SameSlot now'.chip s :=
    (hserved.sameSlot_afterFrame s).trans (hwalk.sameSlot (fun _ => H.isQuiet) hturned honly)
  exact ⟨hexchanged.ok, hwalk.onlyStatuses (fun _ hf => (H.isQuiet hf).isLocal) hturned honly,
    h.deals.trans (hexchanged.deals hH), hcontroller.trans h.controller,
    hR hslot (hserve hsteady.present h.chip)⟩

/-- A look at anything but a status changes nothing that is known. -/
theorem Dealt.read (h : H.Dealt s start dealings c P now) (hP : Chip.OfSlot s P)
    {address : UInt16} (haddress : (Frame.read address).IsUpkeep) :
    Ends (onLink (readByte address)) now fun _ now' => H.Dealt s start dealings c P now' := by
  refine (Ends.onLink (H.readByte_ends h.ok address)).mono ?_
  rintro value now' ⟨⟨o, hread⟩, hcontroller⟩
  have hdealt := h.exchanged hH hread hcontroller (Frame.isLocal_read address) hP
    fun hpresent hchip => hP (Chip.sameSlot_serve hpresent haddress.1 s) hchip
  rwa [haddress.dealing rfl rfl, Option.toList_none, List.append_nil] at hdealt

/-- A look at the status. -/
theorem Dealt.status (h : H.Dealt s start dealings c P now) (hP : Chip.OfSlot s P) :
    Ends (status s) now fun shown now' => ∃ raw, shown = SocketStatus.ofByte raw ∧
      H.Dealt s start (dealings ++ [.saw raw]) c P now' := by
  refine Ends.bind (Ends.onLink (H.readByte_ends h.ok _)) ?_
  rintro raw now' ⟨⟨o, hread⟩, hcontroller⟩
  have hdealt := h.exchanged hH hread hcontroller (Frame.isLocal_read _) hP
    fun hpresent hchip => hP (Chip.sameSlot_serve hpresent (Frame.isQuiet_read _) s) hchip
  have hdealing : ((Frame.read (SocketRegister.status.address s)).access true raw).dealing? s =
      some (.saw raw) := if_pos rfl
  rw [hdealing] at hdealt
  exact Ends.pure ⟨raw, rfl, hdealt⟩

/-- A byte that is written to a register, but for commands. -/
theorem Dealt.write (h : H.Dealt s start dealings c P now) (hR : Chip.OfSlot s R)
    {address : UInt16} (haddress : ∀ t, address ≠ SocketRegister.command.address t) (value : UInt8)
    (hserve : now.chip.absent = none → P now.chip → R (now.chip.write address value)) :
    Ends (onLink (writeByte address value)) now fun _ now' =>
      H.Dealt s start dealings c R now' := by
  have hlocal : (Frame.write address value).IsLocal := fun _ t _ ha _ => absurd ha (haddress t)
  refine (Ends.onLink (H.writeByte_ends h.ok hlocal)).mono ?_
  rintro _ now' ⟨⟨o, reply, hwrite⟩, hcontroller⟩
  have hdealt := h.exchanged hH hwrite hcontroller hlocal hR hserve
  have hdealing : ((Frame.write address value).access true reply).dealing? s = none :=
    if_neg (haddress s)
  rwa [hdealing, Option.toList_none, List.append_nil] at hdealt

omit hH in
theorem Dealt.note (h : H.Dealt s start dealings c P now) (notice : Notice) :
    Ends (note notice) now fun _ now' => H.Dealt s start dealings c P now' := by
  refine (Ends.onLink (H.record notice h.ok)).mono ?_
  rintro _ now' ⟨⟨hok, hsame, -⟩, hcontroller⟩
  have hchip : now'.chip = now.chip := congrArg Endpoint.chip hsame
  refine ⟨hok, ?_, ?_, hcontroller.trans h.controller, ?_⟩
  · rw [hchip]
    exact h.only
  · rw [hsame]
    exact h.deals
  · rw [hchip]
    exact h.chip

/-- A command that has been given, and accepted. -/
theorem Dealt.issue (h : H.Dealt s start dealings c P now) (hR : Chip.OfSlot s R)
    {command : SocketCommand} (hcommand : command.isLocal)
    (hserve : now.chip.absent = none → P now.chip → R (now.chip.command s command.code)) :
    Ends (issue s command) now fun _ now' =>
      H.Dealt s start (dealings ++ [.gave command.code]) c R now' := by
  have hgive : Ends (onLink (writeByte (SocketRegister.command.address s) command.code)) now
      fun _ now' => H.Dealt s start (dealings ++ [.gave command.code]) c R now' := by
    refine (Ends.onLink (H.writeByte_ends h.ok (isLocal_command hcommand))).mono ?_
    rintro _ now' ⟨⟨o, reply, hwrite⟩, hcontroller⟩
    have hdealt := h.exchanged hH hwrite hcontroller (isLocal_command hcommand) hR
      fun hpresent hchip => by
        rw [Chip.serve_write, Chip.write_command hpresent]
        exact hserve hpresent hchip
    have hdealing : ((Frame.write (SocketRegister.command.address s)
        command.code).access true reply).dealing? s = some (.gave command.code) := if_pos rfl
    rwa [hdealing] at hdealt
  have haccepted : Keeps (H.Dealt s start (dealings ++ [.gave command.code]) c R)
      (commandAccepted s) :=
    Keeps.bind (Keeps.of_ends fun _ hd =>
      hd.read hH hR (Frame.isUpkeep_read_register (by decide) s)) fun _ => Keeps.pure _
  have hwait (bound : Nat) : Keeps (H.Dealt s start (dealings ++ [.gave command.code]) c R)
      (pollWithin (commandAccepted s) bound) := Keeps.pollWithin haccepted (Keeps.fault _) bound
  have hleads : Leads (fun d => d = now) (SpiEthernet.issue s command) fun _ =>
      H.Dealt s start (dealings ++ [.gave command.code]) c R :=
    Leads.bind (Leads.of_ends fun _ hd => hd ▸ hgive) fun _ =>
      Leads.bind Keeps.patience fun bound => Leads.bind (hwait bound) fun _ =>
        Leads.of_ends fun _ hd => hd.note _
  exact hleads.ends rfl ((H.issue_ends h.ok hcommand).mono fun _ _ _ => trivial)

end

end Habit

end Dealt

end SpiEthernet
