import SpiEthernet.Proofs.Operation.Dealing

/-!
# A socket is opened altogether or not at all

A slot is taken over from whoever had it before: with bytes staged and unread, with flags raised and
collected, open in any mode. Its status may change between any two frames of the call. Either way
the call leaves nothing of the previous owner behind, and what it answers depends on one look at the
status only.

* `Dealt.close`, `Dealt.openClosed` : what is known of a slot that has been closed, and of one that
  has been opened.
* `openSocket_opens_or_closes` : a socket is open behind the call, with both of its rings empty, or
  it has been closed.
-/

namespace SpiEthernet

theorem SocketRegister.address_ne_command {r : SocketRegister} (h : r ≠ .command)
    (s t : SocketId) : r.address s ≠ SocketRegister.command.address t :=
  fun ht => h (address_inj ht).1

/-! ## Properties of a slot -/

namespace Chip

variable {chip : Chip} {s : SocketId} {P R : Chip → Prop}

theorem OfSlot.and (h : OfSlot s P) (h' : OfSlot s R) : OfSlot s fun chip => P chip ∧ R chip :=
  fun _ _ hsame hchip => ⟨h hsame hchip.1, h' hsame hchip.2⟩

theorem ofSlot_unflagged (s : SocketId) : OfSlot s fun chip => chip.byteOf .interrupt s = 0 :=
  fun _ _ hsame => hsame.unflagged

theorem ofSlot_command (s : SocketId) (code : UInt8) :
    OfSlot s fun chip => chip.byteOf .command s = code := fun _ _ hsame => hsame.command.trans

theorem ofSlot_mode (s : SocketId) (mode : UInt8) :
    OfSlot s fun chip => chip.byteOf .mode s = mode := fun _ _ hsame => hsame.mode.trans

theorem ofSlot_word {r : SocketRegister} (hw : r.width = 2) (s : SocketId) (Q : UInt16 → Prop) :
    OfSlot s fun chip => Q (chip.wordOf r s) := by
  intro chip chip' hsame hQ
  show Q (chip'.wordOf r s)
  rwa [hsame.words.words hw]

theorem ofSlot_emptied (s : SocketId) : OfSlot s fun chip => chip.Emptied s :=
  fun _ _ hsame => hsame.words.emptied

/-- The last command of a slot was to close it, and no flag of it is raised. -/
def Shut (chip : Chip) (s : SocketId) : Prop :=
  chip.byteOf .interrupt s = 0 ∧ chip.byteOf .command s = SocketCommand.close.code

/-- A slot without flags is programmed with a mode and a port. -/
def Programmed (chip : Chip) (s : SocketId) (mode : UInt8) (port : UInt16) : Prop :=
  (chip.byteOf .interrupt s = 0 ∧ chip.byteOf .mode s = mode) ∧ chip.wordOf .sourcePort s = port

theorem ofSlot_shut (s : SocketId) : OfSlot s fun chip => chip.Shut s :=
  (ofSlot_unflagged s).and (ofSlot_command s _)

theorem ofSlot_programmed (s : SocketId) (mode : UInt8) (port : UInt16) :
    OfSlot s fun chip => chip.Programmed s mode port :=
  ((ofSlot_unflagged s).and (ofSlot_mode s mode)).and (ofSlot_word rfl s (· = port))

/-! ## What is done to a slot -/

theorem shut_command (chip : Chip) (s : SocketId) :
    (chip.command s SocketCommand.close.code).Shut s := by
  simp only [Shut, command, SocketCommand.ofCode?_code, run, setStatus]
  constructor
  · rw [byteOf_setByteOf, if_pos ⟨rfl, rfl⟩]
  · rw [byteOf_setByteOf, if_neg (by simp), byteOf_setByteOf, if_neg (by simp), byteOf_mapLatch,
      byteOf_setByteOf, if_pos ⟨rfl, rfl⟩]

theorem Shut.clear (h : chip.Shut s) (hpresent : chip.absent = none) :
    (chip.write (SocketRegister.interrupt.address s) 0xFF).Shut s := by
  rw [write_socketInterrupt hpresent]
  constructor
  · rw [byteOf_setByteOf, if_pos ⟨rfl, rfl⟩, h.1]
    exact UInt8.zero_and
  · rw [byteOf_setByteOf, if_neg (by simp)]
    exact h.2

/-- The second byte of a register is no byte of another one. -/
theorem byteOf_poke_succ {r r' : SocketRegister} (hw : r'.width = 2) (hne : r' ≠ r)
    (value : UInt8) : (chip.poke (r'.address s + 1) value).byteOf r s = chip.byteOf r s := by
  have hd := SocketRegister.address_disjoint_of_ne hne s s
  have hpos := r.width_pos
  refine Memory.read_write_of_ne _ _ ?_
  rw [SocketRegister.toNat_address_succ hw]
  omega

/-- Opening a slot leaves it programmed as it is, with both of its rings empty. -/
theorem Programmed.open {mode : UInt8} {port : UInt16} (h : chip.Programmed s mode port) :
    (chip.command s SocketCommand.open.code).Programmed s mode port ∧
      (chip.command s SocketCommand.open.code).Emptied s := by
  obtain ⟨⟨hflags, hmode⟩, hport⟩ := h
  have hbyte {r : SocketRegister} (hw : r.width = 1) (hstatus : SocketRegister.status ≠ r)
      (hcommand : SocketRegister.command ≠ r) :
      (chip.command s SocketCommand.open.code).byteOf r s = chip.byteOf r s := by
    simp only [command, SocketCommand.ofCode?_code, run, setStatus]
    rw [byteOf_setPointers _ _ hw, byteOf_setByteOf, if_neg fun hr => hstatus hr.1,
      byteOf_mapLatch, byteOf_setByteOf, if_neg fun hr => hcommand hr.1]
  refine ⟨⟨⟨(hbyte rfl (by decide) (by decide)).trans hflags,
    (hbyte rfl (by decide) (by decide)).trans hmode⟩, ?_⟩, ?_⟩
  · simp only [command, SocketCommand.ofCode?_code, run, setStatus]
    rw [wordOf_setPointers _ _ _ _ _ rfl, if_pos rfl, wordOf_setByteOf _ _ _ _ rfl (by decide),
      wordOf_mapLatch, wordOf_setByteOf _ _ _ _ rfl (by decide)]
    exact hport
  · simp only [command, SocketCommand.ofCode?_code, run]
    exact emptied_setPointers _ s

/-- Nothing is staged in an empty ring. -/
theorem Emptied.unstaged (h : chip.Emptied s) : (chip.stagedPacket s).payload = [] := by
  have hread := h.pointers (r := .txRead) (by decide)
  have hwrite := h.pointers (r := .txWrite) (by decide)
  simp only [stagedPacket, hread, hwrite]
  rfl

end Chip

/-! ## The port of a socket -/

/-- The port for a socket that is opened with a wanted one, and what the driver remembers then. -/
def Controller.portFor (controller : Controller) (wanted : UInt16) : UInt16 × Controller :=
  if wanted = 0 then controller.takePort else (wanted, controller)

namespace Controller

variable (controller : Controller) (wanted : UInt16)

theorem portFor_fst : (controller.portFor wanted).1 =
    if wanted = 0 then controller.nextPort else wanted := by
  unfold portFor
  split <;> rfl

theorem nextPort_portFor : (controller.portFor wanted).2.nextPort =
    if wanted = 0 then controller.takePort.2.nextPort else controller.nextPort := by
  unfold portFor
  split <;> rfl

theorem sticky_portFor : (controller.portFor wanted).2.sticky = controller.sticky := by
  unfold portFor
  split <;> rfl

theorem portFor_ne_zero (hnext : wanted = 0 → controller.nextPort ≠ 0) :
    (controller.portFor wanted).1 ≠ 0 := by
  rw [portFor_fst]
  split
  · next hzero => exact hnext hzero
  · next hne => exact hne

end Controller

/-! ## Closing and opening -/

section Slot

variable {σ : Type} [Host σ] [Wired σ]

namespace Habit

variable {H : Habit σ} (hH : ∀ frame, H.between frame → frame.IsUpkeep) {s : SocketId}
  {start now : Device σ} {dealings : List Dealing} {c : Controller} {P : Chip → Prop}

include hH

/-- Whatever a slot was before, nothing of it is left when it has been closed. -/
theorem Dealt.close (h : H.Dealt s start dealings c P now) :
    Ends (close s) now fun _ now' => H.Dealt s start (dealings ++ [.gave SocketCommand.close.code])
      (c.forget s) (fun chip => chip.Shut s) now' := by
  refine Ends.bind (h.issue hH (Chip.ofSlot_shut s) rfl fun _ _ => Chip.shut_command _ s) ?_
  rintro _ d1 h1
  refine Ends.bind (h1.write hH (Chip.ofSlot_shut s)
    (SocketRegister.address_ne_command (by decide) s) 0xFF
    fun hpresent hshut => hshut.clear hpresent) ?_
  rintro _ d2 h2
  refine Ends.changeController ?_
  rw [h2.controller]
  exact h2.changed _

/-- The port is programmed in two halves. -/
theorem Dealt.writePort {mode : UInt8} (h : H.Dealt s start dealings c
      (fun chip => chip.byteOf .interrupt s = 0 ∧ chip.byteOf .mode s = mode) now)
    (port : UInt16) :
    Ends (onLink (writeWord (SocketRegister.sourcePort.address s) port)) now fun _ now' =>
      H.Dealt s start dealings c (fun chip => chip.Programmed s mode port) now' := by
  have hplain := (Chip.ofSlot_unflagged s).and (Chip.ofSlot_mode s mode)
  rw [writeWord, onLink_bind]
  refine Ends.bind (h.write hH
    (R := fun chip => (chip.byteOf .interrupt s = 0 ∧ chip.byteOf .mode s = mode) ∧
      highByte (chip.wordOf .sourcePort s) = highByte port)
    (hplain.and (Chip.ofSlot_word rfl s (highByte · = highByte port)))
    (SocketRegister.address_ne_command (by decide) s) (highByte port)
    fun hpresent hprogrammed => ?_) ?_
  · obtain ⟨hflags, hmode⟩ := hprogrammed
    rw [Chip.write_register hpresent s _ (by decide) (by decide)]
    refine ⟨⟨?_, ?_⟩, ?_⟩
    · rw [Chip.byteOf_setByteOf, if_neg (by simp)]
      exact hflags
    · rw [Chip.byteOf_setByteOf, if_neg (by simp)]
      exact hmode
    · refine (congrArg highByte (Chip.wordOf_poke_high now.chip s (highByte port))).trans ?_
      exact highByte_word _ _
  · rintro _ d1 h1
    refine h1.write hH (Chip.ofSlot_programmed s mode port)
      (SocketRegister.address_succ_ne rfl s .command) (lowByte port)
      fun hpresent hprogrammed => ?_
    obtain ⟨⟨hflags, hmode⟩, hhigh⟩ := hprogrammed
    rw [Chip.write_register_succ hpresent rfl]
    refine ⟨⟨?_, ?_⟩, ?_⟩
    · rw [Chip.byteOf_poke_succ rfl (by decide)]
      exact hflags
    · rw [Chip.byteOf_poke_succ rfl (by decide)]
      exact hmode
    · rw [Chip.wordOf_poke_low _ rfl, hhigh, word_highByte_lowByte]

omit hH in
theorem Dealt.choosePort (h : H.Dealt s start dealings c P now) (wanted : UInt16) :
    Ends (choosePort wanted) now fun port now' => port = (c.portFor wanted).1 ∧
      H.Dealt s start dealings (c.portFor wanted).2 P now' := by
  unfold SpiEthernet.choosePort Controller.portFor
  split
  · refine Ends.onController ⟨?_, ?_⟩
    · rw [h.controller]
    · rw [h.controller]
      exact h.changed _
  · exact Ends.pure ⟨rfl, h⟩

/-- A slot that has been opened has the mode and the port it was opened with, and empty rings. What
its status is behind the command is open. -/
theorem Dealt.openClosed (h : H.Dealt s start dealings c (fun chip => chip.Shut s) now)
    (mode : SocketMode) (flags : UInt8) (wanted : UInt16) :
    Ends (openClosed s mode flags wanted) now fun r now' => ∃ raw,
      r = ((c.portFor wanted).1, SocketStatus.ofByte raw) ∧
        H.Dealt s start (dealings ++ [.gave SocketCommand.open.code, .saw raw])
          (c.portFor wanted).2 (fun chip =>
            chip.Programmed s (mode.code ||| flags) (c.portFor wanted).1 ∧ chip.Emptied s)
          now' := by
  have hplain := (Chip.ofSlot_unflagged s).and (Chip.ofSlot_mode s (mode.code ||| flags))
  refine Ends.bind (h.write hH hplain (SocketRegister.address_ne_command (by decide) s)
    (mode.code ||| flags) fun hpresent hshut => ?_) ?_
  · rw [Chip.write_register hpresent s _ (by decide) (by decide)]
    constructor
    · rw [Chip.byteOf_setByteOf, if_neg (by simp)]
      exact hshut.1
    · rw [Chip.byteOf_setByteOf, if_pos ⟨rfl, rfl⟩]
  rintro _ d1 h1
  refine Ends.bind (h1.choosePort wanted) ?_
  rintro port d2 ⟨rfl, h2⟩
  refine Ends.bind (h2.writePort hH _) ?_
  rintro _ d3 h3
  have hopened := (Chip.ofSlot_programmed s (mode.code ||| flags) (c.portFor wanted).1).and
    (Chip.ofSlot_emptied s)
  refine Ends.bind (h3.issue hH hopened rfl fun _ => Chip.Programmed.open) ?_
  rintro _ d4 h4
  refine Ends.bind (h4.status hH hopened) ?_
  rintro _ d5 ⟨raw, rfl, h5⟩
  rw [List.append_assoc] at h5
  exact Ends.pure ⟨raw, rfl, h5⟩

end Habit

/-! ## What opening comes to -/

/-- No flag of a socket is left, neither in the chip nor with the driver. -/
structure Device.Unflagged (device : Device σ) (s : SocketId) : Prop where
  raised : device.chip.byteOf .interrupt s = 0
  collected : device.controller.sticky.socket s = 0

/-- A socket is open, and nothing is left of what it was before. -/
structure Device.OpenAs (device : Device σ) (s : SocketId) (mode : SocketMode) (flags : UInt8)
    (port : UInt16) : Prop extends device.Unflagged s where
  port_ne : port ≠ 0
  programmed : device.chip.wordOf .sourcePort s = port
  remembered : device.controller.localPorts[s] = port
  mode : device.chip.byteOf .mode s = mode.code ||| flags
  emptied : device.chip.Emptied s
  unstaged : (device.chip.stagedPacket s).payload = []

/-- The last thing a socket was told is to close, and nothing is left of what it was before. -/
structure Device.ShutDown (device : Device σ) (s : SocketId) : Prop extends
    device.Unflagged s where
  command : device.chip.byteOf .command s = SocketCommand.close.code
  forgotten : device.controller.localPorts[s] = 0

/-- What opening a socket has come to, where `raw` is the status that it showed behind the command
to open it. -/
structure OpenedOrShut (start : Device σ) (s : SocketId) (mode : SocketMode)
    (flags : UInt8) (wanted : UInt16) (raw : UInt8) (r : Except Error UInt16)
    (now : Device σ) : Prop where
  succeeds_iff : (∃ port, r = .ok port) ↔ raw = mode.openStatus.raw
  opened (port : UInt16) (h : r = .ok port) :
    port = (if wanted = 0 then start.controller.nextPort else wanted) ∧
      now.OpenAs s mode flags port ∧
      (Wired.endpoint now.board).dealingsSince (Wired.endpoint start.board) s =
        [.gave SocketCommand.close.code, .gave SocketCommand.open.code, .saw raw]
  refused (h : ∀ port, r ≠ .ok port) :
    r = .error (.unexpectedStatus raw) ∧ now.ShutDown s ∧
      (Wired.endpoint now.board).dealingsSince (Wired.endpoint start.board) s =
        [.gave SocketCommand.close.code, .gave SocketCommand.open.code, .saw raw,
          .gave SocketCommand.close.code]
  nextPort : now.controller.nextPort =
    if wanted = 0 then start.controller.takePort.2.nextPort else start.controller.nextPort

theorem SocketStatus.ofByte_eq_openStatus_iff {mode : SocketMode} (h : mode ≠ .closed)
    (raw : UInt8) : ofByte raw = mode.openStatus ↔ raw = mode.openStatus.raw := by
  constructor
  · intro heq
    rw [← heq, raw_ofByte]
  · rintro rfl
    cases mode with
    | closed => exact absurd rfl h
    | tcp | udp | ipRaw | macRaw => rfl

namespace Habit

variable {H : Habit σ} (hH : ∀ frame, H.between frame → frame.IsUpkeep) {s : SocketId}
  {start now : Device σ} {dealings : List Dealing} {c : Controller}

/-- A slot that has been closed has been shut down. -/
theorem Dealt.shutDown (h : H.Dealt s start dealings (c.forget s) (fun chip => chip.Shut s) now) :
    now.ShutDown s := by
  obtain ⟨hsticky, hport⟩ := c.forget_self s
  refine ⟨⟨h.chip.1, ?_⟩, h.chip.2, ?_⟩
  · rw [h.controller]
    exact hsticky
  · rw [h.controller]
    exact hport

theorem Dealt.remember {P : Chip → Prop} (h : H.Dealt s start dealings c P now) (port : UInt16) :
    Ends (changeController (·.setLocalPort s port)) now fun _ now' =>
      H.Dealt s start dealings (c.setLocalPort s port) P now' := by
  refine Ends.changeController ?_
  rw [h.controller]
  exact h.changed _

/-- A slot that has been programmed and opened, and whose port the driver remembers, is open. -/
theorem Dealt.openAs {mode : SocketMode} {flags : UInt8} {port : UInt16}
    (h : H.Dealt s start dealings (c.setLocalPort s port)
      (fun chip => chip.Programmed s (mode.code ||| flags) port ∧ chip.Emptied s) now)
    (hport : port ≠ 0) (hsticky : c.sticky.socket s = 0) : now.OpenAs s mode flags port := by
  obtain ⟨⟨⟨hflags, hmode⟩, hprogrammed⟩, hemptied⟩ := h.chip
  refine ⟨⟨hflags, ?_⟩, hport, hprogrammed, ?_, hmode, hemptied, hemptied.unstaged⟩
  · rw [h.controller]
    exact hsticky
  · rw [h.controller]
    exact SocketId.getElem_set_self _ _ _

include hH

/-- Opening in the closed mode is closing. -/
theorem openSocket_closed (hok : H.ok start.board) (honly : start.chip.OnlyStatuses)
    (s : SocketId) (flags : UInt8) (wanted : UInt16) :
    Ends (openSocket s .closed flags wanted).run start fun r now =>
      r = .ok 0 ∧ now.ShutDown s ∧
        (Wired.endpoint now.board).dealingsSince (Wired.endpoint start.board) s =
          [.gave SocketCommand.close.code] ∧
        now.controller.nextPort = start.controller.nextPort := by
  refine Ends.sure_bind ((Dealt.begin hok honly s).close hH) ?_
  rintro _ d1 h1
  rw [if_pos rfl]
  refine Ends.pure ⟨rfl, h1.shutDown, h1.deals.dealingsSince, ?_⟩
  rw [h1.controller]
  rfl

/-- What opening comes to in any other mode. -/
theorem openSocket_open (hok : H.ok start.board) (honly : start.chip.OnlyStatuses)
    (s : SocketId) {mode : SocketMode} (hmode : mode ≠ .closed) (flags : UInt8) (wanted : UInt16)
    (hnext : wanted = 0 → start.controller.nextPort ≠ 0) :
    Ends (openSocket s mode flags wanted).run start fun r now =>
      ∃ raw, OpenedOrShut start s mode flags wanted raw r now := by
  have hsticky : ((start.controller.forget s).portFor wanted).2.sticky.socket s = 0 := by
    rw [Controller.sticky_portFor]
    exact (start.controller.forget_self s).1
  refine Ends.sure_bind ((Dealt.begin hok honly s).close hH) ?_
  rintro _ d1 h1
  rw [if_neg hmode]
  refine Ends.sure_bind (h1.openClosed hH mode flags wanted) ?_
  rintro _ d2 ⟨raw, rfl, h2⟩
  dsimp only
  by_cases hshown : SocketStatus.ofByte raw = mode.openStatus
  · rw [if_neg fun hne => hne hshown]
    have hraw := (SocketStatus.ofByte_eq_openStatus_iff hmode raw).1 hshown
    refine Ends.sure_bind (h2.remember _) ?_
    rintro _ d3 h3
    refine Ends.sure_bind (h3.note _) ?_
    rintro _ d4 h4
    refine Ends.pure ⟨raw, ⟨fun _ => hraw, fun _ => ⟨_, rfl⟩⟩, ?_, fun h => absurd rfl (h _), ?_⟩
    · rintro _ ⟨⟩
      exact ⟨Controller.portFor_fst _ wanted,
        h4.openAs (Controller.portFor_ne_zero _ wanted hnext) hsticky, h4.deals.dealingsSince⟩
    · rw [h4.controller]
      exact Controller.nextPort_portFor _ wanted
  · rw [if_pos hshown]
    have hraw := fun h => hshown ((SocketStatus.ofByte_eq_openStatus_iff hmode raw).2 h)
    refine Ends.sure_bind (h2.note _) ?_
    rintro _ d3 h3
    refine Ends.sure_bind (h3.close hH) ?_
    rintro _ d4 h4
    refine Ends.fail ⟨raw, ⟨nofun, fun h => absurd h hraw⟩, nofun, fun _ => ⟨?_, h4.shutDown,
      h4.deals.dealingsSince⟩, ?_⟩
    · rw [SocketStatus.raw_ofByte]
    · rw [h4.controller]
      exact Controller.nextPort_portFor _ wanted

end Habit

end Slot

/-- Whatever a socket was before, and whatever becomes of its status meanwhile: a socket that is
opened is either open behind the call, with nothing left of what it was before, or it has been
closed, and which of the two depends only on the status that it shows behind the command to open it.
Opening in the closed mode is closing. -/
theorem openSocket_opens_or_closes {device : Device Board} (hpresent : device.chip.absent = none)
    (honly : device.chip.OnlyStatuses) (s : SocketId) (mode : SocketMode) (flags : UInt8)
    (wanted : UInt16) (hnext : wanted = 0 → device.controller.nextPort ≠ 0) :
    Ends (openSocket s mode flags wanted).run device fun r device' =>
      (mode ≠ .closed → ∃ raw, OpenedOrShut device s mode flags wanted raw r device') ∧
      (mode = .closed → r = .ok 0 ∧ device'.ShutDown s ∧
        device'.board.bench.endpoint.dealingsSince device.board.bench.endpoint s =
          [.gave SocketCommand.close.code] ∧
        device'.controller.nextPort = device.controller.nextPort) := by
  have hok : Habit.attended.ok device.board := honly.steady hpresent
  have hupkeep : ∀ frame, Habit.attended.between frame → frame.IsUpkeep := fun _ => id
  by_cases hmode : mode = .closed
  · subst hmode
    exact (Habit.openSocket_closed hupkeep hok honly s flags wanted).mono fun _ _ h =>
      ⟨fun hne => absurd rfl hne, fun _ => h⟩
  · exact (Habit.openSocket_open hupkeep hok honly s hmode flags wanted hnext).mono fun _ _ h =>
      ⟨fun _ => h, fun heq => absurd heq hmode⟩

/-- A chip whose socket 1 has a connection, with a flag raised and bytes staged. The peer of another
socket is about to close. -/
def Chip.inherited : Chip :=
  ((((((Chip.new none).setByteOf .mode 1 SocketMode.tcp.code).setStatus 1 .established).setByteOf
    .interrupt 1 SocketFlag.received).setWordOf .txWrite 1 5).schedule 7 (.setStatus 2 .closeWait))

/-- A board with such a chip, whose handler is called for the flag as soon as it is connected. -/
def Board.inherited : Board :=
  { (Board.new none ⟨none, .off⟩).withChip { Chip.inherited with edge := true } with
    hooked := true
    shared := Spinlock.new (some Controller.new) }

/-- The socket shows that it is open, and has the first port that is handed out. -/
theorem openSocket_opens_or_closes_inherited :
    Ends (openSocket 1 .udp 0x80 0).run ⟨Board.inherited, Controller.new⟩ fun r device' =>
      r = .ok 49152 ∧ device'.OpenAs 1 .udp 0x80 49152 ∧
        device'.board.bench.endpoint.dealingsSince Board.inherited.bench.endpoint 1 =
          [.gave SocketCommand.close.code, .gave SocketCommand.open.code,
            .saw SocketStatus.udp.raw] ∧
        device'.controller.nextPort = 49153 := by
  have hqueue {scheduled : Scheduled}
      (hs : scheduled ∈ (Device.mk Board.inherited Controller.new).chip.queue) :
      scheduled = ⟨7, .setStatus 2 .closeWait⟩ := List.mem_singleton.1 hs
  have honly : (Device.mk Board.inherited Controller.new).chip.OnlyStatuses :=
    fun _ hs => ⟨2, .closeWait, congrArg Scheduled.event (hqueue hs)⟩
  have hstays : (Device.mk Board.inherited Controller.new).chip.StatusStays 1 := by
    intro scheduled hs
    rw [hqueue hs]
    rfl
  have hok : Habit.attended.ok (Device.mk Board.inherited Controller.new).board :=
    honly.steady rfl
  have hmode : SocketMode.ofRegister? (SocketMode.udp.code ||| 0x80) = some .udp := by decide
  refine ((openSocket_opens_or_closes rfl honly 1 .udp 0x80 0 fun _ => by decide).and
    (Habit.openSocket_ends hok hmode (by decide) 0)).mono ?_
  rintro r device' ⟨⟨hopens, -⟩, -, hsucceeds⟩
  obtain ⟨port, rfl⟩ := hsucceeds hstays
  obtain ⟨raw, h⟩ := hopens nofun
  obtain ⟨hport, hopen, hdealings⟩ := h.opened port rfl
  obtain rfl := h.succeeds_iff.1 ⟨port, rfl⟩
  obtain rfl : port = 49152 := hport
  exact ⟨rfl, hopen, hdealings, h.nextPort⟩

end SpiEthernet
