import SpiEthernet.Channel
import SpiEthernet.Proofs.Receive.Stock

/-!
# Opening a socket

A socket is opened by a command, which empties its rings. Until then anything may have arrived for
the socket and is lost; from then on nothing is. The state of the link in which the command is
given is therefore the one from which the socket's datagrams count.

* `holds_open` : the command leaves an empty receive ring.
* `openSocket_ends` : a socket that has been opened holds what has arrived since the command.
-/

namespace SpiEthernet

namespace Chip

variable {chip : Chip} {s : SocketId} {r : SocketRegister} {mode : SocketMode}

/-! ## Mode and status -/

/-- No event that is going to happen changes the status of a socket. -/
def StatusStays (chip : Chip) (s : SocketId) : Prop :=
  ∀ scheduled ∈ chip.queue, scheduled.event.setsStatus s = false

/-- The only registers of one byte that events change are the flags and the status. -/
theorem byteOf_happen_of_width {event : Event} (hi : r ≠ .interrupt) (hw : r.width = 1)
    (h : event.isOrdinary) (hstatus : r = .status → event.setsStatus s = false) :
    (chip.happen event).byteOf r s = chip.byteOf r s :=
  byteOf_happen hi (by rintro rfl; cases hw) (by rintro rfl; cases hw) h hstatus

theorem Steady.byteOf_afterFrame (h : chip.Steady) (hi : r ≠ .interrupt) (hw : r.width = 1)
    (hstatus : ∀ scheduled ∈ chip.queue, r = .status → scheduled.event.setsStatus s = false) :
    chip.afterFrame.byteOf r s = chip.byteOf r s := by
  refine afterFrame_induction [] (P := fun c _ => c.byteOf r s = chip.byteOf r s) rfl ?_
  intro c _ scheduled hs hc
  exact (byteOf_happen_of_width hi hw (h.ordinary scheduled hs) (hstatus scheduled hs)).trans hc

/-! ## The command -/

/-- The command to open a socket empties its receive ring. -/
theorem holds_open (hsteady : chip.Steady)
    (hmode : SocketMode.ofRegister? (chip.byteOf .mode s) = some mode)
    (hsuits : ∀ scheduled ∈ chip.queue,
      scheduled.event.suits s (Framing.ofRegister mode.code)) :
    (chip.write (SocketRegister.command.address s) SocketCommand.open.code).Holds s
      (.empty (Framing.ofRegister mode.code) 0) := by
  rw [write_command hsteady.present]
  simp only [command, SocketCommand.ofCode?_code, run]
  refine holds_setPointers (hsteady.of_casing ?_) 0 0 ?_ hsuits
  · rw [casing_setStatus, casing_mapLatch, casing_setByteOf]
  · rw [setStatus, byteOf_setByteOf, if_neg (by simp), byteOf_mapLatch, byteOf_setByteOf,
      if_neg (by simp), Framing.ofRegister, hmode, Framing.ofRegister, SocketMode.ofRegister?_code]

/-- A socket shows the status of its mode when it has been opened. -/
theorem byteOf_status_open (hpresent : chip.absent = none)
    (hmode : SocketMode.ofRegister? (chip.byteOf .mode s) = some mode) :
    (chip.write (SocketRegister.command.address s) SocketCommand.open.code).byteOf .status s =
      mode.openStatus.raw := by
  rw [write_command hpresent]
  simp only [command, SocketCommand.ofCode?_code, run]
  rw [byteOf_setPointers _ _ rfl, setStatus, byteOf_setByteOf, if_pos ⟨rfl, rfl⟩, byteOf_mapLatch,
    byteOf_setByteOf, if_neg (by simp), openedStatus_of_mode hmode]

end Chip

/-! ## The state in which a socket is opened -/

namespace Endpoint

variable {P : Frame → Prop} {s : SocketId} {start opening middle now : Endpoint}
  {o : List Occurrence}

theorem Passes.byteOf {r : SocketRegister} (h : start.Passes P o now)
    (hP : ∀ frame, P frame → frame.IsQuiet) (hs : start.chip.Steady) (hi : r ≠ .interrupt)
    (hw : r.width = 1)
    (hstatus : ∀ scheduled ∈ start.chip.queue, r = .status → scheduled.event.setsStatus s = false) :
    now.chip.byteOf r s = start.chip.byteOf r s := by
  refine h.chip_induction (I := fun c _ => c.byteOf r s = start.chip.byteOf r s)
    (A := fun event => r = .status → event.setsStatus s = false)
    (fun frame hf => (hP frame hf).isLocal) [] hs hstatus rfl ?_ ?_ ?_
  · intro chip _ frame hsteady hf hc
    exact (Chip.byteOf_serve_of_isQuiet hsteady.present (hP frame hf) hi s).trans hc
  · intro chip _ event hordinary hevent hc
    exact (Chip.byteOf_happen_of_width hi hw hordinary hevent).trans hc
  · intro chip _ hc
    exact hc

/-- On the way from one state of the link to another, a socket was opened: it was given the command
in the state `opening`, and since then frames have only looked. -/
structure Opens (s : SocketId) (start opening now : Endpoint) : Prop where
  before : ∃ o, start.Passes Frame.IsLocal o opening
  since : ∃ o, (opening.turn (Frame.write (SocketRegister.command.address s)
    SocketCommand.open.code)).2.Passes Frame.IsQuiet o now

theorem Opens.occurrencesSince_eq
    (h : (opening.turn (Frame.write (SocketRegister.command.address s)
      SocketCommand.open.code)).2.Passes P o now) :
    now.occurrencesSince opening =
      (opening.chip.serve (Frame.write (SocketRegister.command.address s)
        SocketCommand.open.code)).2.frameOccurrences ++ o := by
  have hany : ∀ frame, P frame → True := fun _ _ => trivial
  exact ((Passes.one (P := fun _ => True) opening trivial).trans (h.mono hany)).occurrencesSince

theorem Opens.passes (h : Opens s start opening now) : ∃ o, start.Passes Frame.IsLocal o now := by
  have hopen :
      (Frame.write (SocketRegister.command.address s) SocketCommand.open.code).IsLocal := by
    intro _ _ command _ hc
    cases (SocketCommand.ofCode?_code .open).symm.trans hc
    rfl
  obtain ⟨o, hbefore⟩ := h.before
  obtain ⟨o', hsince⟩ := h.since
  exact ⟨_, (hbefore.turn _ hopen).trans (hsince.mono fun _ => Frame.IsQuiet.isLocal)⟩

theorem Opens.step (h : Opens s start opening middle)
    (hquiet : middle.Passes Frame.IsQuiet o now) :
    Opens s start opening now ∧
      now.occurrencesSince opening = middle.occurrencesSince opening ++ o := by
  obtain ⟨o', hsince⟩ := h.since
  refine ⟨⟨h.before, _, hsince.trans hquiet⟩, ?_⟩
  rw [occurrencesSince_eq (hsince.trans hquiet), occurrencesSince_eq hsince, List.append_assoc]

end Endpoint

/-! ## On a device -/

section Opening

variable {σ : Type} [Host σ] [Wired σ]

namespace Habit

variable {H : Habit σ} {s : SocketId} {mode : SocketMode} {device start middle now : Device σ}

/-- The driver has come from one state of a device to another without giving any command that
concerns more than one socket. -/
structure Came (H : Habit σ) (start now : Device σ) : Prop where
  ok : H.ok now.board
  passes : ∃ o, (Wired.endpoint start.board).Passes Frame.IsLocal o (Wired.endpoint now.board)

theorem Came.trans (h : H.Came start middle) (h' : H.Came middle now) : H.Came start now := by
  obtain ⟨o, ho⟩ := h.passes
  obtain ⟨o', ho'⟩ := h'.passes
  exact ⟨h'.ok, _, ho.trans ho'⟩

theorem Came.statusStays (h : H.Came start now) (hok : H.ok start.board)
    (hstays : start.chip.StatusStays s) : now.chip.StatusStays s := by
  obtain ⟨o, ho⟩ := h.passes
  exact fun scheduled hs => hstays scheduled (ho.mem_queue (fun _ => id) (H.steady hok) hs)

theorem Walked.came {P : Frame → Prop} (h : H.Walked P start now)
    (hP : ∀ frame, P frame → frame.IsLocal) : H.Came start now := by
  obtain ⟨o, ho⟩ := h.passes
  exact ⟨h.ok, o, ho.mono hP⟩

theorem Exchanged.came {frame : Frame} {value : UInt8} {o : List Occurrence}
    (h : H.Exchanged start.board frame value o now.board) (hf : frame.IsLocal) :
    H.Came start now :=
  ⟨h.ok, o, h.passes hf fun _ hb => (H.isQuiet hb).isLocal⟩

/-- What a frame leaves in a register is kept by what follows it. -/
theorem Exchanged.byteOf {frame : Frame} {value : UInt8} {o : List Occurrence} {x x' : σ}
    (h : H.Exchanged x frame value o x') (hx : H.ok x) (hf : frame.IsLocal) {r : SocketRegister}
    (hi : r ≠ .interrupt) (hw : r.width = 1) (hstatus : ∀ scheduled ∈
      (Wired.endpoint x).chip.queue, r = .status → scheduled.event.setsStatus s = false) :
    (Wired.endpoint x').chip.byteOf r s = ((Wired.endpoint x).chip.serve frame).2.byteOf r s := by
  obtain ⟨o', -, hwalk⟩ := h.walk
  have hsteady := H.steady hx
  have hserved : ∀ scheduled ∈ ((Wired.endpoint x).chip.serve frame).2.queue,
      r = .status → scheduled.event.setsStatus s = false := by
    rw [Chip.queue_of_casing (Chip.casing_serve hsteady.present hf)]
    exact hstatus
  have hturned := Endpoint.steady_turn_held hsteady frame
  refine (hwalk.byteOf (fun _ => H.isQuiet) hturned hi hw ?_).trans
    ((hsteady.serve frame).byteOf_afterFrame hi hw hserved)
  intro scheduled hs
  have hs : scheduled ∈ ((Wired.endpoint x).chip.serve frame).2.afterFrame.queue := hs
  rw [(hsteady.serve frame).queue_afterFrame] at hs
  exact hserved scheduled (List.mem_filter.1 hs).1

/-- A socket has been opened. Its receive ring holds what has arrived since it was given the
command, provided that this has the layout of its mode, and it shows the status of its mode,
provided that nothing else changes that. -/
structure Opened (H : Habit σ) (s : SocketId) (mode : SocketMode) (start now : Device σ) :
    Prop where
  ok : H.ok now.board
  opening : ∃ opening, (Wired.endpoint start.board).Opens s opening (Wired.endpoint now.board) ∧
    ((∀ scheduled ∈ start.chip.queue, scheduled.event.suits s (Framing.ofRegister mode.code)) →
      now.chip.Holds s ((Inlet.empty (Framing.ofRegister mode.code) 0).after s
        ((Wired.endpoint now.board).occurrencesSince opening)))
  status : start.chip.StatusStays s → now.chip.byteOf .status s = mode.openStatus.raw

theorem Opened.looks (hok : H.ok start.board) (h : H.Opened s mode start middle)
    (hw : H.Walked H.Looks middle now) : H.Opened s mode start now := by
  obtain ⟨opening, hopens, hholds⟩ := h.opening
  obtain ⟨o, hpasses⟩ := hw.passes
  have hquiet := hpasses.mono fun _ => Looks.isQuiet
  obtain ⟨hopens', hsince⟩ := hopens.step hquiet
  refine ⟨hw.ok, ⟨opening, hopens', fun hsuits => ?_⟩, fun hstatus => ?_⟩
  · rw [hsince, Inlet.after_append]
    exact hquiet.holds (fun _ => id) (hholds hsuits)
  · obtain ⟨_, hall⟩ := hopens.passes
    refine (hquiet.byteOf (fun _ => id) (H.steady h.ok) (by decide) rfl ?_).trans (h.status hstatus)
    exact fun scheduled hs _ => hstatus scheduled (hall.mem_queue (fun _ => id) (H.steady hok) hs)

theorem Opened.after_came (hok : H.ok start.board) (hcame : H.Came start middle)
    (h : H.Opened s mode middle now) : H.Opened s mode start now := by
  obtain ⟨o, hpasses⟩ := hcame.passes
  obtain ⟨opening, ⟨⟨o', hbefore⟩, hsince⟩, hholds⟩ := h.opening
  refine ⟨h.ok, ⟨opening, ⟨⟨_, hpasses.trans hbefore⟩, hsince⟩, fun hsuits => hholds ?_⟩,
    fun hstays => h.status (hcame.statusStays hok hstays)⟩
  exact fun scheduled hs => hsuits scheduled (hpasses.mem_queue (fun _ => id) (H.steady hok) hs)

/-- What has arrived since a socket was opened is what its ring holds. -/
theorem Opened.stocked (h : H.Opened s mode start now) (hsuits : ∀ scheduled ∈ start.chip.queue,
      scheduled.event.suits s (Framing.ofRegister mode.code)) :
    ∃ opening, (Wired.endpoint start.board).Opens s opening (Wired.endpoint now.board) ∧
      now.chip.Stocked s (Framing.ofRegister mode.code) [] []
        (arrivals s ((Wired.endpoint now.board).occurrencesSince opening)) := by
  obtain ⟨opening, hopens, hholds⟩ := h.opening
  exact ⟨opening, hopens, (hholds hsuits).stocked⟩

/-! ## Opening -/

/-- A look at the status of a socket. -/
theorem status_ends (hok : H.ok device.board) :
    Ends (status s) device fun shown device' => H.Walked H.Looks device device' ∧
      shown = SocketStatus.ofByte (device.chip.byteOf .status s) := by
  refine Ends.bind (Ends.onLink (H.readByte_ends hok _)) ?_
  rintro raw device' ⟨⟨o, hread⟩, hcontroller⟩
  refine Ends.pure
    ⟨hread.walked hcontroller hok (Frame.isLocal_read _) (.inl rfl) fun _ => .inr, ?_⟩
  rw [hread.reply, Chip.serve_read,
    Chip.read_register (H.steady hok).present (by decide) (by decide)]

theorem issueOpen_ends (hok : H.ok device.board)
    (hmode : SocketMode.ofRegister? (device.chip.byteOf .mode s) = some mode) :
    Ends (issue s .open) device fun _ device' => H.Opened s mode device device' := by
  have hsteady := H.steady hok
  refine (H.issue_ends hok rfl).mono ?_
  rintro _ device' ⟨given, o, reply, hgiven, -, hwalked⟩
  obtain ⟨o', -, hwalk⟩ := hgiven.walk
  have hquiet := hwalk.mono fun _ => H.isQuiet
  refine Opened.looks hok ⟨hgiven.ok, ⟨(Wired.endpoint device.board).held,
    ⟨⟨[], Endpoint.passes_held _ _⟩, o', hquiet⟩, fun hsuits => ?_⟩, fun hstatus => ?_⟩ hwalked
  · rw [Endpoint.Opens.occurrencesSince_eq hwalk, Inlet.after_append]
    exact hwalk.holds (fun _ => H.isQuiet) (Chip.holds_open hsteady hmode hsuits).afterFrame
  · refine (hgiven.byteOf hok (isLocal_command rfl) (by decide) rfl fun scheduled hs _ =>
      hstatus scheduled hs).trans ?_
    exact Chip.byteOf_status_open hsteady.present hmode

theorem close_ends (hok : H.ok device.board) (s : SocketId) :
    Ends (close s) device fun _ device' => H.Came device device' := by
  have hlocal : (Frame.write (SocketRegister.interrupt.address s) 0xFF).IsLocal := by
    intro _ t command ha _
    cases (SocketRegister.address_inj ha).1
  have hissue : H.Travels Frame.IsLocal (issue s .close) :=
    Travels.issue (fun _ => Looks.isLocal) s rfl (isLocal_command rfl)
  refine Ends.bind (hissue device hok) ?_
  rintro _ d1 hd1
  refine Ends.bind (Ends.onLink (H.writeByte_ends hd1.ok hlocal)) ?_
  rintro _ d2 ⟨⟨o, reply, hd2⟩, -⟩
  have hcame := (hd1.came fun _ => id).trans (hd2.came hlocal)
  exact Ends.changeController ⟨hcame.ok, hcame.passes⟩

/-- Setting the port of a socket leaves its mode alone. -/
theorem writeSourcePort_ends (hok : H.ok device.board) (s : SocketId) (value : UInt16) :
    Ends (onLink (writeWord (SocketRegister.sourcePort.address s) value)) device
      fun _ device' => H.Came device device' ∧
        device'.chip.byteOf .mode s = device.chip.byteOf .mode s := by
  have hhigh : (Frame.write (SocketRegister.sourcePort.address s) (highByte value)).IsLocal := by
    intro _ t command ha _
    cases (SocketRegister.address_inj ha).1
  have hlow : (Frame.write (SocketRegister.sourcePort.address s + 1) (lowByte value)).IsLocal :=
    fun _ _ _ ha _ => absurd ha (SocketRegister.address_succ_ne rfl _ _ _)
  rw [writeWord, onLink_bind]
  refine Ends.bind (Ends.onLink (H.writeByte_ends hok hhigh)) ?_
  rintro _ d1 ⟨⟨o1, reply1, hd1⟩, -⟩
  refine (Ends.onLink (H.writeByte_ends hd1.ok hlow)).mono ?_
  rintro _ d2 ⟨⟨o2, reply2, hd2⟩, -⟩
  refine ⟨(hd1.came hhigh).trans (hd2.came hlow), ?_⟩
  have hmode2 : d2.chip.byteOf .mode s = d1.chip.byteOf .mode s := by
    have hkept := hd2.byteOf (s := s) (r := .mode) hd1.ok hlow (by decide) rfl
      (fun _ _ h => by cases h)
    rw [hkept, Chip.serve_write, Chip.write_register_succ (H.steady hd1.ok).present rfl]
    have hdisjoint := SocketRegister.address_disjoint_of_ne
      (show SocketRegister.sourcePort ≠ .mode by decide) s s
    have hwidth : SocketRegister.sourcePort.width = 2 := rfl
    have hwidth' : SocketRegister.mode.width = 1 := rfl
    refine Memory.read_write_of_ne _ _ ?_
    rw [SocketRegister.toNat_address_succ rfl]
    omega
  have hkept := hd1.byteOf (s := s) (r := .mode) hok hhigh (by decide) rfl
    (fun _ _ h => by cases h)
  rw [hmode2, hkept, Chip.serve_write,
    Chip.write_register (H.steady hok).present s _ (by decide) (by decide),
    Chip.byteOf_setByteOf, if_neg (by simp)]

theorem openClosed_ends (hok : H.ok device.board) {flags : UInt8}
    (hmode : SocketMode.ofRegister? (mode.code ||| flags) = some mode) (wanted : UInt16) :
    Ends (openClosed s mode flags wanted) device fun r device' =>
      H.Opened s mode device device' ∧
        (device.chip.StatusStays s → r.2 = mode.openStatus) := by
  have hlocal : (Frame.write (SocketRegister.mode.address s) (mode.code ||| flags)).IsLocal := by
    intro _ t command ha _
    cases (SocketRegister.address_inj ha).1
  refine Ends.bind (Ends.onLink (H.writeByte_ends hok hlocal)) ?_
  rintro _ d1 ⟨⟨o, reply, hd1⟩, -⟩
  have hmode1 : d1.chip.byteOf .mode s = mode.code ||| flags := by
    have hkept := hd1.byteOf (s := s) (r := .mode) hok hlocal (by decide) rfl
      (fun _ _ h => by cases h)
    rw [hkept, Chip.serve_write,
      Chip.write_register (H.steady hok).present s _ (by decide) (by decide),
      Chip.byteOf_setByteOf, if_pos ⟨rfl, rfl⟩]
  have hchoose : Ends (choosePort wanted) d1 fun _ d => d.board = d1.board := by
    unfold choosePort
    split
    · exact Ends.onController rfl
    · exact Ends.pure rfl
  refine Ends.bind hchoose ?_
  rintro chosen ⟨_, controller⟩ hboard
  cases hboard
  have hok1 : H.ok (⟨d1.board, controller⟩ : Device σ).board := hd1.ok
  refine Ends.bind (H.writeSourcePort_ends hok1 s chosen) ?_
  rintro _ d2 ⟨hd2, hmode2⟩
  refine Ends.bind (H.issueOpen_ends hd2.ok ((congrArg SocketMode.ofRegister?
    (hmode2.trans hmode1)).trans hmode)) ?_
  rintro _ d3 hd3
  have hcame : H.Came device d2 := Came.trans (hd1.came hlocal) ⟨hd2.ok, hd2.passes⟩
  have hopened := hd3.after_came hok hcame
  refine Ends.bind (H.status_ends hd3.ok) ?_
  rintro shown d4 ⟨hd4, hshown⟩
  refine Ends.pure ⟨hopened.looks hok hd4, fun hstatus => ?_⟩
  rw [hshown, hopened.status hstatus]
  cases mode <;> rfl

/-- A socket that was opened for datagrams holds what has arrived since it was given the command,
and opening it succeeds unless something else changes its status. -/
theorem openSocket_ends (hok : H.ok device.board) {flags : UInt8}
    (hmode : SocketMode.ofRegister? (mode.code ||| flags) = some mode) (hopens : mode ≠ .closed)
    (wanted : UInt16) :
    Ends (openSocket s mode flags wanted).run device fun r device' =>
      (∀ port, r = .ok port → H.Opened s mode device device') ∧
        (device.chip.StatusStays s → ∃ port, r = .ok port) := by
  unfold openSocket
  refine Ends.sure_bind (H.close_ends hok s) ?_
  rintro _ d1 hd1
  rw [if_neg hopens]
  refine Ends.sure_bind (H.openClosed_ends hd1.ok hmode wanted) ?_
  rintro ⟨chosen, shown⟩ d2 ⟨hd2, hstatus⟩
  dsimp only
  by_cases hshown : shown = mode.openStatus
  · rw [if_neg fun h => h hshown]
    have hremember : Ends (changeController (·.setLocalPort s chosen)) d2
        fun _ d => d.board = d2.board := Ends.changeController rfl
    refine Ends.sure_bind hremember ?_
    rintro _ ⟨_, controller⟩ hboard
    cases hboard
    have hok2 : H.ok (⟨d2.board, controller⟩ : Device σ).board := hd2.ok
    have hopened : H.Opened s mode d1 ⟨d2.board, controller⟩ := ⟨hd2.ok, hd2.opening, hd2.status⟩
    refine Ends.sure_bind (H.note_ends (P := H.Looks) hok2 _) ?_
    rintro _ d3 hd3
    exact Ends.pure ⟨fun _ _ => (hopened.looks hd1.ok hd3).after_came hok hd1, fun _ => ⟨_, rfl⟩⟩
  · rw [if_pos hshown]
    refine Ends.sure_bind (H.note_ends (P := H.Looks) hd2.ok _) ?_
    rintro _ d3 hd3
    refine Ends.sure_bind (H.close_ends hd3.ok s) ?_
    rintro _ d4 _
    refine Ends.fail ⟨(fun _ hr => by cases hr), fun hstays => ?_⟩
    exact absurd (hstatus (hd1.statusStays hok hstays)) hshown

/-! ## Slots -/

/-- A look at a status leaves the statuses as they are. -/
theorem Walked.byteOf_status (hok : H.ok start.board) (h : H.Walked H.Looks start now)
    (hstays : start.chip.StatusStays s) :
    now.chip.byteOf .status s = start.chip.byteOf .status s := by
  obtain ⟨_, hpasses⟩ := h.passes
  have hquiet := hpasses.mono fun _ => Looks.isQuiet
  exact hquiet.byteOf (fun _ => id) (H.steady hok) (by decide) rfl fun scheduled hs _ =>
    hstays scheduled hs

/-- One of some sockets is found to be free if one of them is and stays so. -/
theorem firstReusable_ends (sockets : List SocketId) :
    ∀ {device : Device σ}, H.ok device.board →
      Ends (firstReusable sockets).run device fun r device' => H.Walked H.Looks device device' ∧
        ((∃ s ∈ sockets, device.chip.StatusStays s ∧
          (SocketStatus.ofByte (device.chip.byteOf .status s)).isReusable) → ∃ s, r = .ok s) := by
  induction sockets with
  | nil =>
    intro device hok
    refine Ends.fail ⟨.refl hok, ?_⟩
    rintro ⟨_, hs, -⟩
    cases hs
  | cons s rest ih =>
    intro device hok
    refine Ends.sure_bind (H.status_ends hok) ?_
    rintro shown d1 ⟨hd1, hshown⟩
    by_cases hreusable : shown.isReusable
    · rw [if_pos hreusable]
      exact Ends.pure ⟨hd1, fun _ => ⟨s, rfl⟩⟩
    · rw [if_neg hreusable]
      refine (ih hd1.ok).mono ?_
      rintro r d2 ⟨hd2, hfound⟩
      refine ⟨hd1.trans hd2, ?_⟩
      rintro ⟨t, ht, hstays, hfree⟩
      have hcame := hd1.came fun _ => Looks.isLocal
      rcases List.mem_cons.1 ht with rfl | ht
      · exact absurd (hshown ▸ hfree) hreusable
      · refine hfound ⟨t, ht, hcame.statusStays hok hstays, ?_⟩
        rwa [hd1.byteOf_status hok hstays]

/-- A channel that has been begun is a new one on a socket that has been opened, and beginning it
succeeds if a socket is free and nothing else changes a status. -/
theorem begin_ends (hok : H.ok device.board) (wanted : UInt16) :
    Ends (Channel.begin wanted).run device fun r device' =>
      (∀ channel, r = .ok channel →
        channel = .fresh channel.socket channel.localPort ∧
          H.Opened channel.socket .udp device device') ∧
        ((∀ s, device.chip.StatusStays s) →
          (∃ s, (SocketStatus.ofByte (device.chip.byteOf .status s)).isReusable) →
            ∃ channel, r = .ok channel) := by
  refine Ends.attempt (H.firstReusable_ends SocketId.all hok) ?_ ?_
  · rintro s d1 ⟨hd1, -⟩
    have hcame := hd1.came fun _ => Looks.isLocal
    have hmode : SocketMode.ofRegister? (SocketMode.udp.code ||| 0) = some .udp := by decide
    refine Ends.attempt (H.openSocket_ends hd1.ok hmode (by decide) wanted) ?_ ?_
    · rintro port d2 ⟨hopened, -⟩
      refine Ends.pure ⟨?_, fun _ _ => ⟨_, rfl⟩⟩
      rintro _ hr
      cases hr
      exact ⟨rfl, (hopened port rfl).after_came hok hcame⟩
    · rintro cause d2 ⟨-, hsucceeds⟩
      refine ⟨(fun _ hr => by cases hr), fun hstays _ => ?_⟩
      obtain ⟨_, hr⟩ := hsucceeds (hcame.statusStays hok (hstays s))
      cases hr
  · rintro cause d1 ⟨-, hfound⟩
    refine ⟨(fun _ hr => by cases hr), fun hstays hfree => ?_⟩
    obtain ⟨s, hfree⟩ := hfree
    obtain ⟨_, hr⟩ := hfound ⟨s, SocketId.mem_all s, hstays s, hfree⟩
    cases hr

end Habit

end Opening

end SpiEthernet
