import SpiEthernet.Proofs.Operation.Channel
import SpiEthernet.Proofs.Operation.Footprint
import SpiEthernet.Proofs.Send.Transmission

/-!
# Working on one socket

While the driver works on one socket, it still collects the interrupts of all of them. So beside
that socket not everything stays as it is: flags move from the chip to the driver, and none gets
lost on the way. `Habit.Tended` says so of two states of a device, and the calls that a channel
makes lead from a state to none that is not so related to it.

* `posts_tended` : the calls with which a channel sends.
* `openSocket_tends`, `close_tends` : opening and closing the socket.
-/

namespace SpiEthernet

section Tending

variable {σ α : Type} [Host σ] [Wired σ]

/-! ## Ports -/

omit [Wired σ] in
/-- Collecting interrupts changes nothing that the driver remembers but flags and the destination
last reported as unreachable. -/
theorem drain_leaves {β : Type} {f : Controller → β}
    (hsticky : ∀ controller g, f (controller.mapSticky g) = f controller)
    (hunreachable : ∀ (controller : Controller) unreachable,
      f { controller with unreachable } = f controller) (value : β) :
    Keeps (fun d : Device σ => f d.controller = value) drain := by
  have hlink {α : Type} (action : LinkM σ α) :
      Keeps (fun d : Device σ => f d.controller = value) (onLink action) :=
    Keeps.onLink_of_controller (J := fun controller => f controller = value) action
  have hchange {g : Controller → Controller} (hg : ∀ c, f (g c) = f c) :
      Keeps (fun d : Device σ => f d.controller = value) (changeController g) := by
    rintro ⟨board, controller⟩ _ _ hvalue hrun
    cases hrun
    exact (hg controller).trans hvalue
  have hsocket (seen : UInt8) (s : SocketId) :
      Keeps (fun d : Device σ => f d.controller = value) (drainSocket seen s) := by
    refine Keeps.ite (Keeps.bind (hlink _) fun raw => Keeps.ite ?_ (Keeps.pure _)) (Keeps.pure _)
    exact Keeps.bind (hchange fun c => hsticky c _) fun _ => hlink _
  have hglobal (seen : UInt8) :
      Keeps (fun d : Device σ => f d.controller = value) (drainGlobal seen) := by
    unfold drainGlobal
    refine Keeps.guarded ?_ (Keeps.guarded (hlink _) ?_)
    · refine Keeps.bind (hlink _) fun _ => Keeps.bind (hlink _) fun _ => ?_
      exact Keeps.bind (hlink _) fun _ => hchange fun c => hunreachable c _
    · refine Keeps.bind (hchange fun c => hsticky c _) fun _ => Keeps.ite (hlink _) (Keeps.pure _)
  have hpasses (passes : Nat) : ∀ seen,
      Keeps (fun d : Device σ => f d.controller = value) (drainPasses seen passes) := by
    induction passes with
    | zero => exact fun seen => Keeps.bind (hlink _) fun _ => Keeps.pure _
    | succ passes ih =>
      intro seen
      refine Keeps.bind (hlink _) fun current => Keeps.ite (Keeps.pure _) ?_
      refine Keeps.bind (Keeps.forM fun s _ => hsocket current s) fun _ => ?_
      exact Keeps.bind (hglobal current) fun _ => ih _
  exact hpasses drainPassLimit 0

omit [Wired σ] in
/-- Collecting interrupts changes no port. -/
theorem drain_localPorts (ports : Vector UInt16 4) :
    Keeps (fun d : Device σ => d.controller.localPorts = ports) drain :=
  drain_leaves (fun _ _ => rfl) (fun _ _ => rfl) ports

namespace Habit

variable {H : Habit σ} {P R : Frame → Prop} {s : SocketId} {start middle now : Device σ}

/-! ## Tending a socket -/

/-- Between two states of a device, only certain frames were exchanged, and of the other sockets
the driver remembers what it did, but for flags that it has collected. -/
structure Tended (H : Habit σ) (P : Frame → Prop) (s : SocketId) (start now : Device σ) : Prop where
  ok : H.ok now.board
  moves : ∃ o, (Wired.endpoint start.board).Passes P o (Wired.endpoint now.board) ∧
    ∀ t, s ≠ t → Flow (.socket t) o start.chip start.controller.sticky now.chip
      now.controller.sticky
  localPorts (t : SocketId) (h : s ≠ t) :
    now.controller.localPorts[t] = start.controller.localPorts[t]

theorem Tended.refl (hok : H.ok start.board) : H.Tended P s start start :=
  ⟨hok, ⟨[], .refl, fun _ _ => Flow.refl⟩, fun _ _ => rfl⟩

theorem Tended.trans (h : H.Tended P s start middle) (h' : H.Tended P s middle now) :
    H.Tended P s start now := by
  obtain ⟨o, hpasses, hflow⟩ := h.moves
  obtain ⟨o', hpasses', hflow'⟩ := h'.moves
  exact ⟨h'.ok, ⟨_, hpasses.trans hpasses', fun t ht => (hflow t ht).trans (hflow' t ht)⟩,
    fun t ht => (h'.localPorts t ht).trans (h.localPorts t ht)⟩

theorem Tended.mono (h : H.Tended P s start now) (hPR : ∀ frame, P frame → R frame) :
    H.Tended R s start now := by
  obtain ⟨o, hpasses, hflow⟩ := h.moves
  exact ⟨h.ok, ⟨o, hpasses.mono hPR, hflow⟩, h.localPorts⟩

theorem Walked.tended (h : H.Walked R start now) (hok : H.ok start.board)
    (hP : ∀ frame, R frame → P frame) (htends : ∀ frame, R frame → frame.Tends s) :
    H.Tended P s start now := by
  obtain ⟨o, hpasses⟩ := h.passes
  refine ⟨h.ok, ⟨o, hpasses.mono hP, fun t ht => ?_⟩, fun _ _ => by rw [h.controller]⟩
  exact Flow.of_passes hpasses (fun frame hf => (htends frame hf).spares ht) (H.steady hok)
    (by rw [h.controller])

/-- Computations that keep to frames that tend the socket. -/
theorem Travels.tends {m : DeviceM σ α} (hm : H.Travels R m) (hP : ∀ frame, R frame → P frame)
    (htends : ∀ frame, R frame → frame.Tends s) : Succeeds (H.Tended P s start) m :=
  fun device hdevice => (hm device hdevice.ok).mono fun _ _ hwalked =>
    hdevice.trans (hwalked.tended hdevice.ok hP htends)

/-- What the driver remembers about the socket itself may change. -/
theorem onController_tends {action : Controller → α × Controller}
    (hsticky : ∀ c t, s ≠ t → (action c).2.sticky.socket t = c.sticky.socket t)
    (hports : ∀ c t, s ≠ t → (action c).2.localPorts[t] = c.localPorts[t]) :
    Succeeds (H.Tended P s start) (onController action) := by
  rintro ⟨board, controller⟩ hdevice
  refine Ends.onController ?_
  refine hdevice.trans ⟨hdevice.ok, ⟨[], .refl, fun t ht i _ => ?_⟩, hports controller⟩
  show Moves _ _ _ (bit ((action controller).2.sticky.socket t) i) _
  rw [hsticky controller t ht]
  exact Moves.refl

theorem note_tends (notice : Notice) : Succeeds (H.Tended P s start) (note notice) :=
  Travels.tends (R := fun _ => False) (Travels.note notice) (fun _ => False.elim)
    fun _ => False.elim

/-- Staging tends the socket. -/
theorem stages_tends (hH : H.Calm) (hstaging : ∀ frame, frame.IsStaging s → P frame)
    {m : DeviceM σ α} (hm : H.Travels (H.Stages s) m) : Succeeds (H.Tended P s start) m :=
  hm.tends (fun frame h => hstaging frame (h.resolve_right (hH.between frame)))
    fun frame h => (h.resolve_right (hH.between frame)).tends

section Quiet

variable (hH : H.Calm) (hquiet : ∀ frame, frame.IsQuiet → P frame)

include hH

theorem Calm.looks {frame : Frame} (h : H.Looks frame) : frame.direction = .read :=
  h.resolve_right (hH.between frame)

include hquiet

/-- Looking tends every socket. -/
theorem looks_tends {m : DeviceM σ α} (hm : H.Travels H.Looks m) :
    Succeeds (H.Tended P s start) m :=
  hm.tends (fun _ h => hquiet _ (Frame.isQuiet_of_read (hH.looks h)))
    fun _ h hw => absurd hw (by rw [hH.looks h]; decide)

theorem drain_tends : Succeeds (H.Tended P s start) drain := by
  intro device hdevice
  refine (H.drain_ends device hdevice.ok).with_run.mono ?_
  rintro seen device' ⟨hrun, hok, o, hdrained⟩
  refine hdevice.trans ⟨hok, ⟨o, hdrained.passes.mono hquiet, fun t _ => ?_⟩, fun _ _ => ?_⟩
  · exact hdrained.flow hdevice.ok hH.spares
  · rw [drain_localPorts device.controller.localPorts _ _ _ rfl hrun]

omit hH hquiet in
theorem takeFlags_tends (mask : UInt8) : Succeeds (H.Tended P s start) (takeFlags s mask) :=
  onController_tends (fun _ _ ht => StickyFlags.socket_setSocket_of_ne _ _ ht) fun _ _ _ => rfl

/-- A command of the socket is one frame, and then the driver only looks. -/
theorem issue_tends (command : SocketCommand)
    (hframe : P (Frame.write (SocketRegister.command.address s) command.code)) :
    Succeeds (H.Tended P s start) (issue s command) := by
  intro device hdevice
  refine (H.issue_ends_of hdevice.ok (hH.turn hdevice.ok _)).mono ?_
  rintro _ device' ⟨given, o, reply, hgiven, hcontroller, hwalked⟩
  have htends : (Frame.write (SocketRegister.command.address s) command.code).Tends s :=
    fun _ => SocketId.owns_register .command s (i := 0) (by decide)
  have hgivens : H.Tended P s device given := by
    refine ⟨hgiven.ok, ⟨o, hgiven.passes hframe fun frame hb => absurd hb (hH.between frame),
      fun t ht => ?_⟩, fun _ _ => by rw [hcontroller]⟩
    rw [hcontroller]
    exact hgiven.flow hdevice.ok (hH.spares _) (htends.spares ht) _
  refine (hdevice.trans hgivens).trans
    (hwalked.tended hgiven.ok (fun frame h => ?_) fun frame h => ?_)
  · exact hquiet _ (Frame.isQuiet_of_read (hH.looks h))
  · exact fun hw => absurd hw (by rw [hH.looks h]; decide)

/-! ## Sending -/

theorem clearSendFlags_tends : Succeeds (H.Tended P s start) (clearSendFlags s) := by
  refine Succeeds.bind (drain_tends hH hquiet) fun _ => ?_
  exact Succeeds.bind (takeFlags_tends _) fun _ => Succeeds.pure _

/-- A look at a socket whose transmission has ended finds that it has. -/
theorem sendEnded_tends {device : Device σ} (hdevice : H.Tended P s start device)
    {verdict : UInt8} (hverdict : verdict = SocketFlag.timeout ∨ verdict = SocketFlag.sendOk)
    (hraised : hasBits (device.chip.flagsOf (.socket s)) verdict = true) :
    Ends (sendEnded s false).run device fun r device' =>
      H.Tended P s start device' ∧ r ≠ .ok none := by
  have hmask : verdict &&& SocketFlag.sendEnd = verdict := by
    rcases hverdict with rfl | rfl <;> rfl
  have hdrain : Ends drain device fun _ d => H.Tended P s start d ∧
      hasBits (d.controller.sticky.socket s &&& SocketFlag.sendEnd) verdict = true := by
    refine ((drain_tends hH hquiet device hdevice).and (drain_collects hH hdevice.ok
      (show SocketFlag.sendEnd &&& SocketFlag.received = 0 by decide))).mono ?_
    rintro _ d ⟨hd, -, -, hflags⟩
    refine ⟨hd, hasBits_of_and_eq ?_ hmask (hasBits_or_left hraised
      (device.controller.sticky.socket s))⟩
    rw [UInt8.and_assoc, UInt8.and_self]
    exact (hflags s).2
  refine Ends.sure_bind hdrain ?_
  rintro _ d1 ⟨h1, hcollected⟩
  refine Ends.sure_bind (R := fun flags d2 => H.Tended P s start d2 ∧
    hasBits flags verdict = true) ?_ ?_
  · refine ((takeFlags_tends SocketFlag.sendEnd d1 h1).with_run).mono ?_
    rintro flags d2 ⟨hrun, h2⟩
    cases hrun
    exact ⟨h2, hcollected⟩
  · rintro flags d2 ⟨h2, htaken⟩
    by_cases hsent : hasBits flags SocketFlag.sendOk = true
    · rw [if_pos hsent]
      exact Ends.pure ⟨h2, nofun⟩
    · rw [if_neg hsent]
      have htimeout : hasBits flags SocketFlag.timeout = true := by
        rcases hverdict with rfl | rfl
        · exact htaken
        · exact absurd htaken hsent
      rw [if_pos htimeout]
      refine Ends.sure_bind (note_tends _ d2 h2) ?_
      exact fun _ d3 h3 => Ends.pure ⟨h3, nofun⟩

/-- Transmitting always comes to an end, since the flag that the chip raises is there at the first
look. -/
theorem sendDatagram_tends
    (hsend : P (Frame.write (SocketRegister.command.address s) SocketCommand.send.code)) :
    Succeeds (H.Tended P s start) (sendDatagram s).run := by
  refine Succeeds.sure_bind (clearSendFlags_tends hH hquiet) fun _ device hdevice => ?_
  refine Ends.sure_bind ((issue_tends hH hquiet .send hsend device hdevice).and
    (issue_send_raises hH hdevice.ok)) ?_
  rintro _ given ⟨hgiven, hraised⟩
  refine Ends.sure_patience_bind fun bound => ?_
  have hverdict : device.chip.verdict s = SocketFlag.timeout ∨
      device.chip.verdict s = SocketFlag.sendOk := by
    unfold Chip.verdict
    split
    · exact .inl rfl
    · exact .inr rfl
  refine Ends.attempt (sendEnded_tends hH hquiet hgiven hverdict hraised) ?_ fun _ _ h => h.1
  rintro (_ | _) d ⟨hd, hr⟩
  · exact absurd rfl hr
  · exact Ends.pure hd

/-- The calls with which a channel on the socket sends keep to frames of staging, quiet frames, and
the command to transmit. -/
theorem posts_tended (hstaging : ∀ frame, frame.IsStaging s → P frame)
    (hsend : P (Frame.write (SocketRegister.command.address s) SocketCommand.send.code))
    (start : Device σ) : Posts fun t _ d => t = s ∧ H.Tended P s start d := by
  refine ⟨fun t _ ip port => ?_, fun t _ => ?_, fun t _ offset data => ?_, fun t _ => ?_⟩ <;>
    refine Keeps.when fun ht => ?_ <;> subst ht
  · exact (stages_tends hH hstaging (Travels.startDatagram H t ip port)).keeps
  · exact (stages_tends hH hstaging (Travels.freeTx_stages H t)).keeps
  · exact (stages_tends hH hstaging (Travels.buffer H t offset data)).keeps
  · exact (sendDatagram_tends hH hquiet hsend).keeps

end Quiet

/-! ## The life of a socket -/

section Life

variable (hH : H.Calm) (hP : ∀ frame, frame.Uses s → P frame)

include hH hP

/-- Places of the socket may be written to, the command register apart. -/
theorem transact_tends {frames : List Frame}
    (hframes : ∀ frame ∈ frames, s.Owns frame.address.toNat ∧
      ∀ t, frame.address ≠ SocketRegister.command.address t) :
    Succeeds (H.Tended P s start) (onLink (transact frames)) := by
  have hlooks {frame : Frame} (h : H.Looks frame) : frame.Uses s :=
    (Frame.isQuiet_of_read (hH.looks h)).uses s
  refine Travels.tends (R := fun frame => frame.Uses s ∧ frame.Tends s)
    (Travels.transact (fun frame h => ⟨hlooks h, fun hw => absurd hw (by rw [hH.looks h]; decide)⟩)
      (fun frame hf => ⟨⟨.inl fun _ => (hframes frame hf).1, fun _ ha => ?_⟩, fun _ =>
        (hframes frame hf).1⟩) fun frame hf _ t _ ha _ => ?_) (fun frame h => hP frame h.1)
      fun _ h => h.2
  · exact absurd ha ((hframes frame hf).2 s)
  · exact absurd ha ((hframes frame hf).2 t)

/-- Registers of the socket may be written to. -/
theorem writeByte_tends {address : UInt16} {value : UInt8} (hplace : s.Owns address.toNat)
    (hcommand : ∀ t, address ≠ SocketRegister.command.address t) :
    Succeeds (H.Tended P s start) (onLink (writeByte address value)) := by
  have hlooks {frame : Frame} (h : H.Looks frame) : frame.Uses s :=
    (Frame.isQuiet_of_read (hH.looks h)).uses s
  refine Travels.tends (R := fun frame => frame.Uses s ∧ frame.Tends s)
    (Travels.writeByte (fun frame h => ⟨hlooks h, fun hw => absurd hw (by rw [hH.looks h]; decide)⟩)
      ⟨Frame.uses_write hplace fun ha => absurd ha (hcommand s), fun _ => hplace⟩
      fun _ t _ ha _ => absurd ha (hcommand t)) (fun frame h => hP frame h.1) fun _ h => h.2

theorem writeRegister_tends {r : SocketRegister} (hr : r ≠ .command) (value : UInt8) :
    Succeeds (H.Tended P s start) (onLink (writeByte (r.address s) value)) :=
  writeByte_tends hH hP (SocketId.owns_register r s (i := 0) r.width_pos)
    fun _ ha => hr (SocketRegister.address_inj ha).1

theorem writeRegisterWord_tends {r : SocketRegister} (hw : r.width = 2) (value : UInt16) :
    Succeeds (H.Tended P s start) (onLink (writeWord (r.address s) value)) := by
  have hr : r ≠ .command := by
    rintro rfl
    cases hw
  rw [writeWord, onLink_bind]
  refine Succeeds.bind (writeRegister_tends hH hP hr _) fun _ => writeByte_tends hH hP ?_ ?_
  · rw [SocketRegister.toNat_address_succ hw]
    exact SocketId.owns_register r s (i := 1) (by omega)
  · exact fun _ => SocketRegister.address_succ_ne hw _ _ _

theorem command_tends {command : SocketCommand} (hcommand : command ≠ .open) :
    Succeeds (H.Tended P s start) (issue s command) := by
  refine issue_tends hH (fun frame h => hP frame (h.uses s)) command (hP _ (Frame.uses_write
    (SocketId.owns_register .command s (i := 0) (by decide)) fun _ => ?_))
  revert hcommand
  cases command <;> decide

theorem close_tends : Succeeds (H.Tended P s start) (close s) := by
  refine Succeeds.bind (command_tends hH hP (by decide)) fun _ => ?_
  refine Succeeds.bind (writeRegister_tends hH hP (r := .interrupt) (by decide) _) fun _ => ?_
  exact onController_tends (fun _ _ ht => StickyFlags.socket_setSocket_of_ne _ _ ht)
    fun _ _ ht => SocketId.getElem_set_of_ne _ _ ht

/-- Opening a socket tends it. -/
theorem openSocket_tends (hopening : P (Frame.write (SocketRegister.command.address s)
      SocketCommand.open.code)) (mode : SocketMode) (flags : UInt8) (wanted : UInt16) :
    Succeeds (H.Tended P s start) (openSocket s mode flags wanted).run := by
  have hquiet : ∀ frame, frame.IsQuiet → P frame := fun frame h => hP frame (h.uses s)
  have hchoose : Succeeds (H.Tended P s start) (choosePort wanted) :=
    Succeeds.ite (onController_tends (fun _ _ _ => rfl) fun _ _ _ => rfl) (Succeeds.pure _)
  have hstatus : Succeeds (H.Tended P s start) (status s) :=
    looks_tends hH hquiet (Travels.map (Travels.readByte (fun _ => id) _) _)
  have hopen : Succeeds (H.Tended P s start) (openClosed s mode flags wanted) := by
    refine Succeeds.bind (writeRegister_tends hH hP (by decide) _) fun _ => ?_
    refine Succeeds.bind hchoose fun chosen => ?_
    refine Succeeds.bind (writeRegisterWord_tends hH hP rfl chosen) fun _ => ?_
    refine Succeeds.bind (issue_tends hH hquiet .open hopening) fun _ => ?_
    exact Succeeds.bind hstatus fun _ => Succeeds.pure _
  have hclose : Succeeds (H.Tended P s start) (close s) := close_tends hH hP
  refine Succeeds.sure_bind hclose fun _ => Succeeds.attempt_ite (Succeeds.pure _) ?_
  refine Succeeds.sure_bind hopen fun (chosen, shown) => ?_
  have hrest : Succeeds (H.Tended P s start) (do
      sure (changeController (·.setLocalPort s chosen))
      sure (note (.opened s mode chosen))
      return chosen : Attempt σ UInt16).run := by
    refine Succeeds.sure_bind (onController_tends (fun _ _ _ => rfl) fun _ _ ht =>
      SocketId.getElem_set_of_ne _ _ ht) fun _ => ?_
    exact Succeeds.sure_bind (note_tends _) fun _ => Succeeds.pure _
  refine Succeeds.attempt_ite (Succeeds.sure_bind (note_tends _) fun _ => ?_) hrest
  exact Succeeds.sure_bind hclose fun _ => Succeeds.attempt (Succeeds.fail _) fun _ => hrest

end Life

end Habit

end Tending

end SpiEthernet
