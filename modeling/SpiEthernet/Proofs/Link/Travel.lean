import SpiEthernet.Proofs.Link.Waiting

/-!
# Computations that keep to certain frames

Many operations of the driver leave the controller alone, and all that has to be known about them
is which frames they exchange. `Habit.Travels P m` says so, and that `m` always ends. There is a
rule for each way in which the driver's computations are put together, so whether an operation
keeps to certain frames is found by going through its text.
-/

namespace SpiEthernet

section Travel

variable {σ α β : Type}

/-! ## Lifted sequences -/

theorem onLink_bind (m : LinkM σ α) (k : α → LinkM σ β) :
    onLink (m >>= k) = onLink m >>= fun a => onLink (k a) := by
  funext ⟨board, controller⟩
  show ((m board >>= fun r => k r.1 r.2) >>= fun r =>
      pure (r.1, (⟨r.2, controller⟩ : Device σ))) =
    (m board >>= fun r => pure (r.1, (⟨r.2, controller⟩ : Device σ))) >>= fun r =>
      onLink (k r.1) r.2
  cases m board <;> rfl

variable [Host σ] [Wired σ]

namespace Habit

variable (H : Habit σ) (P : Frame → Prop)

/-- The computation always ends; it leaves the controller alone and exchanges only certain
frames. -/
def Travels (m : DeviceM σ α) : Prop :=
  ∀ device, H.ok device.board → Ends m device fun _ device' => H.Walked P device device'

variable {H P}

namespace Travels

/-! ## Sequences and attempts -/

theorem pure (a : α) : H.Travels P (Pure.pure a : DeviceM σ α) :=
  fun _ hok => Ends.pure (.refl hok)

theorem bind {m : DeviceM σ α} {k : α → DeviceM σ β} (hm : H.Travels P m)
    (hk : ∀ a, H.Travels P (k a)) : H.Travels P (m >>= k) := by
  intro device hok
  refine Ends.bind (hm device hok) ?_
  intro a middle hmiddle
  refine (hk a middle hmiddle.ok).mono ?_
  intro _ now hnow
  exact hmiddle.trans hnow

theorem map {m : DeviceM σ α} (hm : H.Travels P m) (f : α → β) :
    H.Travels P (do return f (← m)) :=
  bind hm fun _ => pure _

theorem ite {c : Prop} [Decidable c] {m m' : DeviceM σ α} (h : H.Travels P m)
    (h' : H.Travels P m') : H.Travels P (if c then m else m') := by
  split
  · exact h
  · exact h'

theorem link_bind {m : LinkM σ α} {k : α → LinkM σ β} (hm : H.Travels P (onLink m))
    (hk : ∀ a, H.Travels P (onLink (k a))) : H.Travels P (onLink (m >>= k)) := by
  rw [onLink_bind]
  exact bind hm hk

/-- Looking at the controller exchanges nothing. -/
theorem look (f : Controller → α) :
    H.Travels P (onController fun controller => (f controller, controller) : DeviceM σ α) :=
  fun _ hok => Ends.onController (.refl hok)

theorem sure {m : DeviceM σ α} (hm : H.Travels P m) : H.Travels P (SpiEthernet.sure m).run :=
  fun device hok => Ends.sure (hm device hok)

theorem fail (cause : Error) : H.Travels P (fail cause : Attempt σ α).run :=
  fun _ hok => Ends.pure (.refl hok)

theorem attempt {m : Attempt σ α} {k : α → Attempt σ β} (hm : H.Travels P m.run)
    (hk : ∀ a, H.Travels P (k a).run) : H.Travels P (m >>= k).run := by
  intro device hok
  refine Ends.attempt (hm device hok) ?_ fun _ _ h => h
  intro a middle hmiddle
  refine (hk a middle hmiddle.ok).mono ?_
  intro _ now hnow
  exact hmiddle.trans hnow

theorem sure_bind {m : DeviceM σ α} {k : α → Attempt σ β} (hm : H.Travels P m)
    (hk : ∀ a, H.Travels P (k a).run) : H.Travels P (SpiEthernet.sure m >>= k).run :=
  attempt (sure hm) hk

theorem attempt_ite {c : Prop} [Decidable c] {m m' : Attempt σ α} (h : H.Travels P m.run)
    (h' : H.Travels P m'.run) : H.Travels P (if c then m else m').run := by
  split
  · exact h
  · exact h'

/-! ## Frames -/

section Frames

variable (hbetween : ∀ frame, H.between frame → P frame)

include hbetween

theorem exchanged {frame : Frame} {m : LinkM σ α} (hframe : P frame) (hf : frame.IsLocal)
    (h : ∀ x, H.ok x → Ends m x fun _ x' => ∃ o reply, H.Exchanged x frame reply o x') :
    H.Travels P (onLink m) := by
  intro device hok
  refine (Ends.onLink (h device.board hok)).mono ?_
  rintro _ device' ⟨⟨o, reply, hx⟩, hcontroller⟩
  exact hx.walked hcontroller hok hf hframe hbetween

theorem readByte_of {address : UInt16} (hframe : P (Frame.read address)) :
    H.Travels P (onLink (SpiEthernet.readByte address)) :=
  exchanged hbetween hframe (Frame.isLocal_read address) fun _ hx =>
    (H.readByte_ends hx address).mono fun value _ h => ⟨h.choose, value, h.choose_spec⟩

theorem readWord_of {address : UInt16} (hhigh : P (Frame.read address))
    (hlow : P (Frame.read (address + 1))) :
    H.Travels P (onLink (SpiEthernet.readWord address)) :=
  link_bind (readByte_of hbetween hhigh) fun _ =>
    link_bind (readByte_of hbetween hlow) fun _ => pure _

theorem transact_of {frames : List Frame} (hframes : ∀ frame ∈ frames, P frame)
    (hf : ∀ frame ∈ frames, frame.IsLocal) :
    H.Travels P (onLink (SpiEthernet.transact frames)) := by
  intro device hok
  refine (Ends.onLink (H.transact_ends hok hf)).mono ?_
  rintro _ device' ⟨⟨-, hok', ⟨o', hpasses⟩, halarmed⟩, hcontroller⟩
  obtain ⟨o, hall⟩ := Endpoint.passes_turnAll frames hframes (Wired.endpoint device.board).held
  have hheld := Endpoint.passes_held P (Wired.endpoint device.board)
  have hrest := hpasses.mono (R := P) hbetween
  refine ⟨hok', hcontroller, ⟨_, (hheld.trans hall).trans hrest⟩, fun h => halarmed ?_⟩
  exact h.imp_left (Endpoint.edge_turnAll frames hf (H.steady hok) ·)

theorem readIpv4_of {address : UInt16} (hframes : ∀ frame ∈ Frame.reads address 4, P frame) :
    H.Travels P (onLink (SpiEthernet.readIpv4 address)) :=
  link_bind (transact_of hbetween hframes fun _ => isLocal_of_mem_reads) fun _ => pure _

end Frames

/-! ## Looks -/

variable (hP : ∀ frame, H.Looks frame → P frame)

include hP

theorem readByte (address : UInt16) : H.Travels P (onLink (readByte address)) :=
  readByte_of (fun _ hb => hP _ (.inr hb)) (hP _ (.inl rfl))

theorem readWord (address : UInt16) : H.Travels P (onLink (readWord address)) :=
  readWord_of (fun _ hb => hP _ (.inr hb)) (hP _ (.inl rfl)) (hP _ (.inl rfl))

theorem writeByte {address : UInt16} {value : UInt8} (hframe : P (Frame.write address value))
    (hf : (Frame.write address value).IsLocal) : H.Travels P (onLink (writeByte address value)) :=
  exchanged (fun _ hb => hP _ (.inr hb)) hframe hf fun _ hx => H.writeByte_ends hx hf

theorem transact {frames : List Frame} (hframes : ∀ frame ∈ frames, P frame)
    (hf : ∀ frame ∈ frames, frame.IsLocal) : H.Travels P (onLink (transact frames)) :=
  transact_of (fun _ hb => hP _ (.inr hb)) hframes hf

theorem readBlock (address : UInt16) (count : Nat) :
    H.Travels P (onLink (readBlock address count)) := by
  refine transact hP ?_ fun _ => isLocal_of_mem_reads
  intro frame hframe
  obtain ⟨i, -, rfl⟩ := List.mem_map.1 hframe
  exact hP _ (.inl rfl)

theorem readIpv4 (address : UInt16) : H.Travels P (onLink (readIpv4 address)) :=
  link_bind (readBlock hP _ _) fun _ => pure _

omit hP in
theorem note (notice : Notice) : H.Travels P (note notice) :=
  fun _ hok => H.note_ends hok notice

/-! ## Waiting -/

theorem settledWord {r : SocketRegister} (s : SocketId) (hw : r.width = 2) (hr : r ≠ .txWrite) :
    H.Travels P (settledWord (r.address s)) :=
  fun _ hok => (H.settledWord_ends hok hw hr).mono fun _ _ h => h.1.mono hP

theorem issue (s : SocketId) {command : SocketCommand} (hc : command.isLocal)
    (hframe : P (Frame.write (SocketRegister.command.address s) command.code)) :
    H.Travels P (issue s command) := by
  intro device hok
  refine (H.issue_ends hok hc).mono ?_
  rintro _ device' ⟨given, o, reply, hgiven, hcontroller, hwalked⟩
  have hfirst := hgiven.walked hcontroller hok (isLocal_command hc) hframe
    fun _ hb => hP _ (.inr hb)
  exact hfirst.trans (hwalked.mono hP)

end Travels

end Habit

end Travel

end SpiEthernet
