import SpiEthernet.Proofs.Interrupt.Silence
import SpiEthernet.Proofs.Receive.Opening
import SpiEthernet.Proofs.Receive.Passage

/-!
# The end of a stream

A call that receives from a stream looks at the size of the ring and then, if there is nothing in
it, at the status of the socket. It reports the end of the stream if nothing more is to come in
that status. Between the two looks the last segment may arrive and the peer may close, so the end is
reported although something is unread: exactly what has arrived since the first look.

* `Passes.filled` : the size of a ring grows by what arrives, whatever state it is in.
* `pendingRx_zero` : a ring of which the size was read as zero was empty at some time during the
  wait.
* `receive_end_of_stream` : what a reported end says, and when it passes over unread bytes.
-/

namespace SpiEthernet

/-! ## Rings that are filled -/

/-- Whether something has arrived for a socket that the chip took. -/
def Occurrence.brings (s : SocketId) (occurrence : Occurrence) : Bool :=
  occurrence.taken && occurrence.event.delivery?.any fun delivery => delivery.1 = s

namespace Chip

variable {chip chip' chip'' : Chip} {s : SocketId} {o o' : List Occurrence}

/-- The size of a receive ring counts the bytes from what has been accepted as read up to what has
arrived. -/
def Measured (chip : Chip) (s : SocketId) : Prop :=
  chip.wordOf .rxSize s = chip.wordOf .rxWrite s - chip.latches[s].rxRead

theorem Carries.measured {inlet : Inlet} (h : chip.Carries s inlet) : chip.Measured s := by
  rw [Measured, h.size, h.write, h.released, UInt16.add_comm, UInt16.add_sub_cancel]

theorem Measured.congr (h : chip.Measured s) (hsame : chip.SameInlet chip' s) :
    chip'.Measured s := by
  rw [Measured, hsame.words rfl, hsame.words rfl, hsame.released]
  exact h

/-- Between two states of a chip nothing but what has arrived was done to the receive ring of a
socket. Its size is computed anew with each arrival, so it counts the bytes from the first one on
even if it did not before. -/
structure Filled (s : SocketId) (chip : Chip) (o : List Occurrence) (chip' : Chip) : Prop where
  kept (h : ∀ occurrence ∈ o, occurrence.brings s = false) :
    chip'.wordOf .rxSize s = chip.wordOf .rxSize s
  measured (h : chip.Measured s ∨ ∃ occurrence ∈ o, occurrence.brings s = true) : chip'.Measured s
  grown (h : chip.Measured s) :
    (chip'.wordOf .rxSize s).toNat = (chip.wordOf .rxSize s).toNat + (delivered s o).length

namespace Filled

theorem of_same (hsame : chip.SameInlet chip' s)
    (hnothing : ∀ occurrence ∈ o, occurrence.brings s = false) (hd : delivered s o = []) :
    Filled s chip o chip' where
  kept _ := hsame.words rfl
  measured h := by
    rcases h with h | ⟨occurrence, hmem, hbrings⟩
    · exact h.congr hsame
    · rw [hnothing occurrence hmem] at hbrings
      cases hbrings
  grown _ := by rw [hsame.words rfl, hd, List.length_nil, Nat.add_zero]

theorem quiet (hsame : chip.SameInlet chip' s) : Filled s chip [] chip' :=
  of_same hsame (fun _ hmem => absurd hmem List.not_mem_nil) rfl

theorem same (h : Filled s chip [] chip') : chip'.wordOf .rxSize s = chip.wordOf .rxSize s :=
  h.kept fun _ hmem => absurd hmem List.not_mem_nil

theorem trans (h : Filled s chip o chip') (h' : Filled s chip' o' chip'') :
    Filled s chip (o ++ o') chip'' where
  kept hnothing :=
    (h'.kept fun occurrence hmem => hnothing occurrence (List.mem_append_right _ hmem)).trans
      (h.kept fun occurrence hmem => hnothing occurrence (List.mem_append_left _ hmem))
  measured hreason := by
    rcases hreason with hmeasured | ⟨occurrence, hmem, hbrings⟩
    · exact h'.measured (.inl (h.measured (.inl hmeasured)))
    · rcases List.mem_append.1 hmem with hmem | hmem
      · exact h'.measured (.inl (h.measured (.inr ⟨occurrence, hmem, hbrings⟩)))
      · exact h'.measured (.inr ⟨occurrence, hmem, hbrings⟩)
  grown hmeasured := by
    rw [h'.grown (h.measured (.inl hmeasured)), h.grown hmeasured, delivered_append,
      List.length_append, Nat.add_assoc]

/-- In a ring of which the size was zero in both of its halves, read one after the other and the
high one once more, there was nothing when the low half was read. -/
theorem size_zero (h : Filled s chip o chip') (h' : Filled s chip' o' chip'')
    (hhigh : highByte (chip.wordOf .rxSize s) = 0) (hlow : lowByte (chip'.wordOf .rxSize s) = 0)
    (hagain : highByte (chip''.wordOf .rxSize s) = 0) : chip'.wordOf .rxSize s = 0 := by
  suffices hzero : highByte (chip'.wordOf .rxSize s) = 0 by
    rw [← word_highByte_lowByte (chip'.wordOf .rxSize s), hzero, hlow]
    rfl
  by_cases hbrings : ∃ occurrence ∈ o, occurrence.brings s = true
  · -- from the first arrival on the size only grows, so its high half is no larger than later
    have hgrown := h'.grown (h.measured (.inr hbrings))
    have hlater := congrArg UInt8.toNat hagain
    apply UInt8.toNat_inj.mp
    rw [toNat_highByte] at hlater ⊢
    have hzero : (0 : UInt8).toNat = 0 := rfl
    omega
  · rw [h.kept fun occurrence hmem => Bool.eq_false_iff.2 fun hb => hbrings ⟨_, hmem, hb⟩, hhigh]

end Filled

/-- Bytes that arrive and fit are counted. -/
theorem filled_store {bytes : List UInt8} (hfits : chip.fits s bytes) {occurrence : Occurrence}
    (hbrings : occurrence.brings s = true) (hd : occurrence.delivery s = bytes) :
    Filled s chip [occurrence] (chip.store s bytes) := by
  have hstored {r : SocketRegister} (hw : r.width = 2) :
      (chip.store s bytes).wordOf r s = (chip.pushed s bytes).wordOf r s := by
    rw [store_of_fits _ _ hfits]
    exact (sameInlet_raiseSocket _ s s _).words hw
  have hsize : (chip.store s bytes).wordOf .rxSize s =
      chip.wordOf .rxWrite s + UInt16.ofNat bytes.length - chip.latches[s].rxRead := by
    rw [hstored rfl, wordOf_pushed _ _ _ _ rfl, if_pos ⟨rfl, rfl⟩]
  refine ⟨fun h => ?_, fun _ => ?_, fun hmeasured => ?_⟩
  · rw [h occurrence List.mem_cons_self] at hbrings
    cases hbrings
  · rw [Measured, hsize, hstored rfl, wordOf_pushed _ _ _ _ rfl, if_neg (by simp),
      if_pos ⟨rfl, rfl⟩, latches_store]
  · have hroom : (chip.wordOf .rxSize s).toNat + bytes.length ≤ 2048 := hfits
    have hsum : (chip.store s bytes).wordOf .rxSize s =
        chip.wordOf .rxSize s + UInt16.ofNat bytes.length := by
      rw [hsize, hmeasured, UInt16.sub_eq_add_neg, UInt16.sub_eq_add_neg, UInt16.add_assoc,
        UInt16.add_comm (UInt16.ofNat _), ← UInt16.add_assoc]
    rw [hsum, UInt16.toNat_add, UInt16.toNat_ofNat', delivered_singleton, hd]
    omega

/-- An event changes the size of a receive ring only by what it brings. -/
theorem filled_happen {event : Event} (hordinary : event.isOrdinary) :
    Filled s chip [chip.occurrence event] (chip.happen event) := by
  have hbrings : (chip.occurrence event).brings s =
      (chip.accepts event && event.delivery?.any fun delivery => delivery.1 = s) := rfl
  obtain ⟨bytes, hd, hfits, hbrought⟩ | ⟨hnothing, hbrought⟩ := chip.delivery_occurrence event s
  · rw [happen_of_delivery hd]
    refine filled_store hfits ?_ hbrought
    have haccepts : chip.accepts event = true := by
      rw [accepts_of_delivery hd]
      exact decide_eq_true hfits
    rw [hbrings, hd, haccepts]
    simp
  · refine .of_same (sameInlet_happen hordinary hnothing) (fun occurrence hmem => ?_) ?_
    · rw [List.mem_singleton.1 hmem, hbrings]
      cases hd : event.delivery? with
      | none => simp
      | some delivery =>
        obtain ⟨t, bytes⟩ := delivery
        by_cases ht : t = s
        · subst ht
          have hrefused : chip.accepts event = false := by
            rw [accepts_of_delivery hd]
            exact decide_eq_false (hnothing bytes hd)
          rw [hrefused, Bool.false_and]
        · simp [ht]
    · rw [delivered_singleton, hbrought]

/-- Behind a frame, what was due has filled the ring. -/
theorem filled_afterFrame (hsteady : chip.Steady) :
    Filled s chip chip.frameOccurrences chip.afterFrame := by
  refine afterFrame_induction [] (P := fun c o => Filled s chip o c)
    (.quiet (.of_memory rfl rfl)) ?_
  intro c o scheduled hs hc
  exact hc.trans (filled_happen (hsteady.ordinary scheduled hs))

end Chip

namespace Endpoint

variable {P : Frame → Prop} {start now : Endpoint} {o : List Occurrence} {s : SocketId}

/-- Quiet frames leave a receive ring to what arrives, whatever state it is in. -/
theorem Passes.filled (h : start.Passes P o now) (hP : ∀ frame, P frame → frame.IsQuiet)
    (hs : start.chip.Steady) : Chip.Filled s start.chip o now.chip := by
  induction h with
  | refl => exact .quiet (.of_memory rfl rfl)
  | turn h frame hf ih =>
    have hsteady := h.steady hs
    have hserved : Chip.Filled s _ [] _ :=
      .quiet (Chip.sameInlet_serve hsteady.present (hP frame hf))
    exact ih.trans (hserved.trans (Chip.filled_afterFrame (hsteady.serve frame)))
  | mask _ _ ih => exact ih
  | notice _ ih =>
    rename_i before middle _
    rw [← List.append_nil before]
    exact ih.trans (.quiet (.of_memory rfl rfl))

end Endpoint

/-! ## What a call reports -/

/-- A block of frames has one reply for each of them. -/
theorem length_transact {σ : Type} [SerialLink σ] (frames : List Frame) :
    Leads (fun _ : σ => True) (transact frames) fun replies _ =>
      replies.length = frames.length := by
  have hall : Leads (fun _ : σ => True) (frames.mapM exchange) fun replies _ =>
      replies.length = frames.length := by
    induction frames with
    | nil => exact Leads.pure fun _ _ => rfl
    | cons frame frames ih =>
      rw [List.mapM_cons]
      refine Leads.bind Leads.any fun reply => ?_
      exact Leads.bind ih fun replies => Leads.pure fun _ h => congrArg (· + 1) h
  cases frames with
  | nil => exact Leads.pure fun _ _ => rfl
  | cons frame frames =>
    refine Leads.bind Leads.any fun before => ?_
    refine Leads.bind hall fun replies => ?_
    refine Leads.bind (R := fun _ _ => replies.length = (frame :: frames).length) ?_ fun _ =>
      Leads.pure fun _ => id
    exact fun _ _ _ h _ => h

section Report

variable {σ : Type} [Host σ]

/-- What is fetched is as long as was asked for. -/
theorem length_fetch (s : SocketId) (count : Nat) (peek : Bool) :
    Leads (fun _ : Device σ => True) (fetch s count peek).run fun r _ =>
      ∀ bytes, r = .ok bytes → bytes.length = count := by
  have hblock (address : UInt16) (n : Nat) :
      Leads (fun _ : Device σ => True) (onLink (readBlock address n)) fun bytes _ =>
        bytes.length = n := by
    have hreplies := length_transact (σ := σ) (Frame.reads address n)
    rw [Frame.length_reads] at hreplies
    exact Leads.onLink fun _ => hreplies
  unfold fetch
  refine Leads.attempt Leads.any (fun _ => ?_) fun _ _ _ _ h => nomatch h
  by_cases hzero : count = 0
  · rw [if_pos hzero]
    refine Leads.pure fun _ _ bytes hbytes => ?_
    cases hbytes
    exact hzero.symm
  rw [if_neg hzero]
  refine Leads.sure_bind Leads.any fun pointer => ?_
  refine Leads.sure_bind (hblock _ _) fun head => ?_
  refine Leads.sure_bind (R := fun tail _ => (head ++ tail).length = count) ?_ fun tail => ?_
  · intro d tail d' hhead hrun
    have htail := hblock _ _ d tail d' trivial hrun
    have hfirst := untilEnd_le pointer count
    rw [List.length_append]
    omega
  · have hanswer : ∀ d : Device σ, (head ++ tail).length = count → ∀ bytes : List UInt8,
        (Except.ok (head ++ tail) : Except Error _) = .ok bytes → bytes.length = count := by
      rintro _ h _ ⟨⟩
      exact h
    cases peek with
    | true => exact Leads.pure hanswer
    | false =>
      exact Leads.sure_bind (R := fun _ _ => (head ++ tail).length = count)
        (fun _ _ _ h _ => h) fun _ => Leads.pure hanswer

variable [Wired σ]

/-- The end of a stream has been reported between two states of a device: at one moment the
receive ring was empty, and at a later one nothing more was to come in the socket's status. What has
arrived since the first of them is still in the ring. -/
def EndReported (s : SocketId) (start now : Device σ) : Prop :=
  ∃ emptied shown before between behind,
    (Wired.endpoint start.board).Passes Frame.IsQuiet before emptied ∧
    emptied.Passes Frame.IsQuiet between shown ∧
    shown.Passes Frame.IsQuiet behind (Wired.endpoint now.board) ∧
    emptied.chip.wordOf .rxSize s = 0 ∧
    (SocketStatus.ofByte (shown.chip.byteOf .status s)).isExhausted = true ∧
    ((∀ occurrence ∈ between ++ behind, occurrence.brings s = false) →
      now.chip.wordOf .rxSize s = 0) ∧
    (start.chip.Measured s →
      (now.chip.wordOf .rxSize s).toNat = (delivered s (between ++ behind)).length)

namespace Habit

variable {H : Habit σ} {s : SocketId} {device : Device σ} (hok : H.ok device.board)

include hok

/-- If the settled size is zero, the ring was empty at some time during the wait, whatever state it
is in. -/
theorem pendingRx_zero : Ends (pendingRx s) device fun pending device' =>
    H.Walked H.Looks device device' ∧ (pending = 0 → ∃ emptied o o',
      (Wired.endpoint device.board).Passes Frame.IsQuiet o emptied ∧
        emptied.Passes Frame.IsQuiet o' (Wired.endpoint device'.board) ∧
        emptied.chip.wordOf .rxSize s = 0) := by
  have hquiet : ∀ frame, H.Looks frame → frame.IsQuiet := fun _ => Looks.isQuiet
  refine (H.settledWord_ends hok rfl (by decide)).mono ?_
  rintro pending device' ⟨hwalked, o, first, second, hstart,
    ⟨middle, o1, o2, h1, h2, hpending⟩, ⟨middle', o3, o4, h3, h4, hpending'⟩⟩
  refine ⟨hwalked, fun hzero => ⟨middle, _, _, (hstart.trans h1).mono hquiet,
    ((h2.trans h3).trans h4).mono hquiet, ?_⟩⟩
  have hsteady := hstart.steady (H.steady hok)
  rw [hzero] at hpending hpending'
  have hhigh := congrArg highByte hpending
  have hlow := congrArg lowByte hpending
  have hagain := congrArg highByte hpending'
  rw [highByte_word] at hhigh hagain
  rw [lowByte_word] at hlow
  exact (h1.filled hquiet hsteady).size_zero (h2.filled hquiet (h1.steady hsteady)) hhigh.symm
    hlow.symm hagain.symm

/-- If the end is reported, the ring was empty at one moment of the call, and at a later one nothing
more was to come in the socket's status. -/
theorem receive_reports (room : Nat) : Ends (receive s room).run device fun r device' =>
    r = .ok (some []) → EndReported s device device' := by
  have hquiet : ∀ frame, H.Looks frame → frame.IsQuiet := fun _ => Looks.isQuiet
  refine Leads.ends (I := fun d => d = device) ?_ rfl
    ((Travels.receive H s room device hok).mono fun _ _ _ => trivial)
  unfold receive
  refine Leads.sure_bind (fun d _ _ hd hrun => (H.pendingRx_zero (s := s) hok).run_eq (hd ▸ hrun))
    fun pending => ?_
  by_cases hnothing : pending.toNat = 0
  · have hzero : pending = 0 := UInt16.toNat_inj.mp hnothing
    rw [if_pos hnothing]
    refine Leads.sure_bind (R := fun shown device' => shown.isExhausted = true →
      EndReported s device device') (Leads.of_ends ?_) fun shown => Leads.pure ?_
    · rintro d1 ⟨hd1, hempty⟩
      obtain ⟨emptied, before, between, hbefore, hbetween, hsize⟩ := hempty hzero
      refine (H.status_ends hd1.ok).mono ?_
      rintro _ device' ⟨hd2, rfl⟩ hshown
      obtain ⟨behind, hbehind⟩ := hd2.passes
      have hfilled := (hbetween.trans (hbehind.mono hquiet)).filled (s := s) (fun _ => id)
        (hbefore.steady (H.steady hok))
      refine ⟨emptied, _, before, between, behind, hbefore, hbetween, hbehind.mono hquiet, hsize,
        hshown, fun hnone => (hfilled.kept hnone).trans hsize, fun hmeasured => ?_⟩
      have hstart := hbefore.filled (s := s) (fun _ => id) (H.steady hok)
      rw [hfilled.grown (hstart.measured (.inl hmeasured)), hsize]
      exact Nat.zero_add _
    · intro d hd hr
      split at hr
      · exact hd ‹_›
      · cases hr
  rw [if_neg hnothing]
  by_cases hroom : room = 0
  · rw [if_pos hroom]
    exact Leads.pure fun _ _ hr => nomatch hr
  rw [if_neg hroom]
  -- there are bytes and there is room for them, so some are taken
  refine Leads.attempt ((length_fetch s _ false).mono fun _ _ => trivial) (fun bytes => ?_)
    fun _ _ _ h => nomatch h
  refine Leads.sure_bind (R := fun _ _ => bytes.length = min pending.toNat room) ?_ fun _ =>
    Leads.pure ?_
  · exact fun _ _ _ h _ => h bytes rfl
  · rintro _ hlength ⟨⟩
    rw [List.length_nil] at hlength
    omega

end Habit

end Report

/-! ## Looking at a chip that nobody else looks at -/

/-- A board on which no frames are exchanged but the driver's. -/
def Habit.undisturbed : Habit Board where
  ok board := board.Undisturbed ∧ board.chip.Steady
  between _ := False
  called _ := True
  steady h := h.2
  isQuiet h := Frame.isQuiet_of_false h
  called_rewire _ _ := Iff.rfl
  turn h _ := ⟨h.1, Endpoint.steady_turn h.2 _⟩
  held h := h
  restore before h := (h.1.restore_ends before).mono fun _ _ h' =>
    ⟨⟨h'.1, h'.2.steady h.2⟩, ⟨[], h'.2⟩, fun _ => .inr trivial⟩
  record _ h := ⟨(), _, rfl, h, rfl, id⟩

theorem Endpoint.Passes.edgeless {start now : Endpoint} {o : List Occurrence}
    (h : start.Passes (fun _ => False) o now) : now.chip.edgeless = start.chip.edgeless :=
  h.chip_kept (J := fun chip => chip.edgeless = start.chip.edgeless) (fun _ _ _ hf => hf.elim)
    (fun _ hsame => hsame) rfl

/-- The chip after some frames that have changed nothing themselves. -/
def Chip.idled (chip : Chip) : Nat → Chip
  | 0 => chip
  | frames + 1 => (chip.idled frames).afterFrame

/-- A number of frames have been exchanged that have changed nothing themselves. -/
structure Idled (start : Chip) (frames : Nat) (device : Device Board) : Prop where
  ok : Habit.undisturbed.ok device.board
  chip : device.chip.edgeless = (start.idled frames).edgeless

namespace Idled

variable {start : Chip} {frames : Nat} {device : Device Board} {s : SocketId} {r : SocketRegister}

theorem wordOf (h : Idled start frames device) :
    device.chip.wordOf r s = (start.idled frames).wordOf r s := by
  show device.chip.edgeless.wordOf r s = _
  rw [h.chip]
  rfl

theorem byteOf (h : Idled start frames device) :
    device.chip.byteOf r s = (start.idled frames).byteOf r s := by
  show device.chip.edgeless.byteOf r s = _
  rw [h.chip]
  rfl

/-- A look at a place that is plain memory is one more frame that changes nothing. -/
theorem readByte (h : Idled start frames device) {address : UInt16} {value : UInt8}
    (hread : device.chip.read address = (value, device.chip)) :
    Ends (onLink (readByte address)) device fun value' device' =>
      value' = value ∧ Idled start (frames + 1) device' := by
  refine (Ends.onLink (Habit.undisturbed.readByte_ends h.ok address)).mono ?_
  rintro value' device' ⟨⟨o, hread'⟩, -⟩
  obtain ⟨o', -, hwalk⟩ := hread'.walk
  have hserved : device.chip.serve (Frame.read address) = (value, device.chip) := hread
  refine ⟨?_, hread'.ok, ?_⟩
  · rw [hread'.reply, hserved]
  · have hturned : ((Wired.endpoint device.board).held.turn (Frame.read address)).2.chip =
        device.chip.afterFrame := by
      show (device.chip.serve (Frame.read address)).2.afterFrame = _
      rw [hserved]
    rw [Endpoint.Passes.edgeless hwalk, hturned, ← Chip.edgeless_afterFrame, h.chip,
      Chip.edgeless_afterFrame]
    rfl

theorem readWord (h : Idled start frames device) (hw : r.width = 2) (hr : r ≠ .txWrite) :
    Ends (onLink (readWord (r.address s))) device fun w device' =>
      w = word (highByte ((start.idled frames).wordOf r s))
          (lowByte ((start.idled (frames + 1)).wordOf r s)) ∧
        Idled start (frames + 2) device' := by
  have hc : r ≠ .command := by
    rintro rfl
    cases hw
  rw [SpiEthernet.readWord, onLink_bind]
  refine Ends.bind (h.readByte (Chip.read_register h.ok.2.present hc hr)) ?_
  rintro _ d1 ⟨rfl, h1⟩
  rw [onLink_bind]
  refine Ends.bind (h1.readByte (Chip.read_register_succ h1.ok.2.present hw hr)) ?_
  rintro _ d2 ⟨rfl, h2⟩
  refine Ends.pure ⟨?_, h2⟩
  rw [← Chip.highByte_wordOf, h.wordOf, h1.wordOf]

/-- A ring that is empty over four frames is found empty. -/
theorem pendingRx (h : Idled start 0 device)
    (hempty : ∀ frames < 4, (start.idled frames).wordOf .rxSize s = 0) :
    Ends (pendingRx s) device fun pending device' => pending = 0 ∧ Idled start 4 device' := by
  have hread {frames : Nat} {d : Device Board} (hframes : frames + 1 < 4)
      (hd : Idled start frames d) :
      Ends (onLink (SpiEthernet.readWord (SocketRegister.rxSize.address s))) d fun w d' =>
        w = 0 ∧ Idled start (frames + 2) d' := by
    refine (hd.readWord rfl (by decide)).mono ?_
    rintro _ d' ⟨rfl, hd'⟩
    rw [hempty _ (by omega), hempty _ hframes]
    exact ⟨rfl, hd'⟩
  refine Ends.bind (R := fun bound d => (∃ more, bound = more + 1) ∧ d = device)
    (Ends.patience ⟨?_, rfl⟩) ?_
  · rw [Wired.patience_eq, Chip.patience]
    exact ⟨_, rfl⟩
  rintro _ _ ⟨⟨more, rfl⟩, rfl⟩
  refine Ends.bind (hread (by decide) h) ?_
  rintro _ d1 ⟨rfl, h1⟩
  refine Ends.bind (hread (by decide) h1) ?_
  rintro _ d2 ⟨rfl, h2⟩
  rw [if_pos rfl]
  exact Ends.pure ⟨rfl, h2⟩

/-- A ring that is empty over four frames, on a socket of which nothing more is to come behind them,
ends its stream, whatever has arrived with the last of them. -/
theorem receive (h : Idled start 0 device)
    (hempty : ∀ frames < 4, (start.idled frames).wordOf .rxSize s = 0)
    (hexhausted : (SocketStatus.ofByte ((start.idled 4).byteOf .status s)).isExhausted = true)
    (room : Nat) : Ends (receive s room).run device fun r device' =>
      r = .ok (some []) ∧ Idled start 5 device' := by
  unfold SpiEthernet.receive
  refine Ends.sure_bind (h.pendingRx hempty) ?_
  rintro _ d1 ⟨rfl, h1⟩
  dsimp only
  rw [if_pos (by decide)]
  have hstatus : Ends (status s) d1 fun shown d2 =>
      shown = SocketStatus.ofByte ((start.idled 4).byteOf .status s) ∧ Idled start 5 d2 := by
    refine Ends.bind (h1.readByte
      (Chip.read_register h1.ok.2.present (by decide) (by decide))) ?_
    rintro _ d2 ⟨rfl, h2⟩
    rw [h1.byteOf]
    exact Ends.pure ⟨rfl, h2⟩
  refine Ends.sure_bind hstatus ?_
  rintro _ d2 ⟨rfl, h2⟩
  rw [if_pos hexhausted]
  exact Ends.pure ⟨rfl, h2⟩

end Idled

/-! ## A segment and the close behind it -/

/-- A stretch of a stream and a status that follows it, due at the same time. -/
def lastSegment (s : SocketId) (due : Nat) (segment : List UInt8) (ending : SocketStatus) :
    List Scheduled :=
  [⟨due, .tcp s segment⟩, ⟨due, .setStatus s ending⟩]

namespace Chip

variable {chip : Chip} {s : SocketId} {frames : Nat} {segment : List UInt8} {ending : SocketStatus}

/-- The receive ring of a socket is empty, and nothing happens to the chip until, some frames later,
the last segment arrives and the peer closes. -/
structure Closes (chip : Chip) (s : SocketId) (frames : Nat) (segment : List UInt8)
    (ending : SocketStatus) : Prop where
  steady : chip.Steady
  measured : chip.Measured s
  empty : chip.wordOf .rxSize s = 0
  queue : chip.queue = lastSegment s (chip.transactions + frames) segment ending

theorem queue_schedule_last (h : chip.queue = []) (hdue : chip.transactions + frames < UInt64.size) :
    ((chip.schedule frames (.tcp s segment)).schedule frames (.setStatus s ending)).queue =
      lastSegment s (((chip.schedule frames (.tcp s segment)).schedule frames
        (.setStatus s ending)).transactions + frames) segment ending := by
  simp only [schedule, h, List.nil_append, List.singleton_append, lastSegment,
    Nat.mod_eq_of_lt hdue]

/-- Where nothing is due, a frame changes nothing of a ring. -/
theorem Filled.nothing_due (hsteady : chip.Steady) (hdue : chip.dueEvents = []) :
    Filled s chip [] chip.afterFrame := by
  have hfilled := chip.filled_afterFrame (s := s) hsteady
  rwa [frameOccurrences, hdue] at hfilled

theorem Closes.afterFrame (h : chip.Closes s (frames + 2) segment ending) :
    chip.afterFrame.Closes s (frames + 1) segment ending := by
  have hlater : ¬chip.transactions + (frames + 2) ≤ chip.transactions + 1 := by omega
  have hfilled : Filled s chip [] chip.afterFrame := by
    refine .nothing_due h.steady ?_
    rw [dueEvents, h.queue]
    simp [lastSegment, isDue, Chip.counted]
  refine ⟨h.steady.afterFrame, hfilled.measured (.inl h.measured), hfilled.same.trans h.empty, ?_⟩
  rw [h.steady.queue_afterFrame, h.steady.transactions_afterFrame, h.queue]
  simp [lastSegment, hlater, Nat.add_assoc, Nat.add_comm 1]

/-- With the last frame the segment has arrived and the peer has closed. -/
theorem Closes.arrived (h : chip.Closes s 1 segment ending) (hfits : segment.length ≤ 2048) :
    (chip.afterFrame.wordOf .rxSize s).toNat = segment.length ∧
      chip.afterFrame.byteOf .status s = ending.raw ∧ chip.afterFrame.queue = [] := by
  have hdue : chip.dueEvents = lastSegment s (chip.transactions + 1) segment ending := by
    rw [dueEvents, h.queue]
    simp [lastSegment, isDue, Chip.counted]
  have hbefore : Filled s chip [] chip.beforeEvents := .quiet (.of_memory rfl rfl)
  have hroom : chip.beforeEvents.fits s segment := by
    show (chip.wordOf .rxSize s).toNat + segment.length ≤ 2048
    rw [h.empty]
    simpa using hfits
  have hstored : Filled s chip ([] ++ [⟨.tcp s segment, true⟩])
      (chip.beforeEvents.store s segment) :=
    hbefore.trans (filled_store hroom (by simp [Occurrence.brings, Event.delivery?])
      (by simp [Occurrence.delivery, Event.delivery?]))
  have hafter : chip.afterFrame = (chip.beforeEvents.store s segment).setStatus s ending := by
    rw [Chip.afterFrame, hdue]
    rfl
  have hstatus : (chip.beforeEvents.store s segment).SameInlet chip.afterFrame s := by
    rw [hafter]
    exact sameInlet_setByteOf _ s s _ (by decide) rfl
  refine ⟨?_, ?_, ?_⟩
  · rw [hstatus.words rfl, hstored.grown h.measured, h.empty]
    simp [delivered, Occurrence.delivery, Event.delivery?]
  · rw [hafter, setStatus, byteOf_setByteOf, if_pos ⟨rfl, rfl⟩]
  · rw [h.steady.queue_afterFrame, h.queue]
    simp [lastSegment]

/-- Over four frames the ring is empty; behind them the segment is in it and the peer has closed,
and so it is behind one more frame. -/
theorem Closes.idled (h : chip.Closes s 4 segment ending) (hfits : segment.length ≤ 2048) :
    (∀ frames < 4, (chip.idled frames).wordOf .rxSize s = 0) ∧
      (chip.idled 4).byteOf .status s = ending.raw ∧
      ((chip.idled 5).wordOf .rxSize s).toNat = segment.length := by
  have h1 : (chip.idled 1).Closes s 3 segment ending := h.afterFrame
  have h2 : (chip.idled 2).Closes s 2 segment ending := h1.afterFrame
  have h3 : (chip.idled 3).Closes s 1 segment ending := h2.afterFrame
  obtain ⟨hsize, hstatus, hqueue⟩ := h3.arrived hfits
  have hsteady : (chip.idled 4).Steady := h3.steady.afterFrame
  have hlast : Filled s (chip.idled 4) [] (chip.idled 5) := by
    refine .nothing_due hsteady ?_
    rw [dueEvents, show (chip.idled 4).queue = [] from hqueue]
    rfl
  refine ⟨fun frames hframes => ?_, hstatus, (congrArg UInt16.toNat hlast.same).trans hsize⟩
  obtain rfl | rfl | rfl | rfl : frames = 0 ∨ frames = 1 ∨ frames = 2 ∨ frames = 3 := by omega
  · exact h.empty
  · exact h1.empty
  · exact h2.empty
  · exact h3.empty

end Chip

/-- A status in which nothing more is to come is shown as it is. -/
theorem SocketStatus.ofByte_raw_of_isExhausted {status : SocketStatus}
    (h : status.isExhausted = true) : ofByte status.raw = status := by
  cases status with
  | listen | closed | closeWait => rfl
  | _ => cases h

/-! ## The end of a stream -/

/-- If a call reports the end of a stream, the ring was empty at one moment of the call, and at a
later one nothing more was to come in the socket's status: what has arrived since the first of them
is unread. So it is if nobody else uses the link, and with the fourth frame of the call the last
segment arrives and the peer closes. -/
theorem receive_end_of_stream {device : Device Board} {s : SocketId}
    (hsteady : device.chip.Steady) (room : Nat) :
    (Ends (receive s room).run device fun r device' =>
      r = .ok (some []) → EndReported s device device') ∧
    ∀ segment ending, device.board.Undisturbed → device.chip.Measured s →
      device.chip.wordOf .rxSize s = 0 → segment.length ≤ ringSize →
      ending.isExhausted = true →
      device.chip.queue = lastSegment s (device.chip.transactions + 4) segment ending →
      Ends (receive s room).run device fun r device' =>
        r = .ok (some []) ∧ (device'.chip.wordOf .rxSize s).toNat = segment.length := by
  refine ⟨Habit.receive_reports (H := Habit.free) hsteady room, ?_⟩
  intro segment ending hundisturbed hmeasured hempty hfits hexhausted hqueue
  have hcloses : device.chip.Closes s 4 segment ending := ⟨hsteady, hmeasured, hempty, hqueue⟩
  obtain ⟨hzero, hstatus, hsize⟩ := hcloses.idled hfits
  have hidled : Idled device.chip 0 device := ⟨⟨hundisturbed, hsteady⟩, rfl⟩
  refine (hidled.receive hzero ?_ room).mono ?_
  · rw [hstatus, SocketStatus.ofByte_raw_of_isExhausted hexhausted]
    exact hexhausted
  · rintro _ device' ⟨rfl, h⟩
    refine ⟨rfl, ?_⟩
    rw [h.wordOf]
    exact hsize

/-- A chip with a connection on which nothing has arrived. -/
def Chip.attached : Chip :=
  (((Chip.new none).setByteOf .mode 0 SocketMode.tcp.code).setStatus 0 .established).setPointers 0
    0 0

theorem Chip.carries_attached : Chip.attached.Carries 0 (.empty .udp 0) :=
  carries_setPointers ⟨rfl, fun _ hs => absurd hs List.not_mem_nil⟩ 0 0

theorem Chip.queue_attached : Chip.attached.queue = [] :=
  queue_of_casing (casing_setPointers _ 0 0 0)

/-- A board with such a chip, where the last segment is four frames away and the close with it, and
nobody is connected to the interrupt line. -/
def Board.closing : Board := (Board.new none ⟨none, .off⟩).withChip
  ((Chip.attached.schedule 4 (.tcp 0 [1, 2, 3])).schedule 4 (.setStatus 0 .closeWait))

theorem receive_end_of_stream_closing :
    Ends (receive 0 8).run ⟨Board.closing, Controller.new⟩ fun r device' =>
      (r = .ok (some []) → EndReported 0 ⟨Board.closing, Controller.new⟩ device') ∧
        r = .ok (some []) ∧ (device'.chip.wordOf .rxSize 0).toNat = 3 := by
  have hempty := Chip.carries_attached
  have hsteady : (Device.chip ⟨Board.closing, Controller.new⟩).Steady :=
    (hempty.steady.schedule 4 rfl).schedule 4 rfl
  have hschedule (chip : Chip) (event : Event) : chip.SameInlet (chip.schedule 4 event) 0 :=
    .of_memory rfl rfl
  have hsame : Chip.attached.SameInlet (Device.chip ⟨Board.closing, Controller.new⟩) 0 :=
    (hschedule _ _).trans (hschedule _ _)
  obtain ⟨hreport, hunread⟩ := receive_end_of_stream (s := 0) hsteady 8
  exact hreport.and (hunread [1, 2, 3] .closeWait nofun (hempty.measured.congr hsame)
    ((hsame.words rfl).trans hempty.size) (by decide) rfl
    (Chip.queue_schedule_last Chip.queue_attached (by decide)))

end SpiEthernet
