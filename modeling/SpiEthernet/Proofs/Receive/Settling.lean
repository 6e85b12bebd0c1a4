import SpiEthernet.Proofs.Receive.Ending

/-!
# How a size settles

The size of a receive ring is read in two halves, again and again until it has read the same twice
in a row. Two readings that agree come from four moments, between which anything may have arrived;
but arrivals only make the size grow, so it was what both readings say at one of these moments.

While nobody else uses the link, nothing happens to the chip between these readings but what was
scheduled, so whatever keeps two readings from agreeing uses up one of the scheduled events.

* `Settled.held` : a settled size is one that the register had during the wait.
* `readingsLeft_sampleAt` : each reading is paid for by the events that are still to come.
* `pendingRx_settles` : so the size settles after two readings for each event and two more.
-/

namespace SpiEthernet

/-! ## What a settled size says -/

namespace Chip.Filled

variable {chip chip' chip'' : Chip} {s : SocketId} {o o' : List Occurrence}

/-- What arrives makes the size grow. -/
theorem size_le (h : Filled s chip o chip') (hmeasured : chip.Measured s) :
    chip.wordOf .rxSize s ≤ chip'.wordOf .rxSize s := by
  rw [UInt16.le_iff_toNat_le, h.grown hmeasured]
  exact Nat.le_add_right _ _

/-- If the high half of the size is the same before and behind, it is the same in between. -/
theorem highByte_size (h : Filled s chip o chip') (h' : Filled s chip' o' chip'')
    (hmeasured : chip.Measured s)
    (hsame : highByte (chip''.wordOf .rxSize s) = highByte (chip.wordOf .rxSize s)) :
    highByte (chip'.wordOf .rxSize s) = highByte (chip.wordOf .rxSize s) := by
  have hbefore := UInt16.le_iff_toNat_le.1 (h.size_le hmeasured)
  have hbehind := UInt16.le_iff_toNat_le.1 (h'.size_le (h.measured (.inl hmeasured)))
  have hsame := congrArg UInt8.toNat hsame
  apply UInt8.toNat_inj.mp
  rw [toNat_highByte, toNat_highByte] at hsame ⊢
  omega

end Chip.Filled

/-- Between two states of a link the receive ring of a socket had a size at some moment, which is
none less than at the start and none more than at the end. -/
def SizeHeld (s : SocketId) (size : UInt16) (start now : Endpoint) : Prop :=
  (∃ moment o o', start.Passes Frame.IsQuiet o moment ∧ moment.Passes Frame.IsQuiet o' now ∧
    size = moment.chip.wordOf .rxSize s) ∧
  start.chip.wordOf .rxSize s ≤ size ∧ size ≤ now.chip.wordOf .rxSize s

/-- A settled size is one that the register had behind the first frame of a reading. -/
theorem Habit.Settled.held {σ : Type} [Host σ] [Wired σ] {H : Habit σ} {s : SocketId}
    {size : UInt16} {start now : Endpoint} (h : H.Settled .rxSize s size start now)
    (hsteady : start.chip.Steady) (hmeasured : start.chip.Measured s) :
    SizeHeld s size start now := by
  have hquiet : ∀ frame, H.Looks frame → frame.IsQuiet := fun _ => Looks.isQuiet
  obtain ⟨o, first, second, h, ⟨middle, o1, o2, h1, h2, hsize⟩,
    ⟨middle', o3, o4, h3, h4, hagain⟩⟩ := h
  have hfirst := h.filled hquiet hsteady (s := s)
  have hsteady1 := h.steady hsteady
  have hsteady2 := h1.steady hsteady1
  have hmiddle := h1.filled hquiet hsteady1 (s := s)
  have hsecond := h2.filled hquiet hsteady2 (s := s)
  have hrest := (h2.trans (h3.trans h4)).filled hquiet hsteady2 (s := s)
  have hmeasured1 := hfirst.measured (.inl hmeasured)
  -- both readings have the same high half, so the register had it in between
  have hhigh : highByte (middle.chip.wordOf .rxSize s) =
      highByte (first.chip.wordOf .rxSize s) := by
    refine hmiddle.highByte_size hsecond hmeasured1 ?_
    have hsame := congrArg highByte (hagain.symm.trans hsize)
    rwa [highByte_word, highByte_word] at hsame
  have hheld : size = middle.chip.wordOf .rxSize s := by
    rw [hsize, ← hhigh, word_highByte_lowByte]
  refine ⟨⟨middle, _, _, (h.trans h1).mono hquiet, (h2.trans (h3.trans h4)).mono hquiet, hheld⟩,
    ?_, ?_⟩
  · rw [hheld]
    exact (hfirst.trans hmiddle).size_le hmeasured
  · rw [hheld]
    exact hrest.size_le (hmiddle.measured (.inl hmeasured1))

/-! ## A chip that is only looked at -/

namespace Chip

variable {chip : Chip} {s : SocketId} {frames : Nat}

theorem Steady.idled (h : chip.Steady) : ∀ frames, (chip.idled frames).Steady
  | 0 => h
  | frames + 1 => (h.idled frames).afterFrame

theorem Steady.transactions_idled (h : chip.Steady) (frames : Nat) :
    (chip.idled frames).transactions = chip.transactions + frames := by
  induction frames with
  | zero => rfl
  | succ frames ih => rw [Chip.idled, (h.idled frames).transactions_afterFrame, ih, Nat.add_assoc]

/-- The size of a receive ring after some frames that have changed nothing themselves. -/
def sizeAt (chip : Chip) (s : SocketId) (frames : Nat) : UInt16 :=
  (chip.idled frames).wordOf .rxSize s

/-- How many events are still to come then. -/
def eventsLeft (chip : Chip) (frames : Nat) : Nat := (chip.idled frames).queue.length

/-- With a frame, events that are due are no longer to come; without them the size stays. -/
theorem eventsLeft_succ (hsteady : chip.Steady) (frames : Nat) :
    chip.eventsLeft (frames + 1) ≤ chip.eventsLeft frames ∧
      (chip.sizeAt s (frames + 1) ≠ chip.sizeAt s frames →
        chip.eventsLeft (frames + 1) < chip.eventsLeft frames) := by
  have hqueue := (hsteady.idled frames).queue_afterFrame
  refine ⟨?_, fun hchanged => ?_⟩
  · rw [eventsLeft, idled, hqueue]
    exact List.length_filter_le _ _
  · have hdue : (chip.idled frames).dueEvents ≠ [] := fun hnone =>
      hchanged (Filled.nothing_due (hsteady.idled frames) hnone).same
    obtain ⟨scheduled, hmem⟩ := List.exists_mem_of_ne_nil _ hdue
    rw [dueEvents, List.mem_filter] at hmem
    rw [eventsLeft, idled, hqueue]
    refine List.length_filter_lt_length_iff_exists.2 ⟨scheduled, hmem.1, ?_⟩
    have hnow : scheduled.due ≤ (chip.idled frames).transactions + 1 := of_decide_eq_true hmem.2
    simp [hnow]

/-! ## Readings -/

/-- What is read of the size in two frames, the high half first. -/
def sampleAt (chip : Chip) (s : SocketId) (frames : Nat) : UInt16 :=
  word (highByte (chip.sizeAt s frames)) (lowByte (chip.sizeAt s (frames + 1)))

/-- A reading is what the size is before and behind it, unless an event was due meanwhile. -/
theorem sampleAt_cases (hsteady : chip.Steady) (frames : Nat) :
    chip.eventsLeft (frames + 2) < chip.eventsLeft frames ∨
      chip.eventsLeft (frames + 2) ≤ chip.eventsLeft frames ∧
        chip.sampleAt s frames = chip.sizeAt s frames ∧
        chip.sampleAt s frames = chip.sizeAt s (frames + 2) := by
  obtain ⟨hle, hless⟩ := eventsLeft_succ (s := s) hsteady frames
  obtain ⟨hle', hless'⟩ := eventsLeft_succ (s := s) hsteady (frames + 1)
  by_cases hfirst : chip.sizeAt s (frames + 1) = chip.sizeAt s frames
  · by_cases hsecond : chip.sizeAt s (frames + 2) = chip.sizeAt s (frames + 1)
    · have hread : chip.sampleAt s frames = chip.sizeAt s frames := by
        rw [sampleAt, hfirst, word_highByte_lowByte]
      exact .inr ⟨Nat.le_trans hle' hle, hread, hread.trans (hsecond.trans hfirst).symm⟩
    · exact .inl (Nat.lt_of_lt_of_le (hless' hsecond) hle)
  · exact .inl (Nat.lt_of_le_of_lt hle' (hless hfirst))

/-- How many readings it takes at most until two agree: one or two, depending on whether the last
one is up to date, and two for every event that is still to come. -/
def readingsLeft (chip : Chip) (s : SocketId) (frames : Nat) (previous : UInt16) : Nat :=
  2 * chip.eventsLeft frames + if previous = chip.sizeAt s frames then 1 else 2

/-- Behind a reading, no more readings are left than two for each event that was to come before it,
and one. -/
theorem readingsLeft_le (hsteady : chip.Steady) (frames : Nat) :
    chip.readingsLeft s (frames + 2) (chip.sampleAt s frames) ≤ 2 * chip.eventsLeft frames + 1 := by
  unfold readingsLeft
  rcases sampleAt_cases (s := s) hsteady frames with hless | ⟨hle, -, hread⟩
  · split <;> omega
  · rw [if_pos hread]
    omega

/-- A reading that does not agree with the previous one has been paid for. -/
theorem readingsLeft_sampleAt (hsteady : chip.Steady) {previous : UInt16}
    (hdiffers : chip.sampleAt s frames ≠ previous) :
    chip.readingsLeft s (frames + 2) (chip.sampleAt s frames) <
      chip.readingsLeft s frames previous := by
  unfold readingsLeft
  rcases sampleAt_cases (s := s) hsteady frames with hless | ⟨hle, hbefore, hbehind⟩
  · split <;> split <;> omega
  · -- this reading is up to date, so the previous one was not
    rw [if_pos hbehind, if_neg fun hprevious => hdiffers (hbefore.trans hprevious.symm)]
    omega

theorem readingsLeft_pos (chip : Chip) (s : SocketId) (frames : Nat) (previous : UInt16) :
    0 < chip.readingsLeft s frames previous := by
  unfold readingsLeft
  split <;> omega

end Chip

/-! ## Waiting for two readings that agree -/

section Waiting

variable {start : Chip} {s : SocketId} {device : Device Board}

/-- The size is read once more. -/
theorem Idled.readSize {frames : Nat} (h : Idled start frames device) :
    Ends (onLink (SpiEthernet.readWord (SocketRegister.rxSize.address s))) device
      fun size device' => size = start.sampleAt s frames ∧ Idled start (frames + 2) device' :=
  h.readWord rfl (by decide)

/-- A number of readings have been made, which is limited. -/
def HasRead (start : Chip) (limit : Nat) (device : Device Board) : Prop :=
  ∃ readings, readings ≤ limit ∧ Idled start (2 * readings) device

/-- Two readings agree after as many more as are left at most. -/
theorem settle_leads (hsteady : start.Steady) (bound : Nat) :
    ∀ readings, Leads (Idled start (2 * readings + 2))
      (settle (SocketRegister.rxSize.address s) (start.sampleAt s (2 * readings)) bound)
      fun _ => HasRead start (readings + 1 +
        start.readingsLeft s (2 * readings + 2) (start.sampleAt s (2 * readings))) := by
  induction bound with
  | zero =>
    intro readings d _ _ _ hrun
    cases hrun
  | succ bound ih =>
    intro readings
    refine Leads.bind (Leads.of_ends fun d hd => Idled.readSize hd) fun size => ?_
    refine Leads.of_and fun hsize => ?_
    subst hsize
    have hpositive := start.readingsLeft_pos s (2 * readings + 2) (start.sampleAt s (2 * readings))
    split
    · exact Leads.pure fun d hd => ⟨readings + 2, by omega, hd⟩
    · next hdiffers =>
      have hpaid := Chip.readingsLeft_sampleAt hsteady hdiffers
      intro d size d' hd hrun
      obtain ⟨total, htotal, hread⟩ := ih (readings + 1) d size d' hd hrun
      refine ⟨total, ?_, hread⟩
      have hnext : 2 * (readings + 1) = 2 * readings + 2 := by omega
      rw [hnext] at htotal
      omega

/-- It takes two readings for every event that is to come, and two more. -/
theorem pendingRx_leads (hsteady : start.Steady) :
    Leads (Idled start 0) (pendingRx s) fun _ => HasRead start (2 * start.queue.length + 2) := by
  refine Leads.bind (R := fun _ => Idled start 0) Keeps.patience fun bound => ?_
  refine Leads.bind (Leads.of_ends fun d hd => Idled.readSize hd) fun size => ?_
  refine Leads.of_and fun hsize => ?_
  subst hsize
  intro d size d' hd hrun
  obtain ⟨readings, hreadings, hread⟩ := settle_leads hsteady bound 0 d size d' hd hrun
  have hleft : _ ≤ 2 * start.queue.length + 1 := Chip.readingsLeft_le (s := s) hsteady (2 * 0)
  exact ⟨readings, by omega, hread⟩

end Waiting

/-- While the chip counts its ring as it should, a look at the size of a receive ring ends, whatever
is scheduled to arrive meanwhile, and the answer is a size that the register had at one moment of
the call. If nobody else uses the link, it takes no more than two readings, of two frames each, for
every event that is to come, and two more. -/
theorem pendingRx_settles {device : Device Board} {s : SocketId} (hsteady : device.chip.Steady)
    (hmeasured : device.chip.Measured s) :
    (Ends (pendingRx s) device fun size device' =>
      SizeHeld s size (Wired.endpoint device.board) (Wired.endpoint device'.board)) ∧
    (device.board.Undisturbed → Ends (pendingRx s) device fun _ device' =>
      ∃ readings, readings ≤ 2 * device.chip.queue.length + 2 ∧
        device'.chip.transactions = device.chip.transactions + 2 * readings) := by
  have hheld : Ends (pendingRx s) device fun size device' =>
      SizeHeld s size (Wired.endpoint device.board) (Wired.endpoint device'.board) :=
    (Habit.free.settledWord_ends (r := .rxSize) hsteady rfl (by decide)).mono
      fun _ _ h => h.2.held hsteady hmeasured
  refine ⟨hheld, fun hundisturbed => ?_⟩
  refine ((pendingRx_leads hsteady).ends ⟨⟨hundisturbed, hsteady⟩, rfl⟩
    (hheld.mono fun _ _ _ => trivial)).mono ?_
  rintro _ device' ⟨readings, hreadings, hidled⟩
  refine ⟨readings, hreadings, ?_⟩
  show device'.chip.edgeless.transactions = _
  rw [hidled.chip]
  exact hsteady.transactions_idled _

/-- A device where so much arrives with the next frame that both halves of the size change, and
nobody is connected to the interrupt line. -/
def Device.filling : Device Board where
  board := (Board.new none ⟨none, .off⟩).withChip
    (Chip.attached.schedule 1 (.tcp 0 (List.replicate 300 7)))
  controller := Controller.new

theorem pendingRx_settles_filling :
    Ends (pendingRx 0) Device.filling fun size device' =>
      SizeHeld 0 size (Wired.endpoint Device.filling.board) (Wired.endpoint device'.board) ∧
        ∃ readings, readings ≤ 2 * 1 + 2 ∧
          device'.chip.transactions = Device.filling.chip.transactions + 2 * readings := by
  have hempty := Chip.carries_attached
  have hsteady : Device.filling.chip.Steady := hempty.steady.schedule 1 rfl
  have hsame (chip : Chip) (event : Event) : chip.SameInlet (chip.schedule 1 event) 0 :=
    .of_memory rfl rfl
  have hqueue : Device.filling.chip.queue.length = 1 := by
    show (Chip.attached.queue ++ [_]).length = 1
    rw [Chip.queue_attached]
    rfl
  have hmeasured : Device.filling.chip.Measured 0 := hempty.measured.congr (hsame _ _)
  obtain ⟨hheld, hread⟩ := pendingRx_settles hsteady hmeasured
  have hread := hread nofun
  rw [hqueue] at hread
  exact hheld.and hread

end SpiEthernet
