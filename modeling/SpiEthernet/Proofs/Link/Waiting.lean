import SpiEthernet.Proofs.Link.Transaction

/-!
# Waiting

The driver waits in two ways: it reads a word until it has read the same twice in a row, and it
polls a command register until it reads zero. Both waits end, whatever is still to happen to the
chip: an event that is due happens behind the next frame, so after finitely many frames there is
none left, and from then on a register keeps its value.

* `settledWord_ends` : a settled word was read twice, in halves of which the states in between
  are known.
* `issue_ends` : a command is given in one frame, and everything behind it only looks.
-/

namespace SpiEthernet

section Waiting

variable {σ α : Type} [Host σ] [Wired σ]

namespace Habit

variable (H : Habit σ) {x x' : σ} {frame : Frame} {value : UInt8} {o : List Occurrence}
  {s : SocketId} {r : SocketRegister}

/-- The frames that are exchanged while the driver only reads: its own, and the board's. -/
def Looks (frame : Frame) : Prop := frame.direction = .read ∨ H.between frame

variable {H}

theorem Looks.isQuiet (h : H.Looks frame) : frame.IsQuiet := by
  rcases h with h | h
  · exact Frame.isQuiet_of_read h
  · exact H.isQuiet h

theorem Looks.isLocal (h : H.Looks frame) : frame.IsLocal := h.isQuiet.isLocal

/-! ## What a frame brings about -/

theorem Exchanged.prompt (h : H.Exchanged x frame value o x') (hx : H.ok x) :
    (Wired.endpoint x').chip.Prompt := by
  obtain ⟨_, -, hwalk⟩ := h.walk
  have hsteady : (Wired.endpoint x).held.chip.Steady := H.steady hx
  exact hwalk.prompt (Endpoint.steady_turn hsteady frame) (Endpoint.prompt_turn hsteady frame)

theorem Exchanged.transactions_lt (h : H.Exchanged x frame value o x') (hx : H.ok x)
    (hf : frame.IsLocal) :
    (Wired.endpoint x).chip.transactions < (Wired.endpoint x').chip.transactions := by
  obtain ⟨_, -, hwalk⟩ := h.walk
  have hsteady := H.steady hx
  have hle := hwalk.transactions_le (fun _ hb => (H.isQuiet hb).isLocal)
    (Endpoint.steady_turn_held hsteady frame)
  have hafter := (hsteady.serve frame).transactions_afterFrame
  rw [Chip.transactions_of_casing (Chip.casing_serve hsteady.present hf)] at hafter
  have hturn : ((Wired.endpoint x).held.turn frame).2.chip.transactions =
      ((Wired.endpoint x).chip.serve frame).2.afterFrame.transactions := rfl
  omega

/-- A frame that was exchanged while the driver only reads is part of a look around. -/
theorem Exchanged.looks (h : H.Exchanged x frame value o x') (hr : frame.direction = .read) :
    (Wired.endpoint x).Passes H.Looks o (Wired.endpoint x') :=
  h.passes (.inl hr) fun _ => .inr

/-- Between two states of a device the controller was left alone, and only certain frames were
exchanged. -/
structure Walked (H : Habit σ) (P : Frame → Prop) (start now : Device σ) : Prop where
  ok : H.ok now.board
  controller : now.controller = start.controller
  passes : ∃ o, (Wired.endpoint start.board).Passes P o (Wired.endpoint now.board)
  alarmed : H.Alarmed start.board → H.Alarmed now.board

namespace Walked

variable {P R : Frame → Prop} {start middle now : Device σ}

theorem refl (h : H.ok start.board) : H.Walked P start start := ⟨h, rfl, ⟨[], .refl⟩, id⟩

theorem trans (h : H.Walked P start middle) (h' : H.Walked P middle now) :
    H.Walked P start now := by
  obtain ⟨o, ho⟩ := h.passes
  obtain ⟨o', ho'⟩ := h'.passes
  exact ⟨h'.ok, h'.controller.trans h.controller, ⟨_, ho.trans ho'⟩, h'.alarmed ∘ h.alarmed⟩

theorem mono (h : H.Walked P start now) (hPR : ∀ frame, P frame → R frame) :
    H.Walked R start now := by
  obtain ⟨o, ho⟩ := h.passes
  exact ⟨h.ok, h.controller, ⟨o, ho.mono hPR⟩, h.alarmed⟩

end Walked

theorem Exchanged.walked {P : Frame → Prop} {start now : Device σ}
    (h : H.Exchanged start.board frame value o now.board)
    (hc : now.controller = start.controller) (hok : H.ok start.board) (hf : frame.IsLocal)
    (hframe : P frame) (hbetween : ∀ frame, H.between frame → P frame) :
    H.Walked P start now :=
  ⟨h.ok, hc, ⟨o, h.passes hframe hbetween⟩, h.alarmed_of hok hf⟩

/-! ## Words -/

/-- A word was read in two halves: the high one in the first state, and the low one on the way
to the last. -/
def Sampled (H : Habit σ) (r : SocketRegister) (s : SocketId) (w : UInt16)
    (first last : Endpoint) : Prop :=
  ∃ middle o o', first.Passes H.Looks o middle ∧ middle.Passes H.Looks o' last ∧
    w = word (highByte (first.chip.wordOf r s)) (lowByte (middle.chip.wordOf r s))

/-- A word was read twice in a row with the same result. -/
def Settled (H : Habit σ) (r : SocketRegister) (s : SocketId) (w : UInt16)
    (start last : Endpoint) : Prop :=
  ∃ o first second, start.Passes H.Looks o first ∧ H.Sampled r s w first second ∧
    H.Sampled r s w second last

theorem Sampled.passes {w : UInt16} {first last : Endpoint} (h : H.Sampled r s w first last) :
    ∃ o, first.Passes H.Looks o last := by
  obtain ⟨middle, o, o', h, h', -⟩ := h
  exact ⟨_, h.trans h'⟩

theorem Settled.passes {w : UInt16} {start last : Endpoint} (h : H.Settled r s w start last) :
    ∃ o, start.Passes H.Looks o last := by
  obtain ⟨o, first, second, h, h', h''⟩ := h
  obtain ⟨o', h'⟩ := h'.passes
  obtain ⟨o'', h''⟩ := h''.passes
  exact ⟨_, (h.trans h').trans h''⟩

/-- Without events to come, a word reads as what it holds. -/
theorem Sampled.eq_of_nothing_pending {w : UInt16} {first last : Endpoint}
    (h : H.Sampled r s w first last) (hs : first.chip.Steady) (hq : first.chip.queue = [])
    (hw : r.width = 2) : last.chip.queue = [] ∧ w = last.chip.wordOf r s := by
  obtain ⟨middle, o, o', hfirst, hlast, rfl⟩ := h
  obtain ⟨hq', hm⟩ := hfirst.nothing_pending (fun _ => Looks.isQuiet) hs hq hw s
  obtain ⟨hq'', hl⟩ := hlast.nothing_pending (fun _ => Looks.isQuiet) (hfirst.steady hs) hq' hw s
  refine ⟨hq'', ?_⟩
  rw [hl, hm, word_highByte_lowByte]

variable (H)

/-- A register of two bytes is read in two frames. -/
theorem readWord_ends {device : Device σ} (hx : H.ok device.board) (hw : r.width = 2)
    (hr : r ≠ .txWrite) :
    Ends (onLink (readWord (r.address s))) device fun w device' =>
      H.Walked H.Looks device device' ∧
        H.Sampled r s w (Wired.endpoint device.board) (Wired.endpoint device'.board) ∧
        (Wired.endpoint device'.board).chip.Prompt ∧
        (Wired.endpoint device.board).chip.transactions <
          (Wired.endpoint device'.board).chip.transactions := by
  have hc : r ≠ .command := by
    rintro rfl
    cases hw
  refine (Ends.onLink (R := fun w x' => ∃ y high low o o',
    H.Exchanged device.board (Frame.read (r.address s)) high o y ∧
      H.Exchanged y (Frame.read (r.address s + 1)) low o' x' ∧ w = word high low) ?_).mono ?_
  · refine Ends.bind (H.readByte_ends hx (r.address s)) ?_
    rintro high y ⟨o, hhigh⟩
    refine Ends.bind (H.readByte_ends hhigh.ok (r.address s + 1)) ?_
    rintro low x' ⟨o', hlow⟩
    exact Ends.pure ⟨y, high, low, o, o', hhigh, hlow, rfl⟩
  · rintro _ device' ⟨⟨y, high, low, o, o', hhigh, hlow, rfl⟩, hcontroller⟩
    have hx1 := hhigh.transactions_lt hx (Frame.isLocal_read _)
    have hx2 := hlow.transactions_lt hhigh.ok (Frame.isLocal_read _)
    refine ⟨⟨hlow.ok, hcontroller, ⟨_, (hhigh.looks rfl).trans (hlow.looks rfl)⟩, fun ha => ?_⟩,
      ⟨Wired.endpoint y, o, o', hhigh.looks rfl, hlow.looks rfl, ?_⟩, hlow.prompt hhigh.ok,
      Nat.lt_trans hx1 hx2⟩
    · exact hlow.alarmed_of hhigh.ok (Frame.isLocal_read _)
        (hhigh.alarmed_of hx (Frame.isLocal_read _) ha)
    · rw [hhigh.reply, hlow.reply, Chip.highByte_wordOf, Chip.serve_read, Chip.serve_read,
        Chip.read_register (H.steady hx).present hc hr,
        Chip.read_register_succ (H.steady hhigh.ok).present hw hr]

/-! ## Settled words -/

/-- From a previous reading on, a word settles within its bound. Either nothing is to come and
the previous reading was right, or there are two more readings than frames until the last event,
which is due at `last` at the latest. -/
theorem settle_ends (hw : r.width = 2) (hr : r ≠ .txWrite) (last : Nat) {start : Endpoint} :
    ∀ (bound : Nat) {device : Device σ} {previous : UInt16} {first : Endpoint},
      H.ok device.board → start.chip.Steady →
      (∃ o, start.Passes H.Looks o first) →
      H.Sampled r s previous first (Wired.endpoint device.board) →
      (Wired.endpoint device.board).chip.Prompt →
      (∀ scheduled ∈ (Wired.endpoint device.board).chip.queue, scheduled.due ≤ last) →
      ((Wired.endpoint device.board).chip.queue = [] ∧
          previous = (Wired.endpoint device.board).chip.wordOf r s ∧ 1 ≤ bound ∨
        2 + (last - (Wired.endpoint device.board).chip.transactions) ≤ bound) →
      Ends (settle (r.address s) previous bound) device fun w device' =>
        H.Walked H.Looks device device' ∧
          H.Settled r s w start (Wired.endpoint device'.board) := by
  intro bound
  induction bound with
  | zero => intro device previous first _ _ _ _ _ _ h; omega
  | succ bound ih =>
    intro device previous first hok hstart hreach hprevious hprompt hlast hbound
    refine Ends.bind (H.readWord_ends hok hw hr) ?_
    rintro current device' ⟨hwalked, hcurrent, hprompt', htime⟩
    by_cases hsame : current = previous
    · rw [if_pos hsame]
      subst hsame
      obtain ⟨o, ho⟩ := hreach
      exact Ends.pure ⟨hwalked, o, _, _, ho, hprevious, hcurrent⟩
    · rw [if_neg hsame]
      have hsteady := H.steady hok
      obtain ⟨o, hround⟩ := hwalked.passes
      have hqueue : ∀ scheduled ∈ (Wired.endpoint device'.board).chip.queue,
          scheduled ∈ (Wired.endpoint device.board).chip.queue := fun scheduled hq =>
        hround.mem_queue (fun _ => Looks.isLocal) hsteady hq
      have hreach' : ∃ o, start.Passes H.Looks o (Wired.endpoint device.board) := by
        obtain ⟨o, ho⟩ := hreach
        obtain ⟨o', ho'⟩ := hprevious.passes
        exact ⟨_, ho.trans ho'⟩
      refine (ih hwalked.ok hstart hreach' hcurrent hprompt'
        (fun scheduled hq => hlast scheduled (hqueue scheduled hq)) ?_).mono ?_
      · by_cases hnone : (Wired.endpoint device.board).chip.queue = []
        · -- nothing is to come, so this reading was right, and the next one will be the same
          obtain ⟨hnone', hright⟩ := hcurrent.eq_of_nothing_pending hsteady hnone hw
          rcases hbound with ⟨-, hprev, -⟩ | hbound
          · have hkept := hround.nothing_pending (fun _ => Looks.isQuiet) hsteady hnone hw s
            exact absurd (hright.trans (hkept.2.trans hprev.symm)) hsame
          · exact .inl ⟨hnone', hright, by omega⟩
        · obtain ⟨scheduled, hq⟩ := List.exists_mem_of_ne_nil _ hnone
          have h1 := hprompt scheduled hq
          have h2 := hlast scheduled hq
          rcases hbound with ⟨hnil, -⟩ | hbound
          · exact absurd hnil hnone
          · right
            omega
      · rintro w device'' ⟨hwalked', hsettled⟩
        exact ⟨hwalked.trans hwalked', hsettled⟩

omit [Wired σ] in
theorem le_foldl_max (f : Scheduled → Nat) (events : List Scheduled) : ∀ start : Nat,
    start ≤ events.foldl (fun most scheduled => max most (f scheduled)) start ∧
      ∀ scheduled ∈ events,
        f scheduled ≤ events.foldl (fun most scheduled => max most (f scheduled)) start := by
  induction events with
  | nil => intro start; exact ⟨Nat.le_refl _, by simp⟩
  | cons scheduled events ih =>
    intro start
    obtain ⟨hstart, hall⟩ := ih (max start (f scheduled))
    refine ⟨Nat.le_trans (Nat.le_max_left _ _) hstart, fun next hnext => ?_⟩
    rcases List.mem_cons.1 hnext with rfl | hnext
    · exact Nat.le_trans (Nat.le_max_right _ _) hstart
    · exact hall next hnext

/-- A word of a socket settles: it is read twice in a row with the same result. -/
theorem settledWord_ends {device : Device σ} (hok : H.ok device.board) (hw : r.width = 2)
    (hr : r ≠ .txWrite) :
    Ends (settledWord (r.address s)) device fun w device' =>
      H.Walked H.Looks device device' ∧
        H.Settled r s w (Wired.endpoint device.board) (Wired.endpoint device'.board) := by
  have hsteady := H.steady hok
  refine Ends.bind (R := fun bound d => bound = Host.patience device.board ∧ device = d)
    (Ends.patience ⟨rfl, rfl⟩) ?_
  rintro _ _ ⟨rfl, rfl⟩
  refine Ends.bind (H.readWord_ends hok hw hr) ?_
  rintro first device' ⟨hwalked, hfirst, hprompt, htime⟩
  obtain ⟨o, hround⟩ := hwalked.passes
  have hmax := (le_foldl_max
    (fun scheduled => scheduled.due - (Wired.endpoint device.board).chip.transactions)
    (Wired.endpoint device.board).chip.queue 0).2
  refine (H.settle_ends hw hr
    ((Wired.endpoint device.board).chip.transactions +
      (Wired.endpoint device.board).chip.queue.foldl (fun most scheduled => max most
        (scheduled.due - (Wired.endpoint device.board).chip.transactions)) 0)
    _ hwalked.ok hsteady ⟨[], .refl⟩ hfirst hprompt ?_ ?_).mono ?_
  · intro scheduled hq
    have := hmax scheduled (hround.mem_queue (fun _ => Looks.isLocal) hsteady hq)
    omega
  · right
    rw [Wired.patience_eq, Chip.patience]
    omega
  · rintro w device'' ⟨hwalked', hsettled⟩
    exact ⟨hwalked.trans hwalked', hsettled⟩

/-! ## Commands -/

variable {device : Device σ} {command : SocketCommand} {P : Frame → Prop}

theorem note_ends (hok : H.ok device.board) (notice : Notice) :
    Ends (note notice) device fun _ device' => H.Walked P device device' := by
  refine (Ends.onLink (H.record notice hok)).mono ?_
  rintro _ device' ⟨⟨hok', hsame, hcalled⟩, hcontroller⟩
  refine ⟨hok', hcontroller, ⟨[], ?_⟩, fun h => ?_⟩
  · rw [hsame]
    exact .refl
  · rw [Alarmed, hsame]
    exact h.imp_right hcalled

theorem isLocal_command (h : command.isLocal) :
    (Frame.write (SocketRegister.command.address s) command.code).IsLocal := by
  intro _ t other _ hc
  have : some command = some other := (SocketCommand.ofCode?_code command).symm.trans hc
  cases this
  exact h

/-- One look at a command register: either the command has been accepted, or it is one look
closer to it. -/
theorem commandAccepted_ends (hok : H.ok device.board) :
    Ends (commandAccepted s) device fun r device' =>
      H.Walked H.Looks device device' ∧
        (r = none → (Wired.endpoint device'.board).chip.latches[s].busy <
          (Wired.endpoint device.board).chip.latches[s].busy) := by
  refine Ends.bind (Ends.onLink (H.readByte_ends hok (SocketRegister.command.address s))) ?_
  rintro value device' ⟨⟨o, h⟩, hcontroller⟩
  refine Ends.pure ⟨h.walked hcontroller hok (Frame.isLocal_read _) (.inl rfl) fun _ => .inr,
    fun hnone => ?_⟩
  have hsteady := H.steady hok
  have hread := Chip.read_command (s := s) hsteady.present
  have hreply := h.reply
  rw [Chip.serve_read, hread] at hreply
  by_cases hbusy : 0 < (Wired.endpoint device.board).chip.latches[s].busy
  · obtain ⟨o', -, hwalk⟩ := h.walk
    have hle := hwalk.busy_le (fun _ => H.isQuiet) (Endpoint.steady_turn_held hsteady _) s
    rw [Endpoint.latches_turn_held hsteady, Chip.serve_read, hread, if_pos hbusy,
      Chip.latches_mapLatch_self] at hle
    exact Nat.lt_of_le_of_lt hle (Nat.sub_lt hbusy Nat.zero_lt_one)
  · rw [if_neg hbusy] at hreply
    rw [if_pos hreply] at hnone
    cases hnone

/-- A command is given in one frame; everything behind it only looks. -/
theorem issue_ends_of (hok : H.ok device.board) (hturn : H.ok (Wired.rewire
      ((Wired.endpoint device.board).held.turn
        (Frame.write (SocketRegister.command.address s) command.code)).2 device.board)) :
    Ends (issue s command) device fun _ device' =>
      ∃ given o reply, H.Exchanged device.board
          (Frame.write (SocketRegister.command.address s) command.code) reply o given.board ∧
        given.controller = device.controller ∧ H.Walked H.Looks given device' := by
  refine Ends.bind (Ends.onLink (H.writeByte_ends_of hok hturn)) ?_
  rintro _ given ⟨⟨o, reply, h⟩, hcontroller⟩
  refine Ends.bind (R := fun bound d => bound = Host.patience given.board ∧ given = d)
    (Ends.patience ⟨rfl, rfl⟩) ?_
  rintro _ _ ⟨rfl, rfl⟩
  have hbusy : (Wired.endpoint given.board).chip.latches[s].busy < Host.patience given.board := by
    obtain ⟨o', -, hwalk⟩ := h.walk
    have hsteady := H.steady hok
    have hle := hwalk.busy_le (fun _ => H.isQuiet) (Endpoint.steady_turn_held hsteady _) s
    rw [Endpoint.latches_turn_held hsteady, Chip.serve_write, Chip.write_command hsteady.present,
      Chip.busy_command] at hle
    have := (Wired.endpoint device.board).chip.commandLatency.toNat_lt
    rw [Wired.patience_eq, Chip.patience]
    omega
  refine Ends.bind (Ends.pollWithin (I := fun d => H.Walked H.Looks given d)
    (μ := fun d => (Wired.endpoint d.board).chip.latches[s].busy)
    (Q := fun _ d => H.Walked H.Looks given d) ?_ _ given (.refl h.ok) hbusy) ?_
  · intro d hd
    refine (H.commandAccepted_ends hd.ok).mono ?_
    rintro r d' ⟨hd', hless⟩
    cases r with
    | some _ => exact hd.trans hd'
    | none => exact ⟨hd.trans hd', hless rfl⟩
  · intro _ d hd
    refine (H.note_ends (P := H.Looks) hd.ok _).mono ?_
    rintro _ d' hd'
    exact ⟨given, o, reply, h, hcontroller, hd.trans hd'⟩

/-- A command that only changes its own socket may be given at any time. -/
theorem issue_ends (hok : H.ok device.board) (hcommand : command.isLocal) :
    Ends (issue s command) device fun _ device' =>
      ∃ given o reply, H.Exchanged device.board
          (Frame.write (SocketRegister.command.address s) command.code) reply o given.board ∧
        given.controller = device.controller ∧ H.Walked H.Looks given device' :=
  H.issue_ends_of hok (H.turn_held hok (isLocal_command hcommand))

end Habit

/-- On every board a wait takes at least one look. -/
theorem Ends.sure_patience_bind {α : Type} {device : Device σ} {k : Nat → Attempt σ α}
    {Q : Except Error α → Device σ → Prop}
    (h : ∀ bound, Ends (k (bound + 1)).run device Q) :
    Ends (SpiEthernet.sure SpiEthernet.patience >>= k).run device Q := by
  refine Ends.sure_bind (R := fun bound d => (∃ n, bound = n + 1) ∧ d = device)
    (Ends.patience ⟨?_, rfl⟩) ?_
  · rw [Wired.patience_eq, Chip.patience]
    exact ⟨_, rfl⟩
  · rintro _ _ ⟨⟨bound, rfl⟩, rfl⟩
    exact h bound

end Waiting

end SpiEthernet
