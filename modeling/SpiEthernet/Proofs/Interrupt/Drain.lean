import SpiEthernet.Proofs.Link.Travel

/-!
# A drain, frame by frame

What a drain does is written down once, as relations between the device before and after it: one
socket, one pass, and all passes. Everything else that is said about drains is said about these
relations.

* `Habit.drain_ends` : a drain always ends, and it is one of the listed runs.
* `Drained.passes` : a drain exchanges only reads and writes to the interrupt registers.
-/

namespace SpiEthernet

section Drain

variable {σ : Type} [Host σ] [Wired σ]

namespace Habit

variable (H : Habit σ)

/-! ## The runs of a drain -/

/-- What a drain does about a socket, where `seen` is what it read from the interrupt register. -/
inductive SocketDrained (seen : UInt8) (s : SocketId) (start : Device σ) :
    List Occurrence → Device σ → Prop where
  /-- The interrupt register did not name the socket. -/
  | unseen (hseen : hasBits seen s.interruptBit = false) : SocketDrained seen s start [] start
  /-- The socket's flags read as zero. -/
  | silent {o : List Occurrence} {board : σ}
    (h : H.Exchanged start.board (Frame.read (SocketRegister.interrupt.address s)) 0 o board) :
    SocketDrained seen s start o ⟨board, start.controller⟩
  /-- The socket's flags are remembered and cleared. -/
  | moved {raw reply : UInt8} {o o' : List Occurrence} {board board' : σ} (hraw : raw ≠ 0)
    (h : H.Exchanged start.board (Frame.read (SocketRegister.interrupt.address s)) raw o board)
    (h' : H.Exchanged board (Frame.write (SocketRegister.interrupt.address s) raw) reply o'
      board') :
    SocketDrained seen s start (o ++ o')
      ⟨board', start.controller.mapSticky (·.recordSocket s raw)⟩

/-- What a drain does about some sockets, one after the other. -/
inductive SocketsDrained (seen : UInt8) :
    List SocketId → Device σ → List Occurrence → Device σ → Prop where
  | nil (device : Device σ) : SocketsDrained seen [] device [] device
  | cons {s : SocketId} {rest : List SocketId} {start middle now : Device σ}
    {o o' : List Occurrence} (h : H.SocketDrained seen s start o middle)
    (h' : SocketsDrained seen rest middle o' now) :
    SocketsDrained seen (s :: rest) start (o ++ o') now

/-- What a drain does about the global flags: it may look around and leave remarks, remembers
the flags, and clears them if there are any. -/
inductive GlobalDrained (seen : UInt8) (start : Device σ) : List Occurrence → Device σ → Prop where
  | silent {o : List Occurrence} {now : Device σ} (hseen : seen &&& InterruptFlag.global = 0)
    (hok : H.ok now.board)
    (hpasses : (Wired.endpoint start.board).Passes H.Looks o (Wired.endpoint now.board))
    (halarmed : H.Alarmed start.board → H.Alarmed now.board)
    (hsticky : now.controller.sticky = start.controller.sticky.recordGlobal seen) :
    GlobalDrained seen start o now
  | moved {reply : UInt8} {o o' : List Occurrence} {middle : Device σ} {board : σ}
    (hseen : seen &&& InterruptFlag.global ≠ 0) (hok : H.ok middle.board)
    (hpasses : (Wired.endpoint start.board).Passes H.Looks o (Wired.endpoint middle.board))
    (halarmed : H.Alarmed start.board → H.Alarmed middle.board)
    (hsticky : middle.controller.sticky = start.controller.sticky.recordGlobal seen)
    (h' : H.Exchanged middle.board (Frame.write CommonRegister.interrupt.address
      (seen &&& InterruptFlag.global)) reply o' board) :
    GlobalDrained seen start (o ++ o') ⟨board, middle.controller⟩

/-- What a drain does, with a limit on its passes. -/
inductive Drained : Nat → Device σ → List Occurrence → Device σ → Prop where
  /-- The line never got quiet. -/
  | limit {start now : Device σ} (hok : H.ok now.board)
    (hsame : Wired.endpoint now.board = Wired.endpoint start.board)
    (halarmed : H.Alarmed start.board → H.Alarmed now.board)
    (hcontroller : now.controller = start.controller) : Drained 0 start [] now
  /-- The interrupt register reads as zero. -/
  | quiet {passes : Nat} {start : Device σ} {o : List Occurrence} {board : σ}
    (h : H.Exchanged start.board (Frame.read CommonRegister.interrupt.address) 0 o board) :
    Drained (passes + 1) start o ⟨board, start.controller⟩
  /-- One pass, and then the others. -/
  | pass {passes : Nat} {current : UInt8} {start sockets all now : Device σ} {board : σ}
    {o o' o'' rest : List Occurrence} (hcurrent : current ≠ 0)
    (h : H.Exchanged start.board (Frame.read CommonRegister.interrupt.address) current o board)
    (hs : H.SocketsDrained current SocketId.all ⟨board, start.controller⟩ o' sockets)
    (hg : H.GlobalDrained current sockets o'' all) (hrest : Drained passes all rest now) :
    Drained (passes + 1) start (o ++ (o' ++ (o'' ++ rest))) now

/-! ## A drain is one of its runs -/

variable {H} {device : Device σ} {seen : UInt8}

theorem isLocal_write_interrupt (s : SocketId) (value : UInt8) :
    (Frame.write (SocketRegister.interrupt.address s) value).IsLocal :=
  Frame.IsQuiet.isLocal fun _ => .inr ⟨s, rfl⟩

theorem isLocal_write_global (value : UInt8) :
    (Frame.write CommonRegister.interrupt.address value).IsLocal :=
  Frame.IsQuiet.isLocal fun _ => .inl rfl

variable (H)

theorem drainSocket_ends (hok : H.ok device.board) (seen : UInt8) (s : SocketId) :
    Ends (drainSocket seen s) device fun _ device' =>
      H.ok device'.board ∧ ∃ o, H.SocketDrained seen s device o device' := by
  unfold drainSocket
  by_cases hseen : hasBits seen s.interruptBit
  · rw [if_pos hseen]
    refine Ends.bind (Ends.onLink (H.readByte_ends hok _)) ?_
    rintro raw ⟨board, _⟩ ⟨⟨o, h⟩, rfl⟩
    by_cases hraw : raw = 0
    · subst hraw
      rw [if_neg (fun hne => hne rfl)]
      exact Ends.pure ⟨h.ok, o, .silent h⟩
    · rw [if_pos hraw]
      refine Ends.bind (R := fun _ d => d = ⟨board, device.controller.mapSticky
        (·.recordSocket s raw)⟩) (Ends.changeController rfl) ?_
      rintro _ _ rfl
      refine Ends.mono (Ends.onLink (H.writeByte_ends h.ok (isLocal_write_interrupt s raw))) ?_
      rintro _ ⟨board', _⟩ ⟨⟨o', reply, h'⟩, rfl⟩
      exact ⟨h'.ok, _, .moved hraw h h'⟩
  · rw [if_neg hseen]
    exact Ends.pure ⟨hok, [], .unseen (by simpa using hseen)⟩

theorem drainSockets_ends (seen : UInt8) (sockets : List SocketId) :
    ∀ device : Device σ, H.ok device.board →
      Ends (sockets.forM (drainSocket seen)) device fun _ device' =>
        H.ok device'.board ∧ ∃ o, H.SocketsDrained seen sockets device o device' := by
  induction sockets with
  | nil => exact fun device hok => Ends.pure ⟨hok, [], .nil device⟩
  | cons s rest ih =>
    intro device hok
    refine Ends.bind (H.drainSocket_ends hok seen s) ?_
    rintro _ middle ⟨hok', o, h⟩
    refine (ih middle hok').mono ?_
    rintro _ now ⟨hok'', o', h'⟩
    exact ⟨hok'', _, .cons h h'⟩

/-- Part of a drain that only looks around and collects no flag. -/
def Browsed (start now : Device σ) : Prop :=
  H.ok now.board ∧
    (∃ o, (Wired.endpoint start.board).Passes H.Looks o (Wired.endpoint now.board)) ∧
    (H.Alarmed start.board → H.Alarmed now.board) ∧ now.controller.sticky = start.controller.sticky

variable {H}

theorem Walked.browsed {start now : Device σ} (h : H.Walked H.Looks start now) :
    H.Browsed start now :=
  ⟨h.ok, h.passes, h.alarmed, by rw [h.controller]⟩

theorem Browsed.trans {start middle now : Device σ} (h : H.Browsed start middle)
    (h' : H.Browsed middle now) : H.Browsed start now := by
  obtain ⟨-, ⟨o, ho⟩, ha, hs⟩ := h
  obtain ⟨hok', ⟨o', ho'⟩, ha', hs'⟩ := h'
  exact ⟨hok', ⟨_, ho.trans ho'⟩, ha' ∘ ha, hs'.trans hs⟩

variable (H)

/-- Remembering an unreachable destination only reads. -/
theorem latchUnreachable_ends (hok : H.ok device.board) :
    Ends latchUnreachable device fun _ device' => H.Browsed device device' := by
  have hlooks : ∀ frame, H.Looks frame → H.Looks frame := fun _ h => h
  refine Ends.bind (Travels.readIpv4 hlooks _ device hok) ?_
  rintro ip first hfirst
  refine Ends.bind (Travels.readWord hlooks _ first hfirst.ok) ?_
  rintro destinationPort second hsecond
  refine Ends.bind (H.note_ends (P := H.Looks) hsecond.ok _) ?_
  rintro _ third hthird
  have hall := (hfirst.trans hsecond).trans hthird
  refine Ends.changeController ⟨hall.ok, hall.passes, hall.alarmed, ?_⟩
  show third.controller.sticky = _
  rw [hall.controller]

theorem drainGlobal_ends (hok : H.ok device.board) (seen : UInt8) :
    Ends (drainGlobal seen) device fun _ device' =>
      H.ok device'.board ∧ ∃ o, H.GlobalDrained seen device o device' := by
  unfold drainGlobal
  have hbrowsed : H.Browsed device device := (Walked.refl hok).browsed
  refine Ends.guarded hbrowsed (H.latchUnreachable_ends hok) fun first hfirst => ?_
  refine Ends.guarded hfirst ((H.note_ends (P := H.Looks) hfirst.1 _).mono fun _ _ h =>
    hfirst.trans h.browsed) fun second hsecond => ?_
  obtain ⟨hok', ⟨o, hpasses⟩, halarmed, hsticky⟩ := hsecond
  refine Ends.bind (R := fun _ d =>
    d = ⟨second.board, second.controller.mapSticky (·.recordGlobal seen)⟩)
    (Ends.changeController rfl) ?_
  rintro _ _ rfl
  have hrecorded : (second.controller.mapSticky (·.recordGlobal seen)).sticky =
      device.controller.sticky.recordGlobal seen := by
    show second.controller.sticky.recordGlobal seen = _
    rw [hsticky]
  by_cases hg : seen &&& InterruptFlag.global = 0
  · rw [if_neg (fun hne => hne hg)]
    exact Ends.pure ⟨hok', o, .silent hg hok' hpasses halarmed hrecorded⟩
  · rw [if_pos hg]
    refine Ends.mono (Ends.onLink (H.writeByte_ends hok' (isLocal_write_global _))) ?_
    rintro _ ⟨board, _⟩ ⟨⟨o', reply, h'⟩, rfl⟩
    exact ⟨h'.ok, _, .moved hg hok' hpasses halarmed hrecorded h'⟩

theorem drainPasses_ends (passes : Nat) : ∀ {device : Device σ} {seen : UInt8},
    H.ok device.board → Ends (drainPasses seen passes) device fun _ device' =>
      H.ok device'.board ∧ ∃ o, H.Drained passes device o device' := by
  induction passes with
  | zero =>
    intro device seen hok
    refine Ends.bind (Ends.onLink (H.record _ hok)) ?_
    rintro _ now ⟨⟨hok', hsame, hcalled⟩, hcontroller⟩
    refine Ends.pure ⟨hok', [], .limit hok' hsame (fun h => ?_) hcontroller⟩
    rw [Alarmed, hsame]
    exact h.imp_right hcalled
  | succ passes ih =>
    intro device seen hok
    refine Ends.bind (Ends.onLink (H.readByte_ends hok _)) ?_
    rintro current ⟨board, _⟩ ⟨⟨o, h⟩, rfl⟩
    by_cases hcurrent : current = 0
    · subst hcurrent
      rw [if_pos rfl]
      exact Ends.pure ⟨h.ok, o, .quiet h⟩
    · rw [if_neg hcurrent]
      refine Ends.bind (H.drainSockets_ends current _ ⟨board, device.controller⟩ h.ok) ?_
      rintro _ sockets ⟨hsockets, o', hs⟩
      refine Ends.bind (H.drainGlobal_ends hsockets current) ?_
      rintro _ all ⟨hall, o'', hg⟩
      refine (ih hall).mono ?_
      rintro _ now ⟨hnow, rest, hrest⟩
      exact ⟨hnow, _, .pass hcurrent h hs hg hrest⟩

/-- A drain always ends, and it is one of its runs. -/
theorem drain_ends (device : Device σ) (hok : H.ok device.board) :
    Ends drain device fun _ device' =>
      H.ok device'.board ∧ ∃ o, H.Drained drainPassLimit device o device' :=
  H.drainPasses_ends drainPassLimit hok

/-! ## The frames of a drain -/

variable {H} {o : List Occurrence} {now : Device σ}

theorem SocketDrained.passes {s : SocketId} (h : H.SocketDrained seen s device o now) :
    (Wired.endpoint device.board).Passes Frame.IsQuiet o (Wired.endpoint now.board) := by
  cases h with
  | unseen => exact .refl
  | silent h => exact h.passes (Frame.isQuiet_read _) fun _ => H.isQuiet
  | moved _ h h' =>
    refine (h.passes (Frame.isQuiet_read _) fun _ => H.isQuiet).trans ?_
    exact h'.passes (fun _ => .inr ⟨s, rfl⟩) fun _ => H.isQuiet

theorem SocketsDrained.passes {sockets : List SocketId}
    (h : H.SocketsDrained seen sockets device o now) :
    (Wired.endpoint device.board).Passes Frame.IsQuiet o (Wired.endpoint now.board) := by
  induction h with
  | nil => exact .refl
  | cons h _ ih => exact h.passes.trans ih

theorem GlobalDrained.passes (h : H.GlobalDrained seen device o now) :
    (Wired.endpoint device.board).Passes Frame.IsQuiet o (Wired.endpoint now.board) := by
  cases h with
  | silent _ _ hpasses => exact hpasses.mono fun _ => Looks.isQuiet
  | moved _ _ hpasses _ _ h' =>
    refine (hpasses.mono fun _ => Looks.isQuiet).trans ?_
    exact h'.passes (fun _ => .inl rfl) fun _ => H.isQuiet

/-- A drain exchanges only reads and writes to the interrupt registers. -/
theorem Drained.passes {limit : Nat} (h : H.Drained limit device o now) :
    (Wired.endpoint device.board).Passes Frame.IsQuiet o (Wired.endpoint now.board) := by
  induction h with
  | limit _ hsame =>
    rw [hsame]
    exact .refl
  | quiet h => exact h.passes (Frame.isQuiet_read _) fun _ => H.isQuiet
  | pass _ h hs hg _ ih =>
    have hfirst := h.passes (P := Frame.IsQuiet) (Frame.isQuiet_read _) fun _ => H.isQuiet
    exact hfirst.trans (hs.passes.trans (hg.passes.trans ih))

end Habit

end Drain

end SpiEthernet
