import SpiEthernet.Proofs.Interrupt.Cover
import SpiEthernet.Proofs.Interrupt.Sharing
import SpiEthernet.Proofs.Operation.Device

/-!
# A board that pays attention

On a board whose handler is connected to the interrupt line, an enabled interrupt that is lit has
either asserted the line since the handler last looked, or left a request to drain. This is so
while the lock is held, where the handler can only leave requests, and while it is free, where the
handler drains at once; and when the lock is given back, no request is left.

* `vigilant_watched`, `vigilant_attentive` : nothing that happens to the board by itself breaks
  this.
* `keeps_withShared` : a call that keeps it under the lock keeps it altogether.
-/

namespace SpiEthernet

namespace Board

/-! ## Paying attention -/

/-- Every enabled interrupt that is lit has asserted the line or left a request. -/
structure Attended (board : Board) : Prop where
  hooked : board.hooked = true
  steady : board.chip.Steady
  stored : Within board.chip.stored InterruptFlag.global
  announced : board.chip.Lit .none → board.chip.edge = true ∨ board.deferred = true

/-- A board that pays attention while its lock is held. -/
structure Watched (board : Board) : Prop where
  attended : board.Attended
  locked : board.shared.locked = true

/-- A board that pays attention while its lock is free, with no request left. -/
structure Attentive (board : Board) : Prop where
  attended : board.Attended
  shared : ∃ controller, board.shared = Spinlock.new (some controller)
  deferred : board.deferred = false

/-- Whatever happens to the chip, it announces what it lights. -/
theorem Attended.bench {board : Board} (h : board.Attended) {bench : Bench}
    (hannounces : board.chip.Announces bench.endpoint.chip) (hsteady : bench.endpoint.chip.Steady) :
    { board with bench }.Attended where
  hooked := h.hooked
  steady := hsteady
  stored := hannounces.stored h.stored
  announced hlit := by
    rcases hannounces.lit _ hlit with hedge | hlit
    · exact .inl hedge
    · exact (h.announced hlit).imp_left hannounces.edge

/-- A request left makes up for whatever has not been announced. -/
theorem Attended.requested {board : Board} (h : board.Attended) :
    { board with deferred := true }.Attended :=
  ⟨h.hooked, h.steady, h.stored, fun _ => .inr rfl⟩

/-! ## What happens by itself -/

/-- A property of a board that is broken neither by harmless frames nor by the handler. -/
structure Vigilant (I : Board → Prop) : Prop where
  steady {board : Board} (h : I board) : board.chip.Steady
  bench {board : Board} {bench : Bench} (h : I board)
    (hannounces : board.chip.Announces bench.endpoint.chip)
    (hsteady : bench.endpoint.chip.Steady) : I { board with bench }
  unmask : Keeps I Board.unmask
  onInterrupt : Keeps I Board.onInterrupt

theorem Vigilant.robust {I : Board → Prop} (h : Vigilant I) : Robust Frame.IsHarmless I := by
  refine Robust.of_calls (fun _ hw => nomatch hw) ?mask (fun before => ?restore)
    (fun frame hf => ?exchange) fun notice => ?record
  case mask =>
    intro board _ _ hI hrun
    rw [Wired.mask_eq] at hrun
    cases hrun
    exact h.bench hI (.refl _) (h.steady hI)
  case restore =>
    intro board _ _ hI hrun
    rw [restore_eq] at hrun
    cases before with
    | false =>
      cases hrun
      exact hI
    | true => exact h.unmask board _ _ hI hrun
  case exchange =>
    intro board _ _ hI hrun
    have hsteady := h.steady hI
    rw [Wired.exchange_eq _ _ hsteady] at hrun
    cases hrun
    have hserved := Chip.announces_serve hsteady.present hf
    have hserve := hsteady.serve frame
    exact h.bench hI (hserved.trans hserve.announces_afterFrame) hserve.afterFrame
  case record =>
    intro board _ _ hI hrun
    cases hrun
    exact h.bench hI (.refl _) (h.steady hI)

theorem vigilant_watched : Vigilant Watched where
  steady h := h.attended.steady
  bench h hannounces hsteady := ⟨h.attended.bench hannounces hsteady, h.locked⟩
  unmask board _ _ h hrun := by
    rw [unmask_locked h.locked] at hrun
    cases hrun
    refine ⟨⟨h.attended.hooked, h.attended.steady.of_casing rfl, h.attended.stored, ?_⟩, h.locked⟩
    intro hlit
    have hlit : board.chip.Lit .none := (Chip.lit_of_memory rfl .none).1 hlit
    right
    show (board.calls || board.deferred) = true
    rcases h.attended.announced hlit with hedge | hdeferred
    · rw [calls, hedge, h.attended.hooked]
      rfl
    · rw [hdeferred, Bool.or_true]
  onInterrupt board _ _ h hrun := by
    rw [onInterrupt_locked h.locked] at hrun
    cases hrun
    exact ⟨h.attended.requested, h.locked⟩

/-- While the lock is held, the handler stays connected and the lock stays held. -/
theorem vigilant_held : Vigilant fun board => board.hooked = true ∧ board.Held where
  steady h := h.2.steady
  bench h _ hsteady := ⟨h.1, h.2.locked, hsteady⟩
  unmask board _ _ h hrun := by
    rw [unmask_locked h.2.locked] at hrun
    cases hrun
    exact ⟨h.1, h.2.locked, h.2.steady.of_casing rfl⟩
  onInterrupt board _ _ h hrun := by
    rw [onInterrupt_locked h.2.locked] at hrun
    cases hrun
    exact ⟨h.1, h.2.locked, h.2.steady⟩

/-! ## Serving requests -/

/-- Whatever is lit before a drain under the lock, the board pays attention behind it. -/
theorem drain_watched : Leads (fun d : Device Board => (d.board.hooked = true ∧ d.board.Held) ∧
    Within d.board.chip.stored InterruptFlag.global) drain fun _ d => d.board.Watched := by
  rintro device seen device' ⟨hheld, hstored⟩ hrun
  obtain ⟨hhooked, hlocked, -⟩ :=
    vigilant_held.robust.routine.quiet.drain device seen device' hheld hrun
  have hcovered := Habit.drain_covers (H := Habit.locked device.board.load) (fun _ => id) device
    seen device' ⟨hheld.2.ok, hstored⟩ hrun
  refine ⟨⟨hhooked, hcovered.ok.2.1, hcovered.stored, fun hlit => ?_⟩, hlocked⟩
  exact (hcovered.alarmed hlit).imp_right fun hcalled => hcalled hhooked

/-- Serving the requests ends with none left, and the board pays attention. -/
theorem service_watched : Leads (fun d : Device Board => d.board.Watched) service
    fun _ d => d.board.Watched ∧ d.board.deferred = false := by
  refine Leads.bind Keeps.patience fun bound => Leads.pollWithin ?_ bound
  refine Leads.get_bind fun device h => ?_
  split
  · refine Leads.bind (R := fun _ d => d.board = { device.board with deferred := false }) ?_ ?_
    · rintro ⟨board, controller⟩ _ _ rfl hrun
      cases hrun
      rfl
    intro _
    have hdrain : Leads (fun d : Device Board => d.board = { device.board with deferred := false })
        drain fun _ d => d.board.Watched := drain_watched.mono fun d hd => by
      rw [hd]
      exact ⟨⟨h.attended.hooked, h.locked, h.attended.steady⟩, h.attended.stored⟩
    exact Leads.bind hdrain fun _ => Leads.pure fun _ => id
  · next hnone =>
    refine Leads.pure ?_
    rintro _ rfl
    exact ⟨h, by simpa using hnone⟩

/-! ## While the lock is free -/

variable {board : Board} {controller : Controller}

/-- A board whose lock is given back with no request left pays attention. -/
theorem Watched.released (h : board.Watched) (hdeferred : board.deferred = false)
    (controller : Controller) : (board.released controller).Attentive where
  attended := ⟨h.attended.hooked, h.attended.steady, h.attended.stored, h.attended.announced⟩
  shared := ⟨controller, rfl⟩
  deferred := hdeferred

/-- On a free lock, the board pays attention behind the handler, whatever was lit before. -/
theorem handle_attentive (hhooked : board.hooked = true) (hsteady : board.chip.Steady)
    (hstored : Within board.chip.stored InterruptFlag.global)
    (hshared : board.shared = Spinlock.new (some controller)) :
    Ends handle board fun _ board' => board'.Attentive ∧ board'.handled = board.handled := by
  have hok : Habit.bench.ok board.bench := hsteady
  have hdrain : Ends drain ⟨board.bench, controller⟩
      fun _ d => Habit.bench.Covered .none d.board := by
    refine (Habit.drain_covers (H := Habit.bench) fun _ => id).ends ⟨hok, hstored⟩ ?_
    exact (Habit.bench.drain_ends _ hok).mono fun _ _ _ => trivial
  refine (handle_free hshared hdrain).mono ?_
  rintro _ _ ⟨_, device, hcovered, rfl⟩
  refine ⟨⟨⟨hhooked, hcovered.ok, hcovered.stored, fun hlit => ?_⟩, ⟨_, rfl⟩, rfl⟩, rfl⟩
  exact .inl ((hcovered.alarmed hlit).resolve_right id)

/-- When the interrupt is let through on a free lock, the handler runs if the line has been
asserted. -/
theorem unmask_attentive (h : board.Attentive) :
    Ends Board.unmask board fun _ board' => board'.Attentive ∧
      board'.handled = if board.chip.edge then board.handled + 1 else board.handled := by
  obtain ⟨hattended, ⟨controller, hshared⟩, hdeferred⟩ := h
  have hsteady : board.noticed.chip.Steady := hattended.steady.of_casing rfl
  unfold Ends
  rw [unmask_eq, hattended.hooked, Bool.and_true]
  cases hedge : board.chip.edge with
  | true =>
    rw [if_pos rfl, if_pos rfl]
    have hhandled : Ends handle board.alerted fun _ board' =>
        board'.Attentive ∧ board'.handled = board.alerted.handled :=
      handle_attentive hattended.hooked hsteady hattended.stored hshared
    exact hhandled
  | false =>
    rw [if_neg (by decide), if_neg (by decide)]
    refine ⟨(), _, rfl, ⟨⟨hattended.hooked, hsteady, hattended.stored, fun hlit => ?_⟩,
      ⟨controller, hshared⟩, hdeferred⟩, rfl⟩
    refine (hattended.announced ((Chip.lit_of_memory rfl .none).1 hlit)).imp_left fun h => ?_
    rw [hedge] at h
    cases h

/-- A computation that leaves a watched board with no request leaves an attentive board behind
the lock. -/
theorem holding_attentive {α : Type} {body : DeviceM Board α}
    (hbody : Leads (fun d => d.board.Watched) body
      fun _ d => d.board.Watched ∧ d.board.deferred = false)
    (h : board.Attended) : Leads (fun b => b = board) (holding controller body)
      fun _ board' => board'.Attentive := by
  rintro b a board' hb hrun
  rw [hb, holding_eq] at hrun
  have hwatched : board.taken.Watched :=
    ⟨⟨h.hooked, h.steady, h.stored, h.announced⟩, rfl⟩
  cases hr : body ⟨board.taken, controller⟩ with
  | error fault =>
    rw [hr] at hrun
    cases hrun
  | ok result =>
    rw [hr] at hrun
    cases hrun
    obtain ⟨hwatched', hdeferred⟩ := hbody _ result.1 result.2 hwatched hr
    exact hwatched'.released hdeferred _

/-- Catching up leaves no request. -/
theorem catchUp_attentive : Leads (fun b => b.Attended ∧ ∃ controller,
    b.shared = Spinlock.new (some controller)) catchUp fun _ b => b.Attentive := by
  refine Leads.get_bind fun b ⟨hattended, controller, hshared⟩ => ?_
  cases hdeferred : b.deferred with
  | false =>
    refine Leads.pure ?_
    rintro _ rfl
    exact ⟨hattended, ⟨controller, hshared⟩, hdeferred⟩
  | true =>
    rw [hshared]
    exact holding_attentive service_watched hattended

/-- Nothing that happens by itself distracts an attentive board. -/
theorem vigilant_attentive : Vigilant Attentive where
  steady h := h.attended.steady
  bench h hannounces hsteady := ⟨h.attended.bench hannounces hsteady, h.shared, h.deferred⟩
  unmask := Keeps.of_ends fun _ h => (unmask_attentive h).mono fun _ _ h => h.1
  onInterrupt := by
    refine Leads.bind (R := fun _ b => b.Attended ∧ ∃ controller,
      b.shared = Spinlock.new (some controller)) ?_ fun _ => catchUp_attentive
    intro b _ _ h hrun
    cases hrun
    exact ⟨h.attended.requested, h.shared⟩

/-- A call whose body keeps a watched board leaves an attentive board as it found it. -/
theorem keeps_withShared {α : Type} {body : DeviceM Board α}
    (h : Keeps (fun d => d.board.Watched) body) : Keeps Attentive (withShared body) := by
  refine Leads.get_bind fun b hb => ?_
  obtain ⟨controller, hshared⟩ := hb.shared
  rw [hshared]
  refine Leads.bind (holding_attentive ?_ hb.attended) fun result => ?_
  · exact Leads.bind h fun _ => Leads.bind service_watched fun _ => Leads.pure fun _ => id
  · refine Leads.bind (R := fun _ b => b.Attentive) ?_ fun _ => Leads.pure fun _ => id
    exact catchUp_attentive.mono fun _ h => ⟨h.attended, h.shared⟩

end Board

end SpiEthernet
