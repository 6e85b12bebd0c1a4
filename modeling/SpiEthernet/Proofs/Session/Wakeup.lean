import SpiEthernet.Proofs.Interrupt.Attention
import SpiEthernet.Proofs.Operation.Channel
import SpiEthernet.Session.Run

/-!
# No wakeup is lost

A session shares a controller whose handler is connected to the interrupt line, and then only
works on it through calls that take the lock: whatever operations but a reset they carry out,
whatever events happen before, in or between them, and whatever else looks at the chip meanwhile.
Between two steps of such a session no request is waiting, and an enabled interrupt that is lit
has asserted the line, so that the handler runs as soon as the interrupt is let through.

* `keeps_reportStep` : a step of the foreground leaves the board attentive.
* `no_wakeup_lost` : so does a whole session.
-/

namespace SpiEthernet

namespace Session

/-! ## Steps of the foreground -/

/-- Whether a step on the board only looks, lets ordinary events happen, arranges what the chip
does later, or calls the handler. -/
def BoardStep.isForeground : BoardStep → Bool
  | link (.readByte _) | link (.readBlock ..) | link (.readRegister _) => true
  | link _ | poke .. | pokeWord .. | hook => false
  | raise event | schedule _ event => event.isOrdinary
  | _ => true

/-- Whether a step without a controller belongs to the foreground. -/
def FreeStep.isForeground : FreeStep → Bool
  | board step => step.isForeground
  | tool _ => true

/-- Whether a step on a channel belongs to the foreground. -/
def ChannelStep.isForeground : ChannelStep → Bool
  | free step => step.isForeground
  | channel _ => true

/-- Whether a step with a controller belongs to the foreground, which does not reset the chip. -/
def ControllerStep.isForeground : ControllerStep → Bool
  | device operation => operation ≠ .init
  | resolve .. => true
  | channel _ _ steps => steps.all ChannelStep.isForeground

/-- Whether a step under the lock belongs to the foreground. -/
def HeldStep.isForeground : HeldStep → Bool
  | free step => step.isForeground
  | controller step => step.isForeground

/-- Whether a step of a session belongs to the foreground, which works on the controller under
its lock only. -/
def Step.isForeground : Step → Bool
  | free step => step.isForeground
  | withShared steps => steps.all HeldStep.isForeground
  | again _ step => step.isForeground
  | _ => false

section Vigilant

variable {α : Type} {I : Board → Prop} (h : Board.Vigilant I)

include h

/-! ## On the board -/

theorem keeps_onChip {action : LinkM Chip α}
    (haction : ∀ chip a chip', action chip = .ok (a, chip') → chip.Steady →
      chip.Announces chip' ∧ chip'.Steady) : Keeps I (Board.onChip action) := by
  intro board a board' hI hrun
  rw [Board.onChip_eq] at hrun
  cases hr : action board.chip with
  | error fault =>
    rw [hr] at hrun
    cases hrun
  | ok result =>
    rw [hr] at hrun
    cases hrun
    obtain ⟨hannounces, hsteady⟩ := haction board.chip result.1 result.2 hr (h.steady hI)
    exact h.bench hI hannounces hsteady

theorem keeps_changeChip {f : Chip → Chip}
    (hf : ∀ chip : Chip, chip.Steady → chip.Announces (f chip) ∧ (f chip).Steady) :
    Keeps I (changeChip f) := by
  refine Keeps.bind (keeps_onChip h ?_) fun _ => Keeps.pure _
  intro chip _ _ hrun hsteady
  cases hrun
  exact hf chip hsteady

theorem keeps_raise {event : Event} (hevent : event.isOrdinary) :
    Keeps I (tryChange (·.apply event)) := by
  refine Keeps.bind (keeps_onChip h ?_) fun _ => Keeps.pure _
  intro chip _ _ hrun hsteady
  have hhappen : (do return ((), ← chip.apply event) : Except Fault (Unit × Chip)) =
      .ok ((), chip.happen event) := by
    rw [chip.apply_eq_happen hevent]
    rfl
  cases hhappen.symm.trans hrun
  exact ⟨chip.announces_happen hevent, hsteady.of_casing (chip.casing_happen hevent)⟩

omit h in
theorem keeps_tryLook (f : Chip → Except Fault α) (g : α → Outcome) :
    Keeps I (tryLook f g) := by
  refine Leads.get_bind fun board hI => ?_
  refine Leads.bind (R := fun _ => I) ?_ fun _ => Leads.pure fun _ => id
  rintro b a b' rfl hrun
  cases hr : f b.chip with
  | error fault =>
    rw [hr] at hrun
    cases hrun
  | ok value =>
    rw [hr] at hrun
    cases hrun
    exact hI

omit h in
theorem keeps_lookAt (f : Chip → Outcome) : Keeps I (lookAt f) :=
  Keeps.get_bind fun _ => Keeps.pure _

theorem keeps_readRegister (register : Register) :
    Keeps I (readRegister register : LinkM Board Outcome) := by
  have hrobust := h.robust
  unfold readRegister
  split
  · exact Keeps.bind (hrobust.readByte _) fun _ => Keeps.pure _
  · exact Keeps.bind (hrobust.readWord _) fun _ => Keeps.pure _
  · exact Keeps.bind (hrobust.readBlock _ _) fun _ => Keeps.pure _

theorem keeps_performBoard {step : BoardStep} (hstep : step.isForeground) :
    Keeps I (performBoard step) := by
  unfold performBoard
  cases step with
  | link operation =>
    cases operation with
    | readByte address => exact Keeps.bind (h.robust.readByte _) fun _ => Keeps.pure _
    | readBlock address count => exact Keeps.bind (h.robust.readBlock _ _) fun _ => Keeps.pure _
    | readRegister register => exact keeps_readRegister h register
    | _ => cases hstep
  | peek | peekWord | dump => exact keeps_tryLook _ _
  | poke | pokeWord | hook => cases hstep
  | txRing | pendingTxWrite | chipStatus | socketInterrupt | pendingEvents | transactions =>
    exact keeps_lookAt _
  | setPointers s tx rx =>
    refine keeps_changeChip h fun chip hsteady => ⟨chip.announces_setPointers s tx rx, ?_⟩
    exact hsteady.of_casing (by simp [Chip.setPointers])
  | setStatus s status =>
    refine keeps_changeChip h fun chip hsteady => ⟨chip.announces_setStatus s status, ?_⟩
    exact hsteady.of_casing (chip.casing_setByteOf s _ _)
  | raise event => exact keeps_raise h hstep
  | schedule delay event =>
    refine keeps_changeChip h fun chip hsteady => ⟨Chip.announces_of_memory rfl rfl, ?_⟩
    exact hsteady.schedule delay hstep
  | setCommandLatency | setSendTimeout | setReplies =>
    refine keeps_changeChip h fun chip hsteady => ⟨Chip.announces_of_memory rfl rfl, ?_⟩
    exact ⟨hsteady.present, hsteady.ordinary⟩
  | onInterrupt => exact Keeps.bind h.onInterrupt fun _ => Keeps.pure _
  | drainPending => exact Keeps.get_bind fun _ => Keeps.pure _
  | invalid => exact Keeps.pure _

theorem keeps_performFree {step : FreeStep} (hstep : step.isForeground) :
    Keeps I (performFree step) := by
  cases step with
  | board step => exact Keeps.lift (keeps_performBoard h hstep)
  | tool step => exact fun _ => Keeps.pure _

/-! ## Reports -/

theorem keeps_takeTraffic : Keeps I takeTraffic := by
  have htrace : Keeps I (Board.onBench (Bench.onEndpoint (modifyGet takeTrace))) := by
    intro board _ _ hI hrun
    cases hrun
    exact h.bench hI (.refl _) (h.steady hI)
  have hsent : Keeps I (Board.onChip (modifyGet takeSent)) := by
    refine keeps_onChip h fun chip _ _ hrun hsteady => ?_
    cases hrun
    exact ⟨Chip.announces_of_memory rfl rfl, hsteady.of_casing rfl⟩
  have hlog : Keeps I (Board.onBench (Bench.onJournal Journal.takeLines)) := by
    intro board _ _ hI hrun
    cases hrun
    exact h.bench hI (.refl _) (h.steady hI)
  intro tools
  refine Keeps.bind htrace fun trace => Keeps.bind hsent fun sent => Keeps.bind hlog fun log => ?_
  exact Keeps.get_bind fun _ => Keeps.pure _

theorem keeps_report (answer : α) : Keeps I (report answer) :=
  Keeps.bind (keeps_takeTraffic h) fun _ => Keeps.pure _

/-! ## With a controller -/

theorem keeps_converse (channel : Channel) {steps : List ChannelStep}
    (hsteps : ∀ step ∈ steps, step.isForeground) :
    Keeps (fun d : Device Board => I d.board) (converse channel steps) := by
  have hbelow : ∀ {β : Type} {action : BoardM β}, Keeps I action →
      Keeps (fun d : Device Board => I d.board) (onBoardBelow action) :=
    fun haction tools => Keeps.lift (Keeps.onLink (haction tools))
  refine Keeps.bind (hbelow (keeps_report h _)) fun opened => ?_
  refine Keeps.bind (Keeps.mapM fun step hmem => ?_) fun _ => Keeps.pure _
  refine Keeps.bind ?_ fun outcome => hbelow (keeps_report h _)
  have hstep := hsteps step hmem
  cases step with
  | free step => exact hbelow (keeps_performFree h hstep)
  | channel operation => exact Keeps.lift (h.robust.performChannel operation)

theorem keeps_performController {step : ControllerStep} (hstep : step.isForeground) :
    Keeps (fun d : Device Board => I d.board) (performController step) := by
  cases step with
  | device operation =>
    refine Keeps.lift (Keeps.bind (h.robust.perform ?_) fun _ => Keeps.pure _)
    exact of_decide_eq_true hstep
  | resolve host timeout =>
    refine Keeps.bind (fun tools => ?_) fun _ => Keeps.pure _
    exact Keeps.bind (h.robust.resolve _ host timeout tools.clock) fun _ => Keeps.pure _
  | channel group wanted steps =>
    have hopen : Keeps (fun d : Device Board => I d.board) (openChannel group wanted) := by
      have hopening := fun s => (h.robust.withstands s).opening
      cases group with
      | none => exact h.robust.routine.begin hopening wanted
      | some group => exact h.robust.routine.beginMulticast hopening group wanted
    intro tools
    refine Keeps.bind (m := DeviceM Board) hopen ?_
    rintro (cause | channel)
    · exact Keeps.pure _
    · refine Keeps.bind (h.robust.useChannel channel ?_) fun _ => Keeps.pure _
      exact keeps_converse h channel (fun step hmem => List.all_eq_true.1 hstep step hmem) tools

theorem keeps_reportHeld {step : HeldStep} (hstep : step.isForeground) :
    Keeps (fun d : Device Board => I d.board) (reportHeld step) := by
  have honBoard : ∀ {β : Type} {action : BoardM β}, Keeps I action →
      Keeps (fun d : Device Board => I d.board) (onBoard action) :=
    fun haction tools => Keeps.onLink (haction tools)
  cases step with
  | free step =>
    refine Keeps.bind (honBoard (keeps_performFree h hstep)) fun outcome => ?_
    exact Keeps.bind (Keeps.pure _) fun answer => honBoard (keeps_report h answer)
  | controller step =>
    refine Keeps.bind (keeps_performController h hstep) fun answer => ?_
    exact honBoard (keeps_report h answer)

end Vigilant

/-! ## Sessions -/

theorem keeps_withBoard {α : Type} {I : Board → Prop} {action : BoardM α}
    (haction : Keeps I action) : Keeps (fun state : State => I state.board) (withBoard action) := by
  rintro ⟨tools, board, controller⟩ a state' hI hrun
  have heq : withBoard action ⟨tools, board, controller⟩ =
      (action tools board).map fun r => (r.1.1, ⟨r.1.2, r.2, controller⟩) := by
    show (action tools board >>= _) = _
    cases action tools board <;> rfl
  rw [heq] at hrun
  cases hr : action tools board with
  | error fault =>
    rw [hr] at hrun
    cases hrun
  | ok result =>
    rw [hr] at hrun
    cases hrun
    exact haction tools board result.1 result.2 hI hr

theorem keeps_perform {step : Step} (hstep : step.isForeground) :
    Keeps (fun state : State => state.board.Attentive) (perform step) := by
  induction step with
  | free step =>
    refine Keeps.bind (keeps_withBoard ?_) fun _ => Keeps.pure _
    exact keeps_performFree Board.vigilant_attentive hstep
  | withShared steps =>
    refine keeps_withBoard fun tools => Keeps.bind (Board.keeps_withShared ?_) ?_
    · have hbody : Keeps (fun d : Device Board => d.board.Watched) (steps.mapM reportHeld) :=
        Keeps.mapM fun step hmem => keeps_reportHeld Board.vigilant_watched
          (List.all_eq_true.1 hstep step hmem)
      exact hbody tools
    · rintro (_ | _) <;> exact Keeps.pure _
  | again times step ih =>
    have hclear : Keeps (fun state : State => state.board.Attentive)
        (withBoard (StateT.lift clearTrace)) := by
      refine keeps_withBoard (Keeps.lift (Keeps.bind ?_ fun _ => Keeps.pure _))
      intro board _ _ h hrun
      cases hrun
      exact Board.vigilant_attentive.bench h (.refl _) h.attended.steady
    have hrepeat : ∀ times answer, Keeps (fun state : State => state.board.Attentive)
        (repeatAnswer (perform step) answer times) := by
      intro times
      induction times with
      | zero => exact fun _ => Keeps.pure _
      | succ times ih' =>
        exact fun _ => Keeps.bind hclear fun _ => Keeps.bind (ih hstep) fun _ => ih' _
    exact hrepeat times _
  | _ => cases hstep

/-- A step of the foreground leaves the board attentive. -/
theorem keeps_reportStep {step : Step} (hstep : step.isForeground) :
    Keeps (fun state : State => state.board.Attentive) (reportStep step) :=
  Keeps.bind (keeps_perform hstep) fun _ =>
    keeps_withBoard (keeps_report Board.vigilant_attentive _)

/-- Between the steps of a session that works on a shared controller under its lock only, no
request to drain is waiting; and if an enabled interrupt is lit in the chip, the line has been
asserted, so that the handler runs as soon as the interrupt is let through. -/
theorem no_wakeup_lost {state now : State} {controller : Controller} {steps : List Step}
    {answers : List (Report Answer)} (hhooked : state.board.hooked = true)
    (hsteady : state.board.chip.Steady)
    (hshared : state.board.shared = Spinlock.new (some controller))
    (hdeferred : state.board.deferred = false) (hquiet : state.board.chip.interrupts = 0)
    (hsteps : ∀ step ∈ steps, step.isForeground)
    (hrun : steps.mapM reportStep state = .ok (answers, now)) :
    now.board.deferred = false ∧
      (now.board.chip.interrupts &&& now.board.chip.enabled ≠ 0 →
        now.board.chip.edge = true ∧
          Ends Board.unmask now.board fun _ board => board.handled = now.board.handled + 1) := by
  have hstored : state.board.chip.stored = 0 := (UInt8.or_eq_zero_iff.1 hquiet).1
  have hlit : ¬state.board.chip.Lit .none := by
    rw [Chip.lit_none, hquiet, UInt8.zero_and]
    exact fun hne => hne rfl
  have hstart : state.board.Attentive := by
    refine ⟨⟨hhooked, hsteady, ?_, fun h => absurd h hlit⟩, ⟨controller, hshared⟩, hdeferred⟩
    rw [hstored]
    intro i _ hset
    rw [bit_zero] at hset
    cases hset
  have hkept : Keeps (fun state : State => state.board.Attentive) (steps.mapM reportStep) :=
    Keeps.mapM fun step hmem => keeps_reportStep (hsteps step hmem)
  have hnow : now.board.Attentive := hkept state answers now hstart hrun
  refine ⟨hnow.deferred, fun hne => ?_⟩
  have hedge : now.board.chip.edge = true :=
    (hnow.attended.announced (now.board.chip.lit_none.2 hne)).resolve_right fun h => by
      rw [hnow.deferred] at h
      cases h
  refine ⟨hedge, (Board.unmask_attentive hnow).mono ?_⟩
  rintro _ board ⟨-, hhandled⟩
  rw [hhandled, hedge, if_pos rfl]

/-- A session that shares the controller of a chip whose interrupts are enabled. -/
def State.armed : State :=
  { State.start none .off false with
    board := Board.pristine.withChip
      ((Chip.new none).poke CommonRegister.interruptMask.address enabledInterrupts) }

theorem State.interrupts_armed : State.armed.board.chip.interrupts = 0 := by
  refine Chip.interrupts_eq_zero ?_ fun s => ?_
  · rw [← Chip.stored_new none]
    exact Memory.read_write_of_ne _ _ (by decide)
  · rw [← Chip.byteOf_new none s (r := .interrupt) rfl]
    have hmem := SocketRegister.interrupt.address_mem s
    have hmask : CommonRegister.interruptMask.address.toNat = 0x16 := rfl
    exact Memory.read_write_of_ne _ _ (by omega)

/-- A call during which a flag is to be raised later, and a flag raised behind the call. -/
def interruptions : List Step :=
  [.withShared [.free (.board (.schedule 1 (.socketInterrupt 1 SocketFlag.received))),
      .controller (.device (.socket 1 (.takeFlags 0xFF)))],
    .free (.board (.raise (.socketInterrupt 3 SocketFlag.timeout)))]

theorem no_wakeup_lost_armed : ∃ answers now,
    interruptions.mapM reportStep State.armed = .ok (answers, now) ∧
      now.board.deferred = false ∧
      (now.board.chip.interrupts &&& now.board.chip.enabled ≠ 0 →
        now.board.chip.edge = true ∧
          Ends Board.unmask now.board fun _ board => board.handled = now.board.handled + 1) := by
  have hends : (interruptions.mapM reportStep State.armed).isOk = true := by decide +kernel
  have hsteady : State.armed.board.chip.Steady :=
    ⟨rfl, fun _ hs => absurd hs List.not_mem_nil⟩
  cases hrun : interruptions.mapM reportStep State.armed with
  | error fault =>
    rw [hrun] at hends
    cases hends
  | ok result =>
    refine ⟨result.1, result.2, rfl, ?_⟩
    have hshared : State.armed.board.shared = Spinlock.new (some Controller.new) := rfl
    exact no_wakeup_lost rfl hsteady hshared rfl State.interrupts_armed (by decide) hrun

end Session

end SpiEthernet
