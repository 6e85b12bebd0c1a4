import SpiEthernet.Proofs.Interrupt.Conservation
import SpiEthernet.Proofs.Interrupt.Requests
import SpiEthernet.Proofs.Likeness.Operations
import SpiEthernet.Proofs.Operation.Isolation

/-!
# Collecting interrupts does not disturb the data path

A run of errands opens and closes sockets and moves data, each call under the lock, while flags are
raised and data arrive in between. The same run may be carried out with the handler connected to the
interrupt line or not, and with further drains and calls of the handler anywhere between the calls.
Each of these only moves flags, so it leads to a board that is alike; and on boards that are alike,
the calls answer the same.

* `Twins.withShared`, `Twins.happen` : one call on both boards, and what happens to both.
* `keep_transfer`, `keep_drain`, `keepAll_tallies` : one errand, and a run of them.
* `draining_unseen` : connecting the handler and draining in between makes no difference.
-/

namespace SpiEthernet

/-! ## Under the lock -/

namespace Board

variable {α : Type} {board board' : Board} {controller controller' : Controller}
  {start now device device' : Device Board} {rounds : List (Device Board)}

/-- A board that shares a controller whose lock is free, with a chip to which nothing happens by
itself. -/
structure Idle (board : Board) (controller : Controller) : Prop where
  shared : board.shared = Spinlock.new (some controller)
  silent : board.chip.Silent

theorem Idle.sealed (h : board.Idle controller) : board.taken.Sealed :=
  ⟨rfl, h.silent.steady.ordinary⟩

/-- Serving requests leads to a device that is alike. -/
theorem Rounds.alike (h : Rounds start rounds now) (hsealed : start.board.Sealed)
    (hsilent : start.board.chip.Silent) : now.board.chip.Silent ∧ start.Alike now := by
  induction h with
  | idle => exact ⟨hsilent, .refl⟩
  | @drain start middle now _ _ _ hrun _ ih =>
    have haccepted : (accepted start).board.Sealed := ⟨hsealed.locked, hsealed.ordinary⟩
    have hok : Habit.alone.ok (accepted start).board := ⟨fun _ => .inl hsealed.locked, hsilent⟩
    obtain ⟨hok', halike, -⟩ := (Habit.drain_alike hok).run_eq hrun
    obtain ⟨hend, hrest⟩ := ih ((drain_sealed haccepted).run_eq hrun).1 hok'.2
    have hstart : start.Alike (accepted start) := ⟨.refl, fun _ => rfl, rfl, rfl⟩
    exact ⟨hend, (hstart.trans halike).trans hrest⟩

/-- What is done before the lock is given back leads to a device that is alike. -/
theorem service_alike (hsealed : device.board.Sealed) (hsilent : device.board.chip.Silent) :
    ∃ last, service device = .ok ((), last) ∧ last.board.deferred = false ∧
      last.board.chip.Silent ∧ device.Alike last := by
  obtain ⟨_, last, hrun, -, rounds, hrounds, -⟩ := service_rounds hsealed
  obtain ⟨hend, halike⟩ := hrounds.alike hsealed hsilent
  exact ⟨last, hrun, hrounds.deferred, hend, halike⟩

/-- Two boards that share controllers, with devices that are alike and to whose chips nothing
happens by itself. -/
def Twins (board board' : Board) : Prop :=
  ∃ controller controller', board.Idle controller ∧ board'.Idle controller' ∧
    Device.Alike ⟨board, controller⟩ ⟨board', controller'⟩

theorem Twins.trans {board'' : Board} (h : board.Twins board') (h' : board'.Twins board'') :
    board.Twins board'' := by
  obtain ⟨controller, middle, hidle, hmiddle, halike⟩ := h
  obtain ⟨middle', controller', hmiddle', hidle', halike'⟩ := h'
  have hsame : middle' = middle := by
    have := hmiddle'.shared.symm.trans hmiddle.shared
    simpa [Spinlock.new] using this
  subst hsame
  exact ⟨controller, controller', hidle, hidle', halike.trans halike'⟩

/-! ## Calls -/

/-- A body that goes wrong under the lock takes the whole call with it. -/
theorem withShared_fault {body : DeviceM Board α} {fault : Fault} (h : board.Idle controller)
    (hbody : body ⟨board.taken, controller⟩ = .error fault) :
    withShared body board = .error fault := by
  have hheld : holding controller (do
      let result ← body
      service
      return result) board = .error fault := by
    rw [holding_eq]
    show ((body _ >>= _) : Except Fault _).map _ = _
    rw [hbody]
    rfl
  obtain ⟨bench, hooked, handled, shared, deferred⟩ := board
  cases h.shared
  show (holding controller _ _ >>= _) = _
  rw [hheld]
  rfl

/-- Behind its body, a call leads to a device that is alike. -/
theorem withShared_settles {body : DeviceM Board α} {a : α} (h : board.Idle controller)
    (hbody : Orderly body) (hrun : body ⟨board.taken, controller⟩ = .ok (a, now))
    (hsilent : now.board.chip.Silent) :
    ∃ board' controller', withShared body board = .ok (some a, board') ∧
      board'.Idle controller' ∧ now.Alike ⟨board', controller'⟩ := by
  obtain ⟨last, hservice, hdone, hend, halike⟩ :=
    service_alike (hbody.sealed h.sealed hrun) hsilent
  exact ⟨_, last.controller, withShared_eq h.shared hrun hservice hdone, ⟨rfl, hend⟩,
    halike.chip, halike.flags, halike.localPorts, halike.nextPort⟩

/-- The same call on both of two boards ends the same, if its body does on both devices. -/
theorem Twins.withShared {body : DeviceM Board α} (h : board.Twins board') (hbody : Orderly body)
    (hmirrors : Mirrors Device.Paired Device.Paired body) :
    Tally (fun p q => p.1 = q.1 ∧ p.2.Twins q.2) (withShared body board)
      (withShared body board') := by
  obtain ⟨controller, controller', hidle, hidle', halike⟩ := h
  -- Under the lock nothing runs but the body, on both boards.
  have hpaired : Device.Paired ⟨board.taken, controller⟩ ⟨board'.taken, controller'⟩ :=
    ⟨⟨fun _ => .inl rfl, hidle.silent⟩, ⟨fun _ => .inl rfl, hidle'.silent⟩,
      halike.chip, halike.flags, halike.localPorts, halike.nextPort⟩
  have htally := hmirrors _ _ hpaired
  generalize hrun : body ⟨board.taken, controller⟩ = result at htally
  generalize hrun' : body ⟨board'.taken, controller'⟩ = result' at htally
  cases htally with
  | fault fault =>
    rw [withShared_fault hidle hrun, withShared_fault hidle' hrun']
    exact .fault fault
  | @ok p q hresult =>
    obtain ⟨a, now⟩ := p
    obtain ⟨_, now'⟩ := q
    obtain ⟨rfl, hnow⟩ : a = _ ∧ Device.Paired now now' := hresult
    obtain ⟨last, final, hcall, hend, hlast⟩ :=
      withShared_settles hidle hbody hrun hnow.first.2
    obtain ⟨last', final', hcall', hend', hlast'⟩ :=
      withShared_settles hidle' hbody hrun' hnow.second.2
    rw [hcall, hcall']
    exact .ok ⟨rfl, final, final', hend, hend', (hlast.symm.trans hnow.alike).trans hlast'⟩

/-! ## Draining in between -/

/-- A drain in a call of its own leads to a board that is alike. -/
theorem Idle.drain_twins (h : board.Idle controller) :
    Ends (withShared (DeviceOperation.performAll [.drain])) board fun _ board' =>
      board.Twins board' := by
  have hok : Habit.alone.ok board.taken := ⟨fun _ => .inl rfl, h.silent⟩
  have hbody : Ends (DeviceOperation.performAll [.drain]) ⟨board.taken, controller⟩ fun _ now =>
      now.board.chip.Silent ∧ Device.Alike ⟨board.taken, controller⟩ now := by
    have hdrain : Ends (DeviceOperation.perform .drain) ⟨board.taken, controller⟩ fun _ now =>
        now.board.chip.Silent ∧ Device.Alike ⟨board.taken, controller⟩ now :=
      Ends.bind (Habit.drain_alike hok) fun _ _ h => Ends.pure ⟨h.1.2, h.2.1⟩
    rw [DeviceOperation.performAll, List.mapM_cons, List.mapM_nil]
    exact Ends.bind hdrain fun _ _ h => Ends.pure h
  obtain ⟨answers, now, hrun, hsilent, halike⟩ := hbody
  obtain ⟨board', controller', hcall, hidle, hsettled⟩ :=
    withShared_settles h (Orderly.performAll _) hrun hsilent
  have hall := halike.trans hsettled
  exact ⟨_, board', hcall, controller, controller', h, hidle, hall.chip, hall.flags,
    hall.localPorts, hall.nextPort⟩

/-- So does a call of the handler by hand. -/
theorem Idle.interrupt_twins (h : board.Idle controller) :
    Ends onInterrupt board fun _ board' => board.Twins board' := by
  have hsealed : ({ board.taken with deferred := true } : Board).Sealed :=
    ⟨rfl, h.silent.steady.ordinary⟩
  obtain ⟨last, hservice, -, hend, halike⟩ :=
    @service_alike ⟨{ board.taken with deferred := true }, controller⟩ hsealed h.silent
  exact ⟨(), _, onInterrupt_free h.shared hservice, controller, last.controller, h, ⟨rfl, hend⟩,
    halike.chip, halike.flags, halike.localPorts, halike.nextPort⟩

/-! ## What happens in between -/

/-- What happens to both chips leads to boards that are alike. -/
theorem Twins.happen (h : board.Twins board') {event : Event} (hevent : event.isOrdinary) :
    (board.withChip (board.chip.happen event)).Twins
      (board'.withChip (board'.chip.happen event)) := by
  obtain ⟨controller, controller', hidle, hidle', halike⟩ := h
  have hchips : board.chip.Alike board'.chip := halike.chip
  obtain ⟨hchip, hoccurrence⟩ := hchips.happen hevent
  refine ⟨controller, controller', ⟨hidle.shared, hidle.silent.of_casing
    (board.chip.casing_happen hevent)⟩, ⟨hidle'.shared, hidle'.silent.of_casing
    (board'.chip.casing_happen hevent)⟩, hchip, fun t => ?_, halike.localPorts, halike.nextPort⟩
  have hflags : controller'.sticky.socket t ||| board'.chip.flagsOf (.socket t) =
      controller.sticky.socket t ||| board.chip.flagsOf (.socket t) := halike.flags t
  show controller'.sticky.socket t ||| (board'.chip.happen event).flagsOf (.socket t) =
    controller.sticky.socket t ||| (board.chip.happen event).flagsOf (.socket t)
  rw [Chip.flagsOf_happen _ hevent, Chip.flagsOf_happen _ hevent, hoccurrence, ← UInt8.or_assoc,
    ← UInt8.or_assoc, hflags]

end Board

/-! ## Errands -/

/-- Whether an operation works on the data path. -/
def DeviceOperation.isTransfer : DeviceOperation → Bool
  | socket _ operation => operation.isTransfer
  | _ => false

/-- The answers of the operations on the data path. -/
def Ledger.transfers (ledger : Ledger) : List (DeviceOperation × Outcome) :=
  ledger.answers.filter (·.1.isTransfer)

namespace Errand

/-- Whether an errand only drains: in a call of its own, or through the handler. -/
def isDrain : Errand → Bool
  | hold [.drain] | interrupt => true
  | _ => false

/-- An errand of the data path: operations carried out under the lock, or something that happens at
once. -/
def IsTransfer : Errand → Prop
  | hold operations => ∀ operation ∈ operations, operation.isTransfer
  | raise event => event.isOrdinary
  | interrupt | poll _ | schedule .. => False

variable {board board' : Board} {errand : Errand} {errands : List Errand}

/-- Keeping a ledger adds nothing to what an errand does. -/
theorem keep_eq (errand : Errand) (board : Board) :
    errand.keep board = (errand.perform board).map fun (answers, board') =>
      (⟨answers, errand.occurrences board board'⟩, board') := by
  show (errand.perform board >>= _) = _
  cases errand.perform board <;> rfl

theorem keepAll_cons (errand : Errand) (rest : List Errand) (board : Board) :
    keepAll (errand :: rest) board = errand.keep board >>= fun (first, board) =>
      (keepAll rest board).map fun (ledger, board) => (first ++ ledger, board) := by
  show (errand.keep board >>= _) = _
  cases errand.keep board with
  | error fault => rfl
  | ok result =>
    show (keepAll rest result.2 >>= _) = (keepAll rest result.2).map _
    cases keepAll rest result.2 <;> rfl

/-- An errand that only drains answers nothing on the data path, and leads to a board that is
alike. -/
theorem keep_drain (he : errand.isDrain) (h : board.Twins board') :
    Ends errand.keep board' fun ledger board'' => ledger.transfers = [] ∧ board.Twins board'' := by
  have hperform : Ends errand.perform board' fun answers board'' =>
      answers.filter (·.1.isTransfer) = [] ∧ board'.Twins board'' := by
    obtain ⟨-, controller', -, hidle, -⟩ := h
    unfold isDrain at he
    split at he
    · refine Ends.bind hidle.drain_twins fun answers _ htwins => Ends.pure ⟨?_, htwins⟩
      cases answers.getD [] <;> rfl
    · exact Ends.bind hidle.interrupt_twins fun _ _ htwins => Ends.pure ⟨rfl, htwins⟩
    · cases he
  exact (keep_of_perform hperform).mono fun _ _ ⟨⟨hnone, htwins⟩, _⟩ => ⟨hnone, h.trans htwins⟩

/-- An errand of the data path answers the same on boards that are alike. -/
theorem keep_transfer (he : errand.IsTransfer) (h : board.Twins board') :
    Tally (fun p q => p.1.transfers = q.1.transfers ∧ p.2.Twins q.2) (errand.keep board)
      (errand.keep board') := by
  have hperform : Tally (fun p q => p.1 = q.1 ∧ p.2.Twins q.2) (errand.perform board)
      (errand.perform board') := by
    cases errand with
    | hold operations =>
      have hmirrors : Mirrors Device.Paired Device.Paired
          (DeviceOperation.performAll (σ := Board) operations) := by
        refine Mirrors.mapM fun operation hmem => ?_
        have hoperation := he operation hmem
        cases operation with
        | socket s operation => exact perform_mirrors hoperation
        | _ => cases hoperation
      refine Tally.bind (h.withShared (Board.Orderly.performAll operations) hmirrors) ?_
      rintro ⟨answers, now⟩ ⟨_, now'⟩ ⟨rfl, htwins⟩
      exact .ok ⟨rfl, htwins⟩
    | raise event =>
      refine Tally.of_ends (raise_ends he) (raise_ends he) ?_
      rintro _ _ _ _ ⟨rfl, rfl⟩ ⟨rfl, rfl⟩
      exact ⟨rfl, h.happen he⟩
    | _ => exact he.elim
  rw [keep_eq, keep_eq]
  exact hperform.map fun _ _ h => ⟨congrArg (List.filter _) h.1, h.2⟩

/-- Errands of the data path, and the same ones with others in between that only drain. -/
theorem keepAll_tallies (he : ∀ errand ∈ errands, errand.IsTransfer ∨ errand.isDrain) :
    ∀ {board board' : Board}, board.Twins board' →
      Tally (fun p q => p.1.transfers = q.1.transfers ∧ p.2.Twins q.2)
        (keepAll (errands.filter fun errand => !errand.isDrain) board)
        (keepAll errands board') := by
  induction errands with
  | nil => exact fun h => .ok ⟨rfl, h⟩
  | cons errand rest ih =>
    intro board board' h
    have hrest := @ih fun errand hmem => he errand (List.mem_cons_of_mem _ hmem)
    have happend (first ledger : Ledger) :
        (first ++ ledger).transfers = first.transfers ++ ledger.transfers :=
      List.filter_append _ _
    -- A drain is a step of the second board alone; everything else is a step of both.
    cases hdrain : errand.isDrain with
    | true =>
      obtain ⟨first, middle, hrun, hnone, htwins⟩ := keep_drain hdrain h
      rw [List.filter_cons_of_neg (by simp [hdrain]), keepAll_cons, hrun]
      show Tally _ _ ((keepAll rest middle).map _)
      refine (hrest htwins).map_right fun _ _ h => ⟨?_, h.2⟩
      rw [happend, hnone]
      exact h.1
    | false =>
      have htransfer : errand.IsTransfer := by
        refine (he errand List.mem_cons_self).resolve_right ?_
        rw [hdrain]
        exact Bool.false_ne_true
      rw [List.filter_cons_of_pos (by simp [hdrain]), keepAll_cons, keepAll_cons]
      refine Tally.bind (keep_transfer htransfer h) ?_
      rintro ⟨first, middle⟩ ⟨first', middle'⟩ ⟨hfirst, htwins⟩
      refine (hrest htwins).map fun _ _ h => ⟨?_, h.2⟩
      rw [happend, happend, hfirst, h.1]

/-! ### Coming to an end -/

/-- Whether an operation sends on a stream, which may have to wait forever. -/
def sendsStream : Errand → Bool
  | hold operations => operations.any fun
    | .socket _ (.send _) => true
    | _ => false
  | _ => false

/-- Operations of the data path none of which sends on a stream come to an end. -/
theorem performAll_ends_of_transfer {operations : List DeviceOperation}
    (he : ∀ operation ∈ operations, operation.isTransfer)
    (hsend : (hold operations).sendsStream = false) :
    Succeeds (fun d : Device Board => Habit.alone.ok d.board)
      (DeviceOperation.performAll operations) := by
  refine Succeeds.mapM fun operation hmem => ?_
  have htransfer := he operation hmem
  have hnot := List.any_eq_false.1 hsend operation hmem
  cases operation with
  | socket s operation =>
    intro device hok
    have hstream (data : List UInt8) : operation ≠ .send data := by
      rintro rfl
      exact hnot rfl
    exact (Habit.performSocket_tends Habit.alone_calm operation hstream device
      (.refl hok)).mono fun _ _ htended => htended.ok
  | _ => cases htransfer

/-- An errand of the data path that does not send on a stream comes to an end. -/
theorem perform_ends_of_idle {controller : Controller} (he : errand.IsTransfer)
    (hsend : errand.sendsStream = false) (h : board.Idle controller) :
    Ends errand.perform board fun _ board' => ∃ controller', board'.Idle controller' := by
  cases errand with
  | hold operations =>
    obtain ⟨outcomes, now, hrun, hok⟩ := performAll_ends_of_transfer he hsend
      ⟨board.taken, controller⟩ ⟨fun _ => .inl rfl, h.silent⟩
    obtain ⟨board', controller', hcall, hidle, -⟩ :=
      Board.withShared_settles h (Board.Orderly.performAll operations) hrun hok.2
    exact Ends.bind (R := fun _ x => ∃ controller', x.Idle controller')
      ⟨_, board', hcall, controller', hidle⟩ fun _ _ hidle => Ends.pure hidle
  | raise event =>
    refine (raise_ends he).mono ?_
    rintro _ _ ⟨rfl, rfl⟩
    exact ⟨controller, h.shared, h.silent.of_casing (board.chip.casing_happen he)⟩
  | _ => exact he.elim

/-- Errands none of which sends on a stream come to an end. -/
theorem keepAll_ends_of_idle (he : ∀ errand ∈ errands, errand.IsTransfer ∨ errand.isDrain)
    (hsend : ∀ errand ∈ errands, errand.sendsStream = false) :
    ∀ {board : Board} {controller : Controller}, board.Idle controller →
      Ends (keepAll errands) board fun _ _ => True := by
  induction errands with
  | nil => exact fun _ => Ends.pure trivial
  | cons errand rest ih =>
    intro board controller h
    have hfirst : Ends errand.keep board fun _ board' =>
        ∃ controller', board'.Idle controller' := by
      rcases he errand List.mem_cons_self with htransfer | hdrain
      · exact (keep_of_perform (perform_ends_of_idle htransfer (hsend errand List.mem_cons_self)
          h)).mono fun _ _ hkept => hkept.1
      · refine (keep_drain hdrain ⟨controller, controller, h, h, .refl⟩).mono ?_
        rintro _ board' ⟨-, -, controller', -, hidle, -⟩
        exact ⟨controller', hidle⟩
    refine Ends.bind hfirst ?_
    rintro _ board' ⟨controller', hidle⟩
    refine Ends.bind (ih (fun e hm => he e (List.mem_cons_of_mem _ hm))
      (fun e hm => hsend e (List.mem_cons_of_mem _ hm)) hidle) ?_
    exact fun _ _ _ => Ends.pure trivial

end Errand

/-! ## Invisible drains -/

/-- Collecting interrupts makes no difference to the data path. Sockets are opened and closed,
connected, and sent and received on, under the lock of a shared controller; between the calls, data
arrive and interrupts are raised, and nothing is scheduled to happen later. Whether or not the
handler is connected to the interrupt line, and with any drains and calls of the handler between the
calls, the run answers the same, or goes on forever in the same call; and it leaves the same in the
chip's memory, flags apart, the same packets sent, and the same ports. Of every socket, the flags in
the chip and those with the driver make up the same flags together. Only sending on a stream can go
on forever.

The errands up to any of them are a run themselves, so all this holds at every boundary between
two calls. -/
theorem draining_unseen {board : Board} {controller : Controller} (h : board.Idle controller)
    {errands : List Errand} (he : ∀ errand ∈ errands, errand.IsTransfer ∨ errand.isDrain)
    (hooked hooked' : Bool) :
    Tally (fun p q => p.1.transfers = q.1.transfers ∧ p.2.Twins q.2)
        (Errand.keepAll (errands.filter fun errand => !errand.isDrain) { board with hooked })
        (Errand.keepAll errands { board with hooked := hooked' }) ∧
      ((∀ errand ∈ errands, errand.sendsStream = false) →
        Ends (Errand.keepAll errands) { board with hooked := hooked' } fun _ _ => True) :=
  ⟨Errand.keepAll_tallies he ⟨controller, controller, ⟨h.shared, h.silent⟩, ⟨h.shared, h.silent⟩,
    .refl, fun _ => rfl, rfl, rfl⟩,
    fun hsend => Errand.keepAll_ends_of_idle he hsend ⟨h.shared, h.silent⟩⟩

/-- Errands of a datagram socket: between the calls a datagram arrives, the handler is called, the
flag of a transmission is raised before there is one, and all flags are collected. -/
def dispersed : List Errand :=
  [.hold [.socket 0 (.openSocket .udp 0 5000)],
    .raise (.udp 0 ⟨10, 0, 0, 7⟩ 53 [1, 2, 3]),
    .interrupt,
    .hold [.socket 0 (.receiveFrom 16)],
    .raise (.socketInterrupt 0 SocketFlag.sendOk),
    .hold [.drain],
    .hold [.socket 0 (.sendTo [7] ⟨10, 0, 0, 7⟩ 53)]]

theorem draining_unseen_dispersed :
    Board.pristine.Idle Controller.new ∧
      (∀ errand ∈ dispersed, errand.IsTransfer ∨ errand.isDrain) ∧
      (∀ errand ∈ dispersed, errand.sendsStream = false) ∧
      ∃ p q,
        Errand.keepAll (dispersed.filter fun errand => !errand.isDrain)
          { Board.pristine with hooked := false } = .ok p ∧
        Errand.keepAll dispersed { Board.pristine with hooked := true } = .ok q ∧
        p.1.transfers = q.1.transfers ∧ p.2.Twins q.2 := by
  have hidle : Board.pristine.Idle Controller.new := ⟨rfl, rfl, rfl, rfl⟩
  have herrands : ∀ errand ∈ dispersed, errand.IsTransfer ∨ errand.isDrain := by
    simp [dispersed, Errand.IsTransfer, Errand.isDrain, DeviceOperation.isTransfer,
      SocketOperation.isTransfer, Event.isOrdinary]
  have hsend : ∀ errand ∈ dispersed, errand.sendsStream = false := by
    simp [dispersed, Errand.sendsStream]
  obtain ⟨htally, hends⟩ := draining_unseen hidle herrands false true
  obtain ⟨ledger, board, hrun, -⟩ := hends hsend
  obtain ⟨p, q, hp, hq, hsame⟩ := htally.exists_ok (by rw [hrun]; rfl)
  exact ⟨hidle, herrands, hsend, p, q, hp, hq, hsame⟩

end SpiEthernet
