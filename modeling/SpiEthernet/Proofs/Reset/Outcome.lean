import SpiEthernet.Controller.Setup
import SpiEthernet.Proofs.Interrupt.Answering
import SpiEthernet.Proofs.Link.Observing

/-!
# How a reset comes out

Whatever a board answers, a reset comes to an end, and there are three ways in which it does. Which
one it is depends on nothing but the answers to its reads: the mode register may show the reset bit
for as long as the driver looks, the chip may not have kept the division of its memory, or it has.
Only in the last case has the driver forgotten anything.

* `InitRun` : the three ways, with every call that is made on the transport.
* `init_runs` : whenever a reset comes to an end, it is in one of these ways.
* `Obliging.init` : on a board that answers, a reset comes to an end.
* `init_all_or_nothing` : both, for every board, and for every simulated chip in particular.
-/

namespace SpiEthernet

/-! ## The three ways -/

/-- Reads of the mode register. -/
def modeCalls (modes : List UInt8) : List (BusCall × List UInt8) :=
  modes.map fun mode => (.readByte CommonRegister.mode.address, [mode])

/-- What a reset asks for until it stops to look at the mode register, and the modes it has read. -/
def resetCalls (modes : List UInt8) : List (BusCall × List UInt8) :=
  (.writeByte CommonRegister.mode.address ModeFlag.reset, []) :: modeCalls modes

/-- What a reset asks for to divide the memory, and the division it has read back. -/
def layoutCalls (shown : UInt8) : List (BusCall × List UInt8) :=
  [(.writeByte CommonRegister.txMemorySize.address equalShares, []),
    (.writeByte CommonRegister.rxMemorySize.address equalShares, []),
    (.readByte CommonRegister.txMemorySize.address, [shown])]

/-- What a reset asks for to enable interrupts. -/
def enableCalls : List (BusCall × List UInt8) :=
  [(.writeByte CommonRegister.interruptMask.address enabledInterrupts, [])]

/-- The reset bit is set in every mode that has been read. -/
def StillResetting (modes : List UInt8) : Prop :=
  ∀ mode ∈ modes, hasBits mode ModeFlag.reset = true

/-- The ways in which a reset can come out: what it returns, what it asks for with the answers, and
what the driver remembers behind it, given what the driver remembered before. -/
inductive InitRun (before : Controller) :
    Except Error Unit → List (BusCall × List UInt8) → Controller → Prop
  /-- The reset bit has been set as often as the driver has looked. -/
  | stuck (modes : List UInt8) (hlimit : modes.length = resetPollLimit)
    (hset : StillResetting modes) :
    InitRun before (.error .resetTimeout) (resetCalls modes) before
  /-- The reset bit was gone in time, but the memory is not divided as it was to be. -/
  | mismatch (modes : List UInt8) (mode shown : UInt8) (hlimit : modes.length < resetPollLimit)
    (hset : StillResetting modes) (hclear : hasBits mode ModeFlag.reset = false)
    (hshown : shown ≠ equalShares) :
    InitRun before (.error .notResponding) (resetCalls (modes ++ [mode]) ++ layoutCalls shown)
      before
  /-- The reset bit was gone in time, and the memory is divided. -/
  | ready (modes : List UInt8) (mode : UInt8) (hlimit : modes.length < resetPollLimit)
    (hset : StillResetting modes) (hclear : hasBits mode ModeFlag.reset = false) :
    InitRun before (.ok ()) (resetCalls (modes ++ [mode]) ++ layoutCalls equalShares ++ enableCalls)
      Controller.new

/-! ## What the ways have in common -/

/-- What reads of an address have returned. -/
def readings (address : UInt16) (calls : List (BusCall × List UInt8)) : List UInt8 :=
  (calls.filter fun call => call.1 = .readByte address).flatMap (·.2)

theorem readings_append (address : UInt16) (calls more : List (BusCall × List UInt8)) :
    readings address (calls ++ more) = readings address calls ++ readings address more := by
  simp only [readings, List.filter_append, List.flatMap_append]

theorem readings_resetCalls (modes : List UInt8) :
    readings CommonRegister.mode.address (resetCalls modes) = modes := by
  have hreads : readings CommonRegister.mode.address (modeCalls modes) = modes := by
    induction modes with
    | nil => rfl
    | cons mode modes ih =>
      rw [modeCalls, List.map_cons, ← List.singleton_append, readings_append]
      exact congrArg (mode :: ·) ih
  rw [resetCalls, ← List.singleton_append, readings_append, hreads]
  rfl

/-- Until the driver stops to look at the mode register, it does not look at the division. -/
theorem readings_division_resetCalls (modes : List UInt8) :
    readings CommonRegister.txMemorySize.address (resetCalls modes) = [] := by
  have hreads : readings CommonRegister.txMemorySize.address (modeCalls modes) = [] := by
    induction modes with
    | nil => rfl
    | cons mode modes ih =>
      rw [modeCalls, List.map_cons, ← List.singleton_append, readings_append]
      exact ih
  rw [resetCalls, ← List.singleton_append, readings_append, hreads]
  rfl

theorem readings_mode_settled (modes : List UInt8) (mode shown : UInt8) :
    readings CommonRegister.mode.address (resetCalls (modes ++ [mode]) ++ layoutCalls shown) =
      modes ++ [mode] := by
  rw [readings_append, readings_resetCalls]
  exact List.append_nil _

theorem readings_division_settled (modes : List UInt8) (shown : UInt8) :
    readings CommonRegister.txMemorySize.address (resetCalls modes ++ layoutCalls shown) =
      [shown] := by
  rw [readings_append, readings_division_resetCalls]
  rfl

theorem readings_enableCalls (address : UInt16) (calls : List (BusCall × List UInt8)) :
    readings address (calls ++ enableCalls) = readings address calls := by
  rw [readings_append]
  exact List.append_nil _

theorem not_stillResetting {modes : List UInt8} {mode : UInt8}
    (hclear : hasBits mode ModeFlag.reset = false) : ¬StillResetting (modes ++ [mode]) := by
  intro hset
  have hlast := hset mode (List.mem_append_right _ (List.mem_singleton_self mode))
  rw [hclear] at hlast
  cases hlast

namespace InitRun

variable {before after : Controller} {r : Except Error Unit} {calls : List (BusCall × List UInt8)}

/-- A reset times out exactly if the reset bit is set in every mode that it may read. -/
theorem resetTimeout_iff (h : InitRun before r calls after) : r = .error .resetTimeout ↔
    (readings CommonRegister.mode.address calls).length = resetPollLimit ∧
      StillResetting (readings CommonRegister.mode.address calls) := by
  cases h with
  | stuck modes hlimit hset =>
    rw [readings_resetCalls]
    exact ⟨fun _ => ⟨hlimit, hset⟩, fun _ => rfl⟩
  | mismatch modes mode shown _ _ hclear =>
    rw [readings_mode_settled]
    exact ⟨nofun, fun h => absurd h.2 (not_stillResetting hclear)⟩
  | ready modes mode _ _ hclear =>
    rw [readings_enableCalls, readings_mode_settled]
    exact ⟨nofun, fun h => absurd h.2 (not_stillResetting hclear)⟩

/-- It is not answered exactly if the reset bit is gone, but the memory is not divided. -/
theorem notResponding_iff (h : InitRun before r calls after) : r = .error .notResponding ↔
    ¬StillResetting (readings CommonRegister.mode.address calls) ∧
      readings CommonRegister.txMemorySize.address calls ≠ [equalShares] := by
  cases h with
  | stuck modes _ hset =>
    rw [readings_resetCalls]
    exact ⟨nofun, fun h => absurd hset h.1⟩
  | mismatch modes mode shown _ _ hclear hshown =>
    rw [readings_mode_settled, readings_division_settled]
    exact ⟨fun _ => ⟨not_stillResetting hclear, fun h => hshown (List.singleton_inj.1 h)⟩,
      fun _ => rfl⟩
  | ready modes mode =>
    rw [readings_enableCalls, readings_enableCalls, readings_division_settled]
    exact ⟨nofun, fun h => absurd rfl h.2⟩

/-- It succeeds exactly if the reset bit is gone and the memory is divided. -/
theorem ok_iff (h : InitRun before r calls after) : r = .ok () ↔
    ¬StillResetting (readings CommonRegister.mode.address calls) ∧
      readings CommonRegister.txMemorySize.address calls = [equalShares] := by
  cases h with
  | stuck modes _ hset =>
    rw [readings_resetCalls]
    exact ⟨nofun, fun h => absurd hset h.1⟩
  | mismatch modes mode shown _ _ _ hshown =>
    rw [readings_division_settled]
    exact ⟨nofun, fun h => absurd (List.singleton_inj.1 h.2) hshown⟩
  | ready modes mode _ _ hclear =>
    rw [readings_enableCalls, readings_enableCalls, readings_mode_settled,
      readings_division_settled]
    exact ⟨fun _ => ⟨not_stillResetting hclear, rfl⟩, fun _ => rfl⟩

/-- The driver has forgotten everything if the reset succeeds, and nothing if it fails. -/
theorem controller_eq (h : InitRun before r calls after) :
    (r = .ok () → after = Controller.new) ∧ (r ≠ .ok () → after = before) := by
  cases h with
  | stuck | mismatch => exact ⟨nofun, fun _ => rfl⟩
  | ready => exact ⟨fun _ => rfl, fun h => absurd rfl h⟩

end InitRun

/-! ## Every run is one of them -/

section Runs

variable {σ : Type} [Host σ] {calls : List (BusCall × List UInt8)} {before : Controller}

/-- What has been observed of the board of a device, and what the driver remembers. -/
def Device.Logs (calls : List (BusCall × List UInt8)) (controller : Controller)
    (device : Device (Observed σ)) : Prop :=
  Transacted device.board.seen calls ∧ device.controller = controller

open Device

theorem readByte_logs (address : UInt16) :
    Leads (Logs (σ := σ) calls before) (onLink (readByte address)) fun value =>
      Logs (calls ++ [(.readByte address, [value])]) before :=
  Leads.onLink fun _ x value y hx hrun =>
    ⟨readByte_transacts address x value y hx.1 hrun, hx.2⟩

theorem writeByte_logs (address : UInt16) (value : UInt8) :
    Leads (Logs (σ := σ) calls before) (onLink (writeByte address value)) fun _ =>
      Logs (calls ++ [(.writeByte address value, [])]) before :=
  Leads.onLink fun _ x u y hx hrun =>
    ⟨writeByte_transacts address value x u y hx.1 hrun, hx.2⟩

theorem note_logs (notice : Notice) :
    Leads (Logs (σ := σ) calls before) (note notice) fun _ => Logs calls before :=
  Leads.onLink fun _ x u y hx hrun =>
    ⟨Observed.keeps_record (P := fun seen => Transacted seen calls) notice x u y hx.1 hrun, hx.2⟩

/-- The driver looks at the mode register until the reset bit is gone, or as often as it may. -/
theorem resetFinished_logs (polls : Nat) : ∀ {calls : List (BusCall × List UInt8)},
    Leads (Logs (σ := σ) calls before) (resetFinished polls) fun finished device =>
      ∃ modes, StillResetting modes ∧
        if finished then ∃ mode, hasBits mode ModeFlag.reset = false ∧ modes.length < polls ∧
          Logs (calls ++ modeCalls (modes ++ [mode])) before device
        else modes.length = polls ∧ Logs (calls ++ modeCalls modes) before device := by
  induction polls with
  | zero =>
    intro calls
    refine Leads.pure fun device h => ⟨[], fun _ => nofun, ?_⟩
    rw [if_neg Bool.false_ne_true]
    refine ⟨rfl, ?_⟩
    rwa [modeCalls, List.map_nil, List.append_nil]
  | succ polls ih =>
    intro calls
    refine Leads.bind (readByte_logs _) fun mode => ?_
    by_cases hset : hasBits mode ModeFlag.reset = true
    · rw [if_pos hset]
      intro device finished device' h hrun
      obtain ⟨modes, hmodes, hrest⟩ := ih device finished device' h hrun
      refine ⟨mode :: modes, List.forall_mem_cons.2 ⟨hset, hmodes⟩, ?_⟩
      rw [List.append_assoc] at hrest
      cases finished with
      | true =>
        obtain ⟨last, hclear, hlength, hlogs⟩ := hrest
        rw [List.append_assoc] at hlogs
        exact ⟨last, hclear, Nat.succ_lt_succ hlength, hlogs⟩
      | false => exact ⟨congrArg (· + 1) hrest.1, hrest.2⟩
    · rw [if_neg hset]
      refine Leads.pure fun device h => ⟨[], fun _ => nofun, mode, ?_, Nat.succ_pos polls, h⟩
      exact eq_false_of_ne_true hset

theorem probe_logs :
    Leads (Logs (σ := σ) calls before) probe fun answers device => ∃ shown,
      answers = (shown == equalShares) ∧
        Logs (calls ++ [(.readByte CommonRegister.txMemorySize.address, [shown])]) before device :=
  Leads.bind (readByte_logs _) fun shown => Leads.pure fun _ h => ⟨shown, rfl, h⟩

omit [Host σ] in
theorem forget_logs :
    Leads (Logs (σ := σ) calls before) (changeController fun _ => Controller.new) fun _ =>
      Logs calls Controller.new := by
  rintro device _ _ ⟨hseen, -⟩ ⟨⟩
  exact ⟨hseen, rfl⟩

/-- Whenever a reset comes to an end, it comes out in one of the three ways. -/
theorem init_runs : Leads (Logs (σ := σ) [] before) init.run fun r device =>
    ∃ calls, InitRun before r calls device.controller ∧ Transacted device.board.seen calls := by
  unfold init
  refine Leads.sure_bind (writeByte_logs _ _) fun _ => ?_
  refine Leads.sure_bind (resetFinished_logs _) fun finished => ?_
  refine Leads.of_exists fun modes => Leads.of_and fun hset => ?_
  cases finished with
  | false =>
    rw [if_pos (by decide)]
    refine Leads.of_and fun hlimit => Leads.sure_bind (note_logs _) fun _ => Leads.pure ?_
    rintro device ⟨hseen, rfl⟩
    exact ⟨_, .stuck modes hlimit hset, hseen⟩
  | true =>
    rw [if_neg (by decide)]
    refine Leads.of_exists fun mode => Leads.of_and fun hclear => Leads.of_and fun hlimit => ?_
    refine Leads.sure_bind (writeByte_logs _ _) fun _ => ?_
    refine Leads.sure_bind (writeByte_logs _ _) fun _ => ?_
    refine Leads.sure_bind probe_logs fun answers => ?_
    refine Leads.of_exists fun shown => Leads.of_and fun hanswers => ?_
    rw [List.append_assoc, List.append_assoc]
    cases hshown : shown == equalShares with
    | false =>
      rw [hanswers, hshown, if_pos (by decide)]
      refine Leads.sure_bind (note_logs _) fun _ => Leads.pure ?_
      rintro device ⟨hseen, rfl⟩
      exact ⟨_, .mismatch modes mode shown hlimit hset hclear (by simpa using hshown), hseen⟩
    | true =>
      rw [hanswers, hshown, if_neg (by decide)]
      refine Leads.sure_bind (writeByte_logs _ _) fun _ => ?_
      refine Leads.sure_bind forget_logs fun _ => Leads.sure fun start _ device h hrun => ?_
      obtain ⟨hseen, hcontroller⟩ := note_logs .ready start () device h hrun
      rw [hcontroller]
      rw [eq_of_beq hshown] at hseen
      exact ⟨_, .ready modes mode hlimit hset hclear, hseen⟩

end Runs

/-! ## Every reset comes to an end -/

namespace Obliging

variable {σ : Type} [Host σ] {I : σ → Prop} (h : Obliging I)

include h

theorem readByte (address : UInt16) :
    Succeeds (fun d : Device σ => I d.board) (onLink (readByte address)) :=
  Succeeds.onLink (h.sturdy.readByte address)

theorem writeByte (address : UInt16) (value : UInt8) :
    Succeeds (fun d : Device σ => I d.board) (onLink (writeByte address value)) :=
  Succeeds.onLink
    (Succeeds.bind (h.sturdy.critical (h.exchange _)) fun _ => Succeeds.pure _)

/-- The driver looks at the mode register a limited number of times. -/
theorem resetFinished (polls : Nat) :
    Succeeds (fun d : Device σ => I d.board) (resetFinished polls) := by
  induction polls with
  | zero => exact Succeeds.pure false
  | succ polls ih => exact Succeeds.bind (h.readByte _) fun _ => Succeeds.ite ih (Succeeds.pure _)

theorem init : Succeeds (fun d : Device σ => I d.board) init.run := by
  unfold SpiEthernet.init
  refine Succeeds.sure_bind (h.writeByte _ _) fun _ => ?_
  refine Succeeds.sure_bind (h.resetFinished _) fun finished => Succeeds.attempt_ite ?_ ?_
  · exact Succeeds.sure_bind (h.sturdy.note _) fun _ => fun _ hd => Ends.pure hd
  refine Succeeds.sure_bind (h.writeByte _ _) fun _ => ?_
  refine Succeeds.sure_bind (h.writeByte _ _) fun _ => ?_
  refine Succeeds.sure_bind (Succeeds.bind (h.readByte _) fun _ => Succeeds.pure _) fun _ => ?_
  refine Succeeds.attempt_ite ?_ ?_
  · exact Succeeds.sure_bind (h.sturdy.note _) fun _ => fun _ hd => Ends.pure hd
  refine Succeeds.sure_bind (h.writeByte _ _) fun _ => ?_
  refine Succeeds.sure_bind (Succeeds.changeController _) fun _ => ?_
  exact Succeeds.sure (h.sturdy.note _)

end Obliging

/-! ## Without the log -/

section Forgetting

variable {σ : Type} [Host σ]

open Device

theorem resetFinished_forgets (polls : Nat) :
    Forgets (resetFinished polls) (resetFinished polls : DeviceM σ Bool) := by
  induction polls with
  | zero => exact .pure false
  | succ polls ih => exact .bind (.onLink (.readByte _)) fun _ => .ite ih (.pure true)

/-- A reset does the same without the log. -/
theorem init_forgets_log : Forgets init.run (init : Attempt σ Unit).run := by
  have hwrite (address : UInt16) (value : UInt8) : Forgets (onLink (writeByte address value))
      (onLink (writeByte address value) : DeviceM σ Unit) := .onLink (.writeByte address value)
  have hprobe : Forgets probe (probe : DeviceM σ Bool) :=
    .bind (.onLink (.readByte _)) fun _ => .pure _
  unfold init
  refine .sure_bind (hwrite _ _) fun _ => .sure_bind (resetFinished_forgets _) fun finished => ?_
  cases finished with
  | false => exact .sure_bind (.note _) fun _ => .pure (Except.error Error.resetTimeout)
  | true =>
    refine .sure_bind (hwrite _ _) fun _ => .sure_bind (hwrite _ _) fun _ => ?_
    refine .sure_bind hprobe fun answers => ?_
    cases answers with
    | false => exact .sure_bind (.note _) fun _ => .pure (Except.error Error.notResponding)
    | true =>
      refine .sure_bind (hwrite _ _) fun _ => .sure_bind (.changeController _) fun _ => ?_
      exact .sure (.note _)

end Forgetting

/-- On a board that answers, a reset comes to an end, and whenever it does, it comes out in one of
three ways; a log of the board shows all that it has asked for. It times out exactly if the reset
bit is set in every mode that it may read, and then it asks for nothing more. Otherwise it stops to
look at the first mode without the bit, and succeeds exactly if the division of the memory reads
back. If it succeeds the driver remembers nothing, and otherwise the same as before. A simulated
chip answers, whether it is there or not, if no event is to come that writes outside its memory. -/
theorem init_all_or_nothing :
    (∀ {σ : Type} [Host σ] (device : Device σ),
      Ensures (Reliable device.board) init.run device fun r device' => ∃ calls seen,
        init.run device.observed =
          .ok (r, ⟨⟨device'.board, seen⟩, device'.controller⟩) ∧ Transacted seen calls ∧
        InitRun device.controller r calls device'.controller ∧
        (r = .error .resetTimeout ↔
          (readings CommonRegister.mode.address calls).length = resetPollLimit ∧
            StillResetting (readings CommonRegister.mode.address calls)) ∧
        (r = .error .notResponding ↔
          ¬StillResetting (readings CommonRegister.mode.address calls) ∧
            readings CommonRegister.txMemorySize.address calls ≠ [equalShares]) ∧
        (r = .ok () ↔
          ¬StillResetting (readings CommonRegister.mode.address calls) ∧
            readings CommonRegister.txMemorySize.address calls = [equalShares]) ∧
        (r = .ok () → device'.controller = Controller.new) ∧
        (r ≠ .ok () → device'.controller = device.controller)) ∧
    ∀ board : Board, board.chip.Contained → Reliable board := by
  refine ⟨fun {σ} _ device => ?_, fun board h => ⟨_, Board.obliging_contained, h⟩⟩
  refine Ensures.mono (R := fun r device' => init.run device = .ok (r, device'))
    ⟨?_, id⟩ fun r device' hrun => ?_
  · rintro ⟨I, hobliging, hI⟩
    obtain ⟨r, device', hrun, -⟩ := hobliging.init device hI
    exact ⟨r, device', hrun, hrun⟩
  · obtain ⟨seen, hobserved⟩ := init_forgets_log.run_eq hrun
    obtain ⟨calls, hinit, hseen⟩ :=
      init_runs device.observed r _ ⟨Transacted.nil, rfl⟩ hobserved
    exact ⟨calls, seen, hobserved, hseen, hinit, hinit.resetTimeout_iff, hinit.notResponding_iff,
      hinit.ok_iff, hinit.controller_eq⟩

/-- Where there is no chip, the division of its memory reads back as zero. The reset fails, and the
driver has forgotten nothing. -/
theorem init_all_or_nothing_absent : Ends init.run
    ⟨Board.new (some 0) ⟨none, .off⟩, { Controller.new with nextPort := 50000 }⟩ fun r device' =>
    r = .error .notResponding ∧ device'.controller = { Controller.new with nextPort := 50000 } := by
  obtain ⟨hinit, hanswers⟩ := init_all_or_nothing
  have hreliable : Reliable (Board.new (some 0) ⟨none, .off⟩) :=
    hanswers _ fun _ hs => absurd hs List.not_mem_nil
  have hfails : Ends init.run
      ⟨Board.new (some 0) ⟨none, .off⟩, { Controller.new with nextPort := 50000 }⟩
      fun r _ => r = .error .notResponding := ⟨_, _, rfl, rfl⟩
  refine (((hinit ⟨_, _⟩).ends hreliable).and hfails).mono ?_
  rintro _ device' ⟨⟨calls, seen, -, -, -, -, -, -, -, hkept⟩, rfl⟩
  exact ⟨rfl, hkept nofun⟩

end SpiEthernet
