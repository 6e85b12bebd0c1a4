import SpiEthernet.Proofs.Interrupt.Endurance
import SpiEthernet.Proofs.Link.Masking
import SpiEthernet.Proofs.Operation.Device

/-!
# What the chip traces of a transaction

The trace of a chip shows for every frame whether the interrupt was held back. The frames of a
transaction are traced one directly behind the other, all of them with the interrupt held back. The
handler runs when the interrupt is let through again, and all that it exchanges is made of
transactions itself, so its frames are held back too and lie behind those of the transaction.

* `BusCall.perform_clocks` : the frames of a call are traced without a gap, and those of the handler
  follow.
* `robust_withholds` : whatever is made of transactions only adds frames to the trace that were held
  back, and leaves the interrupt as it was.
-/

namespace SpiEthernet

open SerialLink

/-! ## Frames in the trace -/

/-- What the trace shows of a frame that got a reply. -/
def Frame.access (frame : Frame) (masked : Bool) (reply : UInt8) : Access where
  direction := frame.direction
  address := frame.address
  data := match frame.direction with
    | .read => reply
    | .write => frame.data
  masked := masked

/-- What the trace shows of a call that returned certain bytes: its frames at consecutive addresses,
with the interrupt held back. -/
def BusCall.accesses (call : BusCall) (bytes : List UInt8) : List Access :=
  let shown := match call.direction with
    | .read => bytes
    | .write => call.data
  shown.mapIdx fun i byte => ⟨call.direction, call.address + UInt16.ofNat i, byte, true⟩

theorem BusCall.accesses_answer (call : BusCall) {replies : List UInt8}
    (h : replies.length = call.frames.length) :
    List.zipWith (·.access true) call.frames replies = call.accesses (call.answer replies) := by
  have hlength : call.frames.length = call.data.length := List.length_mapIdx
  unfold accesses answer
  cases hdirection : call.direction <;>
    exact List.ext_getElem (by simp; omega) fun i _ _ => by
      simp [frames, Frame.access, hdirection]

namespace Endpoint

/-- The link has traced further frames, and the interrupt is held back or let through as before. -/
structure Adds (start : Endpoint) (added : List Access) (now : Endpoint) : Prop where
  trace : now.trace.toList = start.trace.toList ++ added
  masked : now.masked = start.masked

variable {start middle now : Endpoint} {added further : List Access}

theorem Adds.refl (start : Endpoint) : start.Adds [] start := ⟨(List.append_nil _).symm, rfl⟩

theorem Adds.trans (h : start.Adds added middle) (h' : middle.Adds further now) :
    start.Adds (added ++ further) now where
  trace := by rw [h'.trace, h.trace, List.append_assoc]
  masked := h'.masked.trans h.masked

/-- The link has only traced frames that were held back. -/
def Withholds (start now : Endpoint) : Prop :=
  ∃ added, start.Adds added now ∧ ∀ access ∈ added, access.masked = true

theorem Withholds.trans (h : start.Withholds middle) (h' : middle.Withholds now) :
    start.Withholds now := by
  obtain ⟨added, hadds, hmasked⟩ := h
  obtain ⟨further, hadds', hmasked'⟩ := h'
  exact ⟨added ++ further, hadds.trans hadds', List.forall_mem_append.2 ⟨hmasked, hmasked'⟩⟩

theorem entry_eq (endpoint : Endpoint) (frame : Frame) :
    endpoint.entry frame = frame.access endpoint.masked (endpoint.chip.serve frame).1 := by
  obtain ⟨direction, address, data⟩ := frame
  cases direction <;> rfl

theorem deselect_eq (endpoint : Endpoint) : endpoint.deselect =
    (if endpoint.frame.length = 4 then endpoint.chip.countFrame else .ok endpoint.chip).map
      fun chip => { endpoint with chip, selected := false, frame := [] } := by
  unfold deselect
  dsimp only
  by_cases hwhole : endpoint.frame.length = 4
  · rw [if_pos hwhole, if_pos hwhole]
    cases endpoint.chip.countFrame <;> rfl
  · rw [if_neg hwhole, if_neg hwhole]
    rfl

/-- The end of a frame leaves the trace and the interrupt alone. -/
theorem adds_deselect {endpoint : Endpoint} (h : endpoint.deselect = .ok now) :
    endpoint.Adds [] now := by
  rw [deselect_eq] at h
  cases hchip : (if endpoint.frame.length = 4 then endpoint.chip.countFrame
    else .ok endpoint.chip) with
  | error fault =>
    rw [hchip] at h
    cases h
  | ok chip =>
    rw [hchip] at h
    cases h
    exact ⟨(List.append_nil _).symm, rfl⟩

/-- A frame is served with the interrupt as it is, and then traced. -/
theorem adds_clock {endpoint : Endpoint} {frame : Frame}
    (h : (endpoint.select.clock frame.bytes).2.deselect = .ok now) :
    endpoint.Adds [frame.access endpoint.masked (endpoint.select.clock frame.bytes).1] now := by
  rw [clock_bytes, serve_frame] at h ⊢
  obtain ⟨htrace, hmasked⟩ := adds_deselect h
  refine ⟨?_, hmasked⟩
  rw [htrace, List.append_nil, Array.toList_push]
  exact congrArg (endpoint.trace.toList ++ [·]) (entry_eq _ frame)

end Endpoint

/-! ## Boards whose chip traces -/

/-- A board whose chip traces the frames it is asked to exchange, and that exchanges nothing by
itself, unless it lets the interrupt through, and then only frames that are held back. -/
class Traced (σ : Type) [Host σ] [Wired σ] : Prop where
  exchange (frame : Frame) (start : Endpoint) :
    Leads (fun x : σ => Wired.endpoint x = start) (exchange frame) fun reply x =>
      start.Adds [frame.access start.masked reply] (Wired.endpoint x)
  restore (before : Bool) (start : Endpoint) (hmasked : start.masked = true) :
    Leads (fun x : σ => Wired.endpoint x = start) (restoreInterrupt before) fun _ x =>
      ∃ behind, { start with masked := !before }.Adds behind (Wired.endpoint x) ∧
        (∀ access ∈ behind, access.masked = true) ∧ (before = false → behind = [])
  record (notice : Notice) (start : Endpoint) :
    Leads (fun x : σ => Wired.endpoint x = start) (Host.record notice) fun _ x =>
      Wired.endpoint x = start

section Traced

variable {σ : Type} [Host σ] [Wired σ] [Traced σ]

theorem mapM_exchange_traces (frames : List Frame) : ∀ start : Endpoint,
    Leads (fun x : σ => Wired.endpoint x = start) (frames.mapM exchange) fun replies x =>
      replies.length = frames.length ∧
        start.Adds (List.zipWith (·.access start.masked) frames replies) (Wired.endpoint x) := by
  induction frames with
  | nil =>
    refine fun start => Leads.pure fun x hx => ⟨rfl, ?_⟩
    rw [hx]
    exact .refl start
  | cons frame frames ih =>
    intro start
    rw [List.mapM_cons]
    refine Leads.bind (Traced.exchange frame start) fun reply => ?_
    refine Leads.of_part fun middle hfirst => ?_
    refine Leads.bind (ih middle) fun replies => Leads.pure fun x ⟨hlength, hadds⟩ => ?_
    rw [hfirst.masked] at hadds
    exact ⟨congrArg (· + 1) hlength, hfirst.trans hadds⟩

omit [Traced σ] in
theorem mask_traces (start : Endpoint) :
    Leads (fun x : σ => Wired.endpoint x = start) maskInterrupt fun before x =>
      before = !start.masked ∧ Wired.endpoint x = { start with masked := true } := by
  rintro x before x' rfl hrun
  rw [Wired.mask_eq] at hrun
  cases hrun
  exact ⟨rfl, Wired.endpoint_rewire _ x⟩

/-- The frames of a transaction are traced one directly behind the other, and only then those that
the board exchanges by itself. -/
theorem critical_traces (frames : List Frame) (start : Endpoint) :
    Leads (fun x : σ => Wired.endpoint x = start) (critical (frames.mapM exchange))
      fun replies x => replies.length = frames.length ∧ ∃ behind,
        start.Adds (List.zipWith (·.access true) frames replies ++ behind) (Wired.endpoint x) ∧
          (∀ access ∈ behind, access.masked = true) ∧ (start.masked = true → behind = []) := by
  refine Leads.bind (mask_traces start) fun before => Leads.of_and fun hbefore => ?_
  refine Leads.bind (mapM_exchange_traces frames _) fun replies => Leads.of_and fun hlength => ?_
  refine Leads.of_part fun middle hframes => ?_
  refine Leads.bind (Traced.restore before middle hframes.masked) fun _ => Leads.pure ?_
  rintro x ⟨behind, hbehind, hmasked, hnone⟩
  refine ⟨hlength, behind, ⟨?_, ?_⟩, hmasked, fun hstart => hnone ?_⟩
  · rw [hbehind.trace, ← List.append_assoc]
    exact congrArg (· ++ behind) hframes.trace
  · rw [hbehind.masked, hbefore]
    exact Bool.not_not _
  · rw [hbefore, hstart]
    rfl

/-- Whatever is made of transactions only adds frames to the trace that were held back, and leaves
the interrupt as it was. -/
theorem robust_withholds (start : Endpoint) :
    Robust (fun _ => True) fun x : σ => start.Withholds (Wired.endpoint x) where
  reads _ := trivial
  transaction {frames} _ := Leads.of_part fun middle hmiddle => by
    intro x replies x' hx hrun
    obtain ⟨-, behind, hadds, hmasked, -⟩ := critical_traces frames middle x replies x' hx hrun
    refine hmiddle.trans ⟨_, hadds, List.forall_mem_append.2 ⟨?_, hmasked⟩⟩
    rw [← List.map_uncurry_zip_eq_zipWith]
    intro access haccess
    obtain ⟨_, -, rfl⟩ := List.mem_map.1 haccess
    rfl
  record notice := Leads.of_part fun middle hmiddle => by
    intro x _ x' hx hrun
    rw [Traced.record notice middle x _ x' hx hrun]
    exact hmiddle

/-- The frames of a call are traced without a gap, all of them held back. Frames that the board
exchanges by itself lie behind them and are held back, too, and there are none if the interrupt was
held back before the call already. -/
structure BusCall.Clocked (call : BusCall) (x : σ) (bytes : List UInt8) (y : σ) : Prop where
  none (h : call.data = []) : bytes = [] ∧ y = x
  traced : ∃ behind, (Wired.endpoint x).Adds (call.accesses bytes ++ behind) (Wired.endpoint y) ∧
    (∀ access ∈ behind, access.masked = true) ∧ ((Wired.endpoint x).masked = true → behind = [])

theorem BusCall.perform_clocks (call : BusCall) (x : σ) :
    Leads (fun y => y = x) call.perform (call.Clocked x) := by
  have hframes : call.frames = [] ↔ call.data = [] := List.mapIdx_eq_nil_iff
  rw [call.perform_eq, map_eq_pure_bind]
  by_cases hnone : call.frames = []
  · have hanswer : call.answer [] = [] := by
      unfold answer
      cases call.direction <;> rfl
    have haccesses : [] = call.accesses (call.answer []) := by
      rw [← @accesses_answer call [] (by rw [hnone]; rfl), hnone]
      rfl
    rw [hnone]
    refine Leads.bind (R := fun replies y => replies = [] ∧ y = x) (Leads.pure fun _ h => ⟨rfl, h⟩)
      fun replies => Leads.pure ?_
    rintro _ ⟨rfl, rfl⟩
    refine ⟨fun _ => ⟨hanswer, rfl⟩, [], ?_, nofun, fun _ => rfl⟩
    rw [← haccesses]
    exact .refl _
  · rw [transact_of_ne_nil hnone]
    have hstart : Leads (fun y => y = x) (critical (call.frames.mapM exchange)) _ :=
      (critical_traces call.frames (Wired.endpoint x)).mono fun y h => congrArg Wired.endpoint h
    refine Leads.bind hstart fun replies => Leads.pure ?_
    rintro y ⟨hlength, behind, hadds, hmasked⟩
    refine ⟨fun h => absurd (hframes.2 h) hnone, behind, ?_, hmasked⟩
    rwa [← call.accesses_answer hlength]

end Traced

/-! ## Benches and boards -/

instance : Traced Bench where
  exchange frame start := by
    rintro bench reply bench' rfl hrun
    rw [Bench.exchange_eq] at hrun
    cases hend : (bench.endpoint.select.clock frame.bytes).2.deselect with
    | error fault =>
      rw [hend] at hrun
      cases hrun
    | ok endpoint =>
      rw [hend] at hrun
      cases hrun
      exact Endpoint.adds_clock hend
  restore before start hmasked := by
    rintro bench _ bench' rfl hrun
    refine ⟨[], ?_, nofun, fun _ => rfl⟩
    cases before with
    | false =>
      cases hrun
      exact ⟨(List.append_nil _).symm, hmasked⟩
    | true =>
      cases hrun
      exact .refl _
  record _ _ := by
    rintro bench _ bench' rfl hrun
    cases hrun
    rfl

namespace Board

theorem leads_onBench {α : Type} {P : Bench → Prop} {Q : α → Bench → Prop} {action : LinkM Bench α}
    (h : Leads P action Q) :
    Leads (fun board => P board.bench) (onBench action) fun a board => Q a board.bench := by
  rintro ⟨bench, hooked, handled, shared, deferred⟩ a board' hP hrun
  have hrun : action bench >>= (fun r =>
      pure (r.1, (⟨r.2, hooked, handled, shared, deferred⟩ : Board))) = .ok (a, board') := hrun
  cases hr : action bench with
  | error fault =>
    rw [hr] at hrun
    cases hrun
  | ok r =>
    rw [hr] at hrun
    cases hrun
    exact h bench r.1 r.2 hP hr

/-- The handler exchanges nothing but transactions on the bench, and leaves the interrupt as it is
when the handler is called. -/
theorem unmask_withholds (start : Endpoint) : Leads (fun board => board.bench.endpoint = start)
    unmask fun _ board => { start with masked := false }.Withholds board.bench.endpoint := by
  rintro board _ board' rfl hrun
  have hnoticed : { board.bench.endpoint with masked := false }.Withholds
      board.noticed.bench.endpoint :=
    ⟨[], ⟨(List.append_nil _).symm, rfl⟩, nofun⟩
  have hrobust : Robust Frame.IsQuiet fun bench : Bench =>
      { board.bench.endpoint with masked := false }.Withholds bench.endpoint :=
    (robust_withholds _).mono Frame.isQuiet_read fun _ _ => trivial
  exact (unmask_ensures (c := False) hnoticed fun controller =>
    ⟨nofun, fun hdrain => hrobust.drain _ _ _ hnoticed hdrain⟩).leads hrun

end Board

instance : Traced Board where
  exchange frame start := by
    have heq : (exchange frame : LinkM Board UInt8) = Board.onBench (exchange frame) :=
      funext (Board.exchange_eq frame)
    rw [heq]
    exact Board.leads_onBench (Traced.exchange (σ := Bench) frame start)
  restore before start hmasked := by
    cases before with
    | false =>
      refine Leads.pure fun board hboard => ⟨[], ⟨?_, ?_⟩, nofun, fun _ => rfl⟩
      · rw [hboard]
        exact (List.append_nil _).symm
      · rw [hboard]
        exact hmasked
    | true =>
      rintro board _ board' hboard hrun
      obtain ⟨behind, hbehind, hheld⟩ := Board.unmask_withholds start board _ board' hboard hrun
      exact ⟨behind, hbehind, hheld, nofun⟩
  record notice start := Board.leads_onBench (Traced.record (σ := Bench) notice start)

/-! ## The interrupt as a flag -/

theorem Endpoint.masked_transfer (endpoint : Endpoint) (byte : UInt8) :
    (endpoint.transfer byte).2.masked = endpoint.masked := by
  unfold transfer
  split
  · dsimp only
    split
    · unfold serve
      dsimp only
      split
      · rfl
      · split <;> rfl
    · rfl
  · rfl

/-- Whether a bench lets the interrupt through. -/
theorem Bench.masking : Masking fun bench : Bench => !bench.endpoint.masked where
  mask value := by
    rintro bench before bench' hvalue hrun
    cases hrun
    exact ⟨hvalue, rfl⟩
  restore := by
    rintro bench _ bench' - hrun
    cases hrun
    rfl
  leave _ := Keeps.pure _
  select _ := by
    rintro bench _ bench' hvalue hrun
    cases hrun
    exact hvalue
  transfer _ byte := by
    rintro bench _ bench' hvalue hrun
    rw [← hvalue, ← bench.endpoint.masked_transfer byte]
    cases hrun
    rfl
  deselect _ := by
    rintro bench _ bench' hvalue hrun
    have hrun : (bench.endpoint.deselect >>= fun endpoint => pure ((), endpoint)) >>= (fun r =>
        pure (r.1, (⟨r.2, bench.journal⟩ : Bench))) = .ok ((), bench') := hrun
    cases hend : bench.endpoint.deselect with
    | error fault =>
      rw [hend] at hrun
      cases hrun
    | ok endpoint =>
      rw [hend] at hrun
      cases hrun
      rw [← hvalue, ← (Endpoint.adds_deselect hend).masked]

/-- The flag of a board is as it was behind a handler, too. -/
theorem Board.masking : Masking fun board : Board => !board.bench.endpoint.masked where
  mask value := leads_onBench (Bench.masking.mask value)
  restore := by
    rintro board _ board' - hrun
    obtain ⟨added, hadds, -⟩ := unmask_withholds _ board _ board' rfl hrun
    rw [hadds.masked]
    rfl
  leave _ := Keeps.pure _
  select value := leads_onBench (Bench.masking.select value)
  transfer value byte := leads_onBench (Bench.masking.transfer value byte)
  deselect value := leads_onBench (Bench.masking.deselect value)

/-! ## Calls come to an end -/

theorem Board.unmask_ordinary : Succeeds (fun board => board.chip.Ordinary) Board.unmask := by
  intro board hordinary
  have hnoticed : board.noticed.chip.Ordinary := hordinary
  refine (unmask_ensures (c := True) (I := fun bench => bench.endpoint.chip.Ordinary) hnoticed
    fun controller => Ends.ensures ?_).ends trivial
  exact sturdy_bench.drain _ hnoticed

theorem Board.perform_ordinary (call : BusCall) :
    Succeeds (fun board : Board => board.chip.Ordinary) call.perform := by
  refine call.perform_succeeds (fun board h => ⟨_, _, Wired.mask_eq board, h⟩)
    (fun before board h => ?_)
    fun frame board h => ⟨_, _, exchange_turn h frame, (h.serve frame).afterFrame⟩
  cases before with
  | false => exact ⟨_, _, rfl, h⟩
  | true => exact unmask_ordinary board h

/-- A call is clocked without a gap, and comes to an end if the memory of the chip is overwritten by
no event to come. -/
theorem Board.perform_clocks (call : BusCall) (board : Board) :
    Ensures board.chip.Ordinary call.perform board (call.Clocked board) where
  ends h := (call.perform_clocks board).ends rfl
    ((perform_ordinary call board h).mono fun _ _ _ => trivial)
  leads hrun := call.perform_clocks board board _ _ rfl hrun

end SpiEthernet
