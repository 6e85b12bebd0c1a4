import SpiEthernet.Proofs.Interrupt.Emptying

/-!
# What the trace has shown since

What the link has traced since an earlier state grows with every frame, those of the handler
included. So a property of what has been traced is kept by all that is made of transactions if
the frames of these and the quiet frames of the handler do not break it, and where a single frame
leads from one property to another, the transaction of that frame does too.

* `Board.robust_shows` : what no frame breaks, no transaction breaks.
* `Board.writeByte_shows` : what a single write makes of it.
-/

namespace SpiEthernet

open SerialLink

/-- What has been traced since an earlier state of the link is of a certain kind. -/
def Endpoint.Shows (start : Endpoint) (p : List Access → Prop) (now : Endpoint) : Prop :=
  ∃ added, start.Traces added now ∧ p added

/-- Behind accesses of one kind, a frame makes them ones of another kind, whatever it is replied. -/
def Frame.Extends (frame : Frame) (p q : List Access → Prop) : Prop :=
  ∀ accesses masked reply, p accesses → q (accesses ++ [frame.access masked reply])

theorem Endpoint.shows_self {start : Endpoint} {p : List Access → Prop} (h : p []) :
    start.Shows p start :=
  ⟨[], (List.append_nil _).symm, h⟩

/-- The accesses that were traced are those behind what had been traced before. -/
theorem Endpoint.Shows.drop {start now : Endpoint} {p : List Access → Prop}
    (h : start.Shows p now) : p (now.trace.toList.drop start.trace.size) := by
  obtain ⟨added, htrace, hp⟩ := h
  rw [show now.trace.toList = _ from htrace]
  simpa using hp

section Shows

variable {σ : Type} [Host σ] [Wired σ] [Traced σ] {start : Endpoint} {p q : List Access → Prop}
  {P : Frame → Prop} {frame : Frame}

/-! ## Single calls -/

theorem exchange_shows (h : frame.Extends p q) :
    Leads (fun x : σ => start.Shows p (Wired.endpoint x)) (exchange frame)
      fun _ x => start.Shows q (Wired.endpoint x) := by
  refine Leads.of_part fun middle hmiddle x reply x' hx hrun => ?_
  obtain ⟨added, htrace, hp⟩ := hmiddle
  exact ⟨_, htrace.trans (Traced.exchange frame middle x reply x' hx hrun).trace, h _ _ _ hp⟩

omit [Traced σ] in
theorem maskInterrupt_shows :
    Keeps (fun x : σ => start.Shows p (Wired.endpoint x)) maskInterrupt := by
  refine Leads.of_part fun middle hmiddle x _ x' hx hrun => ?_
  rw [(mask_traces middle x _ x' hx hrun).2]
  exact hmiddle

theorem record_shows (notice : Notice) :
    Keeps (fun x : σ => start.Shows p (Wired.endpoint x)) (Host.record notice) := by
  refine Leads.of_part fun middle hmiddle x _ x' hx hrun => ?_
  rw [Traced.record notice middle x _ x' hx hrun]
  exact hmiddle

/-- What neither a frame breaks nor that the interrupt is let through, a transaction does not
break. -/
theorem robust_shows (hreads : ∀ address, P (Frame.read address))
    (hframes : ∀ frame, P frame → frame.Extends p p)
    (hrestore : ∀ before,
      Keeps (fun x : σ => start.Shows p (Wired.endpoint x)) (restoreInterrupt before)) :
    Robust P fun x : σ => start.Shows p (Wired.endpoint x) :=
  Robust.of_calls hreads maskInterrupt_shows hrestore
    (fun frame hf => exchange_shows (hframes frame hf)) record_shows

end Shows

/-! ## Boards -/

variable {start : Endpoint} {p q : List Access → Prop} {P : Frame → Prop}

/-- A bench exchanges nothing when the interrupt is let through. -/
theorem Bench.restoreInterrupt_shows (before : Bool) :
    Keeps (fun bench : Bench => start.Shows p bench.endpoint) (restoreInterrupt before) := by
  rintro bench _ bench' hp hrun
  cases before <;> cases hrun <;> exact hp

namespace Board

variable (hquiet : ∀ frame : Frame, frame.IsQuiet → frame.Extends p p)

include hquiet

/-- When the interrupt is let through, there may be quiet frames of the handler. -/
theorem restoreInterrupt_shows (before : Bool) :
    Keeps (fun board : Board => start.Shows p board.bench.endpoint) (restoreInterrupt before) := by
  cases before with
  | false => exact Keeps.pure _
  | true =>
    rintro board _ board' hp hrun
    have hnoticed : start.Shows p board.noticed.bench.endpoint := hp
    have hrobust : Robust Frame.IsQuiet fun bench : Bench => start.Shows p bench.endpoint :=
      robust_shows Frame.isQuiet_read hquiet Bench.restoreInterrupt_shows
    exact (unmask_ensures (c := False) (I := fun bench => start.Shows p bench.endpoint) hnoticed
      fun controller => ⟨nofun, fun hdrain => hrobust.drain _ _ _ hnoticed hdrain⟩).leads hrun

theorem robust_shows (hreads : ∀ address, P (Frame.read address))
    (hframes : ∀ frame, P frame → frame.Extends p p) :
    Robust P fun board : Board => start.Shows p board.bench.endpoint :=
  SpiEthernet.robust_shows hreads hframes (restoreInterrupt_shows hquiet)

omit hquiet in
/-- Where a write leads, its transaction leads. -/
theorem writeByte_shows (hquiet : ∀ frame : Frame, frame.IsQuiet → frame.Extends q q)
    {address : UInt16} {value : UInt8} (h : (Frame.write address value).Extends p q) :
    Leads (fun board : Board => start.Shows p board.bench.endpoint) (writeByte address value)
      fun _ board => start.Shows q board.bench.endpoint := by
  refine Leads.bind (Leads.bind maskInterrupt_shows fun before => ?_) fun _ =>
    Leads.pure fun _ => id
  refine Leads.bind (exchange_shows h) fun _ => ?_
  exact Leads.bind (restoreInterrupt_shows hquiet before) fun _ => Leads.pure fun _ => id

end Board

end SpiEthernet
