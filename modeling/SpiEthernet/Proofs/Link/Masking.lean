import SpiEthernet.Proofs.Link.Transport

/-!
# Holding the interrupt back and letting it through

A transaction undoes what it did to the interrupt: it lets the interrupt through again only if it
was let through before. So where holding the interrupt back reports and clears a flag, and undoing
this sets the flag again, transactions leave the flag as it was, whether they are made while the
interrupt is let through or from within something that already holds it back.

* `Masking.performAll` : no sequence of calls on the transport changes the flag.
* `Responsive.perform` : on a board that answers, calls on the transport come to an end.
-/

namespace SpiEthernet

section Boards

variable {σ : Type} [SerialLink σ]

/-! ## Boards that answer -/

/-- Where the property holds, every single call on the board comes to an end, and the property
holds again. -/
structure Responsive (I : σ → Prop) : Prop where
  select : Succeeds I (SerialLink.select : LinkM σ Unit)
  deselect : Succeeds I (SerialLink.deselect : LinkM σ Unit)
  transfer (byte : UInt8) : Succeeds I (SerialLink.transfer byte : LinkM σ UInt8)
  mask : Succeeds I (SerialLink.maskInterrupt : LinkM σ Bool)
  restore (before : Bool) : Succeeds I (SerialLink.restoreInterrupt before : LinkM σ Unit)

/-- Whatever is asked of the board from now on, it answers. -/
def Responds (x : σ) : Prop := ∃ I : σ → Prop, Responsive I ∧ I x

/-- A call comes to an end if frames do, and the two calls on the interrupt. -/
theorem BusCall.perform_succeeds {I : σ → Prop}
    (mask : Succeeds I (SerialLink.maskInterrupt : LinkM σ Bool))
    (restore : ∀ before, Succeeds I (SerialLink.restoreInterrupt before : LinkM σ Unit))
    (exchange : ∀ frame, Succeeds I (exchange frame : LinkM σ UInt8)) (call : BusCall) :
    Succeeds I (call.perform : LinkM σ (List UInt8)) := by
  have hcritical : ∀ frames : List Frame,
      Succeeds I (critical (frames.mapM SpiEthernet.exchange) : LinkM σ (List UInt8)) :=
    fun frames => Succeeds.bind mask fun before =>
      Succeeds.bind (Succeeds.mapM fun frame _ => exchange frame) fun _ =>
        Succeeds.bind (restore before) fun _ => Succeeds.pure _
  rw [call.perform_eq, map_eq_pure_bind]
  refine Succeeds.bind ?_ fun _ => Succeeds.pure _
  cases call.frames with
  | nil => exact Succeeds.pure []
  | cons frame frames => exact hcritical (frame :: frames)

theorem Responsive.exchange {I : σ → Prop} (h : Responsive I) (frame : Frame) :
    Succeeds I (exchange frame : LinkM σ UInt8) := by
  refine Succeeds.bind h.select fun _ => Succeeds.bind (h.transfer _) fun _ => ?_
  refine Succeeds.bind (h.transfer _) fun _ => Succeeds.bind (h.transfer _) fun _ => ?_
  refine Succeeds.bind (h.transfer _) fun _ => ?_
  exact Succeeds.bind h.deselect fun _ => Succeeds.pure _

theorem Responsive.perform {I : σ → Prop} (h : Responsive I) (call : BusCall) :
    Succeeds I (call.perform : LinkM σ (List UInt8)) :=
  call.perform_succeeds h.mask h.restore h.exchange

/-! ## A flag that says whether the interrupt is let through -/

/-- Holding the interrupt back reports and clears the flag, undoing this sets the flag if it was set
before, and nothing else that a transaction consists of touches it. -/
structure Masking (flag : σ → Bool) : Prop where
  mask (value : Bool) : Leads (fun x => flag x = value) (SerialLink.maskInterrupt : LinkM σ Bool)
    fun before x => before = value ∧ flag x = false
  restore : Leads (fun _ => True) (SerialLink.restoreInterrupt true : LinkM σ Unit)
    fun _ x => flag x = true
  leave (value : Bool) :
    Keeps (fun x => flag x = value) (SerialLink.restoreInterrupt false : LinkM σ Unit)
  select (value : Bool) : Keeps (fun x => flag x = value) (SerialLink.select : LinkM σ Unit)
  transfer (value : Bool) (byte : UInt8) :
    Keeps (fun x => flag x = value) (SerialLink.transfer byte : LinkM σ UInt8)
  deselect (value : Bool) : Keeps (fun x => flag x = value) (SerialLink.deselect : LinkM σ Unit)

namespace Masking

variable {flag : σ → Bool} (h : Masking flag) {value : Bool}

include h

theorem exchange (frame : Frame) :
    Keeps (fun x => flag x = value) (exchange frame : LinkM σ UInt8) := by
  refine Keeps.bind (h.select value) fun _ => Keeps.bind (h.transfer value _) fun _ => ?_
  refine Keeps.bind (h.transfer value _) fun _ => Keeps.bind (h.transfer value _) fun _ => ?_
  refine Keeps.bind (h.transfer value _) fun _ => ?_
  exact Keeps.bind (h.deselect value) fun _ => Keeps.pure _

/-- Letting the interrupt through again undoes that it was held back. -/
theorem undo (before : Bool) : Leads (fun x => flag x = false)
    (SerialLink.restoreInterrupt before : LinkM σ Unit) fun _ x => flag x = before := by
  cases before with
  | false => exact h.leave false
  | true => exact h.restore.mono fun _ _ => trivial

theorem transact (frames : List Frame) :
    Keeps (fun x => flag x = value) (transact frames : LinkM σ (List UInt8)) := by
  by_cases hnone : frames = []
  · subst hnone
    exact Keeps.pure []
  · rw [transact_of_ne_nil hnone]
    refine Leads.bind (h.mask value) fun before => Leads.of_and fun hbefore => ?_
    have hbody : Keeps (fun x => flag x = false)
        (frames.mapM SpiEthernet.exchange : LinkM σ (List UInt8)) :=
      Keeps.mapM fun frame _ => h.exchange frame
    refine Leads.bind hbody fun _ => ?_
    rw [← hbefore]
    exact Leads.bind (h.undo before) fun _ => Leads.pure fun _ => id

theorem perform (call : BusCall) :
    Keeps (fun x => flag x = value) (call.perform : LinkM σ (List UInt8)) := by
  rw [call.perform_eq, map_eq_pure_bind]
  exact Keeps.bind (h.transact _) fun _ => Keeps.pure _

theorem performAll (calls : List BusCall) :
    Keeps (fun x => flag x = value) (calls.mapM BusCall.perform : LinkM σ (List (List UInt8))) :=
  Keeps.mapM fun call _ => h.perform call

end Masking

end Boards

/-- A call asks a board for one transaction, and comes to an end if the board answers. -/
theorem BusCall.perform_asks {σ : Type} [SerialLink σ] (call : BusCall) (x : Observed σ) :
    Ensures (Responds x.board) call.perform x (call.Asked x) where
  leads hrun := call.perform_seen x x _ _ rfl hrun
  ends := by
    rintro ⟨I, hresponsive, hI⟩
    obtain ⟨bytes, board, hplain, -⟩ := hresponsive.perform call x.board hI
    have hforgets := call.perform_forgets x
    rw [hplain] at hforgets
    cases hrun : (call.perform : LinkM (Observed σ) (List UInt8)) x with
    | error fault =>
      rw [hrun] at hforgets
      cases hforgets
    | ok r => exact ⟨r.1, r.2, hrun, call.perform_seen x x r.1 r.2 rfl hrun⟩

end SpiEthernet
