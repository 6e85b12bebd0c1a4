import SpiEthernet.Proofs.Interrupt.Handler

/-!
# Drains always end

A drain comes to an end on every board on which single frames, remarks and the holding back of the
interrupt do, whether there is a chip to answer or not: the number of its passes is limited, and
it never waits for an answer. While the lock is held it also uses up what asserted the interrupt
line, so that drains cannot ask for more drains forever.

* `Sturdy.drain` : a drain ends.
* `sturdy_sealed`, `sturdy_bench` : so it does under a lock that is held, and on a bench.
-/

namespace SpiEthernet

/-! ## Sturdy boards -/

section Sturdy

open SerialLink

variable {σ : Type} [Host σ]

/-- A property of a board with which everything that a drain is made of comes to an end. -/
structure Sturdy (I : σ → Prop) : Prop where
  mask : Succeeds I (maskInterrupt : LinkM σ Bool)
  restore (before : Bool) : Succeeds I (restoreInterrupt before : LinkM σ Unit)
  exchange {frame : Frame} (hf : frame.IsQuiet) : Succeeds I (exchange frame : LinkM σ UInt8)
  record (notice : Notice) : Succeeds I (Host.record notice : LinkM σ Unit)

namespace Sturdy

variable {I : σ → Prop} (h : Sturdy I)

include h

theorem critical {α : Type} {body : LinkM σ α} (hbody : Succeeds I body) :
    Succeeds I (critical body) :=
  Succeeds.bind h.mask fun before => Succeeds.bind hbody fun _ =>
    Succeeds.bind (h.restore before) fun _ => Succeeds.pure _

theorem readByte (address : UInt16) : Succeeds I (readByte address : LinkM σ UInt8) :=
  h.critical (h.exchange (Frame.isQuiet_read address))

theorem writeByte {address : UInt16} {value : UInt8} (hf : (Frame.write address value).IsQuiet) :
    Succeeds I (writeByte address value : LinkM σ Unit) :=
  Succeeds.bind (h.critical (h.exchange hf)) fun _ => Succeeds.pure _

theorem readWord (address : UInt16) : Succeeds I (readWord address : LinkM σ UInt16) :=
  Succeeds.bind (h.readByte _) fun _ => Succeeds.bind (h.readByte _) fun _ => Succeeds.pure _

theorem readBlock (address : UInt16) (count : Nat) :
    Succeeds I (readBlock address count : LinkM σ (List UInt8)) := by
  unfold SpiEthernet.readBlock transact
  split
  · exact Succeeds.pure _
  · refine h.critical (Succeeds.mapM fun frame hm => h.exchange ?_)
    obtain ⟨i, -, rfl⟩ := List.mem_map.1 hm
    exact Frame.isQuiet_read _

theorem readIpv4 (address : UInt16) : Succeeds I (readIpv4 address : LinkM σ Ipv4) :=
  Succeeds.bind (h.readBlock _ _) fun _ => Succeeds.pure _

theorem note (notice : Notice) : Succeeds (fun d : Device σ => I d.board) (note notice) :=
  Succeeds.onLink (h.record notice)

theorem drainSocket (seen : UInt8) (s : SocketId) :
    Succeeds (fun d : Device σ => I d.board) (drainSocket seen s) := by
  refine Succeeds.ite ?_ (Succeeds.pure _)
  refine Succeeds.bind (Succeeds.onLink (h.readByte _)) fun raw => ?_
  refine Succeeds.ite ?_ (Succeeds.pure _)
  refine Succeeds.bind (Succeeds.changeController _) fun _ => ?_
  exact Succeeds.onLink (h.writeByte fun _ => .inr ⟨s, rfl⟩)

theorem latchUnreachable : Succeeds (fun d : Device σ => I d.board) latchUnreachable := by
  refine Succeeds.bind (Succeeds.onLink (h.readIpv4 _)) fun ip => ?_
  refine Succeeds.bind (Succeeds.onLink (h.readWord _)) fun destinationPort => ?_
  exact Succeeds.bind (h.note _) fun _ => Succeeds.changeController _

theorem drainGlobal (seen : UInt8) :
    Succeeds (fun d : Device σ => I d.board) (drainGlobal seen) := by
  have hwrite : Succeeds (fun d : Device σ => I d.board) (do
      SpiEthernet.changeController (·.mapSticky (·.recordGlobal seen))
      let global := seen &&& InterruptFlag.global
      if global ≠ 0 then
        SpiEthernet.onLink (SpiEthernet.writeByte CommonRegister.interrupt.address global)) := by
    refine Succeeds.bind (Succeeds.changeController _) fun _ => ?_
    exact Succeeds.ite (Succeeds.onLink (h.writeByte fun _ => .inl rfl)) (Succeeds.pure _)
  have hremark : Succeeds (fun d : Device σ => I d.board) (do
      if hasBits seen InterruptFlag.conflict then SpiEthernet.note .addressConflict
      SpiEthernet.changeController (·.mapSticky (·.recordGlobal seen))
      let global := seen &&& InterruptFlag.global
      if global ≠ 0 then
        SpiEthernet.onLink (SpiEthernet.writeByte CommonRegister.interrupt.address global)) :=
    Succeeds.ite (Succeeds.bind (h.note _) fun _ => hwrite) hwrite
  exact Succeeds.ite (Succeeds.bind h.latchUnreachable fun _ => hremark) hremark

/-- A drain ends: each of its passes does, and their number is limited. -/
theorem drain : Succeeds (fun d : Device σ => I d.board) drain := by
  unfold SpiEthernet.drain
  generalize (0 : UInt8) = seen
  generalize drainPassLimit = passes
  induction passes generalizing seen with
  | zero => exact Succeeds.bind (h.note _) fun _ => Succeeds.pure _
  | succ passes ih =>
    refine Succeeds.bind (Succeeds.onLink (h.readByte _)) fun current => ?_
    refine Succeeds.ite (Succeeds.pure _) ?_
    refine Succeeds.bind (Succeeds.forM fun s _ => h.drainSocket current s) fun _ => ?_
    exact Succeeds.bind (h.drainGlobal current) fun _ => ih _

end Sturdy

end Sturdy

/-! ## Benches and boards -/

/-- On a bench drains always end. -/
theorem sturdy_bench : Sturdy fun bench : Bench => bench.endpoint.chip.Ordinary where
  mask _ h := ⟨_, _, rfl, h⟩
  restore before bench h := by
    cases before with
    | false => exact ⟨_, _, rfl, h⟩
    | true => exact ⟨_, _, rfl, h⟩
  exchange {frame} _ bench h := ⟨_, _, bench.exchange_turn h frame, (h.serve frame).afterFrame⟩
  record _ _ h := ⟨_, _, rfl, h⟩

namespace Board

/-- A board whose lock is held, with a chip or without one. -/
structure Sealed (board : Board) : Prop where
  locked : board.shared.locked = true
  ordinary : board.chip.Ordinary

/-- Under a lock that is held drains always end, and none of them leaves more requests to come
than there were. -/
theorem sturdy_sealed (requests : Nat) :
    Sturdy fun board : Board => board.Sealed ∧ board.load ≤ requests where
  mask _ h := ⟨_, _, rfl, ⟨h.1.locked, h.1.ordinary⟩, h.2⟩
  restore before board h := by
    unfold Ends
    rw [restore_eq]
    cases before with
    | false => exact ⟨_, _, rfl, h⟩
    | true =>
      refine ⟨_, _, unmask_locked h.1.locked, ⟨h.1.locked, h.1.ordinary⟩, ?_⟩
      exact Nat.le_trans board.load_unmask_le h.2
  exchange {frame} hf board h := by
    refine ⟨_, _, exchange_turn h.1.ordinary frame, ⟨h.1.locked, ?_⟩, ?_⟩
    · exact (h.1.ordinary.serve frame).afterFrame
    · refine Nat.le_trans ?_ h.2
      exact Nat.add_le_add_right (Chip.load_serve h.1.ordinary hf.isLocal) _
  record _ _ h := ⟨_, _, rfl, ⟨h.1.locked, h.1.ordinary⟩, h.2⟩

end Board

end SpiEthernet
