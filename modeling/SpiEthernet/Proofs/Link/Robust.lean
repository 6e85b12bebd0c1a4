import SpiEthernet.Operation.Channel
import SpiEthernet.Proofs.Link.Transport

/-!
# Robust properties of a board

A property of a board is robust under certain frames if nothing that is done on the serial link
breaks it: neither a whole transaction of these frames, from holding the interrupt back to letting
it through again, nor a remark in the journal. Everything the driver does is made of these, so it
keeps what is robust, provided that its own frames are among those allowed.

* `Robust.of_calls` : it is enough that no single call of a transaction breaks the property.
* `Robust.transact` : transactions of allowed frames keep a robust property.
* `Robust.settledWord` : so does waiting for a word to settle.
-/

namespace SpiEthernet

open SerialLink

section Robust

variable {σ α β : Type} [Host σ]

/-- A property of a board that transactions of certain frames, reads among them, do not break. -/
structure Robust (P : Frame → Prop) (I : σ → Prop) : Prop where
  reads (address : UInt16) : P (Frame.read address)
  transaction {frames : List Frame} (hf : ∀ frame ∈ frames, P frame) :
    Keeps I (critical (frames.mapM exchange) : LinkM σ (List UInt8))
  record (notice : Notice) : Keeps I (Host.record notice : LinkM σ Unit)

namespace Robust

/-- What no single call of a transaction breaks, a transaction does not break. -/
theorem of_calls {P : Frame → Prop} {I : σ → Prop} (reads : ∀ address, P (Frame.read address))
    (mask : Keeps I (maskInterrupt : LinkM σ Bool))
    (restore : ∀ before, Keeps I (restoreInterrupt before : LinkM σ Unit))
    (exchange : ∀ frame, P frame → Keeps I (exchange frame : LinkM σ UInt8))
    (record : ∀ notice, Keeps I (Host.record notice : LinkM σ Unit)) : Robust P I where
  reads := reads
  transaction hf := Keeps.bind mask fun before =>
    Keeps.bind (Keeps.mapM fun frame hm => exchange frame (hf frame hm)) fun _ =>
      Keeps.bind (restore before) fun _ => Keeps.pure _
  record := record

/-- What frames do not break for each of many reasons, they do not break at all. -/
theorem all {P : Frame → Prop} {ι : Type} [Inhabited ι] {I : ι → σ → Prop}
    (h : ∀ i, Robust P (I i)) : Robust P fun x => ∀ i, I i x where
  reads := (h default).reads
  transaction hf := Leads.all fun i => (h i).transaction hf
  record notice := Leads.all fun i => (h i).record notice

variable {P : Frame → Prop} {I : σ → Prop} (h : Robust P I)

include h

/-! ## Transactions -/

theorem transact {frames : List Frame} (hf : ∀ frame ∈ frames, P frame) :
    Keeps I (transact frames : LinkM σ (List UInt8)) := by
  cases frames with
  | nil => exact Keeps.pure _
  | cons frame frames => exact h.transaction hf

theorem single {frame : Frame} (hf : P frame) :
    Keeps I (critical (exchange frame) : LinkM σ UInt8) := by
  have hone : Keeps I (critical ([frame].mapM exchange) : LinkM σ (List UInt8)) :=
    h.transaction fun _ hm => List.mem_singleton.1 hm ▸ hf
  rw [critical_singleton, map_eq_pure_bind] at hone
  intro x reply x' hI hrun
  refine hone x [reply] x' hI ?_
  show (critical (exchange frame) x >>= _) = _
  rw [hrun]
  rfl

theorem readByte (address : UInt16) : Keeps I (readByte address : LinkM σ UInt8) :=
  h.single (h.reads address)

theorem readWord (address : UInt16) : Keeps I (readWord address : LinkM σ UInt16) :=
  Keeps.bind (h.readByte _) fun _ => Keeps.bind (h.readByte _) fun _ => Keeps.pure _

theorem readBlock (address : UInt16) (count : Nat) :
    Keeps I (readBlock address count : LinkM σ (List UInt8)) := by
  refine h.transact fun frame hm => ?_
  obtain ⟨i, -, rfl⟩ := List.mem_map.1 hm
  exact h.reads _

theorem readIpv4 (address : UInt16) : Keeps I (readIpv4 address : LinkM σ Ipv4) :=
  Keeps.bind (h.readBlock _ _) fun _ => Keeps.pure _

theorem readMac (address : UInt16) : Keeps I (readMac address : LinkM σ Mac) :=
  Keeps.bind (h.readBlock _ _) fun _ => Keeps.pure _

theorem writeByte {address : UInt16} {value : UInt8} (hf : P (Frame.write address value)) :
    Keeps I (writeByte address value : LinkM σ Unit) :=
  Keeps.bind (h.single hf) fun _ => Keeps.pure _

theorem writeWord {address value : UInt16} (hhigh : ∀ byte, P (Frame.write address byte))
    (hlow : ∀ byte, P (Frame.write (address + 1) byte)) :
    Keeps I (writeWord address value : LinkM σ Unit) :=
  Keeps.bind (h.writeByte (hhigh _)) fun _ => h.writeByte (hlow _)

theorem writeBlock {address : UInt16} {data : List UInt8}
    (hf : ∀ i < data.length, ∀ byte, P (Frame.write (address + UInt16.ofNat i) byte)) :
    Keeps I (writeBlock address data : LinkM σ Unit) := by
  refine Keeps.bind (h.transact fun frame hm => ?_) fun _ => Keeps.pure _
  obtain ⟨i, hi, rfl⟩ := List.mem_mapIdx.1 hm
  exact hf i hi _

theorem note (notice : Notice) : Keeps (fun d : Device σ => I d.board) (note notice) :=
  Keeps.onLink (h.record notice)

/-! ## Waiting for a word -/

theorem settledWord (address : UInt16) :
    Keeps (fun d : Device σ => I d.board) (settledWord address) := by
  refine Keeps.bind Keeps.patience fun bound => ?_
  refine Keeps.bind (Keeps.onLink (h.readWord _)) fun first => ?_
  induction bound generalizing first with
  | zero => exact Keeps.fault _
  | succ bound ih =>
    refine Keeps.bind (Keeps.onLink (h.readWord _)) fun current => ?_
    exact Keeps.ite (Keeps.pure _) (ih current)

/-! ## Collecting interrupts -/

theorem latchUnreachable : Keeps (fun d : Device σ => I d.board) latchUnreachable := by
  refine Keeps.bind (Keeps.onLink (h.readIpv4 _)) fun ip => ?_
  refine Keeps.bind (Keeps.onLink (h.readWord _)) fun destinationPort => ?_
  exact Keeps.bind (h.note _) fun _ => Keeps.onController _

end Robust

end Robust

end SpiEthernet
