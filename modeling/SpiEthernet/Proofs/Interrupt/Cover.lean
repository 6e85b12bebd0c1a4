import SpiEthernet.Proofs.Interrupt.Announcement
import SpiEthernet.Proofs.Interrupt.Flow
import SpiEthernet.Proofs.Interrupt.Handler
import SpiEthernet.Proofs.Link.Robust

/-!
# A drain leaves nothing unannounced

A drain may start with interrupts lit that nobody has been told of. When a pass has read the
interrupt register, all flags that are raised then are excused; what is lit without an excuse has
been announced from then on. The pass takes one excuse after the other back by clearing the flags
it stands for, so behind a whole pass no excuse is left: whatever is lit then was raised
meanwhile, and that has asserted the line. It does not matter whether the drain ends because the
line is quiet or because its passes are used up.

* `drain_covers` : after a drain, lit interrupts have been announced.
-/

namespace SpiEthernet

/-! ## Excuses for what was read -/

theorem hasBits_interruptBit (byte : UInt8) (s : SocketId) :
    hasBits byte s.interruptBit = bit byte s.val := by
  have hs := s.isLt
  have hbit : ∀ i < 8, bit s.interruptBit i = decide (s.val = i) :=
    fun i hi => Chip.bit_interruptBit hi s
  cases hset : bit byte s.val with
  | true =>
    refine beq_iff_eq.2 (ext_bit fun i hi => ?_)
    rw [bit_and, hbit i hi]
    by_cases hi' : s.val = i
    · rw [← hi', hset]
      rfl
    · rw [decide_eq_false hi', Bool.and_false]
  | false =>
    refine beq_eq_false_iff_ne.2 fun heq => ?_
    have h := congrArg (bit · s.val) heq
    simp only [bit_and, hset, hbit s.val (by omega), decide_true, Bool.false_and] at h
    cases h

theorem bit_eq_false_of_global {current stored : UInt8} (h : Within stored InterruptFlag.global)
    {i : Nat} (hi : i < 8) (hset : bit stored i = true)
    (hnot : bit (current &&& InterruptFlag.global) i = false) : bit current i = false := by
  rwa [bit_and, h i hi hset, Bool.and_true] at hnot

/-- A register that reads as zero excuses nothing. -/
theorem Excuse.seen_zero : Excuse.seen 0 = Excuse.none := by
  have hnone : ∀ s : SocketId, hasBits 0 s.interruptBit = false := fun s => by
    rw [hasBits_interruptBit, bit_zero]
  simp [Excuse.seen, Excuse.none, hnone]

namespace Chip

variable {chip : Chip} {e : Excuse} {s : SocketId}

/-- A socket that the interrupt register does not name has no flag raised. -/
theorem byteOf_interrupt_of_unnamed (h : hasBits chip.interrupts s.interruptBit = false) :
    chip.byteOf .interrupt s = 0 := by
  have hs := s.isLt
  rw [hasBits_interruptBit, interrupts, bit_or, Bool.or_eq_false_iff] at h
  refine Decidable.byContradiction fun hne => ?_
  rw [(chip.bit_socketInterrupts (by omega)).2 ⟨s, rfl, hne⟩] at h
  exact Bool.noConfusion h.2

/-- Whatever the interrupt register shows is excused once it has been read. -/
theorem not_lit_seen (chip : Chip) : ¬chip.Lit (.seen chip.interrupts) := by
  rintro ⟨i, hi, -, hs | ⟨s, rfl, hne⟩⟩
  · have hs : bit (chip.stored &&& ~~~(chip.stored ||| chip.socketInterrupts)) i = true := hs
    rw [bit_and, bit_not _ hi, bit_or] at hs
    cases hb : bit chip.stored i <;> simp [hb] at hs
  · refine hne ?_
    cases hnamed : hasBits chip.interrupts s.interruptBit with
    | true =>
      show chip.byteOf .interrupt s &&& ~~~(if hasBits _ _ then 0xFF else 0) = 0
      rw [if_pos hnamed]
      exact UInt8.and_zero
    | false => rw [byteOf_interrupt_of_unnamed hnamed, UInt8.zero_and]

/-- The flags of a socket are excused once they have been read. -/
theorem Lit.of_set_read (h : chip.Lit (e.set s (chip.byteOf .interrupt s))) : chip.Lit e := by
  refine h.mono fun i _ hshows => hshows.imp_right ?_
  rintro ⟨t, ht, hne⟩
  by_cases hs : t = s
  · subst hs
    have hself : (e.set t (chip.byteOf .interrupt t)).sockets t = chip.byteOf .interrupt t :=
      if_pos rfl
    rw [hself] at hne
    refine absurd (ext_bit fun j hj => ?_) hne
    rw [bit_and, bit_not _ hj, bit_zero, Bool.and_not_self]
  · have hother : (e.set s (chip.byteOf .interrupt s)).sockets t = e.sockets t := if_neg hs
    rw [hother] at hne
    exact ⟨t, ht, hne⟩

/-- Once the excused flags of a socket have been cleared, they need no excuse any more. -/
theorem Lit.of_set_cleared {raw : UInt8}
    (h : (chip.setByteOf .interrupt s (chip.byteOf .interrupt s &&& ~~~raw)).Lit (e.set s 0)) :
    chip.Lit (e.set s raw) := by
  obtain ⟨i, hi, henabled, hshows⟩ := h
  rw [enabled_setByteOf] at henabled
  refine ⟨i, hi, henabled, ?_⟩
  rcases hshows with hs | ⟨t, ht, hne⟩
  · rw [stored_setByteOf] at hs
    exact .inl hs
  · refine .inr ⟨t, ht, ?_⟩
    by_cases hs : t = s
    · subst hs
      have hzero : (e.set t 0).sockets t = 0 := if_pos rfl
      have hraw : (e.set t raw).sockets t = raw := if_pos rfl
      rw [hzero, byteOf_setByteOf, if_pos ⟨rfl, rfl⟩, UInt8.not_zero, UInt8.and_neg_one] at hne
      rw [hraw]
      exact hne
    · have hsame : ∀ bits, (e.set s bits).sockets t = e.sockets t := fun _ => if_neg hs
      rw [hsame, byteOf_setByteOf, if_neg fun hc => hs hc.2.symm] at hne
      rw [hsame]
      exact hne

/-- Stored flags that were read and are cleared, or were not there, need no excuse any more. -/
theorem Lit.of_stored {chip' : Chip} {current : UInt8} (h : chip'.Lit .none)
    (henabled : chip'.enabled = chip.enabled)
    (hflags : ∀ t, chip'.byteOf .interrupt t = chip.byteOf .interrupt t)
    (hstored : ∀ i < 8, bit chip'.stored i = true →
      bit chip.stored i = true ∧ bit current i = false) :
    chip.Lit ⟨fun _ => 0, current⟩ := by
  obtain ⟨i, hi, hen, hshows⟩ := h
  refine ⟨i, hi, henabled ▸ hen, ?_⟩
  rcases hshows with hs | ⟨t, ht, hne⟩
  · refine .inl ?_
    have hs : bit (chip'.stored &&& ~~~0) i = true := hs
    rw [UInt8.not_zero, UInt8.and_neg_one] at hs
    obtain ⟨hset, hunread⟩ := hstored i hi hs
    rw [bit_and, bit_not _ hi, hset, hunread]
    rfl
  · rw [hflags] at hne
    exact .inr ⟨t, ht, hne⟩

end Chip

section Cover

variable {σ : Type} [Host σ] [Wired σ]

namespace Habit

variable {H : Habit σ} {x x' : σ} {frame : Frame} {value : UInt8} {o : List Occurrence}
  {e : Excuse} {device now : Device σ} {s : SocketId}

/-- Whatever is lit without an excuse has been announced. -/
structure Covered (H : Habit σ) (e : Excuse) (x : σ) : Prop where
  ok : H.ok x
  stored : Within (Wired.endpoint x).chip.stored InterruptFlag.global
  alarmed : (Wired.endpoint x).chip.Lit e → H.Alarmed x

theorem Covered.mono {e' : Excuse} (h : H.Covered e x)
    (hlit : (Wired.endpoint x).chip.Lit e' → (Wired.endpoint x).chip.Lit e) : H.Covered e' x :=
  ⟨h.ok, h.stored, h.alarmed ∘ hlit⟩

/-- While only the masking of the interrupt changes, the registers stay as they are. -/
theorem memory_eq_of_passes (hH : ∀ frame, ¬H.between frame) {start now : Endpoint}
    (h : start.Passes H.between o now) : now.chip.memory = start.chip.memory := by
  induction h with
  | refl => rfl
  | turn _ frame hf => exact absurd hf (hH frame)
  | mask _ _ ih => exact ih
  | notice _ ih => exact ih

variable (hH : ∀ frame, ¬H.between frame)

include hH

/-- What was announced before the events of a frame is announced behind them, and so is what they
light. -/
theorem Exchanged.covered (h : H.Exchanged x frame value o x') (hok : H.ok x)
    (hstored : Within ((Wired.endpoint x).chip.serve frame).2.stored InterruptFlag.global)
    (hlit : ((Wired.endpoint x).chip.serve frame).2.Lit e →
      ((Wired.endpoint x).chip.serve frame).2.edge = true ∨ H.called x) :
    H.Covered e x' := by
  obtain ⟨o', -, hwalk⟩ := h.walk
  have hafter := ((H.steady hok).serve frame).announces_afterFrame
  have hmemory : (Wired.endpoint x').chip.memory =
      ((Wired.endpoint x).chip.serve frame).2.afterFrame.memory := memory_eq_of_passes hH hwalk
  refine ⟨h.ok, ?_, fun hl => h.alarmed ?_⟩
  · rw [Chip.stored, hmemory]
    exact hafter.stored hstored
  · rcases hafter.lit e ((Chip.lit_of_memory hmemory e).1 hl) with hedge | hl
    · exact .inl hedge
    · exact (hlit hl).imp_left hafter.edge

/-- Looking at a register takes no announcement back. -/
theorem Exchanged.covered_read {address : UInt16}
    (h : H.Exchanged x (Frame.read address) value o x') (hc : H.Covered e x) {e' : Excuse}
    (hlit : (Wired.endpoint x).chip.Lit e' → (Wired.endpoint x).chip.Lit e) : H.Covered e' x' := by
  have hpresent := (H.steady hc.ok).present
  have heffect := Chip.readEffect hpresent address
  refine h.covered hH hc.ok ?_ fun hl => ?_
  · show Within ((Wired.endpoint x).chip.read address).2.stored _
    rw [Chip.stored, heffect.memory_eq]
    exact hc.stored
  · show ((Wired.endpoint x).chip.read address).2.edge = true ∨ _
    rw [heffect.edge_eq]
    exact hc.alarmed (hlit ((Chip.lit_of_memory heffect.memory_eq e').1 hl))

/-! ## The sockets' part of a pass -/

theorem SocketDrained.covered {current : UInt8} (h : H.SocketDrained current s device o now)
    (hc : H.Covered e device.board)
    (he : hasBits current s.interruptBit = false → e.sockets s = 0) :
    H.Covered (e.set s 0) now.board := by
  have hread : ∀ {raw o board}, H.Exchanged device.board
      (Frame.read (SocketRegister.interrupt.address s)) raw o board →
        H.Covered (e.set s raw) board := by
    intro raw o board h
    refine h.covered_read hH hc fun hl => ?_
    rw [h.reply_interrupt hc.ok] at hl
    exact Chip.Lit.of_set_read hl
  cases h with
  | unseen hseen =>
    rw [Excuse.set_eq_self (he hseen)]
    exact hc
  | silent h => exact hread h
  | @moved raw reply o o' board board' _ h h' =>
    have hfirst := hread h
    have hpresent := (H.steady h.ok).present
    refine h'.covered hH h.ok ?_ fun hl => ?_
    · rw [Chip.serve_write, Chip.write_socketInterrupt hpresent, Chip.stored_setByteOf]
      exact hfirst.stored
    · rw [Chip.serve_write, Chip.write_socketInterrupt hpresent] at hl ⊢
      exact hfirst.alarmed hl.of_set_cleared

theorem SocketsDrained.covered {current : UInt8} {sockets : List SocketId}
    (h : H.SocketsDrained current sockets device o now) :
    ∀ {e : Excuse}, H.Covered e device.board →
      (∀ s, hasBits current s.interruptBit = false → e.sockets s = 0) →
        H.Covered (e.clear sockets) now.board := by
  induction h with
  | nil => intro e hc _; exact hc
  | @cons s rest start middle now o o' h _ ih =>
    intro e hc he
    rw [Excuse.clear_cons]
    refine ih (h.covered hH hc (he s)) fun t ht => ?_
    show (if t = s then 0 else e.sockets t) = 0
    split
    · rfl
    · exact he t ht

/-! ## Looking around -/

/-- Looking around takes no announcement back. -/
theorem robust_covered (e : Excuse) :
    Robust (fun frame => frame.direction = .read) (H.Covered e) := by
  refine Robust.of_calls (fun _ => rfl) ?mask (fun before => ?restore) (fun frame hf => ?exchange)
    fun notice => ?record
  case mask =>
    intro x _ x' hc hrun
    rw [Wired.mask_eq] at hrun
    cases hrun
    refine ⟨H.held hc.ok, ?_, fun hl => ?_⟩
    · simpa using hc.stored
    · simpa [Alarmed, H.called_rewire] using hc.alarmed (by simpa using hl)
  case restore =>
    refine Keeps.of_ends fun x hc => (H.restore before hc.ok).mono ?_
    rintro _ x' ⟨hok, ⟨o, hpasses⟩, halarmed⟩
    have hmemory := memory_eq_of_passes hH hpasses
    refine ⟨hok, ?_, fun hl => halarmed (hc.alarmed ((Chip.lit_of_memory hmemory e).1 hl))⟩
    rw [Chip.stored, hmemory]
    exact hc.stored
  case exchange =>
    intro x _ x' hc hrun
    have hsteady := H.steady hc.ok
    have hlocal := (Frame.isQuiet_of_read hf).isLocal
    have hharmless : frame.IsHarmless := fun hw => by rw [hf] at hw; cases hw
    have hserved := Chip.announces_serve hsteady.present hharmless
    have hall := hserved.trans (hsteady.serve frame).announces_afterFrame
    have hok := H.turn hc.ok hlocal
    rw [Wired.exchange_eq _ _ hsteady] at hrun
    cases hrun
    refine ⟨hok, ?_, fun hl => ?_⟩
    · rw [Wired.endpoint_rewire]
      exact hall.stored hc.stored
    · rw [Wired.endpoint_rewire] at hl
      rw [Alarmed, Wired.endpoint_rewire, H.called_rewire]
      rcases hall.lit e hl with hedge | hl
      · exact .inl hedge
      · exact (hc.alarmed hl).imp_left hall.edge
  case record =>
    refine Keeps.of_ends fun x hc => (H.record notice hc.ok).mono ?_
    rintro _ x' ⟨hok, hsame, hcalled⟩
    refine ⟨hok, hsame ▸ hc.stored, fun hl => ?_⟩
    rw [hsame] at hl
    exact (hc.alarmed hl).imp (fun hedge => hsame ▸ hedge) hcalled

/-! ## A whole pass -/

/-- Clearing the global flags that were read takes their excuse back. -/
theorem clearGlobal_ends {current : UInt8} {device : Device σ}
    (hc : H.Covered ⟨fun _ => 0, current⟩ device.board) :
    Ends (onLink (writeByte CommonRegister.interrupt.address
      (current &&& InterruptFlag.global))) device fun _ d => H.Covered .none d.board := by
  refine (Ends.onLink (H.writeByte_ends hc.ok (isLocal_write_global _))).mono ?_
  rintro _ device' ⟨⟨o, reply, h⟩, -⟩
  have hpresent := (H.steady hc.ok).present
  have hserved : ((Wired.endpoint device.board).chip.serve (Frame.write
      CommonRegister.interrupt.address (current &&& InterruptFlag.global))).2 =
        (Wired.endpoint device.board).chip.clearBits CommonRegister.interrupt.address
          (current &&& InterruptFlag.global &&& InterruptFlag.global) := by
    rw [Chip.serve_write, Chip.write_interrupt hpresent]
  have hstored := (Wired.endpoint device.board).chip.stored_clearBits
    (current &&& InterruptFlag.global &&& InterruptFlag.global)
  refine h.covered hH hc.ok ?_ fun hl => ?_
  · rw [hserved, hstored]
    exact (within_and_left _ _).trans hc.stored
  · rw [hserved] at hl ⊢
    refine hc.alarmed (hl.of_stored (Chip.enabled_clearBits _ _)
      (Chip.byteOf_clearBits _ _) fun i hi hset => ?_)
    rw [hstored, bit_and, bit_not _ hi, Bool.and_eq_true_iff, Bool.not_eq_true'] at hset
    have hglobal := hc.stored i hi hset.1
    refine ⟨hset.1, bit_eq_false_of_global hc.stored hi hset.1 ?_⟩
    rw [bit_and, hglobal, Bool.and_true] at hset
    exact hset.2

/-- Behind the global part of a pass, no excuse is left. -/
theorem drainGlobal_leads (current : UInt8) :
    Leads (fun d : Device σ => H.Covered ⟨fun _ => 0, current⟩ d.board) (drainGlobal current)
      fun _ d => H.Covered .none d.board := by
  have hrobust := robust_covered hH ⟨fun _ => 0, current⟩
  have hclear : Leads (fun d : Device σ => H.Covered ⟨fun _ => 0, current⟩ d.board)
      (if current &&& InterruptFlag.global ≠ 0 then
        onLink (writeByte CommonRegister.interrupt.address (current &&& InterruptFlag.global))
      else pure ()) fun _ d => H.Covered .none d.board := by
    split
    · exact Leads.of_ends fun device hc => clearGlobal_ends hH hc
    · next hnone =>
      have hnone : current &&& InterruptFlag.global = 0 := Decidable.not_not.1 hnone
      -- no global flag was read, so whatever is stored never had the excuse
      refine Leads.pure fun d hc => hc.mono fun hl => ?_
      refine hl.of_stored rfl (fun _ => rfl) fun i hi hset => ⟨hset, ?_⟩
      exact bit_eq_false_of_global hc.stored hi hset (by rw [hnone, bit_zero])
  unfold drainGlobal
  refine Leads.guarded hrobust.latchUnreachable ?_
  refine Leads.guarded (hrobust.note _) ?_
  exact Leads.bind (Keeps.onController _) fun _ => hclear

/-- A board in good order, on which anything may be lit. -/
def Orderly (H : Habit σ) (x : σ) : Prop :=
  H.ok x ∧ Within (Wired.endpoint x).chip.stored InterruptFlag.global

/-- Behind a whole pass no excuse is left, if none is left behind those that follow. -/
theorem drainPass_leads {passes : Nat} (seen : UInt8)
    (hrest : ∀ seen, Leads (fun d : Device σ => H.Covered .none d.board) (drainPasses seen passes)
      fun _ d => H.Covered .none d.board) :
    Leads (fun d : Device σ => H.Orderly d.board) (drainPasses seen (passes + 1))
      fun _ d => H.Covered .none d.board := by
  have hlook : Leads (fun d : Device σ => H.Orderly d.board)
      (onLink (readByte CommonRegister.interrupt.address))
      fun current d => H.Covered (.seen current) d.board := by
    refine Leads.of_ends fun device ⟨hok, hstored⟩ => ?_
    refine (Ends.onLink (H.readByte_ends hok _)).mono ?_
    rintro current device' ⟨⟨o, h⟩, -⟩
    have hc : H.Covered (.seen (Wired.endpoint device.board).chip.interrupts) device.board :=
      ⟨hok, hstored, fun hl => absurd hl (Chip.not_lit_seen _)⟩
    rw [h.reply_global hok]
    exact h.covered_read hH hc id
  refine Leads.bind hlook fun current => ?_
  by_cases hcurrent : current = 0
  · rw [if_pos hcurrent, hcurrent, Excuse.seen_zero]
    exact Leads.pure fun _ => id
  · rw [if_neg hcurrent]
    have hsockets : Leads (fun d : Device σ => H.Covered (.seen current) d.board)
        (SocketId.all.forM (drainSocket current))
        fun _ d => H.Covered ⟨fun _ => 0, current⟩ d.board := by
      refine Leads.of_ends fun device hc => ?_
      refine (H.drainSockets_ends current _ device hc.ok).mono ?_
      rintro _ device' ⟨-, o, hs⟩
      have hcovered := hs.covered hH hc fun s hs => if_neg (by simp [hs])
      refine hcovered.mono fun hl => hl.mono fun i hi hshows => ?_
      refine hshows.imp_right fun ⟨s, hs, hne⟩ => ⟨s, hs, ?_⟩
      show _ &&& ~~~(if s ∈ SocketId.all then 0 else _) ≠ 0
      rw [if_pos (SocketId.mem_all s)]
      exact hne
    refine Leads.bind hsockets fun _ => ?_
    exact Leads.bind (drainGlobal_leads hH current) fun _ => hrest _

theorem drainPasses_leads (passes : Nat) : ∀ seen,
    Leads (fun d : Device σ => H.Covered .none d.board) (drainPasses seen passes)
      fun _ d => H.Covered .none d.board := by
  induction passes with
  | zero =>
    intro seen
    exact Keeps.bind ((robust_covered hH .none).note _) fun _ => Keeps.pure _
  | succ passes ih =>
    intro seen
    exact (drainPass_leads hH seen ih).mono fun d hc => ⟨hc.ok, hc.stored⟩

/-- Whatever is lit before a drain, what is lit behind it has been announced. -/
theorem drain_covers :
    Leads (fun d : Device σ => H.Orderly d.board) drain fun _ d => H.Covered .none d.board :=
  drainPass_leads hH 0 (drainPasses_leads hH 63)

end Habit

end Cover

end SpiEthernet
