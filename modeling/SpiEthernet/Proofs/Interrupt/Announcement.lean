import SpiEthernet.Proofs.Interrupt.Flags

/-!
# Lit interrupts are announced

The interrupt line is asserted when an enabled interrupt is raised. So an enabled bit of the
interrupt register that is set now was either set before, or has been announced by an assertion.
`Chip.Announces` says this of two states of a chip, and everything that can happen to a chip
announces what it lights: events, commands, and all accesses that do not change which interrupts
are enabled.

While a drain is under way some bits are set that the drain is about to clear. Such bits are
excused (`Excuse`): they need no announcement.

* `announces_happen`, `announces_serve` : events and accesses announce what they light.
-/

namespace SpiEthernet

/-! ## Lit interrupts -/

/-- Flags that need no announcement, because a drain has seen them and is about to clear them. -/
structure Excuse where
  sockets : SocketId → UInt8
  stored : UInt8

namespace Excuse

/-- No excuse at all. -/
def none : Excuse := ⟨fun _ => 0, 0⟩

/-- The excuses with those of one socket replaced. -/
def set (e : Excuse) (s : SocketId) (bits : UInt8) : Excuse :=
  { e with sockets := fun t => if t = s then bits else e.sockets t }

/-- The excuses without those of some sockets. -/
def clear (e : Excuse) (sockets : List SocketId) : Excuse :=
  { e with sockets := fun s => if s ∈ sockets then 0 else e.sockets s }

/-- The excuses of a pass that has read the interrupt register. -/
def seen (current : UInt8) : Excuse :=
  ⟨fun s => if hasBits current s.interruptBit then 0xFF else 0, current⟩

theorem set_eq_self {e : Excuse} {s : SocketId} {bits : UInt8} (h : e.sockets s = bits) :
    e.set s bits = e := by
  obtain ⟨sockets, stored⟩ := e
  subst h
  simp only [set, mk.injEq, and_true]
  funext t
  split
  · next ht => rw [ht]
  · rfl

theorem clear_cons (e : Excuse) (s : SocketId) (rest : List SocketId) :
    e.clear (s :: rest) = (e.set s 0).clear rest := by
  simp only [clear, set, mk.injEq, and_true]
  funext t
  by_cases hs : t = s <;> simp [hs]

end Excuse

/-- Every bit of the first byte is set in the second. -/
def Within (a b : UInt8) : Prop := ∀ i < 8, bit a i = true → bit b i = true

theorem Within.refl (a : UInt8) : Within a a := fun _ _ => id

theorem Within.trans {a b c : UInt8} (h : Within a b) (h' : Within b c) : Within a c :=
  fun i hi ha => h' i hi (h i hi ha)

theorem within_and_left (a b : UInt8) : Within (a &&& b) a := by
  intro i _ h
  rw [bit_and] at h
  exact (Bool.and_eq_true_iff.1 h).1

theorem ne_zero_iff_bit (a : UInt8) : a ≠ 0 ↔ ∃ i < 8, bit a i = true := by
  constructor
  · intro hne
    refine Classical.byContradiction fun hnone => hne (ext_bit fun i hi => ?_)
    rw [bit_zero]
    cases hb : bit a i with
    | false => rfl
    | true => exact absurd ⟨i, hi, hb⟩ hnone
  · rintro ⟨i, -, hset⟩ rfl
    rw [bit_zero] at hset
    cases hset

namespace Chip

/-- The interrupt register shows a bit for a reason that is not excused. -/
def Shows (chip : Chip) (e : Excuse) (i : Nat) : Prop :=
  bit (chip.stored &&& ~~~e.stored) i = true ∨
    ∃ s : SocketId, s.val = i ∧ chip.byteOf .interrupt s &&& ~~~e.sockets s ≠ 0

/-- The interrupt register shows an enabled bit for a reason that is not excused. -/
def Lit (chip : Chip) (e : Excuse) : Prop := ∃ i < 8, bit chip.enabled i = true ∧ chip.Shows e i

theorem shows_none (chip : Chip) {i : Nat} (hi : i < 8) :
    chip.Shows .none i ↔ bit chip.interrupts i = true := by
  show bit (chip.stored &&& ~~~0) i = true ∨ (∃ s : SocketId, s.val = i ∧
    chip.byteOf .interrupt s &&& ~~~0 ≠ 0) ↔ bit (chip.stored ||| chip.socketInterrupts) i = true
  rw [bit_or, Bool.or_eq_true_iff, chip.bit_socketInterrupts hi]
  simp only [UInt8.not_zero, UInt8.and_neg_one]

theorem interrupts_eq_zero {chip : Chip} (hstored : chip.stored = 0)
    (hflags : ∀ s, chip.byteOf .interrupt s = 0) : chip.interrupts = 0 := by
  refine ext_bit fun i hi => ?_
  rw [bit_zero, Bool.eq_false_iff]
  intro hset
  rcases (chip.shows_none hi).2 hset with hs | ⟨s, -, hne⟩
  · rw [hstored, UInt8.zero_and, bit_zero] at hs
    cases hs
  · rw [hflags, UInt8.zero_and] at hne
    exact hne rfl

/-- Without excuses, a bit is lit if the chip's interrupt condition holds. -/
theorem lit_none (chip : Chip) :
    chip.Lit .none ↔ chip.interrupts &&& chip.enabled ≠ 0 := by
  rw [ne_zero_iff_bit]
  constructor
  · rintro ⟨i, hi, henabled, hshows⟩
    refine ⟨i, hi, ?_⟩
    rw [bit_and, (chip.shows_none hi).1 hshows, henabled]
    rfl
  · rintro ⟨i, hi, hset⟩
    rw [bit_and, Bool.and_eq_true_iff] at hset
    exact ⟨i, hi, hset.2, (chip.shows_none hi).2 hset.1⟩

theorem Lit.mono {chip : Chip} {e e' : Excuse} (h : chip.Lit e)
    (hshows : ∀ i < 8, chip.Shows e i → chip.Shows e' i) : chip.Lit e' := by
  obtain ⟨i, hi, henabled, hs⟩ := h
  exact ⟨i, hi, henabled, hshows i hi hs⟩

theorem lit_of_memory {chip chip' : Chip} (hmemory : chip'.memory = chip.memory) (e : Excuse) :
    chip'.Lit e ↔ chip.Lit e := by
  simp only [Lit, Shows, stored, enabled, byteOf, hmemory]

theorem Lit.none {chip : Chip} {e : Excuse} (h : chip.Lit e) : chip.Lit .none := by
  refine h.mono fun i hi hs => ?_
  rcases hs with hs | ⟨s, hs, hne⟩
  · refine .inl ?_
    rw [bit_and, Bool.and_eq_true_iff] at hs
    show bit (chip.stored &&& ~~~0) i = true
    rw [UInt8.not_zero, UInt8.and_neg_one]
    exact hs.1
  · refine .inr ⟨s, hs, fun hz => hne ?_⟩
    have hz : chip.byteOf .interrupt s &&& ~~~0 = 0 := hz
    rw [UInt8.not_zero, UInt8.and_neg_one] at hz
    rw [hz, UInt8.zero_and]

/-! ## Announcing -/

/-- Whatever is lit in the second state was lit in the first, or has been announced; no
announcement is lost, and only global flags have been added to those the chip stores. -/
structure Announces (chip chip' : Chip) : Prop where
  lit (e : Excuse) : chip'.Lit e → chip'.edge = true ∨ chip.Lit e
  edge : chip.edge = true → chip'.edge = true
  stored : Within chip.stored InterruptFlag.global → Within chip'.stored InterruptFlag.global

namespace Announces

variable {chip chip' chip'' : Chip}

theorem refl (chip : Chip) : chip.Announces chip := ⟨fun _ => .inr, id, id⟩

theorem trans (h : chip.Announces chip') (h' : chip'.Announces chip'') :
    chip.Announces chip'' := by
  refine ⟨fun e hlit => ?_, h'.edge ∘ h.edge, h'.stored ∘ h.stored⟩
  rcases h'.lit e hlit with hedge | hlit
  · exact .inl hedge
  · exact (h.lit e hlit).imp_left h'.edge

/-- Flags may go as they like. -/
theorem of_within (henabled : chip'.enabled = chip.enabled)
    (hstored : Within chip'.stored chip.stored)
    (hflags : ∀ s, Within (chip'.byteOf .interrupt s) (chip.byteOf .interrupt s))
    (hedge : chip'.edge = chip.edge) : chip.Announces chip' := by
  refine ⟨fun e hlit => .inr ?_, fun h => hedge.trans h, hstored.trans⟩
  obtain ⟨i, hi, hen, hs⟩ := hlit
  refine ⟨i, hi, henabled ▸ hen, ?_⟩
  rcases hs with hs | ⟨s, hs, hne⟩
  · refine .inl ?_
    rw [bit_and, Bool.and_eq_true_iff] at hs ⊢
    exact ⟨hstored i hi hs.1, hs.2⟩
  · refine .inr ⟨s, hs, ?_⟩
    rw [ne_zero_iff_bit] at hne ⊢
    obtain ⟨j, hj, hset⟩ := hne
    rw [bit_and, Bool.and_eq_true_iff] at hset
    exact ⟨j, hj, by rw [bit_and, hflags s j hj hset.1, hset.2]; rfl⟩

/-- What is raised just before the line is asserted is announced. -/
theorem of_assertLine (hedge : chip'.edge = chip.edge)
    (hstored : Within chip.stored InterruptFlag.global → Within chip'.stored InterruptFlag.global) :
    chip.Announces chip'.assertLine := by
  have hasserted : chip'.assertLine.Lit .none → chip'.assertLine.edge = true := by
    rw [lit_none]
    intro hlit
    have hcondition : chip'.interrupts &&& chip'.enabled ≠ 0 := by
      refine fun hzero => hlit ?_
      have hsame : chip'.assertLine.interrupts = chip'.interrupts := by
        unfold assertLine
        split <;> rfl
      rw [hsame, enabled_assertLine, hzero]
    unfold assertLine
    split
    · rfl
    · next hnot => exact absurd hcondition hnot
  refine ⟨fun e hlit => .inl (hasserted hlit.none), fun h => ?_, ?_⟩
  · unfold assertLine
    split
    · rfl
    · exact hedge.trans h
  · rw [stored_assertLine]
    exact hstored

end Announces

/-! ## Changes of registers -/

section Registers

variable (chip : Chip) (s : SocketId)

theorem announces_setByteOf {r : SocketRegister} (value : UInt8) (hr : r ≠ .interrupt) :
    chip.Announces (chip.setByteOf r s value) := by
  refine Announces.of_within (chip.enabled_setByteOf s r value) ?_ (fun t => ?_) rfl
  · rw [stored_setByteOf]
    exact Within.refl _
  · rw [byteOf_setByteOf, if_neg fun hc => hr hc.1]
    exact Within.refl _

theorem announces_clear (value : UInt8) :
    chip.Announces (chip.setByteOf .interrupt s (chip.byteOf .interrupt s &&& value)) := by
  refine Announces.of_within (chip.enabled_setByteOf s _ _) ?_ (fun t => ?_) rfl
  · rw [stored_setByteOf]
    exact Within.refl _
  · rw [byteOf_setByteOf]
    split
    · next h =>
      rw [← h.2]
      exact within_and_left _ _
    · exact Within.refl _

theorem announces_setWordOf {r : SocketRegister} (value : UInt16) (hw : r.width = 2) :
    chip.Announces (chip.setWordOf r s value) := by
  have hr : r ≠ .interrupt := by
    rintro rfl
    cases hw
  refine Announces.of_within (chip.enabled_setWordOf s value hw) ?_ (fun t => ?_) rfl
  · rw [stored_setWordOf _ _ _ hw]
    exact Within.refl _
  · rw [byteOf_setWordOf _ _ _ _ hw hr]
    exact Within.refl _

theorem Announces.setWordOf {chip chip' : Chip} (h : chip.Announces chip') (s : SocketId)
    {r : SocketRegister} (value : UInt16) (hw : r.width = 2) :
    chip.Announces (chip'.setWordOf r s value) := h.trans (chip'.announces_setWordOf s value hw)

/-- What is neither a register nor the line plays no part. -/
theorem announces_of_memory {chip chip' : Chip} (hmemory : chip'.memory = chip.memory)
    (hedge : chip'.edge = chip.edge) : chip.Announces chip' := by
  have hstored : chip'.stored = chip.stored := by rw [Chip.stored, hmemory, Chip.stored]
  have henabled : chip'.enabled = chip.enabled := by rw [Chip.enabled, hmemory, Chip.enabled]
  refine Announces.of_within henabled ?_ (fun t => ?_) hedge
  · rw [hstored]
    exact Within.refl _
  · rw [byteOf, hmemory]
    exact Within.refl _

theorem announces_setStatus (status : SocketStatus) : chip.Announces (chip.setStatus s status) :=
  chip.announces_setByteOf s _ (by decide)

theorem announces_updateRxSize : chip.Announces (chip.updateRxSize s) :=
  chip.announces_setWordOf s _ rfl

theorem announces_setPointers (tx rx : UInt16) : chip.Announces (chip.setPointers s tx rx) := by
  have hlatch : chip.Announces (chip.mapLatch s fun latch =>
      { latch with txWrite := tx, rxRead := rx }) := announces_of_memory rfl rfl
  have htx := (hlatch.setWordOf (r := .txWrite) s tx rfl).setWordOf (r := .txRead) s tx rfl
  have hrx := (htx.setWordOf (r := .rxWrite) s rx rfl).setWordOf (r := .rxRead) s rx rfl
  exact (hrx.setWordOf s (UInt16.ofNat ringSize) rfl).setWordOf s 0 rfl

/-! ## Events -/

theorem announces_raiseSocket (bits : UInt8) : chip.Announces (chip.raiseSocket s bits) := by
  refine Announces.of_assertLine rfl ?_
  rw [stored_setByteOf]
  exact id

theorem announces_raiseGlobal (bits : UInt8) : chip.Announces (chip.raiseGlobal bits) := by
  refine Announces.of_assertLine rfl fun h i hi hset => ?_
  have hraised := chip.stored_raiseGlobal bits
  rw [raiseGlobal, stored_assertLine] at hraised
  rw [hraised, bit_or, Bool.or_eq_true_iff, bit_and, Bool.and_eq_true_iff] at hset
  exact hset.elim (h i hi) (·.2)

theorem announces_store (bytes : List UInt8) : chip.Announces (chip.store s bytes) := by
  by_cases hfits : chip.fits s bytes
  · rw [store_of_fits _ _ hfits]
    refine Announces.trans ?_ ((chip.pushed s bytes).announces_raiseSocket s _)
    have henabled : (chip.pushed s bytes).enabled = chip.enabled :=
      chip.read_pushed s bytes (by decide)
    refine Announces.of_within henabled ?_ (fun t => ?_) rfl
    · rw [stored_pushed]
      exact Within.refl _
    · rw [byteOf_pushed _ _ _ _ (by decide) (by decide)]
      exact Within.refl _
  · rw [store_of_not_fits _ _ hfits]
    exact Announces.refl chip

/-- Every event announces what it lights. -/
theorem announces_happen {event : Event} (h : event.isOrdinary) :
    chip.Announces (chip.happen event) := by
  cases event with
  | socketInterrupt s bits => exact chip.announces_raiseSocket s bits
  | globalInterrupt bits => exact chip.announces_raiseGlobal bits
  | setStatus s status => exact chip.announces_setStatus s status
  | udp s source sourcePort payload => exact chip.announces_store s _
  | tcp s data => exact chip.announces_store s data
  | ipRaw s source payload => exact chip.announces_store s _
  | macRaw s frame => exact chip.announces_store s _
  | setWord => cases h

theorem Steady.announces_afterFrame {chip : Chip} (h : chip.Steady) :
    chip.Announces chip.afterFrame := by
  refine afterFrame_induction [] (P := fun c _ => chip.Announces c)
    (announces_of_memory rfl rfl) ?_
  intro c _ scheduled hs hc
  exact hc.trans (c.announces_happen (h.ordinary scheduled hs))

/-! ## Accesses -/

theorem announces_answer (packet : SentPacket) : chip.Announces (chip.answer packet) := by
  unfold answer
  split <;> exact announces_of_memory rfl rfl

theorem announces_transmit : chip.Announces (chip.transmit s) := by
  have hread : chip.Announces ((chip.setWordOf .txRead s (chip.wordOf .txWrite s)).mapLatch s
      fun latch => { latch with txWrite := chip.wordOf .txWrite s }) :=
    (chip.announces_setWordOf s _ rfl).trans (announces_of_memory rfl rfl)
  have hreleased : chip.Announces (chip.releaseTx s) := hread.setWordOf s _ rfl
  unfold transmit
  dsimp only
  split
  · refine hreleased.trans ?_
    unfold failTransmit
    dsimp only
    have hraised := (chip.releaseTx s).announces_raiseSocket s SocketFlag.timeout
    split
    · exact hraised.trans (announces_setStatus _ s _)
    · exact hraised
  · have hraised := (chip.releaseTx s).announces_raiseSocket s SocketFlag.sendOk
    have hanswered := announces_answer ((chip.releaseTx s).raiseSocket s SocketFlag.sendOk)
      (chip.stagedPacket s)
    exact ((hreleased.trans hraised).trans hanswered).trans (announces_of_memory rfl rfl)

theorem announces_run (command : SocketCommand) : chip.Announces (chip.run s command) := by
  cases command with
  | «open» => exact (chip.announces_setStatus s _).trans (announces_setPointers _ s 0 0)
  | listen => exact chip.announces_setStatus s _
  | connect => exact (chip.announces_setStatus s _).trans (announces_raiseSocket _ s _)
  | disconnect => exact (chip.announces_setStatus s _).trans (announces_raiseSocket _ s _)
  | close =>
    refine (chip.announces_setStatus s .closed).trans ?_
    have hclear := (chip.setStatus s .closed).announces_clear s 0
    rw [UInt8.and_zero] at hclear
    exact hclear
  | send | sendMac | sendKeep => exact chip.announces_transmit s
  | receive =>
    have hlatch : chip.Announces (chip.mapLatch s fun latch =>
        { latch with rxRead := chip.wordOf .rxRead s }) := announces_of_memory rfl rfl
    exact hlatch.trans (announces_updateRxSize _ s)

theorem announces_command (code : UInt8) : chip.Announces (chip.command s code) := by
  have htaken : chip.Announces ((chip.setByteOf .command s code).mapLatch s fun latch =>
      { latch with busy := chip.commandLatency.toNat }) :=
    (chip.announces_setByteOf s code (by decide)).trans (announces_of_memory rfl rfl)
  unfold command
  dsimp only
  split
  · exact htaken.trans (announces_run _ s _)
  · exact htaken

end Registers

theorem stored_clearBits (chip : Chip) (bits : UInt8) :
    (chip.clearBits CommonRegister.interrupt.address bits).stored = chip.stored &&& ~~~bits :=
  Memory.read_write_self _ _ (by decide)

theorem enabled_clearBits (chip : Chip) (bits : UInt8) :
    (chip.clearBits CommonRegister.interrupt.address bits).enabled = chip.enabled :=
  Memory.read_write_of_ne _ _ (by decide)

theorem byteOf_clearBits (chip : Chip) (bits : UInt8) (s : SocketId) :
    (chip.clearBits CommonRegister.interrupt.address bits).byteOf .interrupt s =
      chip.byteOf .interrupt s := by
  have hmem := SocketRegister.interrupt.address_mem s
  have hi : CommonRegister.interrupt.address.toNat = 0x15 := rfl
  exact Memory.read_write_of_ne _ _ (by omega)

/-- A read changes no register. -/
theorem announces_read {chip : Chip} (h : chip.absent = none) (address : UInt16) :
    chip.Announces (chip.read address).2 :=
  announces_of_memory (readEffect h address).memory_eq (readEffect h address).edge_eq

/-- A write lights nothing unannounced, unless it resets the chip or changes which interrupts are
enabled. -/
theorem announces_write {chip : Chip} (h : chip.absent = none) {address : UInt16} (value : UInt8)
    (hmode : address ≠ CommonRegister.mode.address)
    (hmask : address ≠ CommonRegister.interruptMask.address) :
    chip.Announces (chip.write address value) := by
  have heffect := writeEffect h address value
  generalize chip.write address value = after at *
  cases heffect with
  | reset ha => exact absurd ha hmode
  | clearGlobal ha =>
    subst ha
    refine Announces.of_within (chip.enabled_clearBits _) ?_ (fun t => ?_) rfl
    · rw [stored_clearBits]
      exact within_and_left _ _
    · rw [byteOf_clearBits]
      exact Within.refl _
  | clearSocket s => exact chip.announces_clear s _
  | command s => exact chip.announces_command s value
  | memory hi hs hc =>
    have hkeep : ∀ a : UInt16, address ≠ a →
        (chip.poke address value).memory.read a.toNat = chip.memory.read a.toNat :=
      fun a ha => Memory.read_write_of_ne _ _ fun he => ha (UInt16.toNat_inj.1 he)
    refine Announces.of_within (hkeep _ hmask) ?_ (fun t => ?_) rfl
    · show Within ((chip.poke address value).memory.read _) _
      rw [hkeep _ hi]
      exact Within.refl _
    · show Within ((chip.poke address value).memory.read _) _
      rw [hkeep _ (hs t)]
      exact Within.refl _

end Chip

/-- A frame that neither resets the chip nor changes which interrupts are enabled. -/
def Frame.IsHarmless (frame : Frame) : Prop :=
  frame.direction = .write → frame.address ≠ CommonRegister.mode.address ∧
    frame.address ≠ CommonRegister.interruptMask.address

/-- Every harmless frame announces what it lights. -/
theorem Chip.announces_serve {chip : Chip} (h : chip.absent = none) {frame : Frame}
    (hf : frame.IsHarmless) : chip.Announces (chip.serve frame).2 := by
  obtain ⟨direction, address, data⟩ := frame
  cases direction with
  | read => exact Chip.announces_read h address
  | write => exact Chip.announces_write h data (hf rfl).1 (hf rfl).2

end SpiEthernet
