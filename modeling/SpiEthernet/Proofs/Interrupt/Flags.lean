import SpiEthernet.Proofs.Chip.Quiet
import SpiEthernet.Sticky

/-!
# Where interrupt flags come from

There are five sources of interrupt flags: the four sockets, and the chip itself with the two
global flags that the driver keeps. The flags of a source are raised by events, and by events
only; what an event raises can be read off the event.

* `flagsOf_happen` : an event adds what it raises, and nothing else.
* `Passes.bit_flagsOf` : frames that spare a source only ever gain what events raise.
-/

namespace SpiEthernet

/-! ## Single bits -/

/-- Whether a bit of a byte is set. -/
def bit (byte : UInt8) (i : Nat) : Bool := byte.toBitVec.getLsbD i

@[simp] theorem bit_or (a b : UInt8) (i : Nat) : bit (a ||| b) i = (bit a i || bit b i) := by
  simp [bit]

@[simp] theorem bit_and (a b : UInt8) (i : Nat) : bit (a &&& b) i = (bit a i && bit b i) := by
  simp [bit]

@[simp] theorem bit_zero (i : Nat) : bit 0 i = false := by
  simp [bit]

theorem bit_not (a : UInt8) {i : Nat} (h : i < 8) : bit (~~~a) i = !bit a i := by
  simp [bit, h]

theorem ext_bit {a b : UInt8} (h : ∀ i < 8, bit a i = bit b i) : a = b := by
  apply UInt8.toBitVec_inj.1
  apply BitVec.eq_of_getLsbD_eq
  exact h

theorem hasBits_iff {bits mask : UInt8} :
    hasBits bits mask = true ↔ ∀ i < 8, bit mask i = true → bit bits i = true := by
  refine beq_iff_eq.trans ⟨fun h i _ hi => ?_, fun h => ext_bit fun i hi => ?_⟩
  · rw [← h, bit_and] at hi
    exact (Bool.and_eq_true_iff.1 hi).1
  · rw [bit_and]
    cases hm : bit mask i with
    | false => rw [Bool.and_false]
    | true => rw [h i hi hm, Bool.and_true]

theorem hasBits_or_left {a mask : UInt8} (h : hasBits a mask = true) (b : UInt8) :
    hasBits (b ||| a) mask = true :=
  hasBits_iff.2 fun i hi hm => by rw [bit_or, hasBits_iff.1 h i hi hm, Bool.or_true]

/-- Bytes that agree in the bits of a mask have the same flags among them. -/
theorem hasBits_of_and_eq {a b mask flags : UInt8} (h : a &&& mask = b &&& mask)
    (hflags : flags &&& mask = flags) (hb : hasBits b flags = true) : hasBits a flags = true := by
  refine hasBits_iff.2 fun i hi hf => ?_
  have hm : bit mask i = true := by
    rw [← hflags, bit_and] at hf
    exact (Bool.and_eq_true_iff.1 hf).2
  have hsame := congrArg (bit · i) h
  simpa [hm, hasBits_iff.1 hb i hi hf] using hsame

/-! ## Sources -/

/-- Where interrupt flags come from: a socket, or the chip itself. -/
inductive FlagSource where
  | socket (s : SocketId)
  | chip
deriving DecidableEq, Repr

/-- The flags of a source that are raised in the chip. Of the global flags, these are the two
that the driver keeps. -/
def Chip.flagsOf (chip : Chip) : FlagSource → UInt8
  | .socket s => chip.byteOf .interrupt s
  | .chip => chip.stored &&& InterruptFlag.sticky

/-- The flags of a source that the driver has collected. -/
def StickyFlags.flagsOf (flags : StickyFlags) : FlagSource → UInt8
  | .socket s => flags.socket s
  | .chip => flags.global

/-- The flags of a source that an event raises, provided that the chip takes it. -/
def Event.raises : Event → FlagSource → UInt8
  | .socketInterrupt s bits, .socket t => if s = t then bits else 0
  | .globalInterrupt bits, .chip => bits &&& InterruptFlag.sticky
  | .udp s _ _ _, .socket t | .tcp s _, .socket t | .ipRaw s _ _, .socket t
  | .macRaw s _, .socket t => if s = t then SocketFlag.received else 0
  | _, _ => 0

/-- The flags of a source that an event has raised. -/
def Occurrence.raises (occurrence : Occurrence) (source : FlagSource) : UInt8 :=
  if occurrence.taken then occurrence.event.raises source else 0

/-! ## What events do to flags -/

namespace Chip

section Event

variable (chip : Chip) (s t : SocketId)

theorem memory_assertLine : chip.assertLine.memory = chip.memory := by
  unfold assertLine
  split <;> rfl

@[simp] theorem byteOf_assertLine (r : SocketRegister) :
    chip.assertLine.byteOf r t = chip.byteOf r t := by
  rw [byteOf, memory_assertLine, byteOf]

@[simp] theorem stored_assertLine : chip.assertLine.stored = chip.stored := by
  rw [stored, memory_assertLine, stored]

@[simp] theorem enabled_assertLine : chip.assertLine.enabled = chip.enabled := by
  rw [enabled, memory_assertLine, enabled]

theorem byteOf_raiseSocket (bits : UInt8) :
    (chip.raiseSocket s bits).byteOf .interrupt t =
      if s = t then chip.byteOf .interrupt t ||| bits else chip.byteOf .interrupt t := by
  rw [raiseSocket, byteOf_assertLine, byteOf_setByteOf]
  by_cases h : s = t
  · subst h
    rw [if_pos ⟨rfl, rfl⟩, if_pos rfl]
  · rw [if_neg fun hc => h hc.2, if_neg h]

@[simp] theorem stored_raiseSocket (bits : UInt8) :
    (chip.raiseSocket s bits).stored = chip.stored := by
  rw [raiseSocket, stored_assertLine, stored_setByteOf]

theorem byteOf_raiseGlobal (bits : UInt8) (r : SocketRegister) :
    (chip.raiseGlobal bits).byteOf r t = chip.byteOf r t := by
  rw [raiseGlobal, byteOf_assertLine]
  have hmem := r.address_mem t
  have hi : CommonRegister.interrupt.address.toNat = 0x15 := rfl
  exact Memory.read_write_of_ne _ _ (by omega)

theorem stored_raiseGlobal (bits : UInt8) :
    (chip.raiseGlobal bits).stored = chip.stored ||| (bits &&& InterruptFlag.global) := by
  rw [raiseGlobal, stored_assertLine]
  exact Memory.read_write_self _ _ (by decide)

/-- Whether bytes fit into what is free of a socket's receive ring. -/
def fits (bytes : List UInt8) : Prop := (chip.wordOf .rxSize s).toNat + bytes.length ≤ ringSize

/-- The chip with bytes behind those in a socket's receive ring. -/
def pushed (bytes : List UInt8) : Chip :=
  ({ chip with memory :=
    chip.memory.writeRing (rxBase s).toNat (chip.wordOf .rxWrite s) bytes }.setWordOf .rxWrite s
      (chip.wordOf .rxWrite s + UInt16.ofNat bytes.length)).updateRxSize s

theorem store_of_fits {bytes : List UInt8} (h : chip.fits s bytes) :
    chip.store s bytes = (chip.pushed s bytes).raiseSocket s SocketFlag.received := by
  rw [store, if_neg (by unfold fits at h; omega)]
  rfl

theorem store_of_not_fits {bytes : List UInt8} (h : ¬chip.fits s bytes) :
    chip.store s bytes = chip := by
  rw [store, if_pos (by unfold fits at h; omega)]

theorem read_pushed (bytes : List UInt8) {address : Nat} (h : address < 0x0400) :
    (chip.pushed s bytes).memory.read address = chip.memory.read address := by
  have hbase := toNat_rxBase s
  rw [pushed, updateRxSize, read_setWordOf_of_outside _ _ _ rfl (.inl h),
    read_setWordOf_of_outside _ _ _ rfl (.inl h)]
  exact Memory.read_writeRing_of_outside _ _ _ _ (by omega)

theorem stored_pushed (bytes : List UInt8) : (chip.pushed s bytes).stored = chip.stored :=
  chip.read_pushed s bytes (by decide)

theorem byteOf_pushed (bytes : List UInt8) {r : SocketRegister} (hs : r ≠ .rxSize)
    (hw : r ≠ .rxWrite) : (chip.pushed s bytes).byteOf r t = chip.byteOf r t := by
  have hbase := toNat_rxBase s
  have hmem := r.address_mem t
  rw [pushed, updateRxSize, byteOf_setWordOf _ _ _ _ rfl hs.symm,
    byteOf_setWordOf _ _ _ _ rfl hw.symm]
  exact Memory.read_writeRing_of_outside _ _ _ _ (by omega)

end Event

end Chip

/-- The flags that bytes arriving for a socket raise. -/
def arrivalRaises (s : SocketId) : FlagSource → UInt8
  | .socket t => if s = t then SocketFlag.received else 0
  | .chip => 0

theorem Event.raises_of_delivery {event : Event} {s : SocketId} {bytes : List UInt8}
    (h : event.delivery? = some (s, bytes)) (source : FlagSource) :
    event.raises source = arrivalRaises s source := by
  cases event <;> cases h <;> cases source <;> rfl

namespace Chip

theorem flagsOf_raiseSocket (chip : Chip) (s : SocketId) (bits : UInt8) (source : FlagSource) :
    (chip.raiseSocket s bits).flagsOf source =
      chip.flagsOf source ||| (Event.socketInterrupt s bits).raises source := by
  cases source with
  | socket t =>
    show (chip.raiseSocket s bits).byteOf .interrupt t = _ ||| (if s = t then bits else 0)
    rw [byteOf_raiseSocket]
    split
    · rfl
    · rw [UInt8.or_zero]
      rfl
  | chip =>
    show (chip.raiseSocket s bits).stored &&& _ = chip.stored &&& _ ||| 0
    rw [stored_raiseSocket, UInt8.or_zero]

theorem flagsOf_raiseGlobal (chip : Chip) (bits : UInt8) (source : FlagSource) :
    (chip.raiseGlobal bits).flagsOf source =
      chip.flagsOf source ||| (Event.globalInterrupt bits).raises source := by
  cases source with
  | socket t =>
    show (chip.raiseGlobal bits).byteOf .interrupt t = chip.byteOf .interrupt t ||| 0
    rw [byteOf_raiseGlobal, UInt8.or_zero]
  | chip =>
    show (chip.raiseGlobal bits).stored &&& InterruptFlag.sticky =
      chip.stored &&& InterruptFlag.sticky ||| bits &&& InterruptFlag.sticky
    have hsub : InterruptFlag.global &&& InterruptFlag.sticky = InterruptFlag.sticky := by decide
    rw [stored_raiseGlobal]
    refine ext_bit fun i _ => ?_
    rw [← hsub]
    simp only [bit_and, bit_or, Bool.and_or_distrib_right, Bool.and_assoc, Bool.and_self_left]

theorem flagsOf_store (chip : Chip) (s : SocketId) (bytes : List UInt8) (source : FlagSource) :
    (chip.store s bytes).flagsOf source = chip.flagsOf source |||
      if (chip.wordOf .rxSize s).toNat + bytes.length ≤ ringSize then arrivalRaises s source
      else 0 := by
  by_cases hfits : chip.fits s bytes
  · have hroom : (chip.wordOf .rxSize s).toNat + bytes.length ≤ ringSize := hfits
    have hpushed : (chip.pushed s bytes).flagsOf source = chip.flagsOf source := by
      cases source with
      | socket t => exact chip.byteOf_pushed s t bytes (by decide) (by decide)
      | chip =>
        show (chip.pushed s bytes).stored &&& _ = chip.stored &&& _
        rw [stored_pushed]
    rw [store_of_fits _ _ hfits, flagsOf_raiseSocket, hpushed, if_pos hroom]
    cases source <;> rfl
  · have hroom : ¬(chip.wordOf .rxSize s).toNat + bytes.length ≤ ringSize := hfits
    rw [store_of_not_fits _ _ hfits, if_neg hroom, UInt8.or_zero]

/-- An event adds the flags that it raises, and nothing else. -/
theorem flagsOf_happen (chip : Chip) {event : Event} (h : event.isOrdinary)
    (source : FlagSource) :
    (chip.happen event).flagsOf source =
      chip.flagsOf source ||| (chip.occurrence event).raises source := by
  cases hd : event.delivery? with
  | some delivery =>
    obtain ⟨s, bytes⟩ := delivery
    rw [happen_of_delivery hd, flagsOf_store, Occurrence.raises, occurrence,
      accepts_of_delivery hd, Event.raises_of_delivery hd]
    simp only [decide_eq_true_eq]
  | none =>
    have htaken : (chip.occurrence event).taken = true := by
      show chip.accepts event = true
      rw [accepts, hd]
    rw [Occurrence.raises, if_pos htaken]
    cases event with
    | socketInterrupt s bits => exact chip.flagsOf_raiseSocket s bits source
    | globalInterrupt bits => exact chip.flagsOf_raiseGlobal bits source
    | setStatus s status =>
      show (chip.setStatus s status).flagsOf source = chip.flagsOf source ||| 0
      rw [UInt8.or_zero]
      cases source with
      | socket t =>
        show (chip.setStatus s status).byteOf .interrupt t = chip.byteOf .interrupt t
        rw [setStatus, byteOf_setByteOf, if_neg fun hc => by cases hc.1]
      | chip =>
        show (chip.setStatus s status).stored &&& _ = chip.stored &&& _
        rw [setStatus, stored_setByteOf]
    | setWord => cases h
    | udp | tcp | ipRaw | macRaw => cases hd

end Chip

/-! ## The interrupt register -/

namespace Chip

theorem bit_interruptBit {i : Nat} (h : i < 8) (s : SocketId) :
    bit s.interruptBit i = decide (s.val = i) := by
  have hall : ∀ i : Fin 8, ∀ s : SocketId, bit s.interruptBit i = decide (s.val = i.val) := by
    decide
  exact hall ⟨i, h⟩ s

/-- The low bits of the interrupt register name the sockets that have a flag raised. -/
theorem bit_socketInterrupts (chip : Chip) {i : Nat} (h : i < 8) :
    bit chip.socketInterrupts i = true ↔
      ∃ s : SocketId, s.val = i ∧ chip.byteOf .interrupt s ≠ 0 := by
  have hfold : ∀ (sockets : List SocketId) (start : UInt8),
      bit (sockets.foldl (fun bits s => if chip.byteOf .interrupt s ≠ 0 then
        bits ||| s.interruptBit else bits) start) i = true ↔
      bit start i = true ∨ ∃ s ∈ sockets, s.val = i ∧ chip.byteOf .interrupt s ≠ 0 := by
    intro sockets
    induction sockets with
    | nil => intro start; simp
    | cons s sockets ih =>
      intro start
      rw [List.foldl_cons, ih]
      by_cases hs : chip.byteOf .interrupt s ≠ 0
      · rw [if_pos hs, bit_or, bit_interruptBit h]
        simp [hs, or_assoc]
      · rw [if_neg hs]
        simp [hs]
  rw [socketInterrupts, hfold]
  simp [SocketId.mem_all]

/-- Among the two global flags that the driver keeps, the interrupt register shows what is
stored. -/
theorem interrupts_and_sticky (chip : Chip) :
    chip.interrupts &&& InterruptFlag.sticky = chip.flagsOf .chip := by
  refine ext_bit fun i hi => ?_
  show bit ((chip.stored ||| chip.socketInterrupts) &&& _) i = bit (chip.stored &&& _) i
  rw [bit_and, bit_or, bit_and]
  cases hb : bit chip.socketInterrupts i with
  | false => rw [Bool.or_false]
  | true =>
    obtain ⟨s, hs, -⟩ := (chip.bit_socketInterrupts hi).1 hb
    have hlow : ∀ s : SocketId, bit InterruptFlag.sticky s.val = false := by decide
    rw [← hs, hlow, Bool.and_false, Bool.and_false]

end Chip

/-! ## What frames do to flags -/

/-- A frame that leaves the flags of a source alone. -/
def Frame.Spares (source : FlagSource) (frame : Frame) : Prop :=
  ∀ chip : Chip, chip.absent = none → (chip.serve frame).2.flagsOf source = chip.flagsOf source

theorem Chip.ReadEffect.memory_eq {chip after : Chip} {address : UInt16} {value : UInt8}
    (h : ReadEffect chip address value after) : after.memory = chip.memory := by
  cases h <;> rfl

theorem Frame.spares_of_read {frame : Frame} (h : frame.direction = .read)
    (source : FlagSource) : frame.Spares source := by
  obtain ⟨direction, address, data⟩ := frame
  cases h
  intro chip hpresent
  show (chip.read address).2.flagsOf source = _
  have hmemory := (Chip.readEffect hpresent address).memory_eq
  cases source with
  | socket t =>
    show (chip.read address).2.memory.read _ = _
    rw [hmemory]
    rfl
  | chip =>
    show (chip.read address).2.memory.read _ &&& _ = _
    rw [hmemory]
    rfl

theorem Frame.spares_write_interrupt {s : SocketId} {source : FlagSource}
    (h : source ≠ .socket s) (value : UInt8) :
    (Frame.write (SocketRegister.interrupt.address s) value).Spares source := by
  intro chip hpresent
  rw [Chip.serve_write, Chip.write_socketInterrupt hpresent]
  cases source with
  | socket t =>
    have hne : ¬(SocketRegister.interrupt = SocketRegister.interrupt ∧ s = t) :=
      fun hc => h (congrArg _ hc.2.symm)
    show (chip.setByteOf _ _ _).byteOf .interrupt t = _
    rw [Chip.byteOf_setByteOf, if_neg hne]
    rfl
  | chip =>
    show (chip.setByteOf _ _ _).stored &&& _ = _
    rw [Chip.stored_setByteOf]
    rfl

theorem Frame.spares_write_global (s : SocketId) (value : UInt8) :
    (Frame.write CommonRegister.interrupt.address value).Spares (.socket s) := by
  intro chip hpresent
  rw [Chip.serve_write, Chip.write_interrupt hpresent]
  have hmem := SocketRegister.interrupt.address_mem s
  have hi : CommonRegister.interrupt.address.toNat = 0x15 := rfl
  exact Memory.read_write_of_ne _ _ (by omega)

/-- How many of some occurrences have raised a bit of a source. -/
def raiseCount (source : FlagSource) (i : Nat) (o : List Occurrence) : Nat :=
  o.countP fun occurrence => bit (occurrence.raises source) i

theorem raiseCount_append (source : FlagSource) (i : Nat) (o o' : List Occurrence) :
    raiseCount source i (o ++ o') = raiseCount source i o + raiseCount source i o' :=
  List.countP_append

theorem decide_raiseCount_singleton (source : FlagSource) (i : Nat) (occurrence : Occurrence) :
    decide (0 < raiseCount source i [occurrence]) = bit (occurrence.raises source) i := by
  cases hb : bit (occurrence.raises source) i <;> simp [raiseCount, hb]

theorem Chip.bit_flagsOf_afterFrame {chip : Chip} (h : chip.Steady) (source : FlagSource)
    (i : Nat) :
    bit (chip.afterFrame.flagsOf source) i =
      (bit (chip.flagsOf source) i || decide (0 < raiseCount source i chip.frameOccurrences)) := by
  refine afterFrame_induction [] (P := fun c o => bit (c.flagsOf source) i =
    (bit (chip.flagsOf source) i || decide (0 < raiseCount source i o))) ?_ ?_
  · simp [raiseCount]
    rfl
  · intro c o scheduled hs hc
    rw [c.flagsOf_happen (h.ordinary scheduled hs), bit_or, hc, raiseCount_append, Bool.or_assoc,
      ← decide_raiseCount_singleton]
    simp only [Nat.add_pos_iff_pos_or_pos, Bool.decide_or]

namespace Endpoint.Passes

/-- Frames that spare a source leave its flags to the events. -/
theorem bit_flagsOf {P : Frame → Prop} {start now : Endpoint} {o : List Occurrence}
    {source : FlagSource} (h : Passes P start o now) (hP : ∀ frame, P frame → frame.Spares source)
    (hs : start.chip.Steady) (i : Nat) :
    bit (now.chip.flagsOf source) i =
      (bit (start.chip.flagsOf source) i || decide (0 < raiseCount source i o)) := by
  induction h with
  | refl => simp [raiseCount]
  | @turn o now h frame hf ih =>
    have hsteady := h.steady hs
    show bit ((now.chip.serve frame).2.afterFrame.flagsOf source) i = _
    rw [Chip.bit_flagsOf_afterFrame (hsteady.serve frame), hP frame hf now.chip hsteady.present, ih,
      raiseCount_append, Bool.or_assoc]
    congr 1
    simp only [Nat.add_pos_iff_pos_or_pos, Bool.decide_or]
  | mask _ _ ih => exact ih
  | notice _ ih => exact ih

end Endpoint.Passes

end SpiEthernet
