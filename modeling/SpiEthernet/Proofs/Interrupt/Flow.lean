import SpiEthernet.Proofs.Interrupt.Drain
import SpiEthernet.Proofs.Interrupt.Flags

/-!
# What a drain moves

A drain reads a source's flags, remembers them, and clears in the chip exactly those it has read;
between any two of these steps events may raise further flags, the same ones included. Bit by
bit, a drain therefore moves a flag from the chip to the driver without losing or inventing any:
a bit is set on one of the two sides afterwards if it was set before or has been raised meanwhile,
and it is set on both sides only if there were two reasons for it.

* `Moves.move` : reading, remembering and clearing, with events before and behind the clearing.
* `Drained.flow` : a drain moves the flags of every source.
-/

namespace SpiEthernet

/-! ## One bit -/

/-- A bit may change from `collected` and `raised` to `collected'` and `raised'` while it is
raised `count` times: it is set on one of the two sides if it was before or has been raised, and
no more often than that. -/
structure Moves (collected raised : Bool) (count : Nat) (collected' raised' : Bool) : Prop where
  kept : (collected' || raised') = (collected || raised || decide (0 < count))
  counted : collected'.toNat + raised'.toNat ≤ collected.toNat + raised.toNat + count

namespace Moves

variable {collected collected' collected'' raised raised' raised'' : Bool} {n n' : Nat}

theorem refl : Moves collected raised 0 collected raised := ⟨by simp, by omega⟩

theorem trans (h : Moves collected raised n collected' raised')
    (h' : Moves collected' raised' n' collected'' raised'') :
    Moves collected raised (n + n') collected'' raised'' := by
  constructor
  · rw [h'.kept, h.kept, Bool.or_assoc]
    congr 1
    simp only [Nat.add_pos_iff_pos_or_pos, Bool.decide_or]
  · have := h.counted
    have := h'.counted
    omega

/-- Events alone only raise the bit in the chip. -/
theorem gain (collected raised : Bool) (n : Nat) :
    Moves collected raised n collected (raised || decide (0 < n)) := by
  refine ⟨(Bool.or_assoc ..).symm, ?_⟩
  by_cases hn : 0 < n
  · have : (raised || decide (0 < n)).toNat ≤ 1 := Bool.toNat_le _
    omega
  · simp [hn]

/-- A bit that is set in the chip is remembered, and then cleared; `n` times it is raised before
the clearing, and `n'` times behind it. -/
theorem move {taken : Bool} (htaken : taken = true → raised = true) :
    Moves collected raised (n + n') (collected || taken)
      ((raised || decide (0 < n)) && !taken || decide (0 < n')) := by
  cases taken with
  | false =>
    have h := (gain collected raised n).trans (gain collected (raised || decide (0 < n)) n')
    simpa using h
  | true =>
    rw [htaken rfl]
    constructor
    · simp
    · by_cases hn : 0 < n'
      · have := Bool.toNat_le collected
        simp [hn]
        omega
      · simp [hn]
        omega

end Moves

/-! ## All bits of a source -/

/-- Between two states of chip and driver, every bit of a source has moved as it may while
certain events happened. -/
def Flow (source : FlagSource) (o : List Occurrence) (chip : Chip) (flags : StickyFlags)
    (chip' : Chip) (flags' : StickyFlags) : Prop :=
  ∀ i < 8, Moves (bit (flags.flagsOf source) i) (bit (chip.flagsOf source) i)
    (raiseCount source i o) (bit (flags'.flagsOf source) i) (bit (chip'.flagsOf source) i)

namespace Flow

variable {source : FlagSource} {o o' : List Occurrence} {chip chip' chip'' : Chip}
  {flags flags' flags'' : StickyFlags}

theorem refl : Flow source [] chip flags chip flags := fun _ _ => Moves.refl

theorem trans (h : Flow source o chip flags chip' flags')
    (h' : Flow source o' chip' flags' chip'' flags'') :
    Flow source (o ++ o') chip flags chip'' flags'' := by
  intro i hi
  rw [raiseCount_append]
  exact (h i hi).trans (h' i hi)

/-- An event only raises flags in the chip. -/
theorem of_happen {event : Event} (h : event.isOrdinary) :
    Flow source [chip.occurrence event] chip flags (chip.happen event) flags := by
  intro i _
  rw [chip.flagsOf_happen h, bit_or, ← decide_raiseCount_singleton]
  exact Moves.gain _ _ _

/-- Frames that spare the source leave the flow to the events. -/
theorem of_passes {P : Frame → Prop} {start now : Endpoint} (h : start.Passes P o now)
    (hP : ∀ frame, P frame → frame.Spares source) (hs : start.chip.Steady)
    (hsame : flags'.flagsOf source = flags.flagsOf source) :
    Flow source o start.chip flags now.chip flags' := by
  intro i _
  rw [h.bit_flagsOf hP hs i, hsame]
  exact Moves.gain _ _ _

/-- Where nothing happens, the flags in the chip and those with the driver make up the same flags
together. -/
theorem union_eq {s : SocketId} (h : Flow (.socket s) [] chip flags chip' flags') :
    flags'.socket s ||| chip'.flagsOf (.socket s) =
      flags.socket s ||| chip.flagsOf (.socket s) := by
  refine ext_bit fun i hi => ?_
  have hkept := (h i hi).kept
  rw [show raiseCount (.socket s) i [] = 0 from rfl, decide_eq_false (Nat.lt_irrefl 0),
    Bool.or_false] at hkept
  rw [bit_or, bit_or]
  exact hkept

end Flow

section Drain

variable {σ : Type} [Host σ] [Wired σ]

namespace Habit

variable {H : Habit σ} {x x' : σ} {frame : Frame} {value seen : UInt8} {o : List Occurrence}
  {source : FlagSource} {device now : Device σ} {s : SocketId}

/-- A board whose own frames spare the flags of a source. -/
def Spares (H : Habit σ) (source : FlagSource) : Prop :=
  ∀ frame, H.between frame → frame.Spares source

/-- A board without frames of its own spares every flag. -/
theorem spares_of_none (hH : ∀ frame, ¬H.between frame) : H.Spares source :=
  fun frame hf => absurd hf (hH frame)

theorem Exchanged.bit_flagsOf (h : H.Exchanged x frame value o x') (hok : H.ok x)
    (hH : H.Spares source) (i : Nat) :
    bit ((Wired.endpoint x').chip.flagsOf source) i =
      (bit (((Wired.endpoint x).chip.serve frame).2.flagsOf source) i ||
        decide (0 < raiseCount source i o)) := by
  obtain ⟨o', rfl, hwalk⟩ := h.walk
  have hsteady := H.steady hok
  rw [hwalk.bit_flagsOf hH (Endpoint.steady_turn_held hsteady _) i,
    raiseCount_append]
  have hafter := Chip.bit_flagsOf_afterFrame (hsteady.serve frame) source i
  show (bit (((Wired.endpoint x).chip.serve frame).2.afterFrame.flagsOf source) i || _) = _
  rw [hafter, Bool.or_assoc]
  congr 1
  simp only [Nat.add_pos_iff_pos_or_pos, Bool.decide_or]

theorem Exchanged.flow (h : H.Exchanged x frame value o x') (hok : H.ok x)
    (hH : H.Spares source) (hframe : frame.Spares source) (flags : StickyFlags) :
    Flow source o (Wired.endpoint x).chip flags (Wired.endpoint x').chip flags := by
  intro i _
  rw [h.bit_flagsOf hok hH i, hframe _ (H.steady hok).present]
  exact Moves.gain _ _ _

theorem Looks.spares (hH : H.Spares source) (h : H.Looks frame) : frame.Spares source := by
  rcases h with h | h
  · exact Frame.spares_of_read h source
  · exact hH frame h

/-! ## The steps of a drain -/

theorem flagsOf_recordSocket (flags : StickyFlags) (s : SocketId) (bits : UInt8) :
    (flags.recordSocket s bits).flagsOf (.socket s) = flags.flagsOf (.socket s) ||| bits :=
  flags.socket_recordSocket s bits

theorem flagsOf_recordSocket_of_ne (flags : StickyFlags) (bits : UInt8)
    (h : source ≠ .socket s) :
    (flags.recordSocket s bits).flagsOf source = flags.flagsOf source := by
  cases source with
  | socket t => exact StickyFlags.socket_setSocket_of_ne _ _ fun he => h (congrArg _ he.symm)
  | chip => rfl

theorem Exchanged.reply_interrupt
    (h : H.Exchanged x (Frame.read (SocketRegister.interrupt.address s)) value o x')
    (hok : H.ok x) : value = (Wired.endpoint x).chip.flagsOf (.socket s) := by
  rw [h.reply, Chip.serve_read, Chip.read_register (H.steady hok).present (by decide) (by decide)]
  rfl

theorem Exchanged.reply_global
    (h : H.Exchanged x (Frame.read CommonRegister.interrupt.address) value o x') (hok : H.ok x) :
    value = (Wired.endpoint x).chip.interrupts := by
  rw [h.reply, Chip.serve_read, Chip.read_interrupt (H.steady hok).present]

theorem SocketDrained.flow (h : H.SocketDrained seen s device o now) (hok : H.ok device.board)
    (hH : H.Spares source) :
    Flow source o (Wired.endpoint device.board).chip device.controller.sticky
      (Wired.endpoint now.board).chip now.controller.sticky := by
  have hread : (Frame.read (SocketRegister.interrupt.address s)).Spares source :=
    Frame.spares_of_read rfl source
  cases h with
  | unseen => exact Flow.refl
  | silent h => exact h.flow hok hH hread _
  | @moved raw reply o o' board board' hraw h h' =>
    by_cases hsource : source = .socket s
    · subst hsource
      intro i hi
      have hreply := h.reply_interrupt hok
      rw [raiseCount_append, h'.bit_flagsOf h.ok hH, Chip.serve_write,
        Chip.write_socketInterrupt (H.steady h.ok).present]
      have hcleared : ∀ c : Chip, bit ((c.setByteOf .interrupt s
          (c.byteOf .interrupt s &&& ~~~raw)).flagsOf (.socket s)) i =
          (bit (c.flagsOf (.socket s)) i && !bit raw i) := by
        intro c
        show bit ((c.setByteOf .interrupt s _).byteOf .interrupt s) i = _
        rw [Chip.byteOf_setByteOf, if_pos ⟨rfl, rfl⟩, bit_and, bit_not _ hi]
        rfl
      rw [hcleared, h.bit_flagsOf hok hH, hread _ (H.steady hok).present]
      show Moves _ _ _ (bit ((device.controller.sticky.recordSocket s raw).flagsOf (.socket s)) i) _
      rw [flagsOf_recordSocket, bit_or]
      exact Moves.move fun ht => by rw [← hreply]; exact ht
    · have hfirst := h.flow hok hH hread device.controller.sticky
      have hsecond := h'.flow h.ok hH (Frame.spares_write_interrupt hsource raw)
        device.controller.sticky
      intro i hi
      show Moves _ _ _ (bit ((device.controller.sticky.recordSocket s raw).flagsOf source) i) _
      rw [flagsOf_recordSocket_of_ne device.controller.sticky raw hsource]
      exact hfirst.trans hsecond i hi

theorem SocketDrained.ok (h : H.SocketDrained seen s device o now) (hok : H.ok device.board) :
    H.ok now.board := by
  cases h with
  | unseen => exact hok
  | silent h => exact h.ok
  | moved _ _ h' => exact h'.ok

/-- Draining a socket takes no flag of another source away. -/
theorem SocketDrained.flags_kept (h : H.SocketDrained seen s device o now)
    (hok : H.ok device.board) (hH : H.Spares source) (hsource : source ≠ .socket s) {i : Nat}
    (hi : bit (device.chip.flagsOf source) i = true) : bit (now.chip.flagsOf source) i = true := by
  have hread : (Frame.read (SocketRegister.interrupt.address s)).Spares source :=
    Frame.spares_of_read rfl source
  cases h with
  | unseen => exact hi
  | silent h =>
    show bit ((Wired.endpoint _).chip.flagsOf source) i = true
    rw [h.bit_flagsOf hok hH, hread _ (H.steady hok).present, hi]
    rfl
  | @moved raw _ _ _ _ _ _ h h' =>
    have hwrite := Frame.spares_write_interrupt hsource raw
    show bit ((Wired.endpoint _).chip.flagsOf source) i = true
    rw [h'.bit_flagsOf h.ok hH, hwrite _ (H.steady h.ok).present, h.bit_flagsOf hok hH,
      hread _ (H.steady hok).present, hi]
    rfl

theorem SocketsDrained.flow {sockets : List SocketId}
    (h : H.SocketsDrained seen sockets device o now) (hok : H.ok device.board)
    (hH : H.Spares source) :
    H.ok now.board ∧ Flow source o (Wired.endpoint device.board).chip device.controller.sticky
      (Wired.endpoint now.board).chip now.controller.sticky := by
  induction h with
  | nil => exact ⟨hok, Flow.refl⟩
  | cons h _ ih =>
    obtain ⟨hok', hrest⟩ := ih (h.ok hok)
    exact ⟨hok', (h.flow hok hH).trans hrest⟩

theorem SocketsDrained.global_kept {sockets : List SocketId}
    (h : H.SocketsDrained seen sockets device o now) (hok : H.ok device.board)
    (hH : H.Spares .chip) {i : Nat}
    (hi : bit ((Wired.endpoint device.board).chip.flagsOf .chip) i = true) :
    bit ((Wired.endpoint now.board).chip.flagsOf .chip) i = true := by
  induction h with
  | nil => exact hi
  | cons h _ ih => exact ih (h.ok hok) (h.flags_kept hok hH FlagSource.noConfusion hi)

theorem flagsOf_recordGlobal (flags : StickyFlags) (bits : UInt8) :
    (flags.recordGlobal bits).flagsOf .chip =
      flags.flagsOf .chip ||| (bits &&& InterruptFlag.sticky) := rfl

theorem flagsOf_recordGlobal_socket (flags : StickyFlags) (bits : UInt8) :
    (flags.recordGlobal bits).flagsOf (.socket s) = flags.flagsOf (.socket s) := rfl

/-- Clearing global flags in the chip clears them bit by bit. -/
theorem bit_flagsOf_write_global {chip : Chip} (h : chip.absent = none) {i : Nat} (hi : i < 8) :
    bit ((chip.serve (Frame.write CommonRegister.interrupt.address
      (seen &&& InterruptFlag.global))).2.flagsOf .chip) i =
      (bit (chip.flagsOf .chip) i && !bit (seen &&& InterruptFlag.sticky) i) := by
  have hstored : (chip.clearBits CommonRegister.interrupt.address
      (seen &&& InterruptFlag.global &&& InterruptFlag.global)).stored =
      chip.stored &&& ~~~(seen &&& InterruptFlag.global &&& InterruptFlag.global) :=
    Memory.read_write_self _ _ (by decide)
  have hsub : ∀ i < 8, bit InterruptFlag.sticky i = true → bit InterruptFlag.global i = true := by
    decide
  rw [Chip.serve_write, Chip.write_interrupt h]
  show bit (Chip.stored _ &&& InterruptFlag.sticky) i = (bit (chip.stored &&& _) i && _)
  rw [hstored]
  simp only [bit_and, bit_not _ hi]
  cases hs : bit InterruptFlag.sticky i with
  | false => simp
  | true => simp [hsub i hi hs]

/-- The global part of a pass moves what was read, provided that it is still there. -/
theorem GlobalDrained.flow (h : H.GlobalDrained seen device o now) (hok : H.ok device.board)
    (hH : H.Spares source) (hseen : ∀ i < 8, bit (seen &&& InterruptFlag.sticky) i = true →
      bit ((Wired.endpoint device.board).chip.flagsOf .chip) i = true) :
    H.ok now.board ∧ Flow source o (Wired.endpoint device.board).chip device.controller.sticky
      (Wired.endpoint now.board).chip now.controller.sticky := by
  have hsteady := H.steady hok
  cases source with
  | socket s =>
    cases h with
    | silent _ hok' hpasses _ hsticky =>
      refine ⟨hok', Flow.of_passes hpasses (fun _ => Looks.spares hH) hsteady ?_⟩
      rw [hsticky, flagsOf_recordGlobal_socket]
    | moved _ hok' hpasses _ hsticky h' =>
      refine ⟨h'.ok, Flow.trans (Flow.of_passes hpasses (fun _ => Looks.spares hH) hsteady ?_)
        (h'.flow hok' hH (Frame.spares_write_global s _) _)⟩
      rw [hsticky, flagsOf_recordGlobal_socket]
  | chip =>
    cases h with
    | silent hnone hok' hpasses _ hsticky =>
      refine ⟨hok', Flow.of_passes hpasses (fun _ => Looks.spares hH) hsteady ?_⟩
      have hsub : InterruptFlag.sticky = InterruptFlag.global &&& InterruptFlag.sticky := by decide
      rw [hsticky, flagsOf_recordGlobal, hsub, ← UInt8.and_assoc, hnone, UInt8.zero_and,
        UInt8.or_zero]
    | moved _ hok' hpasses _ hsticky h' =>
      refine ⟨h'.ok, fun i hi => ?_⟩
      rw [raiseCount_append, h'.bit_flagsOf hok' hH,
        bit_flagsOf_write_global (H.steady hok').present hi,
        hpasses.bit_flagsOf (fun _ => Looks.spares hH) hsteady]
      show Moves _ _ _ (bit (StickyFlags.flagsOf _ _) i) _
      rw [hsticky, flagsOf_recordGlobal, bit_or]
      exact Moves.move (hseen i hi)

/-- A drain moves the flags of every source from the chip to the driver, losing and inventing
none, whatever is raised meanwhile. -/
theorem Drained.flow {limit : Nat} (h : H.Drained limit device o now) (hok : H.ok device.board)
    (hH : ∀ source, H.Spares source) :
    Flow source o (Wired.endpoint device.board).chip device.controller.sticky
      (Wired.endpoint now.board).chip now.controller.sticky := by
  have hread : ∀ source, (Frame.read CommonRegister.interrupt.address).Spares source :=
    Frame.spares_of_read rfl
  induction h with
  | limit _ hsame _ hcontroller =>
    rw [hsame, hcontroller]
    exact Flow.refl
  | quiet h => exact h.flow hok (hH source) (hread source) _
  | @pass _ current start sockets all now board o o' o'' rest _ h hs hg _ ih =>
    obtain ⟨hok', hflow'⟩ := hs.flow h.ok (hH source)
    have hseen : ∀ i < 8, bit (current &&& InterruptFlag.sticky) i = true →
        bit ((Wired.endpoint sockets.board).chip.flagsOf .chip) i = true := by
      intro i _ hi
      refine hs.global_kept h.ok (hH .chip) ?_
      show bit ((Wired.endpoint board).chip.flagsOf .chip) i = true
      rw [h.bit_flagsOf hok (hH .chip), hread .chip _ (H.steady hok).present,
        ← Chip.interrupts_and_sticky, ← h.reply_global hok, hi]
      rfl
    obtain ⟨hok'', hflow''⟩ := hg.flow hok' (hH source) hseen
    have hfirst := h.flow hok (hH source) (hread source) start.controller.sticky
    exact hfirst.trans (hflow'.trans (hflow''.trans (ih hok'')))

end Habit

end Drain

end SpiEthernet
