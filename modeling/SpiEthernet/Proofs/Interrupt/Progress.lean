import Mathlib.Data.List.Basic
import SpiEthernet.Proofs.Interrupt.Cover

/-!
# What a pass of a drain gets done

A pass clears what it has read. So if nothing happens to the chip while a pass is under way, the
interrupt register is empty behind it. Whatever does happen had been scheduled before and will not
happen again, and so every pass but the first one is paid for by an event.

* `Passes.length_queue` : what happens on the way is taken from what was scheduled.
* `PassDone.clears` : a pass during which nothing happens leaves the interrupt register empty.
* `PassDone.looksLeft_lt` : every pass needs fewer looks to follow than itself.
-/

namespace SpiEthernet

/-! ## Events behind frames -/

namespace Chip

variable {chip : Chip}

theorem length_occurrencesOf (events : List Scheduled) : ∀ chip : Chip,
    (chip.occurrencesOf events).length = events.length := by
  induction events with
  | nil => exact fun _ => rfl
  | cons scheduled rest ih => exact fun chip => congrArg (· + 1) (ih (chip.happen scheduled.event))

/-- What happens behind a frame is taken from what was scheduled. -/
theorem Steady.length_frameOccurrences (h : chip.Steady) :
    chip.frameOccurrences.length + chip.afterFrame.queue.length = chip.queue.length := by
  rw [frameOccurrences, length_occurrencesOf, h.queue_afterFrame]
  exact (List.length_eq_length_filter_add chip.counted.isDue).symm

/-- The end of a frame behind which nothing happens changes no memory. -/
theorem memory_afterFrame (h : chip.frameOccurrences = []) :
    chip.afterFrame.memory = chip.memory := by
  have hdue : chip.dueEvents = [] := by
    have hlength := length_occurrencesOf chip.dueEvents chip.beforeEvents
    rw [← frameOccurrences, h] at hlength
    exact List.length_eq_zero_iff.1 hlength.symm
  rw [afterFrame, hdue]
  rfl

/-- The interrupt register is empty if neither the chip nor a socket has a flag raised. -/
theorem interrupts_eq_zero_iff : chip.interrupts = 0 ↔
    chip.stored = 0 ∧ ∀ s, chip.byteOf .interrupt s = 0 := by
  refine ⟨fun h => ⟨(UInt8.or_eq_zero_iff.1 h).1, fun s => ?_⟩,
    fun ⟨hstored, hflags⟩ => interrupts_eq_zero hstored hflags⟩
  refine byteOf_interrupt_of_unnamed ?_
  rw [h, hasBits_interruptBit, bit_zero]

theorem interrupts_of_memory {chip' : Chip} (h : chip'.memory = chip.memory) :
    chip'.interrupts = chip.interrupts := by
  cases chip
  cases chip'
  cases h
  rfl

/-- How often a drain looks at the interrupt register at most, the last look included, which finds
it empty: flags that are raised already take another look, and so may every event. -/
def looksLeft (chip : Chip) : Nat :=
  chip.queue.length + if chip.interrupts = 0 then 1 else 2

end Chip

theorem Frame.IsQuiet.isHarmless {frame : Frame} (h : frame.IsQuiet) : frame.IsHarmless := by
  intro hw
  rcases h hw with ha | ⟨s, ha⟩
  · rw [ha]
    decide
  · rw [ha]
    exact ⟨SocketRegister.address_ne_of_lt _ _ (by decide),
      SocketRegister.address_ne_of_lt _ _ (by decide)⟩

namespace Endpoint.Passes

variable {P : Frame → Prop} {start now : Endpoint} {o : List Occurrence}

/-- What happens on the way is taken from what was scheduled. -/
theorem length_queue (h : Passes P start o now) (hP : ∀ frame, P frame → frame.IsLocal)
    (hs : start.chip.Steady) : o.length + now.chip.queue.length = start.chip.queue.length := by
  induction h with
  | refl => exact Nat.zero_add _
  | @turn o now h frame hf ih =>
    have hsteady := h.steady hs
    have hserved := (hsteady.serve frame).length_frameOccurrences
    rw [Chip.queue_of_casing (Chip.casing_serve hsteady.present (hP frame hf))] at hserved
    show _ + (now.chip.serve frame).2.afterFrame.queue.length = _
    rw [List.length_append]
    omega
  | mask _ _ ih => exact ih
  | notice _ ih => exact ih

/-- Where nothing is scheduled, nothing happens. -/
theorem nothing_scheduled (h : Passes P start o now) (hP : ∀ frame, P frame → frame.IsLocal)
    (hs : start.chip.Steady) (hq : start.chip.queue = []) : o = [] ∧ now.chip.queue = [] := by
  have hlength := h.length_queue hP hs
  rw [hq, List.length_nil, Nat.add_eq_zero_iff] at hlength
  exact ⟨List.length_eq_zero_iff.1 hlength.1, List.length_eq_zero_iff.1 hlength.2⟩

/-- While nothing happens, looking around changes no memory. -/
theorem memory_of_nothing (h : Passes P start o now)
    (hP : ∀ frame, P frame → frame.direction = .read) (hs : start.chip.Steady) (ho : o = []) :
    now.chip.memory = start.chip.memory := by
  induction h with
  | refl => rfl
  | @turn o now h frame hf ih =>
    obtain ⟨ho, hframe⟩ := List.append_eq_nil_iff.1 ho
    refine (Chip.memory_afterFrame hframe).trans (Eq.trans ?_ (ih ho))
    obtain ⟨direction, address, value⟩ := frame
    cases hP _ hf
    exact (Chip.readEffect (h.steady hs).present address).memory_eq
  | mask _ _ ih => exact ih ho
  | notice _ ih => exact ih ho

/-- Without events to come, reads change nothing in memory. -/
theorem memory_of_reads (h : Passes (·.direction = .read) start o now) (hs : start.chip.Steady)
    (hq : start.chip.queue = []) :
    now.chip.queue = [] ∧ now.chip.memory = start.chip.memory := by
  obtain ⟨ho, hqueue⟩ := h.nothing_scheduled (fun _ hf => (Frame.isQuiet_of_read hf).isLocal) hs hq
  exact ⟨hqueue, h.memory_of_nothing (fun _ => id) hs ho⟩

/-- A chip that stores no other than global flags goes on to do so. -/
theorem stored_within (h : Passes P start o now) (hP : ∀ frame, P frame → frame.IsQuiet)
    (hs : start.chip.Steady) (hstored : Within start.chip.stored InterruptFlag.global) :
    Within now.chip.stored InterruptFlag.global := by
  induction h with
  | refl => exact hstored
  | @turn o now h frame hf ih =>
    have hsteady := h.steady hs
    have hserved := Chip.announces_serve hsteady.present (hP frame hf).isHarmless
    exact (hserved.trans (hsteady.serve frame).announces_afterFrame).stored ih
  | mask _ _ ih => exact ih
  | notice _ ih => exact ih

end Endpoint.Passes

section Pass

variable {σ : Type} [Host σ] [Wired σ]

namespace Habit

variable {H : Habit σ} {x x' : σ} {frame : Frame} {value seen : UInt8} {o : List Occurrence}
  {device now : Device σ} {s : SocketId}

/-! ## While nothing happens -/

section Nothing

variable (hH : ∀ frame, ¬H.between frame)

include hH

/-- A frame behind which nothing happens leaves memory as the chip serves it. -/
theorem Exchanged.memory_of_nothing (h : H.Exchanged x frame value o x') (ho : o = []) :
    (Wired.endpoint x').chip.memory = ((Wired.endpoint x).chip.serve frame).2.memory := by
  obtain ⟨o', rfl, hwalk⟩ := h.walk
  obtain ⟨hframe, -⟩ := List.append_eq_nil_iff.1 ho
  exact (memory_eq_of_passes hH hwalk).trans (Chip.memory_afterFrame hframe)

theorem Exchanged.memory_of_read {address : UInt16}
    (h : H.Exchanged x (Frame.read address) value o x') (hok : H.ok x) (ho : o = []) :
    (Wired.endpoint x').chip.memory = (Wired.endpoint x).chip.memory :=
  (h.memory_of_nothing hH ho).trans (Chip.readEffect (H.steady hok).present address).memory_eq

/-- Draining a socket leaves none of its flags in the chip, and raises none. -/
theorem SocketDrained.empties (h : H.SocketDrained seen s device o now) (hok : H.ok device.board)
    (ho : o = [])
    (hseen : hasBits seen s.interruptBit = false → device.chip.byteOf .interrupt s = 0) :
    now.chip.stored = device.chip.stored ∧ ∀ t, t = s ∨ device.chip.byteOf .interrupt t = 0 →
      now.chip.byteOf .interrupt t = 0 := by
  -- a socket whose flags are clear need not be touched
  have hclear {board : σ} (hmemory : (Wired.endpoint board).chip.memory = device.chip.memory)
      (hzero : device.chip.byteOf .interrupt s = 0) :
      (Wired.endpoint board).chip.stored = device.chip.stored ∧
        ∀ t, t = s ∨ device.chip.byteOf .interrupt t = 0 →
          (Wired.endpoint board).chip.byteOf .interrupt t = 0 := by
    refine ⟨by rw [Chip.stored, hmemory, Chip.stored], fun t ht => ?_⟩
    rw [Chip.byteOf, hmemory]
    rcases ht with rfl | ht
    · exact hzero
    · exact ht
  cases h with
  | unseen hnot => exact hclear rfl (hseen hnot)
  | silent h => exact hclear (h.memory_of_read hH hok ho) (h.reply_interrupt hok).symm
  | @moved raw reply o o' board board' _ h h' =>
    obtain ⟨ho, ho'⟩ := List.append_eq_nil_iff.1 ho
    have hread := h.memory_of_read hH hok ho
    have hwrite := h'.memory_of_nothing hH ho'
    rw [Chip.serve_write, Chip.write_socketInterrupt (H.steady h.ok).present] at hwrite
    have hsame (t : SocketId) : (Wired.endpoint board).chip.byteOf .interrupt t =
        device.chip.byteOf .interrupt t := by
      rw [Chip.byteOf, hread, Chip.byteOf]
    refine ⟨?_, fun t ht => ?_⟩
    · show (Wired.endpoint board').chip.stored = _
      rw [Chip.stored, hwrite]
      refine (Chip.stored_setByteOf _ _ _ _).trans ?_
      rw [Chip.stored, hread, Chip.stored]
    · show (Wired.endpoint board').chip.byteOf .interrupt t = 0
      rw [Chip.byteOf, hwrite]
      refine (Chip.byteOf_setByteOf _ _ _ _ _ _).trans ?_
      by_cases hs : t = s
      · rw [if_pos ⟨rfl, hs.symm⟩, hsame, h.reply_interrupt hok]
        exact UInt8.and_not_self
      · rw [if_neg fun hc => hs hc.2.symm, hsame]
        exact ht.resolve_left hs

/-- Draining some sockets leaves none of their flags in the chip, and raises none. -/
theorem SocketsDrained.empties {sockets : List SocketId}
    (h : H.SocketsDrained seen sockets device o now) (hok : H.ok device.board) (ho : o = [])
    (hseen : ∀ s, hasBits seen s.interruptBit = false → device.chip.byteOf .interrupt s = 0) :
    now.chip.stored = device.chip.stored ∧
      ∀ t, t ∈ sockets ∨ device.chip.byteOf .interrupt t = 0 →
        now.chip.byteOf .interrupt t = 0 := by
  induction h with
  | nil => exact ⟨rfl, fun t ht => ht.resolve_left List.not_mem_nil⟩
  | @cons s rest start middle now o o' h _ ih =>
    obtain ⟨ho, ho'⟩ := List.append_eq_nil_iff.1 ho
    obtain ⟨hstored, hflags⟩ := h.empties hH hok ho (hseen s)
    obtain ⟨hstored', hflags'⟩ := ih (h.ok hok) ho' fun t ht => hflags t (.inr (hseen t ht))
    refine ⟨hstored'.trans hstored, fun t ht => hflags' t ?_⟩
    rcases ht with ht | hzero
    · exact (List.mem_cons.1 ht).symm.imp_right fun hs => hflags t (.inl hs)
    · exact .inr (hflags t (.inr hzero))

/-- Draining the global flags clears those that were read, and leaves all others. -/
theorem GlobalDrained.empties (h : H.GlobalDrained seen device o now) (hok : H.ok device.board)
    (ho : o = []) :
    now.chip.stored = device.chip.stored &&& ~~~(seen &&& InterruptFlag.global) ∧
      ∀ t, now.chip.byteOf .interrupt t = device.chip.byteOf .interrupt t := by
  have hlooks : ∀ frame, H.Looks frame → frame.direction = .read :=
    fun frame hf => hf.resolve_right (hH frame)
  cases h with
  | silent hseen _ hpasses =>
    have hmemory := hpasses.memory_of_nothing hlooks (H.steady hok) ho
    refine ⟨?_, fun t => by rw [Chip.byteOf, hmemory, Chip.byteOf]⟩
    rw [hseen, UInt8.not_zero, UInt8.and_neg_one, Chip.stored, hmemory, Chip.stored]
  | @moved reply o o' middle board _ hok' hpasses _ _ h' =>
    obtain ⟨ho, ho'⟩ := List.append_eq_nil_iff.1 ho
    have hmemory := hpasses.memory_of_nothing hlooks (H.steady hok) ho
    have hwrite := h'.memory_of_nothing hH ho'
    rw [Chip.serve_write, Chip.write_interrupt (H.steady hok').present] at hwrite
    refine ⟨?_, fun t => ?_⟩
    · show (Wired.endpoint board).chip.stored = _
      rw [Chip.stored, hwrite]
      refine (Chip.stored_clearBits _ _).trans ?_
      rw [UInt8.and_assoc, UInt8.and_self, Chip.stored, hmemory, Chip.stored]
    · show (Wired.endpoint board).chip.byteOf .interrupt t = _
      rw [Chip.byteOf, hwrite]
      refine (Chip.byteOf_clearBits _ _ t).trans ?_
      rw [Chip.byteOf, hmemory, Chip.byteOf]

end Nothing

/-! ## Passes -/

/-- One pass of a drain, which has read `current` from the interrupt register. -/
inductive PassDone (H : Habit σ) (current : UInt8) (start : Device σ) :
    List Occurrence → Device σ → Prop where
  | intro {board : σ} {sockets now : Device σ} {o o' o'' : List Occurrence}
    (hcurrent : current ≠ 0)
    (h : H.Exchanged start.board (Frame.read CommonRegister.interrupt.address) current o board)
    (hs : H.SocketsDrained current SocketId.all ⟨board, start.controller⟩ o' sockets)
    (hg : H.GlobalDrained current sockets o'' now) :
    PassDone H current start (o ++ (o' ++ o'')) now

namespace PassDone

theorem passes (h : H.PassDone seen device o now) :
    (Wired.endpoint device.board).Passes Frame.IsQuiet o (Wired.endpoint now.board) := by
  obtain ⟨-, h, hs, hg⟩ := h
  have hfirst := h.passes (P := Frame.IsQuiet) (Frame.isQuiet_read _) fun _ => H.isQuiet
  exact hfirst.trans (hs.passes.trans hg.passes)

theorem interrupts (h : H.PassDone seen device o now) (hok : H.ok device.board) :
    device.chip.interrupts ≠ 0 := by
  obtain ⟨hseen, h, -, -⟩ := h
  rwa [← h.reply_global hok]

variable (hH : ∀ frame, ¬H.between frame)

include hH

/-- A pass during which nothing happens leaves the interrupt register empty. -/
theorem clears (h : H.PassDone seen device o now) (hok : H.ok device.board)
    (hstored : Within device.chip.stored InterruptFlag.global) (ho : o = []) :
    now.chip.interrupts = 0 := by
  obtain @⟨board, sockets, _, o, o', o'', -, h, hs, hg⟩ := h
  obtain ⟨ho, ho'⟩ := List.append_eq_nil_iff.1 ho
  obtain ⟨ho', ho''⟩ := List.append_eq_nil_iff.1 ho'
  have hmemory := h.memory_of_read hH hok ho
  have hread : (Wired.endpoint board).chip.interrupts = device.chip.interrupts :=
    Chip.interrupts_of_memory hmemory
  have hseen (s : SocketId) (hs : hasBits seen s.interruptBit = false) :
      (Wired.endpoint board).chip.byteOf .interrupt s = 0 := by
    rw [h.reply_global hok, ← hread] at hs
    exact Chip.byteOf_interrupt_of_unnamed hs
  obtain ⟨hsockets, hflags⟩ := hs.empties hH h.ok ho' hseen
  have hspares : H.Spares .chip := spares_of_none hH
  have hok' := (hs.flow h.ok hspares).1
  obtain ⟨hglobal, hflags'⟩ := hg.empties hH hok' ho''
  refine Chip.interrupts_eq_zero ?_ fun s => ?_
  · -- what is stored has been read as well, and all of it are global flags
    have hsame : sockets.chip.stored = device.chip.stored := by
      rw [hsockets, Chip.stored, hmemory, Chip.stored]
    rw [hglobal, hsame, h.reply_global hok]
    refine ext_bit fun i hi => ?_
    rw [bit_and, bit_not _ hi, bit_and, bit_zero]
    cases hset : bit device.chip.stored i with
    | false => rfl
    | true =>
      have hshown : bit device.chip.interrupts i = true := by
        show bit (device.chip.stored ||| _) i = true
        rw [bit_or, hset, Bool.true_or]
      rw [hshown, hstored i hi hset]
      rfl
  · rw [hflags', hflags s (.inl (SocketId.mem_all s))]

/-- A pass brings the number of looks down: it clears everything, or something has happened. -/
theorem looksLeft_lt (h : H.PassDone seen device o now) (hok : H.ok device.board)
    (hstored : Within device.chip.stored InterruptFlag.global) :
    now.chip.looksLeft < device.chip.looksLeft := by
  have hqueue : o.length + now.chip.queue.length = device.chip.queue.length :=
    h.passes.length_queue (fun _ hf => hf.isLocal) (H.steady hok)
  rw [Chip.looksLeft, Chip.looksLeft, if_neg (h.interrupts hok)]
  by_cases ho : o = []
  · rw [if_pos (h.clears hH hok hstored ho)]
    omega
  · have hpos := List.length_pos_iff.2 ho
    split <;> omega

end PassDone

end Habit

end Pass

end SpiEthernet
