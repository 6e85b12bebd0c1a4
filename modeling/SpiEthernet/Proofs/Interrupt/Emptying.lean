import SpiEthernet.Proofs.Interrupt.Ledger
import SpiEthernet.Proofs.Interrupt.Progress
import SpiEthernet.Proofs.Interrupt.Tracing
import SpiEthernet.Proofs.Receive.Ending

/-!
# A drain empties the chip

A drain goes on until the interrupt register reads zero. Each of its passes writes to the chip, and
each but the first is paid for by an event, so that with no more than 62 events to come the limit
of 64 passes is never reached. The trace shows all of this: which values the interrupt register had
whenever the drain looked at it, and that the last look was the first to find nothing.

* `SocketsDrained.acts`, `drainGlobal_acts` : what a pass writes to, and that it looks no further.
* `drainPasses_empties` : passes go on until the interrupt register reads zero.
* `drain_empties` : a drain leaves nothing behind, and returns exactly what it has seen.
-/

namespace SpiEthernet

/-! ## Looks in the trace -/

/-- Whether an access is a look at the interrupt register. -/
def Access.isLook (access : Access) : Bool :=
  access.direction == .read && access.address == CommonRegister.interrupt.address

/-- What the interrupt register showed whenever it was looked at. -/
def interruptsRead (accesses : List Access) : List UInt8 :=
  (accesses.filter (·.isLook)).map (·.data)

/-- A look at the interrupt register, with the interrupt held back. -/
def Access.look (value : UInt8) : Access :=
  (Frame.read CommonRegister.interrupt.address).access true value

theorem interruptsRead_look_cons (value : UInt8) (rest : List Access) :
    interruptsRead (Access.look value :: rest) = value :: interruptsRead rest := by
  have hlook : (Access.look value).isLook = true := rfl
  rw [interruptsRead, List.filter_cons_of_pos hlook]
  rfl

theorem interruptsRead_append_of_none {first : List Access}
    (h : ∀ access ∈ first, access.isLook = false) (rest : List Access) :
    interruptsRead (first ++ rest) = interruptsRead rest := by
  have hnone : first.filter (·.isLook) = [] :=
    List.filter_eq_nil_iff.2 fun access hmem => Bool.eq_false_iff.1 (h access hmem)
  rw [interruptsRead, List.filter_append, hnone]
  rfl

namespace Endpoint

variable {P : Frame → Prop} {start middle now : Endpoint} {o : List Occurrence}
  {added further : List Access} {c c' : Prop}

/-- The link has traced further accesses. -/
def Traces (start : Endpoint) (added : List Access) (now : Endpoint) : Prop :=
  now.trace.toList = start.trace.toList ++ added

theorem Traces.trans (h : start.Traces added middle) (h' : middle.Traces further now) :
    start.Traces (added ++ further) now := by
  rw [Traces, h', h, List.append_assoc]

/-- What is traced on the way are the frames on the way. -/
theorem Passes.traces (h : start.Passes P o now) : ∃ added, start.Traces added now ∧
    ∀ access ∈ added, ∃ frame, P frame ∧ access.direction = frame.direction ∧
      access.address = frame.address := by
  induction h with
  | refl => exact ⟨[], (List.append_nil _).symm, fun _ hmem => absurd hmem List.not_mem_nil⟩
  | @turn o now _ frame hf ih =>
    obtain ⟨added, htrace, hframes⟩ := ih
    refine ⟨added ++ [now.entry frame], Traces.trans htrace Array.toList_push, ?_⟩
    refine List.forall_mem_append.2 ⟨hframes, fun access hmem => ⟨frame, hf, ?_⟩⟩
    rw [List.mem_singleton.1 hmem, entry_eq]
    exact ⟨rfl, rfl⟩
  | mask _ _ ih => exact ih
  | notice _ ih => exact ih

/-- Frames have been exchanged that do not look at the interrupt register, and some of them were
writes if the condition holds. -/
def Acts (start : Endpoint) (c : Prop) (now : Endpoint) : Prop :=
  ∃ added, start.Traces added now ∧ (∀ access ∈ added, access.isLook = false) ∧
    (c → ∃ access ∈ added, access.direction = .write)

theorem Acts.refl (hc : ¬c) : start.Acts c start :=
  ⟨[], (List.append_nil _).symm, fun _ hmem => absurd hmem List.not_mem_nil, fun h => absurd h hc⟩

theorem Acts.trans (h : start.Acts c middle) (h' : middle.Acts c' now) :
    start.Acts (c ∨ c') now := by
  obtain ⟨added, htrace, hlooks, hwrites⟩ := h
  obtain ⟨further, htrace', hlooks', hwrites'⟩ := h'
  refine ⟨added ++ further, htrace.trans htrace', List.forall_mem_append.2 ⟨hlooks, hlooks'⟩, ?_⟩
  rintro (hc | hc)
  · obtain ⟨access, hmem, hwrite⟩ := hwrites hc
    exact ⟨access, List.mem_append_left _ hmem, hwrite⟩
  · obtain ⟨access, hmem, hwrite⟩ := hwrites' hc
    exact ⟨access, List.mem_append_right _ hmem, hwrite⟩

theorem Acts.mono (h : start.Acts c now) (hc : c' → c) : start.Acts c' now := by
  obtain ⟨added, htrace, hlooks, hwrites⟩ := h
  exact ⟨added, htrace, hlooks, hwrites ∘ hc⟩

end Endpoint

/-- A read of any register but the interrupt register. -/
def Frame.IsAside (frame : Frame) : Prop :=
  frame.direction = .read ∧ frame.address ≠ CommonRegister.interrupt.address

section Lone

variable {σ : Type} [Host σ] [Wired σ]

namespace Habit

variable {H : Habit σ} {x x' : σ} {frame : Frame} {value seen : UInt8} {o : List Occurrence}
  {device now : Device σ} {s : SocketId}

/-! ## What a pass exchanges -/

variable (hH : ∀ frame, ¬H.between frame)

include hH

theorem Exchanged.traces (h : H.Exchanged x frame value o x') :
    (Wired.endpoint x).Traces [frame.access true value] (Wired.endpoint x') := by
  obtain ⟨o', -, hwalk⟩ := h.walk
  obtain ⟨added, htrace, hadded⟩ := hwalk.traces
  have hnone : added = [] := List.eq_nil_iff_forall_not_mem.2 fun access hmem => by
    obtain ⟨frame, hf, -⟩ := hadded access hmem
    exact hH frame hf
  have hentry : (Wired.endpoint x).held.entry frame = frame.access true value := by
    rw [Endpoint.entry_eq, h.reply]
    rfl
  rw [hnone] at htrace
  refine Eq.trans htrace ?_
  rw [List.append_nil, ← hentry]
  exact Array.toList_push

theorem Exchanged.acts (h : H.Exchanged x frame value o x')
    (haside : frame.direction = .read → frame.address ≠ CommonRegister.interrupt.address) :
    (Wired.endpoint x).Acts (frame.direction = .write) (Wired.endpoint x') := by
  refine ⟨_, h.traces hH, fun access hmem => ?_, fun hw => ⟨_, List.mem_singleton_self _, hw⟩⟩
  rw [List.mem_singleton.1 hmem, Bool.eq_false_iff]
  intro hlook
  obtain ⟨hread, haddress⟩ := Bool.and_eq_true_iff.1 hlook
  exact haside (beq_iff_eq.1 hread) (beq_iff_eq.1 haddress)

omit hH in
theorem Walked.acts (h : H.Walked Frame.IsAside device now) :
    (Wired.endpoint device.board).Acts False (Wired.endpoint now.board) := by
  obtain ⟨o, hpasses⟩ := h.passes
  obtain ⟨added, htrace, hadded⟩ := hpasses.traces
  refine ⟨added, htrace, fun access hmem => ?_, False.elim⟩
  obtain ⟨frame, haside, -, haddress⟩ := hadded access hmem
  rw [Bool.eq_false_iff]
  intro hlook
  exact haside.2 (haddress ▸ beq_iff_eq.1 (Bool.and_eq_true_iff.1 hlook).2)

/-- A socket that has flags and is named is written to. -/
theorem SocketDrained.acts (h : H.SocketDrained seen s device o now) (hok : H.ok device.board) :
    (Wired.endpoint device.board).Acts
      (hasBits seen s.interruptBit = true ∧ device.chip.byteOf .interrupt s ≠ 0)
      (Wired.endpoint now.board) := by
  have haside : SocketRegister.interrupt.address s ≠ CommonRegister.interrupt.address :=
    SocketRegister.address_ne_of_lt _ _ (by decide)
  cases h with
  | unseen hnot => exact .refl fun hc => by rw [hc.1] at hnot; cases hnot
  | silent h =>
    exact (h.acts hH fun _ => haside).mono fun hc => absurd (h.reply_interrupt hok).symm hc.2
  | moved _ h h' =>
    have hread := h.acts hH fun _ => haside
    exact (hread.trans (h'.acts hH fun _ => haside)).mono fun _ => .inr rfl

theorem SocketsDrained.acts {sockets : List SocketId}
    (h : H.SocketsDrained seen sockets device o now) (hok : H.ok device.board) :
    (Wired.endpoint device.board).Acts (∃ s ∈ sockets,
      hasBits seen s.interruptBit = true ∧ device.chip.byteOf .interrupt s ≠ 0)
      (Wired.endpoint now.board) := by
  induction h with
  | nil => exact .refl fun ⟨_, hmem, _⟩ => absurd hmem List.not_mem_nil
  | @cons s rest start middle now o o' h _ ih =>
    refine ((h.acts hH hok).trans (ih (h.ok hok))).mono ?_
    rintro ⟨t, hmem, hnamed, hflags⟩
    by_cases ht : t = s
    · subst ht
      exact .inl ⟨hnamed, hflags⟩
    · -- the flags of the other sockets are still there when it is their turn
      obtain ⟨i, hi, hset⟩ := (ne_zero_iff_bit _).1 hflags
      have hkept := h.flags_kept hok (spares_of_none hH) (fun he => ht (FlagSource.socket.inj he)) hset
      exact .inr ⟨t, (List.mem_cons.1 hmem).resolve_left ht, hnamed,
        (ne_zero_iff_bit _).2 ⟨i, hi, hkept⟩⟩

/-- The device is in order, and meanwhile nobody has looked at the interrupt register. -/
def Elsewhere (H : Habit σ) (start now : Device σ) : Prop :=
  H.ok now.board ∧ (Wired.endpoint start.board).Acts False (Wired.endpoint now.board)

theorem latchUnreachable_acts (hok : H.ok device.board) :
    Ends latchUnreachable device fun _ device' => H.Elsewhere device device' := by
  have hbetween : ∀ frame, H.between frame → frame.IsAside := fun frame hf => absurd hf (hH frame)
  have hframes : ∀ frame ∈ Frame.reads CommonRegister.unreachableIp.address 4,
      frame.direction = .read ∧ frame.address ≠ CommonRegister.interrupt.address := by decide
  refine Ends.bind (Travels.readIpv4_of hbetween hframes device hok) ?_
  rintro ip first hfirst
  refine Ends.bind (Travels.readWord_of hbetween ⟨rfl, by decide⟩ ⟨rfl, by decide⟩ first
    hfirst.ok) ?_
  rintro destinationPort second hsecond
  refine Ends.bind (H.note_ends (P := Frame.IsAside) hsecond.ok _) ?_
  rintro _ third hthird
  have hacts := ((hfirst.trans hsecond).trans hthird).acts
  exact Ends.changeController ⟨hthird.ok, hacts⟩

/-- Global flags that have been read are written to. -/
theorem drainGlobal_acts (hok : H.ok device.board) (seen : UInt8) :
    Ends (drainGlobal seen) device fun _ device' =>
      (Wired.endpoint device.board).Acts (seen &&& InterruptFlag.global ≠ 0)
        (Wired.endpoint device'.board) := by
  unfold drainGlobal
  refine Ends.guarded (I := H.Elsewhere device) ⟨hok, .refl id⟩ (latchUnreachable_acts hH hok)
    fun first hfirst => ?_
  refine Ends.guarded (I := H.Elsewhere device) hfirst
    ((H.note_ends (P := Frame.IsAside) hfirst.1 _).mono fun _ _ h =>
      ⟨h.ok, (hfirst.2.trans h.acts).mono .inl⟩) fun second hsecond => ?_
  refine Ends.bind (R := fun _ d => d.board = second.board) (Ends.changeController rfl) ?_
  rintro _ ⟨_, controller⟩ rfl
  by_cases hglobal : seen &&& InterruptFlag.global = 0
  · rw [if_neg (fun hne => hne hglobal)]
    exact Ends.pure (hsecond.2.mono fun hne => hne hglobal)
  · rw [if_pos hglobal]
    have hok' : H.ok (⟨second.board, controller⟩ : Device σ).board := hsecond.1
    refine (Ends.onLink (H.writeByte_ends hok' (isLocal_write_global _))).mono ?_
    rintro _ ⟨board, _⟩ ⟨⟨o, reply, h⟩, rfl⟩
    exact (hsecond.2.trans (h.acts hH nofun)).mono fun _ => .inr rfl

/-- What a look has found is a global flag, or a socket still has the flag that it is named for. -/
theorem Exchanged.named_or_global
    (h : H.Exchanged x (Frame.read CommonRegister.interrupt.address) seen o x') (hok : H.ok x)
    (hstored : Within (Wired.endpoint x).chip.stored InterruptFlag.global) (hseen : seen ≠ 0) :
    (∃ s ∈ SocketId.all, hasBits seen s.interruptBit = true ∧
      (Wired.endpoint x').chip.byteOf .interrupt s ≠ 0) ∨ seen &&& InterruptFlag.global ≠ 0 := by
  obtain ⟨i, hi, hset⟩ := (ne_zero_iff_bit _).1 hseen
  have hshown : bit ((Wired.endpoint x).chip.stored |||
      (Wired.endpoint x).chip.socketInterrupts) i = true := by
    rw [h.reply_global hok] at hset
    exact hset
  rw [bit_or, Bool.or_eq_true_iff] at hshown
  rcases hshown with hglobal | hsocket
  · refine .inr ((ne_zero_iff_bit _).2 ⟨i, hi, ?_⟩)
    rw [bit_and, hset, hstored i hi hglobal]
    rfl
  · obtain ⟨s, rfl, hflags⟩ := ((Wired.endpoint x).chip.bit_socketInterrupts hi).1 hsocket
    obtain ⟨j, hj, hraised⟩ := (ne_zero_iff_bit _).1 hflags
    refine .inl ⟨s, SocketId.mem_all s, by rw [hasBits_interruptBit, hset], ?_⟩
    have hspares : H.Spares (.socket s) := spares_of_none hH
    have hread : (Frame.read CommonRegister.interrupt.address).Spares (.socket s) :=
      Frame.spares_of_read rfl _
    have hkept := h.bit_flagsOf hok hspares j
    rw [hread _ (H.steady hok).present] at hkept
    refine (ne_zero_iff_bit _).2 ⟨j, hj, hkept.trans ?_⟩
    show (bit ((Wired.endpoint x).chip.byteOf .interrupt s) j || _) = true
    rw [hraised, Bool.true_or]

end Habit

/-! ## Until nothing is left -/

/-- A drain that has returned `seen` went on until it found the interrupt register empty. These are
its frames, as the chip has traced them. -/
structure DrainedDry (start : Device σ) (seen : UInt8) (accesses : List Access)
    (now : Device σ) : Prop where
  trace : (Wired.endpoint start.board).Traces accesses (Wired.endpoint now.board)
  /-- The last frame is a look that finds nothing, -/
  last : accesses.getLast? = some (Access.look 0)
  /-- and all looks before it have found something. -/
  found : ∃ values, interruptsRead accesses = values ++ [0] ∧ ∀ value ∈ values, value ≠ 0
  seen_eq : seen = union (interruptsRead accesses)
  first : (interruptsRead accesses).head? = some start.chip.interrupts
  reads_iff : (∀ access ∈ accesses, access.direction = .read) ↔ start.chip.interrupts = 0
  length_le : (interruptsRead accesses).length ≤ start.chip.looksLeft
  /-- Without events to come, nothing is raised behind the last look. -/
  empty : start.chip.queue = [] → now.chip.interrupts = 0

theorem Chip.looksLeft_pos (chip : Chip) : 0 < chip.looksLeft := by
  unfold looksLeft
  split <;> omega

variable {H : Habit σ} {value seen : UInt8} {o : List Occurrence} {start middle now : Device σ}
  {board : σ} (hH : ∀ frame, ¬H.between frame)

namespace DrainedDry

include hH

/-- A drain that finds nothing at all. -/
theorem of_empty
    (h : H.Exchanged start.board (Frame.read CommonRegister.interrupt.address) 0 o board)
    (hok : H.ok start.board) :
    DrainedDry start 0 [Access.look 0] (⟨board, start.controller⟩ : Device σ) := by
  have hzero : start.chip.interrupts = 0 := (h.reply_global hok).symm
  have hreads : interruptsRead [Access.look 0] = [0] := interruptsRead_look_cons 0 []
  have hempty (hnone : start.chip.queue = []) : (Wired.endpoint board).chip.interrupts = 0 := by
    have hpasses := h.passes (P := Frame.IsQuiet) (Frame.isQuiet_read _) fun _ => H.isQuiet
    have hnothing := (hpasses.nothing_scheduled (fun _ hf => hf.isLocal) (H.steady hok) hnone).1
    exact (Chip.interrupts_of_memory (h.memory_of_read hH hok hnothing)).trans hzero
  exact {
    trace := h.traces hH
    last := rfl
    found := ⟨[], hreads, fun _ hmem => absurd hmem List.not_mem_nil⟩
    seen_eq := by rw [hreads]; rfl
    first := by rw [hreads, hzero]; rfl
    reads_iff := ⟨fun _ => hzero, fun _ access hmem => by rw [List.mem_singleton.1 hmem]; rfl⟩
    length_le := by rw [hreads]; exact start.chip.looksLeft_pos
    empty := hempty }

/-- A pass is followed by what a drain would do from there on. -/
theorem cons {added accesses : List Access} (hvalue : value ≠ 0)
    (h : H.Exchanged start.board (Frame.read CommonRegister.interrupt.address) value o board)
    (hok : H.ok start.board)
    (htrace : (Wired.endpoint board).Traces added (Wired.endpoint middle.board))
    (hlooks : ∀ access ∈ added, access.isLook = false)
    (hwrites : ∃ access ∈ added, access.direction = .write)
    (hqueue : start.chip.queue = [] → middle.chip.queue = [])
    (hleft : middle.chip.looksLeft < start.chip.looksLeft)
    (hrest : DrainedDry middle seen accesses now) :
    DrainedDry start (value ||| seen) (Access.look value :: (added ++ accesses)) now := by
  have hshown : value = start.chip.interrupts := h.reply_global hok
  have hreads : interruptsRead (Access.look value :: (added ++ accesses)) =
      value :: interruptsRead accesses := by
    rw [interruptsRead_look_cons, interruptsRead_append_of_none hlooks]
  obtain ⟨values, hvalues, hfound⟩ := hrest.found
  obtain ⟨access, hmem, hwrite⟩ := hwrites
  have hread (hall : ∀ access ∈ Access.look value :: (added ++ accesses),
      access.direction = .read) : False := by
    rw [hall access (List.mem_cons_of_mem _ (List.mem_append_left _ hmem))] at hwrite
    cases hwrite
  exact {
    trace := (h.traces hH).trans (htrace.trans hrest.trace)
    last := by rw [← List.cons_append, List.getLast?_append, hrest.last]; rfl
    found := ⟨value :: values, by rw [hreads, hvalues]; rfl,
      List.forall_mem_cons.2 ⟨hvalue, hfound⟩⟩
    seen_eq := by rw [hreads, hrest.seen_eq]; rfl
    first := by rw [hreads, hshown]; rfl
    reads_iff := ⟨fun hall => (hread hall).elim, fun hzero => absurd (hshown.trans hzero) hvalue⟩
    length_le := by rw [hreads]; exact Nat.succ_le_of_lt (Nat.lt_of_le_of_lt hrest.length_le hleft)
    empty := fun hnone => hrest.empty (hqueue hnone) }

end DrainedDry

namespace Habit

include hH

/-- Passes go on until the interrupt register reads zero, if there are enough of them. -/
theorem drainPasses_empties (passes : Nat) : ∀ {device : Device σ} {seen : UInt8},
    H.ok device.board → Within device.chip.stored InterruptFlag.global →
    device.chip.looksLeft ≤ passes → Ends (drainPasses seen passes) device fun seen' device' =>
      ∃ found accesses, seen' = seen ||| found ∧ DrainedDry device found accesses device' := by
  induction passes with
  | zero =>
    intro device seen _ _ hlimit
    have hpos := device.chip.looksLeft_pos
    omega
  | succ passes ih =>
    intro device seen hok hstored hlimit
    refine Ends.bind (Ends.onLink (H.readByte_ends hok _)) ?_
    rintro current ⟨board, _⟩ ⟨⟨o, h⟩, rfl⟩
    by_cases hcurrent : current = 0
    · subst hcurrent
      rw [if_pos rfl]
      exact Ends.pure ⟨0, _, UInt8.or_zero.symm, .of_empty hH h hok⟩
    · rw [if_neg hcurrent]
      refine Ends.bind (H.drainSockets_ends current _ ⟨board, device.controller⟩ h.ok) ?_
      rintro _ sockets ⟨hsockets, o', hs⟩
      refine Ends.bind ((H.drainGlobal_ends hsockets current).and
        (drainGlobal_acts hH hsockets current)) ?_
      rintro _ middle ⟨⟨hmiddle, o'', hg⟩, hglobal⟩
      have hpass : H.PassDone current device _ middle := .intro hcurrent h hs hg
      have hleft := hpass.looksLeft_lt hH hok hstored
      obtain ⟨added, htrace, hlooks, hwrites⟩ := ((hs.acts hH h.ok).trans hglobal).mono
        fun _ : True => h.named_or_global hH hok hstored hcurrent
      refine (ih hmiddle (hpass.passes.stored_within (fun _ => id) (H.steady hok) hstored)
        (by omega)).mono ?_
      rintro seen' now ⟨found, accesses, rfl, hrest⟩
      have hqueue (hnone : device.chip.queue = []) : middle.chip.queue = [] :=
        (hpass.passes.nothing_scheduled (fun _ hf => hf.isLocal) (H.steady hok) hnone).2
      exact ⟨current ||| found, _, UInt8.or_assoc _ _ _,
        hrest.cons hH hcurrent h hok htrace hlooks (hwrites trivial) hqueue hleft⟩

/-- If nothing is raised, a drain looks once, and leaves everything as it is. -/
theorem drain_of_empty {device : Device σ} (hok : H.ok device.board)
    (hempty : device.chip.interrupts = 0) :
    Ends drain device fun seen device' => seen = 0 ∧ device'.controller = device.controller ∧
      (Wired.endpoint device.board).Traces [Access.look 0] (Wired.endpoint device'.board) := by
  show Ends (drainPasses 0 (63 + 1)) device _
  refine Ends.bind (Ends.onLink (H.readByte_ends hok _)) ?_
  rintro current ⟨board, _⟩ ⟨⟨o, h⟩, rfl⟩
  obtain rfl : current = 0 := (h.reply_global hok).trans hempty
  rw [if_pos rfl]
  exact Ends.pure ⟨rfl, rfl, h.traces hH⟩

end Habit

end Lone

/-- Where nobody else drains the chip, a drain goes on until it finds the interrupt register empty,
whatever happens meanwhile, and returns all that it has seen there; it writes to the chip if it has
seen anything. If nothing happens, then no flag is left in the chip, and another drain finds nothing
and changes nothing. -/
theorem drain_empties {device : Device Board} (hundisturbed : device.board.Undisturbed)
    (hsteady : device.chip.Steady) (hstored : Within device.chip.stored InterruptFlag.global)
    (hqueue : device.chip.queue.length ≤ 62) :
    Ends drain device fun seen device' =>
      (∃ accesses, DrainedDry device seen accesses device') ∧
      (device.chip.queue = [] → device'.chip.interrupts = 0 ∧
        (∀ s, device'.chip.byteOf .interrupt s = 0) ∧
        Ends drain device' fun again device'' => again = 0 ∧
          device''.controller = device'.controller ∧
          (Wired.endpoint device'.board).Traces [Access.look 0]
            (Wired.endpoint device''.board)) := by
  have hok : Habit.undisturbed.ok device.board := ⟨hundisturbed, hsteady⟩
  have hlone : ∀ frame, ¬Habit.undisturbed.between frame := fun _ => id
  have hlimit : device.chip.looksLeft ≤ drainPassLimit := by
    unfold Chip.looksLeft drainPassLimit
    split <;> omega
  refine ((Habit.undisturbed.drain_ends device hok).and
    (Habit.drainPasses_empties hlone drainPassLimit hok hstored hlimit)).mono ?_
  rintro _ device' ⟨⟨hok', -⟩, seen, accesses, rfl, hdry⟩
  rw [UInt8.zero_or]
  refine ⟨⟨accesses, hdry⟩, fun hnone => ?_⟩
  have hempty := hdry.empty hnone
  exact ⟨hempty, (Chip.interrupts_eq_zero_iff.1 hempty).2,
    Habit.drain_of_empty hlone hok' hempty⟩

/-- A chip that shows that something has arrived for socket 2, and that a destination is
unreachable. -/
def Chip.ringing : Chip :=
  let chip := (Chip.new none).setByteOf .interrupt 2 SocketFlag.received
  { chip with memory :=
      chip.memory.write CommonRegister.interrupt.address.toNat InterruptFlag.unreachable }

/-- A board with such a chip, whose handler is not connected, and a driver that has just started. -/
def Device.ringing : Device Board :=
  ⟨(Board.new none ⟨none, .off⟩).withChip Chip.ringing, Controller.new⟩

theorem drain_empties_ringing : Ends drain Device.ringing fun seen device' =>
    (∃ accesses, DrainedDry Device.ringing seen accesses device' ∧
      ¬∀ access ∈ accesses, access.direction = .read) ∧ device'.chip.interrupts = 0 := by
  have hstored : Device.ringing.chip.stored = InterruptFlag.unreachable :=
    Memory.read_write_self _ _ (by decide)
  have hsilent : Device.ringing.chip.Silent := ⟨rfl, rfl, rfl⟩
  have hraised : Device.ringing.chip.interrupts ≠ 0 := fun hzero => by
    have hnone := (Chip.interrupts_eq_zero_iff.1 hzero).1
    rw [hstored] at hnone
    exact absurd hnone (by decide)
  refine (@drain_empties Device.ringing nofun hsilent.steady ?_ ?_).mono ?_
  · rw [hstored]
    unfold Within
    decide
  · rw [hsilent.queue]
    exact Nat.zero_le 62
  · rintro seen device' ⟨⟨accesses, hdry⟩, hquiet⟩
    exact ⟨⟨accesses, hdry, fun hreads => hraised (hdry.reads_iff.1 hreads)⟩,
      (hquiet hsilent.queue).1⟩

end SpiEthernet
