import SpiEthernet.Proofs.Interrupt.Silence
import SpiEthernet.Proofs.Receive.Opening

/-!
# A chip that is only visited

Nothing happens to a visited chip but that something arrives now and then, be it an answer to what
it has sent. Arrivals fill receive rings and raise one flag of a socket; every other flag, and
every status, changes through the driver's frames alone. On a calm board, which exchanges no frame
by itself, a drain therefore takes all other flags for good.

* `Visited.serve`, `Passes.visited` : a visited chip remains one, and only arrivals happen to it.
* `Drained.clears` : a drain leaves no flag in the chip but what is raised meanwhile.
* `Drained.collects` : all others are with the driver then.
* `drain_collects` : what was raised in the chip is with the driver after a drain.
-/

namespace SpiEthernet

/-- Two bytes agree in the bits of a mask. -/
theorem and_congr_of_bit {a b mask : UInt8}
    (h : ∀ i < 8, bit mask i = true → bit a i = bit b i) : a &&& mask = b &&& mask := by
  refine ext_bit fun i hi => ?_
  rw [bit_and, bit_and]
  cases hm : bit mask i with
  | false => rw [Bool.and_false, Bool.and_false]
  | true => rw [h i hi hm]

/-! ## Arrivals -/

theorem Event.isOrdinary_of_delivery {event : Event} (h : event.delivery?.isSome) :
    event.isOrdinary := by
  cases event <;> first | rfl | cases h

theorem Event.setsStatus_of_delivery {event : Event} (h : event.delivery?.isSome) (s : SocketId) :
    event.setsStatus s = false := by
  cases event <;> first | rfl | cases h

/-- A bit of a mask that leaves out the flag of arrivals is none of that flag. -/
theorem bit_received_of_mask {mask : UInt8} (hmask : mask &&& SocketFlag.received = 0) {i : Nat}
    (hi : bit mask i = true) : bit SocketFlag.received i = false := by
  have h := congrArg (bit · i) hmask
  simpa [hi] using h

/-- Arrivals raise no flag but the one that tells of them. -/
theorem raiseCount_of_deliveries {o : List Occurrence}
    (h : ∀ occurrence ∈ o, occurrence.event.delivery?.isSome) {i : Nat}
    (hi : bit SocketFlag.received i = false) (source : FlagSource) : raiseCount source i o = 0 := by
  refine List.countP_eq_zero.2 fun occurrence hmem => ?_
  obtain ⟨⟨s, bytes⟩, hdelivery⟩ := Option.isSome_iff_exists.1 (h occurrence hmem)
  rw [Occurrence.raises, Event.raises_of_delivery hdelivery, arrivalRaises.eq_def]
  cases source with
  | socket t =>
    by_cases hst : s = t <;> by_cases htaken : occurrence.taken <;> simp [hst, htaken, hi]
  | chip => simp

namespace Chip

variable {chip : Chip} {s : SocketId} {scheduled : Scheduled}

/-! ## What is to come -/

theorem mem_queue_transmit (h : scheduled ∈ (chip.transmit s).queue) :
    scheduled ∈ chip.queue ∨ ∃ rule : ReplyRule,
      scheduled.event = rule.event (chip.stagedPacket s) := by
  simp only [transmit] at h
  split at h
  · rw [queue_of_casing (casing_failTransmit _ s), queue_of_casing (casing_releaseTx _ s)] at h
    exact .inl h
  · refine (mem_queue_answer h).imp_left fun h => ?_
    rwa [queue_of_casing (casing_raiseSocket _ s _), queue_of_casing (casing_releaseTx _ s)] at h

theorem mem_queue_run {command : SocketCommand} (h : scheduled ∈ (chip.run s command).queue) :
    scheduled ∈ chip.queue ∨ ∃ rule : ReplyRule,
      scheduled.event = rule.event (chip.stagedPacket s) := by
  cases ht : transmits command with
  | false =>
    rw [queue_of_casing (casing_run _ s ht)] at h
    exact .inl h
  | true =>
    cases command with
    | send | sendMac | sendKeep => exact mem_queue_transmit h
    | _ => cases ht

/-- A command schedules nothing, unless somebody answers what it makes the socket transmit. -/
theorem mem_queue_command {code : UInt8} (h : scheduled ∈ (chip.command s code).queue) :
    scheduled ∈ chip.queue ∨
      ∃ source port payload, scheduled.event = .udp s source port payload := by
  simp only [command] at h
  split at h
  · refine (mem_queue_run h).imp_right ?_
    rintro ⟨_, hrule⟩
    exact ⟨_, _, _, hrule⟩
  · exact .inl h

/-- No frame schedules anything but arrivals. -/
theorem mem_queue_serve (h : chip.absent = none) {frame : Frame}
    (hq : scheduled ∈ (chip.serve frame).2.queue) :
    scheduled ∈ chip.queue ∨
      ∃ t source port payload, scheduled.event = .udp t source port payload := by
  obtain ⟨direction, address, value⟩ := frame
  cases direction with
  | read => exact .inl (queue_of_casing (casing_read h address) ▸ hq)
  | write =>
    have hq : scheduled ∈ (chip.write address value).queue := hq
    have heffect := writeEffect h address value
    generalize chip.write address value = after at *
    cases heffect with
    | reset => exact .inl (queue_of_casing chip.casing_reset ▸ hq)
    | command t => exact (mem_queue_command hq).imp_right fun hsent => ⟨t, hsent⟩
    | clearGlobal | clearSocket | memory => exact .inl hq

theorem mem_frameOccurrences {occurrence : Occurrence} (h : occurrence ∈ chip.frameOccurrences) :
    ∃ scheduled ∈ chip.queue, occurrence.event = scheduled.event := by
  refine afterFrame_induction [] (P := fun _ o => ∀ occurrence ∈ o, ∃ scheduled ∈ chip.queue,
    occurrence.event = scheduled.event) (by simp) ?_ occurrence h
  intro c before scheduled hs hbefore other hother
  rcases List.mem_append.1 hother with hother | hother
  · exact hbefore other hother
  · rw [List.mem_singleton.1 hother]
    exact ⟨scheduled, hs, rfl⟩

/-! ## Visited chips -/

/-- A chip that is there, and to which nothing is to happen but that something arrives. -/
structure Visited (chip : Chip) : Prop where
  present : chip.absent = none
  arrivals : ∀ scheduled ∈ chip.queue, scheduled.event.delivery?.isSome

namespace Visited

theorem steady (h : chip.Visited) : chip.Steady :=
  ⟨h.present, fun scheduled hs => Event.isOrdinary_of_delivery (h.arrivals scheduled hs)⟩

theorem serve (h : chip.Visited) (frame : Frame) : (chip.serve frame).2.Visited where
  present := (h.steady.serve frame).present
  arrivals scheduled hs := by
    rcases mem_queue_serve h.present hs with hs | ⟨_, _, _, _, hevent⟩
    · exact h.arrivals scheduled hs
    · rw [hevent]
      rfl

/-- Arrivals change no status. -/
theorem statusStays (h : chip.Visited) (s : SocketId) : chip.StatusStays s :=
  fun scheduled hs => Event.setsStatus_of_delivery (h.arrivals scheduled hs) s

theorem afterFrame (h : chip.Visited) : chip.afterFrame.Visited where
  present := h.steady.afterFrame.present
  arrivals scheduled hs := by
    rw [h.steady.queue_afterFrame] at hs
    exact h.arrivals scheduled (List.mem_filter.1 hs).1

theorem frameOccurrences (h : chip.Visited) :
    ∀ occurrence ∈ chip.frameOccurrences, occurrence.event.delivery?.isSome := by
  intro occurrence hmem
  obtain ⟨scheduled, hs, hevent⟩ := mem_frameOccurrences hmem
  rw [hevent]
  exact h.arrivals scheduled hs

end Visited

theorem Silent.visited (h : chip.Silent) : chip.Visited :=
  ⟨h.present, fun scheduled hs => by
    rw [h.queue] at hs
    cases hs⟩

end Chip

namespace Endpoint

variable {P : Frame → Prop} {start now : Endpoint} {o : List Occurrence} {s : SocketId}

/-- Whatever the driver does, a visited chip remains one, and nothing but arrivals happens to
it. -/
theorem Passes.visited (h : start.Passes P o now) (hs : start.chip.Visited) :
    now.chip.Visited ∧ ∀ occurrence ∈ o, occurrence.event.delivery?.isSome := by
  induction h with
  | refl => exact ⟨hs, by simp⟩
  | turn _ frame _ ih =>
    have hserved := ih.1.serve frame
    refine ⟨hserved.afterFrame, fun occurrence hmem => ?_⟩
    rcases List.mem_append.1 hmem with hmem | hmem
    · exact ih.2 occurrence hmem
    · exact hserved.frameOccurrences occurrence hmem
  | mask _ _ ih => exact ih
  | notice _ ih => exact ⟨⟨ih.1.present, ih.1.arrivals⟩, ih.2⟩

/-- A bit of a socket's flags that is clear stays so while nothing raises it. -/
theorem Passes.bit_clear (h : start.Passes P o now) (hP : ∀ frame, P frame → frame.IsQuiet)
    (hs : start.chip.Steady) {i : Nat} (hnone : raiseCount (.socket s) i o = 0)
    (hclear : bit (start.chip.flagsOf (.socket s)) i = false) :
    bit (now.chip.flagsOf (.socket s)) i = false := by
  induction h with
  | refl => exact hclear
  | @turn _ now h frame hf ih =>
    rw [raiseCount_append, Nat.add_eq_zero_iff] at hnone
    have hpresent := (h.steady hs).present
    have hafter := Chip.bit_flagsOf_afterFrame ((h.steady hs).serve frame) (.socket s) i
    rw [hnone.2, decide_eq_false (Nat.lt_irrefl 0), Bool.or_false] at hafter
    refine Eq.trans hafter ?_
    obtain ⟨direction, address, value⟩ := frame
    cases direction with
    | read => rw [Frame.spares_of_read rfl _ _ hpresent, ih hnone.1]
    | write =>
      rcases hP _ hf rfl with ha | ⟨t, ha⟩
      · have hspares := Frame.spares_write_global s value
        rw [show address = _ from ha]
        exact (congrArg (bit · i) (hspares _ hpresent)).trans (ih hnone.1)
      · rw [show address = _ from ha]
        by_cases ht : t = s
        · subst ht
          show bit ((now.chip.serve (Frame.write _ value)).2.byteOf .interrupt t) i = false
          rw [Chip.serve_write, Chip.write_socketInterrupt hpresent,
            Chip.byteOf_setByteOf, if_pos ⟨rfl, rfl⟩, bit_and]
          exact Bool.and_eq_false_imp.2 fun hset => absurd (hset.symm.trans (ih hnone.1)) (by simp)
        · have hother : FlagSource.socket s ≠ .socket t :=
            fun h => ht (FlagSource.socket.inj h).symm
          have hspares := Frame.spares_write_interrupt hother value
          exact (congrArg (bit · i) (hspares _ hpresent)).trans (ih hnone.1)
  | mask _ _ ih => exact ih hnone
  | notice _ ih => exact ih hnone

/-- While nothing but arrivals happens, frames that spare a source leave its other flags alone. -/
theorem Passes.flagsOf_and {source : FlagSource} (h : start.Passes P o now)
    (hP : ∀ frame, P frame → frame.Spares source) (hs : start.chip.Visited) {mask : UInt8}
    (hmask : mask &&& SocketFlag.received = 0) :
    now.chip.flagsOf source &&& mask = start.chip.flagsOf source &&& mask := by
  refine and_congr_of_bit fun i _ hi => ?_
  rw [h.bit_flagsOf hP hs.steady,
    raiseCount_of_deliveries (h.visited hs).2 (bit_received_of_mask hmask hi)]
  exact Bool.or_false _

/-- While nothing but arrivals happens, a register of one byte is kept by frames that keep it. -/
theorem Passes.byteOf_of_serve {r : SocketRegister} {t : SocketId} (h : start.Passes P o now)
    (hs : start.chip.Visited) (hi : r ≠ .interrupt) (hw : r.width = 1)
    (hserve : ∀ (chip : Chip) (frame : Frame), chip.absent = none → P frame →
      (chip.serve frame).2.byteOf r t = chip.byteOf r t) :
    now.chip.byteOf r t = start.chip.byteOf r t := by
  induction h with
  | refl => rfl
  | @turn _ now h frame hf ih =>
    have hvisited := (h.visited hs).1
    have hserved := hvisited.serve frame
    refine Eq.trans (hserved.steady.byteOf_afterFrame hi hw fun scheduled hq _ => ?_)
      ((hserve _ frame hvisited.present hf).trans ih)
    exact Event.setsStatus_of_delivery (hserved.arrivals scheduled hq) t
  | mask _ _ ih => exact ih
  | notice _ ih => exact ih

end Endpoint

/-! ## Calm boards -/

section Calm

variable {σ : Type} [Host σ] [Wired σ]

/-- A board that exchanges no frame by itself, whose chip is only visited, and on which any frame
may be exchanged. -/
structure Habit.Calm (H : Habit σ) : Prop where
  visited {x : σ} (h : H.ok x) : (Wired.endpoint x).chip.Visited
  between (frame : Frame) : ¬H.between frame
  turn {x : σ} (h : H.ok x) (frame : Frame) :
    H.ok (Wired.rewire ((Wired.endpoint x).held.turn frame).2 x)

/-- A board with a visited chip and a handler that does not drain. -/
def Habit.visited : Habit Board where
  ok board := board.Undisturbed ∧ board.chip.Visited
  between _ := False
  called _ := True
  steady h := h.2.steady
  isQuiet h := Frame.isQuiet_of_false h
  called_rewire _ _ := Iff.rfl
  turn {_ frame} h _ := ⟨h.1, (h.2.serve frame).afterFrame⟩
  held h := h
  restore before h := (h.1.restore_ends before).mono fun _ _ h' =>
    ⟨⟨h'.1, (h'.2.visited h.2).1⟩, ⟨[], h'.2⟩, fun _ => .inr trivial⟩
  record _ h := ⟨(), _, rfl, h, rfl, id⟩

theorem Habit.visited_calm : Habit.visited.Calm where
  visited h := h.2
  between _ := id
  turn h frame := ⟨h.1, (h.2.serve frame).afterFrame⟩

theorem Habit.alone_calm : Habit.alone.Calm where
  visited h := h.2.visited
  between _ := id
  turn h frame := Habit.alone_turn h frame

namespace Habit

variable {H : Habit σ} {x x' : σ} {frame : Frame} {value seen : UInt8} {o : List Occurrence}
  {source : FlagSource} {device now : Device σ} {s : SocketId} {i : Nat}

theorem Calm.spares (hH : H.Calm) (source : FlagSource) : H.Spares source :=
  fun frame h => absurd h (hH.between frame)

/-- A bit of the flags that nothing raises by itself while the driver works on the board. -/
def Dormant (H : Habit σ) (i : Nat) : Prop :=
  ∀ ⦃x : σ⦄ ⦃P : Frame → Prop⦄ ⦃o : List Occurrence⦄ ⦃now : Endpoint⦄, H.ok x →
    (Wired.endpoint x).Passes P o now → ∀ source, raiseCount source i o = 0

theorem Calm.dormant (hH : H.Calm) (hi : bit SocketFlag.received i = false) : H.Dormant i :=
  fun _ _ _ _ hok h source => raiseCount_of_deliveries (h.visited (hH.visited hok)).2 hi source

theorem alone_dormant (i : Nat) : Habit.alone.Dormant i := by
  intro x P o now hok h source
  rw [(h.silent hok.2).2]
  rfl

/-! ## Drains -/

variable (hH : H.Calm) (hi : H.Dormant i)

include hH hi

/-- A frame leaves a dormant bit as the chip serves it. -/
theorem Exchanged.bit_flagsOf_calm (h : H.Exchanged x frame value o x') (hok : H.ok x)
    (source : FlagSource) :
    bit ((Wired.endpoint x').chip.flagsOf source) i =
      bit (((Wired.endpoint x).chip.serve frame).2.flagsOf source) i := by
  rw [h.bit_flagsOf hok (hH.spares source),
    hi hok (h.passes (P := fun _ => True) trivial fun _ _ => trivial)]
  exact Bool.or_false _

omit hi in
/-- A frame leaves the other registers of one byte as the chip serves it. -/
theorem Exchanged.byteOf_calm (h : H.Exchanged x frame value o x') (hok : H.ok x)
    {r : SocketRegister} (hi : r ≠ .interrupt) (hw : r.width = 1) :
    (Wired.endpoint x').chip.byteOf r s = ((Wired.endpoint x).chip.serve frame).2.byteOf r s := by
  obtain ⟨o', -, hwalk⟩ := h.walk
  have hserved := (hH.visited hok).serve frame
  refine (hwalk.byteOf_of_serve hserved.afterFrame hi hw ?_).trans
    (hserved.steady.byteOf_afterFrame hi hw fun scheduled hq _ =>
      hserved.statusStays s scheduled hq)
  exact fun _ frame _ hb => absurd hb (hH.between frame)

/-- Draining a socket that the interrupt register names leaves none of its flags in the chip. -/
theorem SocketDrained.clears (h : H.SocketDrained seen s device o now) (hok : H.ok device.board)
    (hseen : hasBits seen s.interruptBit = true ∨ bit (device.chip.flagsOf (.socket s)) i = false) :
    bit (now.chip.flagsOf (.socket s)) i = false := by
  have hread : (Frame.read (SocketRegister.interrupt.address s)).Spares (.socket s) :=
    Frame.spares_of_read rfl _
  cases h with
  | unseen hnot => exact hseen.resolve_left (by simp [hnot])
  | silent h =>
    have hreply := h.reply_interrupt hok
    show bit ((Wired.endpoint _).chip.flagsOf (.socket s)) i = false
    rw [h.bit_flagsOf_calm hH hi hok, hread _ (H.steady hok).present, ← hreply, bit_zero]
  | @moved raw reply o o' board board' hraw h h' =>
    have hreply := h.reply_interrupt hok
    have hflags := h.bit_flagsOf_calm hH hi hok (.socket s)
    rw [hread _ (H.steady hok).present, ← hreply] at hflags
    show bit ((Wired.endpoint board').chip.flagsOf (.socket s)) i = false
    rw [h'.bit_flagsOf_calm hH hi h.ok, Chip.serve_write,
      Chip.write_socketInterrupt (H.steady h.ok).present]
    show bit (Chip.byteOf _ .interrupt s) i = false
    rw [Chip.byteOf_setByteOf, if_pos ⟨rfl, rfl⟩, bit_and]
    show (bit ((Wired.endpoint board).chip.flagsOf (.socket s)) i && _) = false
    rw [hflags, ← bit_and, UInt8.and_not_self, bit_zero]

/-- Draining the sockets leaves no flag of a socket in the chip, if the interrupt register names
every socket that has one. -/
theorem SocketsDrained.clears {sockets : List SocketId}
    (h : H.SocketsDrained seen sockets device o now) (hok : H.ok device.board) (hs : s ∈ sockets)
    (hseen : hasBits seen s.interruptBit = true ∨ bit (device.chip.flagsOf (.socket s)) i = false) :
    bit (now.chip.flagsOf (.socket s)) i = false := by
  induction h with
  | nil => cases hs
  | @cons t rest start middle now o o' h h' ih =>
    have hok' := h.ok hok
    by_cases hst : s = t
    · subst hst
      exact h'.passes.bit_clear (fun _ => id) (H.steady hok') (hi hok' h'.passes _)
        (h.clears hH hi hok hseen)
    · refine ih hok' ((List.mem_cons.1 hs).resolve_left hst) ?_
      exact hseen.imp_right fun hclear =>
        h.passes.bit_clear (fun _ => id) (H.steady hok) (hi hok h.passes _) hclear

/-- A drain leaves no flag of a socket in the chip, beside those that are raised meanwhile. -/
theorem Drained.clears {limit : Nat} (h : H.Drained (limit + 1) device o now)
    (hok : H.ok device.board) (s : SocketId) : bit (now.chip.flagsOf (.socket s)) i = false := by
  have hnamed (hnot : ¬hasBits device.chip.interrupts s.interruptBit = true) :
      device.chip.flagsOf (.socket s) = 0 :=
    Chip.byteOf_interrupt_of_unnamed (Bool.eq_false_iff.2 hnot)
  have hread : (Frame.read CommonRegister.interrupt.address).Spares (.socket s) :=
    Frame.spares_of_read rfl _
  cases h with
  | quiet h =>
    have hreply := h.reply_global hok
    show bit ((Wired.endpoint _).chip.flagsOf (.socket s)) i = false
    rw [h.bit_flagsOf_calm hH hi hok, hread _ (H.steady hok).present, hnamed, bit_zero]
    rw [← hreply, hasBits_interruptBit, bit_zero]
    exact Bool.false_ne_true
  | @pass _ current start sockets all now board o o' o'' rest _ h hs hg hrest =>
    have hreply := h.reply_global hok
    have hok' := (hs.flow h.ok (hH.spares (.socket s))).1
    have hsame := h.bit_flagsOf_calm hH hi hok (.socket s)
    rw [hread _ (H.steady hok).present] at hsame
    have hlater := hg.passes.trans hrest.passes
    refine hlater.bit_clear (fun _ => id) (H.steady hok') (hi hok' hlater _)
      (hs.clears hH hi h.ok (SocketId.mem_all s) ?_)
    by_cases hseen : hasBits current s.interruptBit = true
    · exact .inl hseen
    · rw [hreply] at hseen
      refine .inr (hsame.trans ?_)
      rw [hnamed hseen, bit_zero]

/-- After a drain the driver has a dormant bit wherever it was before, and the chip has it
nowhere. -/
theorem Drained.collects {limit : Nat} (h : H.Drained (limit + 1) device o now)
    (hok : H.ok device.board) (s : SocketId) (hi8 : i < 8) :
    bit (now.chip.flagsOf (.socket s)) i = false ∧ bit (now.controller.sticky.socket s) i =
      bit (device.controller.sticky.socket s ||| device.chip.flagsOf (.socket s)) i := by
  have hflow : Flow (.socket s) o device.chip device.controller.sticky now.chip
      now.controller.sticky := h.flow hok hH.spares
  have hclear := h.clears hH hi hok s
  have hkept := (hflow i hi8).kept
  rw [hi hok h.passes, hclear, decide_eq_false (Nat.lt_irrefl 0), Bool.or_false,
    Bool.or_false] at hkept
  refine ⟨hclear, ?_⟩
  rw [bit_or]
  exact hkept

omit hi in
/-- After a drain the driver has all flags that arrivals do not raise, and the chip has none of
them. -/
theorem drain_collects (hok : H.ok device.board) {mask : UInt8}
    (hmask : mask &&& SocketFlag.received = 0) :
    Ends drain device fun _ device' => H.ok device'.board ∧
      (∃ o, (Wired.endpoint device.board).Passes Frame.IsQuiet o
        (Wired.endpoint device'.board)) ∧
      ∀ s : SocketId, device'.chip.flagsOf (.socket s) &&& mask = 0 ∧
        device'.controller.sticky.socket s &&& mask =
          (device.controller.sticky.socket s ||| device.chip.flagsOf (.socket s)) &&& mask := by
  refine (H.drain_ends device hok).mono ?_
  rintro _ device' ⟨hok', o, hdrained⟩
  have hcollects {i : Nat} (hi : i < 8) (hm : bit mask i = true) (s : SocketId) :=
    hdrained.collects hH (hH.dormant (bit_received_of_mask hmask hm)) hok s hi
  refine ⟨hok', ⟨o, hdrained.passes⟩, fun s => ⟨?_, and_congr_of_bit fun i hi hm => ?_⟩⟩
  · rw [← UInt8.zero_and (a := mask)]
    refine and_congr_of_bit fun i hi hm => ?_
    rw [(hcollects hi hm s).1, bit_zero]
  · exact (hcollects hi hm s).2

end Habit

end Calm

end SpiEthernet
