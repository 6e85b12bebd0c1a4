import SpiEthernet.Proofs.Interrupt.Endurance
import SpiEthernet.Proofs.Interrupt.Visits
import SpiEthernet.Proofs.Link.Masking

/-!
# Boards that answer

A simulated chip answers whatever is clocked into it, whether there is a chip at all or not. It can
only be stopped by an event that writes a word outside its memory; where no such event is to come,
none will be, since no frame schedules one. A handler that drains does not stop it either.

* `Obliging` : a property of boards with which every call and every remark come to an end.
* `Contained.serve`, `Contained.countFrame_ends` : all that is to be written stays inside memory.
* `Board.obliging_contained` : boards with such a chip answer.
-/

namespace SpiEthernet

/-! ## Calls and remarks -/

/-- Where the property holds, every single call on the board and every remark come to an end, and
the property holds again. -/
structure Obliging {σ : Type} [Host σ] (I : σ → Prop) : Prop extends Responsive I where
  record (notice : Notice) : Succeeds I (Host.record notice : LinkM σ Unit)

/-- Whatever is asked of the board from now on, it answers, and it takes every remark. -/
def Reliable {σ : Type} [Host σ] (x : σ) : Prop := ∃ I : σ → Prop, Obliging I ∧ I x

theorem Obliging.sturdy {σ : Type} [Host σ] {I : σ → Prop} (h : Obliging I) : Sturdy I where
  mask := h.mask
  restore := h.restore
  exchange _ := h.exchange _
  record := h.record

/-! ## Events inside memory -/

/-- The event writes to the chip's memory only. -/
def Event.IsContained : Event → Prop
  | .setWord address _ => address.toNat + 1 < memorySize
  | _ => True

namespace Chip

variable {chip : Chip}

/-- Nothing is scheduled that would write outside the chip's memory. -/
def Contained (chip : Chip) : Prop := ∀ scheduled ∈ chip.queue, scheduled.event.IsContained

theorem Contained.of_queue {chip' : Chip} (h : chip.Contained) (hq : chip'.queue = chip.queue) :
    chip'.Contained := fun scheduled hs => h scheduled (hq ▸ hs)

/-- Such an event happens, and schedules nothing. -/
theorem apply_of_isContained (chip : Chip) {event : Event} (h : event.IsContained) :
    ∃ chip', chip.apply event = .ok chip' ∧ chip'.queue = chip.queue := by
  have hordinary (ho : event.isOrdinary) :
      ∃ chip', chip.apply event = .ok chip' ∧ chip'.queue = chip.queue :=
    ⟨_, chip.apply_eq_happen ho, queue_of_casing (chip.casing_happen ho)⟩
  cases event with
  | setWord address value => exact ⟨_, if_pos h, rfl⟩
  | _ => exact hordinary rfl

theorem applyAll_of_isContained {events : List Scheduled} : ∀ {chip : Chip},
    (∀ scheduled ∈ events, scheduled.event.IsContained) →
      ∃ chip', chip.applyAll events = .ok chip' ∧ chip'.queue = chip.queue := by
  induction events with
  | nil => exact fun _ => ⟨_, rfl, rfl⟩
  | cons scheduled events ih =>
    intro chip h
    obtain ⟨next, hnext, hqueue⟩ :=
      chip.apply_of_isContained (h scheduled List.mem_cons_self)
    have hrest : ∀ s ∈ events, s.event.IsContained := fun s hs => h s (List.mem_cons_of_mem _ hs)
    obtain ⟨last, hlast, hqueue'⟩ := @ih next hrest
    refine ⟨last, ?_, hqueue'.trans hqueue⟩
    rw [applyAll, hnext]
    exact hlast

namespace Contained

variable (h : chip.Contained)

include h

theorem countFrame : ∃ chip', chip.countFrame = .ok chip' ∧ chip'.Contained := by
  have hdue : ∀ scheduled ∈ (chip.queue.filter fun scheduled =>
      { chip with transactions := chip.transactions + 1 }.isDue scheduled),
      scheduled.event.IsContained := fun scheduled hs => h scheduled (List.mem_filter.1 hs).1
  obtain ⟨chip', hsettled, hqueue⟩ := applyAll_of_isContained hdue
  refine ⟨chip', (settle_eq _).trans hsettled, fun scheduled hs => ?_⟩
  rw [hqueue] at hs
  exact h scheduled (List.mem_filter.1 hs).1

/-- No frame schedules anything but arrivals. -/
theorem serve (frame : Frame) : (chip.serve frame).2.Contained := by
  cases hpresent : chip.absent with
  | none =>
    intro scheduled hs
    rcases mem_queue_serve hpresent hs with hs | ⟨_, _, _, _, hevent⟩
    · exact h scheduled hs
    · rw [hevent]
      trivial
  | some fill =>
    rw [serve_absent hpresent]
    exact h

end Contained

end Chip

/-! ## The link -/

namespace Endpoint

variable {endpoint : Endpoint} (h : endpoint.chip.Contained)

include h

/-- A byte is answered, whether it completes a frame or not. -/
theorem contained_transfer (byte : UInt8) : (endpoint.transfer byte).2.chip.Contained := by
  unfold transfer
  split
  · dsimp only
    split
    · unfold serve
      dsimp only
      split
      · exact h.serve (Frame.write _ _)
      split
      · exact h.serve (Frame.read _)
      · exact h
    · exact h
  · exact h

theorem contained_deselect :
    ∃ endpoint', endpoint.deselect = .ok endpoint' ∧ endpoint'.chip.Contained := by
  obtain ⟨chip, selected, frame, masked, trace⟩ := endpoint
  by_cases hlength : frame.length = 4
  · obtain ⟨chip', hcounted, hcontained⟩ := h.countFrame
    refine ⟨⟨chip', false, [], masked, trace⟩, ?_, hcontained⟩
    simp only [deselect, if_pos hlength]
    rw [hcounted]
    rfl
  · refine ⟨⟨chip, false, [], masked, trace⟩, ?_, h⟩
    simp only [deselect, if_neg hlength]
    rfl

end Endpoint

/-! ## Boards -/

theorem Bench.obliging_contained :
    Obliging fun bench : Bench => bench.endpoint.chip.Contained where
  select _ h := ⟨_, _, rfl, h⟩
  deselect := by
    rintro ⟨endpoint, journal⟩ h
    obtain ⟨endpoint', hended, hcontained⟩ := Endpoint.contained_deselect h
    refine ⟨(), ⟨endpoint', journal⟩, ?_, hcontained⟩
    show (endpoint.deselect >>= _) >>= _ = _
    rw [hended]
    rfl
  transfer byte _ h := ⟨_, _, rfl, Endpoint.contained_transfer h byte⟩
  mask _ h := ⟨_, _, rfl, h⟩
  restore before bench h := by
    cases before with
    | false => exact ⟨_, _, rfl, h⟩
    | true => exact ⟨_, _, rfl, h⟩
  record _ _ h := ⟨_, _, rfl, h⟩

/-- What comes to an end on the bench of a board, comes to an end on the board. -/
theorem Succeeds.onBench {α : Type} {I : Bench → Prop} {action : LinkM Bench α}
    (h : Succeeds I action) : Succeeds (fun board : Board => I board.bench)
      (Board.onBench action) := by
  rintro ⟨bench, hooked, handled, shared, deferred⟩ hI
  obtain ⟨a, bench', hrun, hI'⟩ := h bench hI
  refine ⟨a, ⟨bench', hooked, handled, shared, deferred⟩, ?_, hI'⟩
  show (action bench >>= _) = _
  rw [hrun]
  rfl

/-- A board answers unless an event is to come that writes outside the chip's memory, whatever its
handler does. -/
theorem Board.obliging_contained : Obliging fun board : Board => board.chip.Contained where
  select := Bench.obliging_contained.select.onBench
  deselect := Bench.obliging_contained.deselect.onBench
  transfer byte := (Bench.obliging_contained.transfer byte).onBench
  mask := Bench.obliging_contained.mask.onBench
  restore before board h := by
    unfold Ends
    rw [restore_eq]
    cases before with
    | false => exact ⟨_, _, rfl, h⟩
    | true =>
      have hnoticed : board.noticed.chip.Contained := h.of_queue rfl
      refine (unmask_ensures (c := True) (I := fun bench => bench.endpoint.chip.Contained)
        hnoticed fun controller => Ends.ensures ?_).ends trivial
      exact Bench.obliging_contained.sturdy.drain ⟨board.noticed.bench, controller⟩ hnoticed
  record notice := (Bench.obliging_contained.record notice).onBench

end SpiEthernet
