import SpiEthernet.Proofs.Chip.Effects

/-!
# The scan of the queue

At the end of a frame the chip goes over its queue by place and takes out what is due while it
goes. What comes of it is what one would say without places: the events that are due happen in the
order in which they were added, and the others are left in theirs. Nothing that happens looks at
the queue or changes it, so it makes no difference when an event is taken out.

* `apply_mapQueue` : events happen alike whatever is in the queue.
* `settleFrom_eq` : what the scan has yet to do, wherever it stands.
* `settle_eq` : the scan ends, and nothing is left out or done twice.
-/

namespace SpiEthernet

namespace Chip

/-- The chip with its queue changed. -/
def mapQueue (chip : Chip) (f : List Scheduled → List Scheduled) : Chip :=
  { chip with queue := f chip.queue }

/-! ## Events and the queue -/

section Event

variable (chip : Chip) (f : List Scheduled → List Scheduled)

@[simp] theorem queue_mapQueue : (chip.mapQueue f).queue = f chip.queue := rfl

theorem mapQueue_assertLine : (chip.mapQueue f).assertLine = chip.assertLine.mapQueue f := by
  have hline : (chip.mapQueue f).interrupts = chip.interrupts := rfl
  unfold assertLine
  rw [hline]
  show (if chip.interrupts &&& chip.memory.read _ ≠ 0 then _ else _) = _
  split <;> rfl

theorem mapQueue_raiseSocket (s : SocketId) (bits : UInt8) :
    (chip.mapQueue f).raiseSocket s bits = (chip.raiseSocket s bits).mapQueue f :=
  mapQueue_assertLine (chip.setByteOf .interrupt s (chip.byteOf .interrupt s ||| bits)) f

theorem mapQueue_raiseGlobal (bits : UInt8) :
    (chip.mapQueue f).raiseGlobal bits = (chip.raiseGlobal bits).mapQueue f := by
  rw [raiseGlobal, raiseGlobal, ← mapQueue_assertLine]
  rfl

theorem mapQueue_store (s : SocketId) (bytes : List UInt8) :
    (chip.mapQueue f).store s bytes = (chip.store s bytes).mapQueue f := by
  have hsize : (chip.mapQueue f).wordOf .rxSize s = chip.wordOf .rxSize s := rfl
  unfold store
  rw [hsize]
  split
  · rfl
  · rw [← mapQueue_raiseSocket]
    rfl

/-- An event does the same whatever is in the queue, and leaves the queue alone. -/
theorem apply_mapQueue (event : Event) :
    (chip.mapQueue f).apply event = (chip.apply event).map (·.mapQueue f) := by
  cases event with
  | socketInterrupt s bits => exact congrArg Except.ok (chip.mapQueue_raiseSocket f s bits)
  | globalInterrupt bits => exact congrArg Except.ok (chip.mapQueue_raiseGlobal f bits)
  | udp s source sourcePort payload => exact congrArg Except.ok (chip.mapQueue_store f s _)
  | tcp s data => exact congrArg Except.ok (chip.mapQueue_store f s data)
  | ipRaw s source payload => exact congrArg Except.ok (chip.mapQueue_store f s _)
  | macRaw s frame => exact congrArg Except.ok (chip.mapQueue_store f s _)
  | setStatus s status => rfl
  | setWord address value =>
    unfold apply
    dsimp only
    split <;> rfl

end Event

/-- No event changes the count of frames or the queue. -/
theorem casing_apply {chip chip' : Chip} {event : Event} (h : chip.apply event = .ok chip') :
    chip'.casing = chip.casing := by
  cases event with
  | socketInterrupt s bits =>
    cases h
    exact chip.casing_raiseSocket s bits
  | globalInterrupt bits =>
    cases h
    exact chip.casing_raiseGlobal bits
  | udp s | tcp s | ipRaw s | macRaw s =>
    cases h
    exact chip.casing_store s _
  | setStatus s status =>
    cases h
    exact chip.casing_setStatus s status
  | setWord address value =>
    rw [apply] at h
    split at h <;> cases h
    rfl

/-! ## The scan -/

/-- What the scan has yet to do once it has passed some events over: of the rest, those that are
due happen in their order, and the others stay in theirs behind those that were passed over. The
induction is on the steps left, of which there are more than events to look at. -/
theorem settleFrom_eq (bound : Nat) : ∀ (chip : Chip) (passed rest : List Scheduled),
    chip.queue = passed ++ rest → rest.length < bound →
      chip.settleFrom passed.length bound =
        (chip.mapQueue fun _ => passed ++ rest.filter fun scheduled => !chip.isDue scheduled).applyAll
          (rest.filter chip.isDue) := by
  induction bound with
  | zero => exact fun _ _ _ _ hbound => absurd hbound (Nat.not_lt_zero _)
  | succ bound ih =>
    intro chip passed rest hqueue hbound
    cases rest with
    | nil =>
      have hnone : chip.queue[passed.length]? = none := by simp [hqueue]
      have hsame : (chip.mapQueue fun _ => passed ++ []) = chip := by
        rw [← hqueue]
        rfl
      rw [settleFrom, hnone, List.filter_nil, List.filter_nil, hsame]
      rfl
    | cons scheduled rest =>
      have hsome : chip.queue[passed.length]? = some scheduled := by simp [hqueue]
      have hrest : rest.length < bound := Nat.lt_of_succ_lt_succ hbound
      rw [settleFrom, hsome]
      by_cases hdue : chip.isDue scheduled = true
      · have herase : { chip with queue := chip.queue.eraseIdx passed.length } =
            chip.mapQueue fun _ => passed ++ rest := by
          rw [hqueue, List.eraseIdx_append_of_length_le (Nat.le_refl _), Nat.sub_self]
          rfl
        dsimp only
        rw [if_pos hdue, herase, List.filter_cons_of_pos hdue,
          List.filter_cons_of_neg (by simp [hdue]), applyAll, apply_mapQueue, apply_mapQueue]
        cases happly : chip.apply scheduled.event with
        | error fault => rfl
        | ok chip' =>
          have hsame : (chip'.mapQueue fun _ => passed ++ rest).isDue = chip.isDue := by
            funext other
            show decide (other.due ≤ chip'.transactions) = decide (other.due ≤ chip.transactions)
            rw [transactions_of_casing (casing_apply happly)]
          exact (ih _ passed rest rfl hrest).trans (by rw [hsame]; rfl)
      · have hnext := ih chip (passed ++ [scheduled]) rest (by simp [hqueue]) hrest
        rw [List.length_append, List.length_singleton] at hnext
        dsimp only
        rw [if_neg hdue, hnext, List.filter_cons_of_neg hdue,
          List.filter_cons_of_pos (by simp [hdue]), List.append_assoc, List.singleton_append]

/-- The scan ends, the events that are due have happened in the order in which they were added,
and the others are left in theirs. -/
theorem settle_eq (chip : Chip) :
    chip.settle =
      (chip.mapQueue fun queue => queue.filter fun scheduled => !chip.isDue scheduled).applyAll
        (chip.queue.filter chip.isDue) :=
  settleFrom_eq (chip.queue.length + 1) chip [] chip.queue rfl (Nat.lt_succ_self _)

end Chip

end SpiEthernet
