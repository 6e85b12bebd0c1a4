import SpiEthernet.Proofs.Computation

/-!
# What the transport asks of a board

Whatever the board is made of and whatever it answers, a call on the transport asks it for one
transaction: the interrupt is held back once, the frames of the call are clocked one after the
other, four bytes each with the chip selected, and then the interrupt is let through again if it was
before. To say so of every board, a board is given a log of the calls it got and of what it
answered; without the log it does the same.

* `BusCall.perform_seen` : the calls behind a call on the transport, in order and with their
  answers.
* `BusCall.perform_forgets` : keeping a log changes nothing.
-/

namespace SpiEthernet

open SerialLink

/-! ## Calls on the transport -/

/-- A call on the transport. -/
inductive BusCall where
  | writeByte (address : UInt16) (value : UInt8)
  | writeBlock (address : UInt16) (data : List UInt8)
  | readByte (address : UInt16)
  | readBlock (address : UInt16) (count : Nat)
deriving DecidableEq, Repr

namespace BusCall

/-- Carries out a call and returns the bytes that it has read. -/
def perform {σ : Type} [SerialLink σ] : BusCall → LinkM σ (List UInt8)
  | writeByte address value => do
    SpiEthernet.writeByte address value
    return []
  | writeBlock address data => do
    SpiEthernet.writeBlock address data
    return []
  | readByte address => do return [← SpiEthernet.readByte address]
  | readBlock address count => SpiEthernet.readBlock address count

/-- Whether a call reads or writes. -/
def direction : BusCall → Direction
  | writeByte .. | writeBlock .. => .write
  | readByte .. | readBlock .. => .read

/-- The address of the first frame of a call. -/
def address : BusCall → UInt16
  | writeByte address _ | writeBlock address _ | readByte address | readBlock address _ => address

/-- The data bytes of the frames of a call. -/
def data : BusCall → List UInt8
  | writeByte _ value => [value]
  | writeBlock _ data => data
  | readByte _ => [0]
  | readBlock _ count => List.replicate count 0

/-- The frames of a call. -/
def frames (call : BusCall) : List Frame :=
  call.data.mapIdx fun i byte => ⟨call.direction, call.address + UInt16.ofNat i, byte⟩

theorem frames_writeByte (address : UInt16) (value : UInt8) :
    (writeByte address value).frames = [Frame.write address value] := by
  simp [frames, data, direction, BusCall.address, Frame.write]

theorem frames_writeBlock (address : UInt16) (data : List UInt8) :
    (writeBlock address data).frames = Frame.writes address data := rfl

theorem frames_readBlock (address : UInt16) (count : Nat) :
    (readBlock address count).frames = Frame.reads address count := by
  refine List.ext_getElem (by simp [frames, data]) fun i _ _ => ?_
  simp [frames, data, direction, BusCall.address, Frame.reads, Frame.read]

/-- What a call returns of the replies to its frames. -/
def answer (call : BusCall) (replies : List UInt8) : List UInt8 :=
  match call.direction with
  | .read => replies
  | .write => []

end BusCall

/-! ## One transaction for each call -/

section Transaction

variable {σ : Type} [SerialLink σ]

/-- A single frame is a transaction of one frame. -/
theorem critical_singleton (frame : Frame) :
    critical ([frame].mapM exchange) =
      ((fun reply => [reply]) <$> critical (exchange frame) : LinkM σ (List UInt8)) := by
  simp [critical]

theorem transact_of_ne_nil {frames : List Frame} (h : frames ≠ []) :
    (transact frames : LinkM σ (List UInt8)) = critical (frames.mapM exchange) := by
  cases frames with
  | nil => exact absurd rfl h
  | cons => rfl

/-- A byte is written as a block of one byte. -/
theorem writeBlock_singleton (address : UInt16) (value : UInt8) :
    (writeBlock address [value] : LinkM σ Unit) = writeByte address value := by
  have hframes : Frame.writes address [value] = [Frame.write address value] :=
    BusCall.frames_writeByte address value
  rw [writeBlock, hframes, transact_of_ne_nil (by simp), critical_singleton]
  simp [writeByte]

/-- A byte is read as a block of one byte. -/
theorem readBlock_one (address : UInt16) :
    (readBlock address 1 : LinkM σ (List UInt8)) = (fun byte => [byte]) <$> readByte address := by
  have hframes : Frame.reads address 1 = [Frame.read address] := by simp [Frame.reads]
  rw [readBlock, hframes, transact_of_ne_nil (by simp), critical_singleton, readByte]

/-- A call is one transaction of its frames. -/
theorem BusCall.perform_eq (call : BusCall) :
    (call.perform : LinkM σ (List UInt8)) = call.answer <$> transact call.frames := by
  have hwrite (address : UInt16) (data : List UInt8) :
      ((writeBlock address data).perform : LinkM σ (List UInt8)) =
        (writeBlock address data).answer <$> transact (writeBlock address data).frames := by
    rw [frames_writeBlock, perform, SpiEthernet.writeBlock, bind_assoc, ← bind_pure_comp]
    rfl
  have hread (address : UInt16) (count : Nat) :
      ((readBlock address count).perform : LinkM σ (List UInt8)) =
        (readBlock address count).answer <$> transact (readBlock address count).frames := by
    rw [frames_readBlock]
    exact (id_map _).symm
  cases call with
  | writeByte address value =>
    rw [perform, ← writeBlock_singleton]
    exact hwrite address [value]
  | writeBlock address data => exact hwrite address data
  | readByte address =>
    rw [perform, bind_pure_comp, ← readBlock_one]
    exact hread address 1
  | readBlock address count => exact hread address count

end Transaction

/-! ## Boards that are observed -/

/-- A call that a board got, and what it answered. -/
inductive Observation where
  | select
  | deselect
  | transfer (byte reply : UInt8)
  | maskInterrupt (before : Bool)
  | restoreInterrupt (before : Bool)
deriving DecidableEq, Repr

/-- A board of which every call is observed, the earliest first. -/
structure Observed (σ : Type) where
  board : σ
  seen : List Observation

namespace Observed

variable {σ α β : Type}

/-- Does what the board does, and observes it. -/
def call (action : LinkM σ α) (observe : α → Observation) : LinkM (Observed σ) α :=
  fun ⟨board, seen⟩ => do
    let (answer, board) ← action board
    return (answer, ⟨board, seen ++ [observe answer]⟩)

instance [SerialLink σ] : SerialLink (Observed σ) where
  select := call select fun _ => .select
  deselect := call deselect fun _ => .deselect
  transfer byte := call (transfer byte) (.transfer byte)
  maskInterrupt := call maskInterrupt .maskInterrupt
  restoreInterrupt before := call (restoreInterrupt before) fun _ => .restoreInterrupt before

/-! ## Observing changes nothing -/

/-- A computation on an observed board does what another one does on the board itself. -/
def Forgets (observed : LinkM (Observed σ) α) (plain : LinkM σ α) : Prop :=
  ∀ x : Observed σ, (observed x).map (fun r => (r.1, r.2.board)) = plain x.board

namespace Forgets

theorem call (action : LinkM σ α) (observe : α → Observation) :
    Forgets (Observed.call action observe) action := by
  rintro ⟨board, seen⟩
  show Except.map _ (action board >>= _) = action board
  cases action board <;> rfl

theorem pure (a : α) : Forgets (Pure.pure a) (Pure.pure a : LinkM σ α) := fun _ => rfl

theorem bind {observed : LinkM (Observed σ) α} {plain : LinkM σ α}
    {k : α → LinkM (Observed σ) β} {k' : α → LinkM σ β} (h : Forgets observed plain)
    (hk : ∀ a, Forgets (k a) (k' a)) : Forgets (observed >>= k) (plain >>= k') := by
  intro x
  show Except.map _ (observed x >>= fun r => k r.1 r.2) = plain x.board >>= fun r => k' r.1 r.2
  rw [← h x]
  cases observed x with
  | error fault => rfl
  | ok r => exact hk r.1 r.2

theorem map {observed : LinkM (Observed σ) α} {plain : LinkM σ α} (h : Forgets observed plain)
    (f : α → β) : Forgets (f <$> observed) (f <$> plain) := by
  rw [map_eq_pure_bind, map_eq_pure_bind]
  exact h.bind fun a => pure (f a)

variable [SerialLink σ]

theorem exchange (frame : Frame) :
    Forgets (SpiEthernet.exchange frame) (SpiEthernet.exchange frame : LinkM σ UInt8) := by
  refine bind (call _ _) fun _ => ?_
  refine bind (call _ _) fun _ => bind (call _ _) fun _ => bind (call _ _) fun _ => ?_
  exact bind (call _ _) fun reply => bind (call _ _) fun _ => pure reply

theorem mapM_exchange (frames : List Frame) : Forgets (frames.mapM SpiEthernet.exchange)
    (frames.mapM SpiEthernet.exchange : LinkM σ (List UInt8)) := by
  induction frames with
  | nil => exact pure []
  | cons frame frames ih =>
    rw [List.mapM_cons, List.mapM_cons]
    exact bind (exchange frame) fun reply => bind ih fun replies => pure (reply :: replies)

theorem transact (frames : List Frame) : Forgets (SpiEthernet.transact frames)
    (SpiEthernet.transact frames : LinkM σ (List UInt8)) := by
  cases frames with
  | nil => exact pure []
  | cons frame frames =>
    refine bind (call _ _) fun before => ?_
    refine bind (mapM_exchange (frame :: frames)) fun replies => ?_
    exact bind (call _ _) fun _ => pure replies

end Forgets

/-! ## What is observed -/

variable {seen : List Observation}

theorem call_seen (action : LinkM σ α) (observe : α → Observation) :
    Leads (fun x => x.seen = seen) (call action observe) fun a x =>
      x.seen = seen ++ [observe a] := by
  rintro ⟨board, earlier⟩ a x rfl hrun
  have hrun : (action board >>= fun r =>
      pure (r.1, (⟨r.2, earlier ++ [observe r.1]⟩ : Observed σ))) = .ok (a, x) := hrun
  cases hr : action board with
  | error fault =>
    rw [hr] at hrun
    cases hrun
  | ok r =>
    rw [hr] at hrun
    cases hrun
    rfl

end Observed

/-- The replies to the four bytes of a frame. -/
structure Replies where
  code : UInt8
  high : UInt8
  low : UInt8
  data : UInt8

/-- What is observed of a frame: the chip is selected, four bytes are clocked, and the chip is
deselected. -/
def Observation.ofFrame (code : UInt8) (address : UInt16) (data : UInt8) (replies : Replies) :
    List Observation :=
  [.select, .transfer code replies.code, .transfer (highByte address) replies.high,
    .transfer (lowByte address) replies.low, .transfer data replies.data, .deselect]

/-- What is observed of a call: the interrupt is held back, the frames of the call are clocked at
consecutive addresses, and the interrupt is let through again if it was before. -/
def BusCall.transaction (call : BusCall) (before : Bool) (replies : List Replies) :
    List Observation :=
  .maskInterrupt before :: ((call.data.zip replies).mapIdx fun i clocked =>
    Observation.ofFrame call.direction.code (call.address + UInt16.ofNat i) clocked.1
      clocked.2).flatten ++ [.restoreInterrupt before]

namespace Observed

variable {σ : Type} [SerialLink σ] {seen : List Observation}

/-- What is observed of a frame. -/
def ofFrame (frame : Frame) (replies : Replies) : List Observation :=
  Observation.ofFrame frame.direction.code frame.address frame.data replies

theorem exchange_seen (frame : Frame) :
    Leads (fun x : Observed σ => x.seen = seen) (exchange frame) fun reply x =>
      ∃ replies : Replies, reply = replies.data ∧ x.seen = seen ++ ofFrame frame replies := by
  refine Leads.bind (call_seen _ _) fun _ => ?_
  refine Leads.bind (call_seen _ _) fun code => ?_
  refine Leads.bind (call_seen _ _) fun high => ?_
  refine Leads.bind (call_seen _ _) fun low => ?_
  refine Leads.bind (call_seen _ _) fun data => ?_
  refine Leads.bind (call_seen _ _) fun _ => Leads.pure fun x hseen => ?_
  refine ⟨⟨code, high, low, data⟩, rfl, ?_⟩
  rw [hseen]
  simp [ofFrame, Observation.ofFrame]

theorem mapM_exchange_seen (frames : List Frame) : ∀ {seen : List Observation},
    Leads (fun x : Observed σ => x.seen = seen) (frames.mapM exchange) fun bytes x =>
      ∃ replies : List Replies, replies.length = frames.length ∧
        bytes = replies.map (·.data) ∧
          x.seen = seen ++ (List.zipWith ofFrame frames replies).flatten := by
  induction frames with
  | nil =>
    intro seen
    refine Leads.pure fun x hseen => ⟨[], rfl, rfl, ?_⟩
    rw [hseen]
    simp
  | cons frame frames ih =>
    intro seen
    rw [List.mapM_cons]
    refine Leads.bind (exchange_seen frame) fun reply => ?_
    refine Leads.of_exists fun first => Leads.of_and fun hfirst => ?_
    refine Leads.bind (@ih (seen ++ ofFrame frame first)) fun rest => Leads.pure ?_
    rintro x ⟨replies, hlength, rfl, hseen⟩
    rw [hfirst]
    refine ⟨first :: replies, congrArg (· + 1) hlength, rfl, ?_⟩
    rw [hseen]
    simp

theorem critical_seen (frames : List Frame) :
    Leads (fun x : Observed σ => x.seen = seen) (critical (frames.mapM exchange)) fun bytes x =>
      ∃ before replies, replies.length = frames.length ∧ bytes = replies.map (·.data) ∧
        x.seen = seen ++ (.maskInterrupt before :: (List.zipWith ofFrame frames replies).flatten ++
          [.restoreInterrupt before]) := by
  refine Leads.bind (call_seen _ _) fun before => ?_
  refine Leads.bind (mapM_exchange_seen frames) fun bytes => ?_
  refine Leads.of_exists fun replies => Leads.of_and fun hlength => Leads.of_and fun hbytes => ?_
  refine Leads.bind (call_seen _ _) fun _ => Leads.pure fun x hseen => ?_
  refine ⟨before, replies, hlength, hbytes, ?_⟩
  rw [hseen]
  simp

end Observed

/-- Without what was observed, a call does the same as on the board itself. -/
theorem BusCall.perform_forgets {σ : Type} [SerialLink σ] (call : BusCall) :
    Observed.Forgets call.perform (call.perform : LinkM σ (List UInt8)) := by
  rw [call.perform_eq, call.perform_eq]
  exact (Observed.Forgets.transact call.frames).map call.answer

/-- The frames of a call, with the replies to them, are observed at consecutive addresses. -/
theorem BusCall.transaction_eq (call : BusCall) (before : Bool) (replies : List Replies) :
    call.transaction before replies =
      .maskInterrupt before :: (List.zipWith Observed.ofFrame call.frames replies).flatten ++
        [.restoreInterrupt before] := by
  have hframes : List.zipWith Observed.ofFrame call.frames replies =
      (call.data.zip replies).mapIdx fun i clocked =>
        Observation.ofFrame call.direction.code (call.address + UInt16.ofNat i) clocked.1
          clocked.2 := by
    refine List.ext_getElem (by simp [frames]) fun i _ _ => ?_
    simp [frames, Observed.ofFrame]
  rw [hframes]
  rfl

/-- What a call asks a board for. Without data it asks for nothing. Otherwise the board is asked for
one transaction, and what it has replied to the data bytes is returned if the call reads. -/
structure BusCall.Asked {σ : Type} (call : BusCall) (x : Observed σ) (bytes : List UInt8)
    (y : Observed σ) : Prop where
  none (h : call.data = []) : bytes = [] ∧ y = x
  some (h : call.data ≠ []) : ∃ before replies, replies.length = call.data.length ∧
    bytes = call.answer (replies.map (·.data)) ∧ y.seen = x.seen ++ call.transaction before replies

/-- Whatever a call returns, it has asked the board for one transaction of its frames. -/
theorem BusCall.perform_seen {σ : Type} [SerialLink σ] (call : BusCall) (x : Observed σ) :
    Leads (fun y => y = x) call.perform (call.Asked x) := by
  have hframes : call.frames = [] ↔ call.data = [] := List.mapIdx_eq_nil_iff
  have hlength : call.frames.length = call.data.length := List.length_mapIdx
  rw [call.perform_eq, map_eq_pure_bind]
  by_cases hnone : call.data = []
  · rw [hframes.2 hnone]
    refine Leads.bind (R := fun bytes y => bytes = [] ∧ y = x) (Leads.pure fun _ h => ⟨rfl, h⟩)
      fun bytes => Leads.pure ?_
    rintro _ ⟨rfl, rfl⟩
    refine ⟨fun _ => ⟨?_, rfl⟩, fun hsome => absurd hnone hsome⟩
    unfold answer
    cases call.direction <;> rfl
  · rw [transact_of_ne_nil fun h => hnone (hframes.1 h)]
    refine Leads.bind ((Observed.critical_seen call.frames).mono fun y h => congrArg _ h)
      fun bytes => Leads.pure ?_
    rintro y ⟨before, replies, hreplies, rfl, hseen⟩
    refine ⟨fun h => absurd h hnone, fun _ => ⟨before, replies, hreplies.trans hlength, rfl, ?_⟩⟩
    rw [hseen, call.transaction_eq]

end SpiEthernet
