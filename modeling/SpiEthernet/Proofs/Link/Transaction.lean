import SpiEthernet.Board
import SpiEthernet.Proofs.Chip.Quiet
import SpiEthernet.Proofs.Computation

/-!
# Transactions on a board

A board that leads to a simulated chip clocks a frame as one turn of the chip's link; what else
the board is made of plays no part in it. What a board does when it lets the interrupt through is
its own affair, and a `Habit` says what the driver may rely on there: which frames the board may
exchange by itself, and that an asserted interrupt line is never forgotten.

* `Habit.readByte_ends`, `Habit.writeByte_ends` : one turn, and then what the board does by
  itself.
* `Habit.readBlock_ends` : a block is read in consecutive turns with nothing in between.
* `Habit.Travels` : computations that leave the controller alone and exchange only certain
  frames, with a rule for each way in which they are put together.
-/

namespace SpiEthernet

open SerialLink

/-! ## Boards with a chip -/

/-- A board that leads to a simulated chip. -/
class Wired (σ : Type) [Host σ] where
  /-- The chip's end of the serial link. -/
  endpoint : σ → Endpoint
  /-- The board with another end of the link. -/
  rewire : Endpoint → σ → σ
  endpoint_rewire (e : Endpoint) (x : σ) : endpoint (rewire e x) = e
  rewire_rewire (e e' : Endpoint) (x : σ) : rewire e (rewire e' x) = rewire e x
  rewire_endpoint (x : σ) : rewire (endpoint x) x = x
  exchange_eq (x : σ) (frame : Frame) (h : (endpoint x).chip.Steady) :
    exchange frame x = .ok (((endpoint x).turn frame).1, rewire ((endpoint x).turn frame).2 x)
  mask_eq (x : σ) : (maskInterrupt : LinkM σ Bool) x =
    .ok (!(endpoint x).masked, rewire { endpoint x with masked := true } x)
  patience_eq (x : σ) : Host.patience x = (endpoint x).chip.patience

attribute [simp] Wired.endpoint_rewire Wired.rewire_rewire Wired.rewire_endpoint

/-- A frame is one turn of the link, whether there is a chip at its other end or not. -/
theorem Bench.exchange_turn {bench : Bench} (h : bench.endpoint.chip.Ordinary) (frame : Frame) :
    exchange frame bench = .ok ((bench.endpoint.turn frame).1,
      { bench with endpoint := (bench.endpoint.turn frame).2 }) := by
  obtain ⟨hvalue, hend⟩ := Endpoint.clock_turn h frame
  rw [Bench.exchange_eq, hvalue, hend]
  rfl

instance : Wired Bench where
  endpoint bench := bench.endpoint
  rewire endpoint bench := { bench with endpoint }
  endpoint_rewire _ _ := rfl
  rewire_rewire _ _ _ := rfl
  rewire_endpoint _ := rfl
  exchange_eq _ frame h := Bench.exchange_turn h.ordinary frame
  mask_eq _ := rfl
  patience_eq _ := rfl

/-- A frame is exchanged on a board as it is on the board's bench. -/
theorem Board.exchange_eq (frame : Frame) (board : Board) :
    exchange frame board = Board.onBench (exchange frame) board := by
  obtain ⟨bench, hooked, handled, shared, deferred⟩ := board
  simp only [exchange, bind, StateT.bind, Except.bind, pure, Except.pure, SerialLink.select,
    SerialLink.transfer, SerialLink.deselect, onBench, Bench.onEndpoint_modify,
    Bench.onEndpoint_modifyGet]
  simp only [Bench.onEndpoint]
  generalize Endpoint.deselect _ = ended
  cases ended <;> rfl

theorem Board.exchange_turn {board : Board} (h : board.chip.Ordinary) (frame : Frame) :
    exchange frame board = .ok ((board.bench.endpoint.turn frame).1,
      { board with bench := { board.bench with
          endpoint := (board.bench.endpoint.turn frame).2 } }) := by
  rw [Board.exchange_eq, Board.onBench, Bench.exchange_turn h]
  rfl

instance : Wired Board where
  endpoint board := board.bench.endpoint
  rewire endpoint board := { board with bench := { board.bench with endpoint } }
  endpoint_rewire _ _ := rfl
  rewire_rewire _ _ _ := rfl
  rewire_endpoint _ := rfl
  exchange_eq _ frame h := Board.exchange_turn h.ordinary frame
  mask_eq _ := rfl
  patience_eq _ := rfl

/-- The chip that a device leads to. -/
abbrev Device.chip {σ : Type} [Host σ] [Wired σ] (device : Device σ) : Chip :=
  (Wired.endpoint device.board).chip

/-! ## Consecutive turns -/

namespace Endpoint

/-- The replies to consecutive frames, and the link after them. -/
def turnAll (endpoint : Endpoint) : List Frame → List UInt8 × Endpoint
  | [] => ([], endpoint)
  | frame :: frames =>
    let (reply, endpoint) := endpoint.turn frame
    let (replies, endpoint) := endpoint.turnAll frames
    (reply :: replies, endpoint)

/-- The link with the interrupt held back. -/
def held (endpoint : Endpoint) : Endpoint := { endpoint with masked := true }

theorem passes_held (P : Frame → Prop) (endpoint : Endpoint) :
    endpoint.Passes P [] endpoint.held := Passes.refl.mask true

theorem steady_turn {endpoint : Endpoint} (h : endpoint.chip.Steady) (frame : Frame) :
    (endpoint.turn frame).2.chip.Steady :=
  (h.serve frame).afterFrame

theorem steady_turn_held {endpoint : Endpoint} (h : endpoint.chip.Steady) (frame : Frame) :
    (endpoint.held.turn frame).2.chip.Steady := (h.serve frame).afterFrame

/-- Events leave alone what the chip keeps for its sockets. -/
theorem latches_turn_held {endpoint : Endpoint} (h : endpoint.chip.Steady) (frame : Frame) :
    (endpoint.held.turn frame).2.chip.latches = (endpoint.chip.serve frame).2.latches :=
  (h.serve frame).casing_afterFrame.2

theorem passes_turnAll {P : Frame → Prop} (frames : List Frame) (hP : ∀ frame ∈ frames, P frame) :
    ∀ endpoint : Endpoint, ∃ o, endpoint.Passes P o (endpoint.turnAll frames).2 := by
  induction frames with
  | nil => intro endpoint; exact ⟨[], .refl⟩
  | cons frame frames ih =>
    intro endpoint
    obtain ⟨o, ho⟩ := ih (fun f hf => hP f (List.mem_cons_of_mem _ hf)) (endpoint.turn frame).2
    exact ⟨_, (Passes.one endpoint (hP frame List.mem_cons_self)).trans ho⟩

theorem edge_turn {endpoint : Endpoint} (h : endpoint.chip.Steady) {frame : Frame}
    (hf : frame.IsLocal) (hedge : endpoint.chip.edge = true) :
    (endpoint.turn frame).2.chip.edge = true :=
  Chip.edge_afterFrame ((Chip.edge_serve h.present hf).trans hedge)

theorem edge_turnAll (frames : List Frame) (hf : ∀ frame ∈ frames, frame.IsLocal) :
    ∀ {endpoint : Endpoint}, endpoint.chip.Steady → endpoint.chip.edge = true →
      (endpoint.turnAll frames).2.chip.edge = true := by
  induction frames with
  | nil => intro endpoint _ hedge; exact hedge
  | cons frame frames ih =>
    intro endpoint h hedge
    refine ih (fun f hm => hf f (List.mem_cons_of_mem _ hm)) (steady_turn h frame) ?_
    exact edge_turn h (hf frame List.mem_cons_self) hedge

end Endpoint

/-! ## What a board does by itself -/

section Habit

variable {σ α β : Type} [Host σ] [Wired σ]

/-- What the driver may rely on while it works on a board. `between` are the frames the board
may exchange by itself when it lets the interrupt through, and `called` says that somebody has
been told of an assertion of the interrupt line. -/
structure Habit (σ : Type) [Host σ] [Wired σ] where
  ok : σ → Prop
  between : Frame → Prop
  called : σ → Prop
  steady {x : σ} (h : ok x) : (Wired.endpoint x).chip.Steady
  isQuiet {frame : Frame} (h : between frame) : frame.IsQuiet
  called_rewire (e : Endpoint) (x : σ) : called (Wired.rewire e x) ↔ called x
  turn {x : σ} {frame : Frame} (h : ok x) (hf : frame.IsLocal) :
    ok (Wired.rewire ((Wired.endpoint x).turn frame).2 x)
  held {x : σ} (h : ok x) : ok (Wired.rewire (Wired.endpoint x).held x)
  restore {x : σ} (before : Bool) (h : ok x) :
    Ends (restoreInterrupt before) x fun _ x' =>
      ok x' ∧ (∃ o, (Wired.endpoint x).Passes between o (Wired.endpoint x')) ∧
        ((Wired.endpoint x).chip.edge = true ∨ called x →
          (Wired.endpoint x').chip.edge = true ∨ called x')
  record {x : σ} (notice : Notice) (h : ok x) :
    Ends (Host.record notice) x fun _ x' =>
      ok x' ∧ Wired.endpoint x' = Wired.endpoint x ∧ (called x → called x')

namespace Habit

variable (H : Habit σ) {x x' : σ} {frame : Frame} {frames : List Frame} {value : UInt8}
  {o : List Occurrence}

/-- An assertion of the interrupt line is waiting to be noticed, or somebody has been told. -/
def Alarmed (x : σ) : Prop := (Wired.endpoint x).chip.edge = true ∨ H.called x

/-- A frame has been exchanged with the interrupt held back, and then the board has done what it
does by itself. -/
structure Exchanged (x : σ) (frame : Frame) (value : UInt8) (o : List Occurrence) (x' : σ) :
    Prop where
  ok : H.ok x'
  reply : value = ((Wired.endpoint x).chip.serve frame).1
  walk : ∃ o', o = ((Wired.endpoint x).chip.serve frame).2.frameOccurrences ++ o' ∧
    ((Wired.endpoint x).held.turn frame).2.Passes H.between o' (Wired.endpoint x')
  alarmed : ((Wired.endpoint x).chip.serve frame).2.afterFrame.edge = true ∨ H.called x →
    H.Alarmed x'

variable {H}

theorem Exchanged.passes {P : Frame → Prop} (h : H.Exchanged x frame value o x')
    (hframe : P frame) (hbetween : ∀ frame, H.between frame → P frame) :
    (Wired.endpoint x).Passes P o (Wired.endpoint x') := by
  obtain ⟨o', rfl, hwalk⟩ := h.walk
  have hfirst := Endpoint.passes_held P (Wired.endpoint x)
  exact (hfirst.turn frame hframe).trans (hwalk.mono hbetween)

theorem Exchanged.alarmed_of (h : H.Exchanged x frame value o x') (hx : H.ok x)
    (hf : frame.IsLocal) (ha : H.Alarmed x) : H.Alarmed x' :=
  h.alarmed (ha.imp_left (Endpoint.edge_turn (H.steady hx) hf ·))

variable (H)

/-- What runs while the interrupt is held back is followed by what the board does by itself. -/
theorem critical_ends {body : LinkM σ α} {a : α} {e : Endpoint}
    (hbody : body (Wired.rewire (Wired.endpoint x).held x) = .ok (a, Wired.rewire e x))
    (hok : H.ok (Wired.rewire e x)) :
    Ends (critical body) x fun a' x' =>
      a' = a ∧ H.ok x' ∧ (∃ o, e.Passes H.between o (Wired.endpoint x')) ∧
        (e.chip.edge = true ∨ H.called x → H.Alarmed x') := by
  refine Ends.bind (R := fun _ x' => x' = Wired.rewire (Wired.endpoint x).held x)
    ⟨_, _, Wired.mask_eq x, rfl⟩ ?_
  rintro before _ rfl
  refine Ends.bind (R := fun a' x' => a' = a ∧ x' = Wired.rewire e x) ⟨_, _, hbody, rfl, rfl⟩ ?_
  rintro _ _ ⟨rfl, rfl⟩
  refine Ends.bind (H.restore before hok) ?_
  rintro _ x' ⟨hok', hpasses, halarm⟩
  refine Ends.pure ⟨rfl, hok', ?_, ?_⟩
  · simpa using hpasses
  · simpa [Alarmed, H.called_rewire] using halarm

theorem turn_held (hx : H.ok x) (hf : frame.IsLocal) :
    H.ok (Wired.rewire ((Wired.endpoint x).held.turn frame).2 x) := by
  have hok := H.turn (H.held hx) hf
  simpa only [Wired.endpoint_rewire, Wired.rewire_rewire] using hok

/-- A frame is exchanged in one turn, whether it is local or not, if the board is still as the
driver relies on it behind the turn. -/
theorem exchange_ends_of (hx : H.ok x)
    (hturn : H.ok (Wired.rewire ((Wired.endpoint x).held.turn frame).2 x)) :
    Ends (critical (exchange frame)) x fun value x' => ∃ o, H.Exchanged x frame value o x' := by
  have heq := Wired.exchange_eq _ frame (H.steady (H.held hx))
  simp only [Wired.endpoint_rewire, Wired.rewire_rewire] at heq
  refine (H.critical_ends heq hturn).mono ?_
  rintro value x' ⟨hvalue, hok', ⟨o, hpasses⟩, halarm⟩
  exact ⟨_, hok', hvalue, ⟨o, rfl, hpasses⟩, halarm⟩

theorem exchange_ends (hx : H.ok x) (hf : frame.IsLocal) :
    Ends (critical (exchange frame)) x fun value x' => ∃ o, H.Exchanged x frame value o x' :=
  H.exchange_ends_of hx (H.turn_held hx hf)

theorem readByte_ends (hx : H.ok x) (address : UInt16) :
    Ends (readByte address) x fun value x' =>
      ∃ o, H.Exchanged x (Frame.read address) value o x' :=
  H.exchange_ends hx (Frame.isLocal_read address)

theorem writeByte_ends_of (hx : H.ok x) {address : UInt16} {value : UInt8}
    (hturn : H.ok (Wired.rewire
      ((Wired.endpoint x).held.turn (Frame.write address value)).2 x)) :
    Ends (writeByte address value) x fun _ x' =>
      ∃ o reply, H.Exchanged x (Frame.write address value) reply o x' := by
  refine Ends.bind (H.exchange_ends_of hx hturn) ?_
  rintro reply x' ⟨o, h⟩
  exact Ends.pure ⟨o, reply, h⟩

theorem writeByte_ends (hx : H.ok x) {address : UInt16} {value : UInt8}
    (hf : (Frame.write address value).IsLocal) :
    Ends (writeByte address value) x fun _ x' =>
      ∃ o reply, H.Exchanged x (Frame.write address value) reply o x' :=
  H.writeByte_ends_of hx (H.turn_held hx hf)

/-! ## Blocks -/

theorem mapM_exchange (frames : List Frame) (hf : ∀ frame ∈ frames, frame.IsLocal) :
    ∀ {x : σ}, H.ok x →
      frames.mapM exchange x = .ok (((Wired.endpoint x).turnAll frames).1,
          Wired.rewire ((Wired.endpoint x).turnAll frames).2 x) ∧
        H.ok (Wired.rewire ((Wired.endpoint x).turnAll frames).2 x) := by
  induction frames with
  | nil =>
    intro x hx
    simp only [Endpoint.turnAll, Wired.rewire_endpoint]
    exact ⟨rfl, hx⟩
  | cons frame frames ih =>
    intro x hx
    have hturn := H.turn hx (hf frame List.mem_cons_self)
    obtain ⟨heq, hok⟩ := ih (fun f h => hf f (List.mem_cons_of_mem _ h)) hturn
    simp only [Wired.endpoint_rewire, Wired.rewire_rewire] at heq hok
    refine ⟨?_, hok⟩
    rw [List.mapM_cons]
    show (exchange frame x >>= _) = _
    rw [Wired.exchange_eq x frame (H.steady hx)]
    show ((frames.mapM exchange) (Wired.rewire ((Wired.endpoint x).turn frame).2 x) >>= _) = _
    rw [heq]
    rfl

/-- The frames of a block are clocked in consecutive turns. -/
theorem transact_ends (hx : H.ok x) (hf : ∀ frame ∈ frames, frame.IsLocal) :
    Ends (transact frames) x fun replies x' =>
      replies = ((Wired.endpoint x).held.turnAll frames).1 ∧ H.ok x' ∧
        (∃ o, ((Wired.endpoint x).held.turnAll frames).2.Passes H.between o
          (Wired.endpoint x')) ∧
        (((Wired.endpoint x).held.turnAll frames).2.chip.edge = true ∨ H.called x →
          H.Alarmed x') := by
  cases frames with
  | nil =>
    have hsame : (Wired.endpoint x).held.Passes H.between [] (Wired.endpoint x).held := .refl
    exact Ends.pure ⟨rfl, hx, ⟨[], hsame.mask (Wired.endpoint x).masked⟩, id⟩
  | cons frame rest =>
    obtain ⟨heq, hok⟩ := H.mapM_exchange (frame :: rest) hf (H.held hx)
    simp only [Wired.endpoint_rewire, Wired.rewire_rewire] at heq hok
    exact H.critical_ends heq hok

theorem isLocal_of_mem_reads {address : UInt16} {count : Nat}
    (h : frame ∈ Frame.reads address count) : frame.IsLocal := by
  obtain ⟨i, -, rfl⟩ := List.mem_map.1 h
  exact Frame.isLocal_read _

/-- The frames that write a block are clocked in consecutive turns. -/
theorem writeBlock_ends (hx : H.ok x) {address : UInt16} {data : List UInt8}
    (hf : ∀ frame ∈ Frame.writes address data, frame.IsLocal) :
    Ends (writeBlock address data) x fun _ x' => H.ok x' ∧
      ∃ o, ((Wired.endpoint x).held.turnAll (Frame.writes address data)).2.Passes H.between o
        (Wired.endpoint x') := by
  refine Ends.bind (H.transact_ends hx hf) ?_
  rintro _ x' ⟨-, hok', hpasses, -⟩
  exact Ends.pure ⟨hok', hpasses⟩

theorem readBlock_ends (hx : H.ok x) (address : UInt16) (count : Nat) :
    Ends (readBlock address count) x fun replies x' =>
      replies = ((Wired.endpoint x).held.turnAll (Frame.reads address count)).1 ∧ H.ok x' ∧
        (∃ o, ((Wired.endpoint x).held.turnAll (Frame.reads address count)).2.Passes H.between o
          (Wired.endpoint x')) ∧
        (((Wired.endpoint x).held.turnAll (Frame.reads address count)).2.chip.edge = true ∨
          H.called x → H.Alarmed x') :=
  H.transact_ends hx fun _ => isLocal_of_mem_reads

end Habit

end Habit

end SpiEthernet
