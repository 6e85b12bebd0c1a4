import SpiEthernet.Link.Recorder
import SpiEthernet.Proofs.Interrupt.Conservation
import SpiEthernet.Proofs.Interrupt.Tracing
import SpiEthernet.Proofs.Operation.Channel

/-!
# All frames of the driver are held back

The driver reaches the chip through calls on the transport only, and each of them is one
transaction. So every frame that the driver clocks, and every frame of the handler, is clocked with
the interrupt held back, and once the driver is done, the interrupt is let through or held back as
it was.

* `DriverCall.keeps_perform` : every call of the driver keeps what transactions keep.
* `transport_transacts` : what the transport does on any board, and what is traced of the driver.
-/

namespace SpiEthernet

/-! ## The driver -/

/-- A call of the driver on a device. -/
inductive DriverCall where
  | operate (operation : DeviceOperation)
  | openChannel (wanted : UInt16)
  | openMulticast (group : Ipv4) (wanted : UInt16)
  | onChannel (channel : Channel) (operation : ChannelOperation)
  | resolve (resolver : Dns.Resolver) (clock : Dns.Clock) (host : String) (timeout : Int)

/-- Carries out a call, whatever it answers. -/
def DriverCall.perform : DriverCall → DeviceM Board Unit
  | operate operation => do let _ ← operation.perform
  | openChannel wanted => do let _ ← (Channel.begin wanted).run
  | openMulticast group wanted => do let _ ← (Channel.beginMulticast group wanted).run
  | onChannel channel operation => do let _ ← operation.perform.run channel
  | resolve resolver clock host timeout => do let _ ← (resolver.resolve host timeout).run clock

/-- Every call of the driver is made of transactions. -/
theorem DriverCall.keeps_perform {I : Board → Prop} (h : Robust (fun _ => True) I)
    (call : DriverCall) : Keeps (fun d : Device Board => I d.board) call.perform := by
  have hharmless := h.harmless
  have hopening := fun s => (hharmless.withstands s).opening
  unfold perform
  cases call with
  | operate operation => exact Keeps.bind (h.performAny operation) fun _ => Keeps.pure _
  | openChannel wanted =>
    exact Keeps.bind (m := DeviceM Board) (hharmless.routine.begin hopening wanted)
      fun _ => Keeps.pure _
  | openMulticast group wanted =>
    exact Keeps.bind (m := DeviceM Board) (hharmless.routine.beginMulticast hopening group wanted)
      fun _ => Keeps.pure _
  | onChannel channel operation =>
    exact Keeps.bind (m := DeviceM Board) (hharmless.performChannel operation channel)
      fun _ => Keeps.pure _
  | resolve resolver clock host timeout =>
    exact Keeps.bind (m := DeviceM Board) (hharmless.resolve resolver host timeout clock)
      fun _ => Keeps.pure _

/-! ## Held back throughout -/

section Withholds

variable (start : Endpoint)

theorem withholds_drain :
    Keeps (fun d : Device Board => start.Withholds d.board.bench.endpoint) drain :=
  ((robust_withholds (σ := Board) start).mono Frame.isQuiet_read fun _ _ => trivial).drain

/-- Whatever the driver does under the lock only adds frames to the trace that were held back. -/
theorem withholds_withShared {α : Type} {body : DeviceM Board α}
    (h : Keeps (fun d : Device Board => start.Withholds d.board.bench.endpoint) body) :
    Keeps (fun board => start.Withholds board.bench.endpoint) (Board.withShared body) :=
  Board.keeps_locked (I := fun bench => start.Withholds bench.endpoint) (withholds_drain start) h

theorem withholds_calls (calls : List DriverCall) :
    Keeps (fun d : Device Board => start.Withholds d.board.bench.endpoint)
      (calls.forM DriverCall.perform) :=
  Keeps.forM fun call _ => call.keeps_perform (robust_withholds start)

theorem withholds_onChip {α : Type} (action : LinkM Chip α) :
    Keeps (fun board => start.Withholds board.bench.endpoint) (Board.onChip action) := by
  intro board a board' hstart hrun
  rw [Board.onChip_eq] at hrun
  cases hr : action board.chip with
  | error fault =>
    rw [hr] at hrun
    cases hrun
  | ok r =>
    rw [hr] at hrun
    cases hrun
    obtain ⟨added, ⟨htrace, hmasked⟩, hheld⟩ := hstart
    exact ⟨added, ⟨htrace, hmasked⟩, hheld⟩

/-- One errand, whether it works under the lock or without it, calls the handler by hand, or lets
something happen to the chip. -/
theorem Errand.withholds_perform (errand : Errand) :
    Keeps (fun board => start.Withholds board.bench.endpoint) errand.perform := by
  have hrobust := robust_withholds (σ := Board) start
  cases errand with
  | hold operations =>
    refine Keeps.bind (withholds_withShared start (Keeps.mapM ?_)) fun _ => Keeps.pure _
    exact fun operation _ => hrobust.performAny operation
  | interrupt =>
    exact Keeps.bind (Board.keeps_onInterrupt (I := fun bench => start.Withholds bench.endpoint)
      (withholds_drain start)) fun _ => Keeps.pure _
  | poll address => exact Keeps.bind (hrobust.readByte address) fun _ => Keeps.pure _
  | schedule | raise => exact Keeps.bind (withholds_onChip start _) fun _ => Keeps.pure _

end Withholds

/-! ## The transport -/

/-- On any board, a call on the transport is one transaction, so that no sequence of calls changes
the flag that the transactions clear and set. On a chip, all frames of a call are traced with the
interrupt held back, and no frame of the handler lies between them; nothing else that the driver
does, on a controller at hand or on the shared one, is ever traced with the interrupt let
through. -/
theorem transport_transacts {σ : Type} [SerialLink σ] :
    (∀ (call : BusCall) (x : Observed σ),
      Ensures (Responds x.board) call.perform x (call.Asked x)) ∧
    (∀ call : BusCall, Observed.Forgets call.perform (call.perform : LinkM σ (List UInt8))) ∧
    (∀ address value, (writeBlock address [value] : LinkM σ Unit) = writeByte address value) ∧
    (∀ address, (readBlock address 1 : LinkM σ (List UInt8)) =
      (fun byte => [byte]) <$> readByte address) ∧
    (∀ flag : σ → Bool, Masking flag → ∀ (calls : List BusCall) (value : Bool),
      Keeps (fun x => flag x = value)
        (calls.mapM BusCall.perform : LinkM σ (List (List UInt8)))) ∧
    (Masking fun board : Board => !board.bench.endpoint.masked) ∧
    (∀ (call : BusCall) (board : Board),
      Ensures board.chip.Ordinary call.perform board (call.Clocked board)) ∧
    (∀ (start : Endpoint) (calls : List DriverCall),
      Keeps (fun d : Device Board => start.Withholds d.board.bench.endpoint)
        (calls.forM DriverCall.perform) ∧
      Keeps (fun board => start.Withholds board.bench.endpoint)
        (Board.withShared (calls.forM DriverCall.perform))) ∧
    ∀ (start : Endpoint) (errands : List Errand),
      Keeps (fun board => start.Withholds board.bench.endpoint) (errands.mapM Errand.perform) :=
  ⟨BusCall.perform_asks, BusCall.perform_forgets, writeBlock_singleton, readBlock_one,
    fun _ h calls _ => h.performAll calls, Board.masking, Board.perform_clocks,
    fun start calls => ⟨withholds_calls start calls,
      withholds_withShared start (withholds_calls start calls)⟩,
    fun start _ => Keeps.mapM fun errand _ => errand.withholds_perform start⟩

theorem Recorder.responsive : Responsive fun _ : Recorder => True where
  select _ _ := ⟨_, _, rfl, trivial⟩
  deselect _ _ := ⟨_, _, rfl, trivial⟩
  transfer _ _ _ := ⟨_, _, rfl, trivial⟩
  mask _ _ := ⟨_, _, rfl, trivial⟩
  restore _ _ _ := ⟨_, _, rfl, trivial⟩

/-- A board whose handler will be called as soon as the interrupt is let through; there is no chip,
so that the handler finds nothing to do. -/
def Board.summoned : Board :=
  { (Board.new (some 0) ⟨none, .off⟩).withChip { Chip.new (some 0) with edge := true } with
    hooked := true
    shared := Spinlock.new (some Controller.new) }

theorem transport_transacts_summoned :
    (∃ y, (BusCall.readBlock 0xFFFF 2).perform
        (⟨.new [1, 2, 3, 4, 5, 6, 7, 8] true true, []⟩ : Observed Recorder) = .ok ([4, 8], y) ∧
      y.seen = [.maskInterrupt true,
        .select, .transfer 0x0F 1, .transfer 0xFF 2, .transfer 0xFF 3, .transfer 0 4, .deselect,
        .select, .transfer 0x0F 5, .transfer 0x00 6, .transfer 0x00 7, .transfer 0 8, .deselect,
        .restoreInterrupt true]) ∧
    ∃ bytes board, (BusCall.readBlock 0x0001 2).perform Board.summoned = .ok (bytes, board) ∧
      (BusCall.readBlock 0x0001 2).Clocked Board.summoned bytes board ∧
      board.bench.endpoint.trace.toList =
        [⟨.read, 0x0001, 0, true⟩, ⟨.read, 0x0002, 0, true⟩, ⟨.read, 0x0015, 0, true⟩] := by
  obtain ⟨hasks, -⟩ := transport_transacts (σ := Recorder)
  obtain ⟨-, -, -, -, -, -, hclocks, -⟩ := transport_transacts (σ := Board)
  constructor
  · let x : Observed Recorder := ⟨.new [1, 2, 3, 4, 5, 6, 7, 8] true true, []⟩
    obtain ⟨bytes, y, hrun, -⟩ := (hasks (.readBlock 0xFFFF 2) x).ends
      ⟨_, Recorder.responsive, trivial⟩
    have hlog : (((BusCall.readBlock 0xFFFF 2).perform x).map fun r => (r.1, r.2.seen)).toOption =
        some ([4, 8], (BusCall.readBlock 0xFFFF 2).transaction true
          [⟨1, 2, 3, 4⟩, ⟨5, 6, 7, 8⟩]) := by decide
    rw [hrun] at hlog
    obtain ⟨rfl, hseen⟩ := Prod.mk.inj (Option.some.inj hlog)
    exact ⟨y, hrun, hseen⟩
  · obtain ⟨bytes, board, hrun, hclocked⟩ :=
      (hclocks (.readBlock 0x0001 2) Board.summoned).ends nofun
    have htrace : (((BusCall.readBlock 0x0001 2).perform Board.summoned).map fun r =>
        r.2.bench.endpoint.trace.toList).toOption = some
          [⟨.read, 0x0001, 0, true⟩, ⟨.read, 0x0002, 0, true⟩, ⟨.read, 0x0015, 0, true⟩] := by
      decide +kernel
    rw [hrun] at htrace
    exact ⟨bytes, board, hrun, hclocked, Option.some.inj htrace⟩

end SpiEthernet
