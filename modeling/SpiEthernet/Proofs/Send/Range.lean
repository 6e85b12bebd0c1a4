import SpiEthernet.Proofs.Likeness.Chips
import SpiEthernet.Proofs.Send.Datagram

/-!
# The bytes that staging writes

While nothing is scheduled, a chip changes through the frames that it serves alone. So it can be
said byte by byte what staging leaves in memory, whatever was there before: the data in the transmit
ring, from the place of the pointer on and round its end, and the pointer behind them in its
register. Nothing else is different, and the pointer that the chip reads back stays.

* `Memory.staged` : what staging does to a memory, and `staged_append`, that it does so piece by
  piece.
* `Rewritten` : a chip for which nothing is scheduled, with a given memory.
* `stage_writes_range` : staging does to the chip's memory what it should.
-/

namespace SpiEthernet

/-! ## Rings in memory -/

namespace Memory

variable {memory : Memory} {base : Nat} {pointer : UInt16}

theorem writeRing_append (base : Nat) (data more : List UInt8) :
    ∀ (memory : Memory) (pointer : UInt16), memory.writeRing base pointer (data ++ more) =
      (memory.writeRing base pointer data).writeRing base
        (pointer + UInt16.ofNat data.length) more := by
  induction data with
  | nil =>
    intro memory pointer
    have hzero : pointer + UInt16.ofNat 0 = pointer := UInt16.add_zero pointer
    rw [List.nil_append, List.length_nil, hzero, writeRing]
  | cons byte data ih =>
    intro memory pointer
    rw [List.cons_append, writeRing, ih, writeRing, List.length_cons, add_one_add_ofNat]

/-- One more byte of the data has been written. -/
theorem writeRing_take_succ (memory : Memory) (base : Nat) (pointer : UInt16) {data : List UInt8}
    {i : Nat} (hi : i < data.length) : memory.writeRing base pointer (data.take (i + 1)) =
      (memory.writeRing base pointer (data.take i)).write
        (base + ringOffset (pointer + UInt16.ofNat i)) data[i] := by
  rw [List.take_succ_eq_append_getElem hi, writeRing_append, List.length_take,
    Nat.min_eq_left (Nat.le_of_lt hi), writeRing, writeRing]

/-- What is stored in a ring stands at the places of its bytes only. -/
theorem read_writeRing_of_ne (base : Nat) (data : List UInt8) {address : Nat} :
    ∀ (memory : Memory) (pointer : UInt16),
      (∀ i < data.length, address ≠ base + ringOffset (pointer + UInt16.ofNat i)) →
        (memory.writeRing base pointer data).read address = memory.read address := by
  induction data with
  | nil => exact fun _ _ _ => rfl
  | cons byte data ih =>
    intro memory pointer hne
    have hzero : pointer + UInt16.ofNat 0 = pointer := UInt16.add_zero pointer
    have hfirst := hne 0 (Nat.succ_pos _)
    rw [hzero] at hfirst
    rw [writeRing, ih _ _ fun i hi => ?_, read_write_of_ne _ _ hfirst.symm]
    rw [add_one_add_ofNat]
    exact hne (i + 1) (Nat.succ_lt_succ hi)

/-- The memory when data have been staged in a socket's transmit ring, from a pointer on. -/
def staged (memory : Memory) (s : SocketId) (pointer : UInt16) (data : List UInt8) : Memory :=
  if data.isEmpty then memory
  else (memory.writeRing (txBase s).toNat pointer data).writeWord
    (SocketRegister.txWrite.address s).toNat (pointer + UInt16.ofNat data.length)

theorem staged_nil (memory : Memory) (s : SocketId) (pointer : UInt16) :
    memory.staged s pointer [] = memory := rfl

theorem staged_of_ne_nil (memory : Memory) (s : SocketId) (pointer : UInt16) {data : List UInt8}
    (h : data ≠ []) : memory.staged s pointer data =
      (memory.writeRing (txBase s).toNat pointer data).writeWord
        (SocketRegister.txWrite.address s).toNat (pointer + UInt16.ofNat data.length) :=
  if_neg fun hempty => h (List.isEmpty_iff.1 hempty)

theorem read_writeWord (memory : Memory) {place : Nat} (h : place + 1 < 0x8000) (value : UInt16)
    (address : Nat) : (memory.writeWord place value).read address =
      if address = place then highByte value
      else if address = place + 1 then lowByte value else memory.read address := by
  split
  · next ha =>
    rw [ha, writeWord, read_write_of_ne _ _ (by omega), read_write_self _ _ (by omega)]
  split
  · next ha => rw [ha, writeWord, read_write_self _ _ h]
  · exact read_writeWord_of_ne _ _ (by omega) (by omega)

/-- Data that are staged piece by piece are staged as a whole. -/
theorem staged_append (memory : Memory) (s : SocketId) (pointer : UInt16) (data more : List UInt8) :
    (memory.staged s pointer data).staged s (pointer + UInt16.ofNat data.length) more =
      memory.staged s pointer (data ++ more) := by
  -- no pointer is written for a piece without bytes
  by_cases hdata : data = []
  · have hzero : pointer + UInt16.ofNat 0 = pointer := UInt16.add_zero pointer
    rw [hdata, staged_nil, List.length_nil, hzero, List.nil_append]
  by_cases hmore : more = []
  · rw [hmore, staged_nil, List.append_nil]
  have hregister := SocketRegister.address_succ_lt (r := .txWrite) rfl s
  rw [staged_of_ne_nil _ _ _ hdata, staged_of_ne_nil _ _ _ hmore,
    staged_of_ne_nil _ _ _ fun h => hdata (List.append_eq_nil_iff.1 h).1, writeRing_append,
    List.length_append, UInt16.ofNat_add, ← UInt16.add_assoc]
  refine ext_read fun address => ?_
  rw [read_writeWord _ (by omega), read_writeWord _ (by omega)]
  split
  · rfl
  split
  · rfl
  · exact read_writeRing_congr _ _ _ (read_writeWord_of_ne _ _ (by omega) (by omega))

end Memory

/-! ## Chips for which nothing is scheduled -/

namespace Chip

variable {chip chip' start : Chip} {s : SocketId} {memory : Memory}

/-- A chip that is there, and for which nothing is scheduled. -/
structure Still (chip : Chip) : Prop where
  present : chip.absent = none
  queue : chip.queue = []

theorem Still.visited (h : chip.Still) : chip.Visited :=
  ⟨h.present, fun scheduled hs => by
    rw [h.queue] at hs
    cases hs⟩

/-- A chip for which nothing is scheduled holds a memory, and nothing else tells it from another
one but how long its commands show. -/
structure Rewritten (start : Chip) (memory : Memory) (chip : Chip) : Prop where
  still : chip.Still
  memory : chip.memory = memory
  latches (t : SocketId) : chip.latches[t].core = start.latches[t].core
  sent : chip.sent = start.sent

theorem Still.rewritten (h : chip.Still) : chip.Rewritten chip.memory chip :=
  ⟨h, rfl, fun _ => rfl, rfl⟩

namespace Rewritten

theorem steady (h : start.Rewritten memory chip) : chip.Steady := h.still.visited.steady

theorem txWrite (h : start.Rewritten memory chip) (t : SocketId) :
    chip.latches[t].txWrite = start.latches[t].txWrite := by
  show chip.latches[t].core.txWrite = start.latches[t].core.txWrite
  rw [h.latches]

/-- Behind a frame nothing happens. -/
theorem afterFrame (h : start.Rewritten memory chip) : start.Rewritten memory chip.afterFrame := by
  have hnone : chip.dueEvents = [] := by
    rw [Chip.dueEvents, h.still.queue]
    rfl
  have hafter : chip.afterFrame = chip.beforeEvents := by
    rw [Chip.afterFrame, hnone]
    rfl
  rw [hafter]
  refine ⟨⟨h.still.present, ?_⟩, h.memory, h.latches, h.sent⟩
  show chip.queue.filter _ = []
  rw [h.still.queue]
  rfl

theorem noticed (h : start.Rewritten memory chip) :
    start.Rewritten memory ({ chip with edge := false } : Chip) :=
  ⟨⟨h.still.present, h.still.queue⟩, h.memory, h.latches, h.sent⟩

/-- A read changes nothing. -/
theorem read (h : start.Rewritten memory chip) (address : UInt16) :
    start.Rewritten memory (chip.read address).2 := by
  have heffect := readEffect h.still.present address
  generalize (chip.read address).1 = value, (chip.read address).2 = after at heffect
  cases heffect with
  | resetting | interrupts | accepted | txWrite | memory =>
    exact ⟨⟨h.still.present, h.still.queue⟩, h.memory, h.latches, h.sent⟩
  | busy t =>
    refine ⟨⟨h.still.present, h.still.queue⟩, h.memory, fun t' => ?_, h.sent⟩
    rw [← h.latches t']
    by_cases ht : t = t'
    · subst ht
      rw [latches_mapLatch_self]
      rfl
    · rw [latches_mapLatch_of_ne _ _ ht]

/-- A byte that is written to a transmit side changes nothing else. -/
theorem write (h : start.Rewritten memory chip) {address : UInt16}
    (hplace : s.TransmitsAt address.toNat) (value : UInt8) :
    start.Rewritten (memory.write address.toNat value) (chip.write address value) := by
  rw [write_of_transmitsAt h.still.present value hplace]
  refine ⟨⟨h.still.present, h.still.queue⟩, ?_, h.latches, h.sent⟩
  rw [← h.memory]
  rfl

end Rewritten

end Chip

namespace Endpoint

variable {start now : Endpoint} {o : List Occurrence} {chip : Chip} {memory : Memory}

/-- Looking at a chip for which nothing is scheduled changes nothing. -/
theorem Passes.rewritten (h : start.Passes (·.direction = .read) o now)
    (hs : chip.Rewritten memory start.chip) : chip.Rewritten memory now.chip := by
  refine h.chip_kept (J := chip.Rewritten memory) ?_ (fun _ hJ => hJ.noticed) hs
  rintro current ⟨direction, address, value⟩ hJ hf
  cases hf
  exact (hJ.read address).afterFrame

end Endpoint

/-! ## On a device -/

section Device

variable {σ : Type} [Host σ] [Wired σ]

/-- Stages pieces of data, each behind those before it. -/
def stageAll (s : SocketId) : UInt16 → List (List UInt8) → Attempt σ Unit
  | _, [] => pure ()
  | offset, data :: pieces => do
    stage s offset data
    stageAll s (offset + UInt16.ofNat data.length) pieces

omit [Wired σ] in
/-- More than a ring holds is refused before anything is asked of the chip. -/
theorem stage_of_too_long (s : SocketId) (offset : UInt16) {data : List UInt8}
    (hlong : ringSize < data.length) (device : Device σ) : (stage s offset data).run device =
      .ok (.error (.transferTooLarge data.length ringSize), device) := by
  unfold stage
  rw [checkLength_of_lt hlong]
  rfl

namespace Habit

/-- A device that holds another memory than it did, and otherwise is as it was. -/
structure Rewritten (H : Habit σ) (start : Device σ) (memory : Memory) (now : Device σ) : Prop where
  ok : H.ok now.board
  chip : start.chip.Rewritten memory now.chip
  controller : now.controller = start.controller

variable {H : Habit σ} {s : SocketId} {start device device' : Device σ} {memory : Memory}
  {address : UInt16}

section Calm

variable (hH : H.Calm)

include hH

theorem Rewritten.walked (h : H.Rewritten start memory device)
    (hwalked : H.Walked H.Looks device device') : H.Rewritten start memory device' := by
  obtain ⟨o, hpasses⟩ := hwalked.passes
  refine ⟨hwalked.ok, ?_, hwalked.controller.trans h.controller⟩
  exact (hpasses.mono fun _ hf => hf.resolve_right (hH.between _)).rewritten h.chip

/-- What a frame has left of a chip is not changed by what follows it. -/
theorem Exchanged.rewritten {frame : Frame} {value : UInt8} {o : List Occurrence}
    (h : H.Exchanged device.board frame value o device'.board)
    (hcontroller : device'.controller = start.controller)
    (hserved : start.chip.Rewritten memory (device.chip.serve frame).2) :
    H.Rewritten start memory device' := by
  obtain ⟨o', -, hwalk⟩ := h.walk
  refine ⟨h.ok, ?_, hcontroller⟩
  exact (hwalk.mono fun _ hf => absurd hf (hH.between _)).rewritten hserved.afterFrame

theorem readByte_rewritten (h : H.Rewritten start memory device) (address : UInt16) :
    Ends (onLink (readByte address)) device fun value device' =>
      value = (device.chip.read address).1 ∧ H.Rewritten start memory device' := by
  refine (Ends.onLink (H.readByte_ends h.ok address)).mono ?_
  rintro value device' ⟨⟨o, hread⟩, hcontroller⟩
  exact ⟨hread.reply, hread.rewritten hH (hcontroller.trans h.controller) (h.chip.read address)⟩

/-- The transmit pointer is read back as the chip keeps it. -/
theorem readTxWrite_rewritten (h : H.Rewritten start memory device) :
    Ends (onLink (readWord (SocketRegister.txWrite.address s))) device fun pointer device' =>
      pointer = start.chip.latches[s].txWrite ∧ H.Rewritten start memory device' := by
  rw [readWord, onLink_bind]
  refine Ends.bind (readByte_rewritten hH h _) ?_
  rintro _ d1 ⟨rfl, h1⟩
  rw [onLink_bind]
  refine Ends.bind (readByte_rewritten hH h1 _) ?_
  rintro _ d2 ⟨rfl, h2⟩
  refine Ends.pure ⟨?_, h2⟩
  rw [(Chip.read_txWrite h.chip.still.present).1, (Chip.read_txWrite h1.chip.still.present).2,
    h.chip.txWrite, h1.chip.txWrite, word_highByte_lowByte]

theorem writeByte_rewritten (h : H.Rewritten start memory device)
    (hplace : s.TransmitsAt address.toNat) (value : UInt8) :
    Ends (onLink (writeByte address value)) device fun _ device' =>
      H.Rewritten start (memory.write address.toNat value) device' := by
  refine (Ends.onLink (H.writeByte_ends h.ok (Frame.isLocal_of_transmitsAt hplace value))).mono ?_
  rintro _ device' ⟨⟨o, reply, hwritten⟩, hcontroller⟩
  exact hwritten.rewritten hH (hcontroller.trans h.controller) (h.chip.write hplace value)

theorem writeWord_rewritten (h : H.Rewritten start memory device) {r : SocketRegister}
    (hw : r.width = 2) (hr : r.isTransmitting) (value : UInt16) :
    Ends (onLink (writeWord (r.address s) value)) device fun _ device' =>
      H.Rewritten start (memory.writeWord (r.address s).toNat value) device' := by
  obtain ⟨hplace, hplace'⟩ := s.transmitsAt_word hw hr
  rw [writeWord, onLink_bind]
  refine Ends.bind (writeByte_rewritten hH h hplace _) ?_
  rintro _ d1 h1
  refine (writeByte_rewritten hH h1 hplace' _).mono ?_
  rintro _ d2 h2
  rwa [SocketRegister.toNat_address_succ hw] at h2

/-- A block is written byte by byte, and so the memory changes. -/
theorem writeBlock_rewritten {data : List UInt8} (memories : Nat → Memory)
    (h : H.Rewritten start (memories 0) device)
    (hplaces : ∀ i < data.length, s.TransmitsAt (address + UInt16.ofNat i).toNat)
    (hstep : ∀ i (hi : i < data.length), memories (i + 1) =
      (memories i).write (address + UInt16.ofNat i).toNat data[i]) :
    Ends (onLink (writeBlock address data)) device fun _ device' =>
      H.Rewritten start (memories data.length) device' := by
  have hlocal : ∀ frame ∈ Frame.writes address data, frame.IsLocal := by
    intro frame hframe
    obtain ⟨i, hi, rfl⟩ := List.mem_mapIdx.1 hframe
    exact Frame.isLocal_of_transmitsAt (hplaces i hi) _
  have hwritten := Endpoint.turnAll_writes data (e := (Wired.endpoint device.board).held) address
    (I := fun i chip => start.chip.Rewritten (memories i) chip)
    (fun _ _ hI => hI.afterFrame) (fun i hi chip hI => ?_) h.chip
  · refine (Ends.onLink (H.writeBlock_ends h.ok hlocal)).mono ?_
    rintro _ device' ⟨⟨hok, o, hpasses⟩, hcontroller⟩
    exact ⟨hok, (hpasses.mono fun _ hf => absurd hf (hH.between _)).rewritten hwritten,
      hcontroller.trans h.controller⟩
  · rw [hstep i hi]
    exact hI.write (hplaces i hi) _

/-- A block whose places are those of a ring, in order, is written to that ring. -/
theorem writeRing_rewritten {data : List UInt8} (h : H.Rewritten start memory device) {base : Nat}
    {pointer : UInt16} (hplaces : ∀ i < data.length, (address + UInt16.ofNat i).toNat =
      base + ringOffset (pointer + UInt16.ofNat i))
    (htransmits : ∀ i < data.length, s.TransmitsAt (address + UInt16.ofNat i).toNat) :
    Ends (onLink (writeBlock address data)) device fun _ device' =>
      H.Rewritten start (memory.writeRing base pointer data) device' := by
  have hwritten := writeBlock_rewritten hH
    (fun i => memory.writeRing base pointer (data.take i)) h htransmits fun i hi => ?_
  · rwa [List.take_length] at hwritten
  · rw [hplaces i hi]
    exact memory.writeRing_take_succ _ _ hi

/-- A block that stands in the transmit ring of a socket in order is written there. -/
theorem writeTxRing_rewritten {data : List UInt8} (h : H.Rewritten start memory device)
    (pointer : UInt16) (hplaces : ∀ i < data.length, (address + UInt16.ofNat i).toNat =
      (txBase s).toNat + ringOffset (pointer + UInt16.ofNat i)) :
    Ends (onLink (writeBlock address data)) device fun _ device' =>
      H.Rewritten start (memory.writeRing (txBase s).toNat pointer data) device' := by
  refine writeRing_rewritten hH h hplaces (s := s) fun i hi => ?_
  rw [hplaces i hi]
  exact s.transmitsAt_ring (ringOffset_lt _)

/-- The data are written in two blocks, the second from the ring's start on, and the pointer behind
them. -/
theorem stage_rewritten (h : H.Rewritten start memory device) (offset : UInt16) {data : List UInt8}
    (hfits : data.length ≤ ringSize) :
    Ends (stage s offset data).run device fun r device' => r = .ok () ∧ H.Rewritten start
      (memory.staged s (start.chip.latches[s].txWrite + offset) data) device' := by
  have hbase := txBase_add_size_le s
  unfold stage
  rw [checkLength_of_le hfits, pure_bind]
  by_cases hempty : data = []
  · subst hempty
    exact Ends.pure ⟨rfl, h⟩
  rw [if_neg fun hnil => hempty (List.isEmpty_iff.1 hnil)]
  refine Ends.sure_bind (readTxWrite_rewritten hH h) ?_
  rintro _ d1 ⟨rfl, h1⟩
  dsimp only
  generalize start.chip.latches[s].txWrite + offset = pointer
  generalize hfirst : untilEnd pointer data.length = first
  have hhead : (data.take first).length = first := by
    rw [List.length_take, Nat.min_eq_left (hfirst ▸ untilEnd_le _ _)]
  refine Ends.sure_bind (writeTxRing_rewritten hH (s := s) h1 pointer fun i hi => ?_) ?_
  · rw [hhead, ← hfirst] at hi
    exact toNat_ringAddress_add hbase hi
  rintro _ d2 h2
  refine Ends.sure_bind (writeTxRing_rewritten hH (s := s) h2 (pointer + UInt16.ofNat first)
    fun i hi => ?_) ?_
  · rw [List.length_drop, ← hfirst] at hi
    rw [toNat_base_add hbase hfits hi, hfirst, UInt16.add_assoc, ← UInt16.ofNat_add]
  rintro _ d3 h3
  -- the second block goes on where the first one has come to the end of the ring
  have hall : (memory.writeRing (txBase s).toNat pointer (data.take first)).writeRing
      (txBase s).toNat (pointer + UInt16.ofNat first) (data.drop first) =
        memory.writeRing (txBase s).toNat pointer data := by
    rw [← congrArg UInt16.ofNat hhead, ← Memory.writeRing_append, List.take_append_drop]
  rw [hall] at h3
  refine Ends.sure ((writeWord_rewritten hH h3 rfl rfl _).mono ?_)
  rintro _ d4 h4
  exact ⟨rfl, (memory.staged_of_ne_nil s pointer hempty).symm ▸ h4⟩

/-- Data that are staged piece by piece, at offsets that run on, are staged as a whole. -/
theorem stageAll_rewritten (pieces : List (List UInt8)) (hfits : pieces.flatten.length ≤ ringSize) :
    ∀ {memory : Memory} {device : Device σ} (offset : UInt16), H.Rewritten start memory device →
      Ends (stageAll s offset pieces).run device fun r device' => r = .ok () ∧ H.Rewritten start
        (memory.staged s (start.chip.latches[s].txWrite + offset) pieces.flatten) device' := by
  induction pieces with
  | nil => exact fun _ h => Ends.pure ⟨rfl, h⟩
  | cons data pieces ih =>
    intro memory device offset h
    rw [List.flatten_cons, List.length_append] at hfits
    unfold stageAll
    refine Ends.attempt_of_ok (stage_rewritten hH h offset (by omega)) ?_
    intro d1 h1
    refine (ih (by omega) _ h1).mono ?_
    rintro r d2 ⟨hr, h2⟩
    rw [← UInt16.add_assoc, Memory.staged_append] at h2
    exact ⟨hr, h2⟩

end Calm

end Habit

end Device

/-! ## What is different afterwards -/

/-- The data stand in a socket's transmit ring from the place of a pointer on, and the pointer
behind them in its register. The pointer that the chip reads back, and every other byte of its
memory, are as they were. -/
structure Chip.Staged (s : SocketId) (pointer : UInt16) (data : List UInt8) (start now : Chip) :
    Prop where
  bytes (i : Nat) (hi : i < data.length) :
    now.memory.read ((txBase s).toNat + ringOffset (pointer + UInt16.ofNat i)) = data[i]
  register : now.wordOf .txWrite s = pointer + UInt16.ofNat data.length
  readBack : now.latches[s].txWrite = start.latches[s].txWrite
  others (address : Nat) (hring : ∀ i < data.length,
      address ≠ (txBase s).toNat + ringOffset (pointer + UInt16.ofNat i))
    (hhigh : address ≠ (SocketRegister.txWrite.address s).toNat)
    (hlow : address ≠ (SocketRegister.txWrite.address s).toNat + 1) :
    now.memory.read address = start.memory.read address

theorem Chip.Rewritten.staged {start now : Chip} {s : SocketId} {pointer : UInt16}
    {data : List UInt8} (h : start.Rewritten (start.memory.staged s pointer data) now)
    (hdata : data ≠ []) (hfits : data.length ≤ ringSize) :
    Chip.Staged s pointer data start now := by
  have hs := s.isLt
  have hbase := toNat_txBase s
  have hregister := SocketRegister.address_succ_lt (r := .txWrite) rfl s
  have hmemory := h.memory
  rw [Memory.staged_of_ne_nil _ _ _ hdata] at hmemory
  refine ⟨fun i hi => ?_, ?_, h.txWrite s, fun address hring hhigh hlow => ?_⟩
  · have hsize : ringSize = 2048 := rfl
    rw [hmemory, Memory.read_writeWord_of_ne _ _ (by omega) (by omega),
      Memory.read_writeRing (by omega) _ _ _ (by omega) (by omega), List.getElem?_eq_getElem hi]
    rfl
  · show now.memory.readWord _ = _
    rw [hmemory, Memory.readWord, Memory.read_writeWord _ (by omega),
      Memory.read_writeWord _ (by omega), if_pos rfl, if_neg (by omega), if_pos rfl,
      word_highByte_lowByte]
  · rw [hmemory, Memory.read_writeWord_of_ne _ _ hhigh.symm hlow.symm,
      Memory.read_writeRing_of_ne _ _ _ _ hring]

/-- Where nobody else uses the link and nothing is scheduled for the chip, staging refuses more data
than a ring holds and does nothing if there are none, both without a frame. Otherwise it leaves the
data in the transmit ring, and changes nothing but that and the pointer behind them. So data that
are staged piece by piece, at offsets that run on, leave the memory as it is when they are staged as
a whole. -/
theorem stage_writes_range {device : Device Board} (hundisturbed : device.board.Undisturbed)
    (hstill : device.chip.Still) (s : SocketId) (offset : UInt16) (data : List UInt8)
    (pieces : List (List UInt8)) :
    (ringSize < data.length → (stage s offset data).run device =
      .ok (.error (.transferTooLarge data.length ringSize), device)) ∧
    (data = [] → (stage s offset data).run device = .ok (.ok (), device)) ∧
    (data ≠ [] → data.length ≤ ringSize →
      Ends (stage s offset data).run device fun r device' => r = .ok () ∧
        Chip.Staged s (device.chip.latches[s].txWrite + offset) data device.chip device'.chip) ∧
    (pieces.flatten.length ≤ ringSize →
      Ends (stageAll s offset pieces).run device fun r device' => r = .ok () ∧
        Ends (stage s offset pieces.flatten).run device fun r' whole =>
          r' = .ok () ∧ device'.chip.memory = whole.chip.memory) := by
  have hok : Habit.visited.ok device.board := ⟨hundisturbed, hstill.visited⟩
  have hstart : Habit.visited.Rewritten device device.chip.memory device :=
    ⟨hok, hstill.rewritten, rfl⟩
  refine ⟨fun hlong => stage_of_too_long s offset hlong device, ?_, fun hdata hfits => ?_,
    fun hfits => ?_⟩
  · rintro rfl
    rfl
  · refine (Habit.stage_rewritten Habit.visited_calm hstart offset hfits).mono ?_
    rintro r device' ⟨hr, h⟩
    exact ⟨hr, h.chip.staged hdata hfits⟩
  · refine (Habit.stageAll_rewritten Habit.visited_calm pieces hfits offset hstart).mono ?_
    rintro r device' ⟨hr, h⟩
    refine ⟨hr, ?_⟩
    refine (Habit.stage_rewritten Habit.visited_calm hstart offset hfits).mono ?_
    rintro r' whole ⟨hr', hwhole⟩
    exact ⟨hr', h.chip.memory.trans hwhole.chip.memory.symm⟩

theorem stage_writes_range_posting :
    Ends (stage 1 1 [7, 8]).run ⟨Board.posting, Controller.new⟩ fun r device' => r = .ok () ∧
      device'.chip.memory.read 0x4FFF = 7 ∧ device'.chip.memory.read 0x4800 = 8 ∧
      device'.chip.wordOf .txWrite 1 = 1 := by
  have hshows := Board.shows_posting
  have hlatch : Board.posting.chip.latches[(1 : SocketId)].txWrite = 0xFFFE := by
    show (Chip.setPointers _ 1 0xFFFE 0).latches[(1 : SocketId)].txWrite = 0xFFFE
    simp only [Chip.setPointers, Chip.latches_setWordOf, Chip.latches_mapLatch_self]
  obtain ⟨-, -, hstage, -⟩ := @stage_writes_range ⟨Board.posting, Controller.new⟩
    hshows.undisturbed ⟨hshows.silent.present, hshows.silent.queue⟩ 1 1 [7, 8] []
  refine (hstage (by decide) (by decide)).mono ?_
  rintro r device' ⟨hr, hstaged⟩
  rw [show (⟨Board.posting, Controller.new⟩ : Device Board).chip.latches[(1 : SocketId)].txWrite =
    0xFFFE from hlatch] at hstaged
  exact ⟨hr, hstaged.bytes 0 (by decide), hstaged.bytes 1 (by decide), hstaged.register⟩

end SpiEthernet
