import SpiEthernet.Proofs.Receive.Transfer
import SpiEthernet.Proofs.Send.Destination

/-!
# The bytes that fetching reads

While nothing is scheduled, nothing but frames changes a chip's memory, and no frame that a board
exchanges by itself touches more of it than the interrupt flags. So it can be said byte by byte what
a fetch finds, wherever the pointer stands, and what it leaves: the pointer behind the bytes, unless
they were only looked at, and everything else as it was.

* `Memory.unread`, `Memory.passed` : the bytes at a receive pointer, and the memory when the pointer
  has been moved on. Bytes that are passed piece by piece are passed as a whole.
* `Retains` : a device whose chip holds a given memory, but for what its board may change by itself.
* `fetch_reads_range` : a fetch reads the bytes at the pointer and changes nothing but the pointer.
-/

namespace SpiEthernet

/-! ## Behind a receive pointer -/

namespace Memory

variable (memory : Memory) (s : SocketId)

theorem getElem_readRing {base : Nat} {pointer : UInt16} {count i : Nat}
    (hi : i < (memory.readRing base pointer count).length) :
    (memory.readRing base pointer count)[i] =
      memory.read (base + ringOffset (pointer + UInt16.ofNat i)) := by
  simp only [readRing, List.getElem_map, List.getElem_range]

theorem readRing_append (base : Nat) (pointer : UInt16) (count more : Nat) :
    memory.readRing base pointer (count + more) = memory.readRing base pointer count ++
      memory.readRing base (pointer + UInt16.ofNat count) more := by
  simp only [readRing, List.range_add, List.map_append, List.map_map]
  congr 1
  refine List.map_congr_left fun i _ => ?_
  rw [Function.comp_apply, UInt16.ofNat_add, UInt16.add_assoc]

/-- The bytes in a socket's receive ring from its receive pointer on. -/
def unread (count : Nat) : List UInt8 :=
  memory.readRing (rxBase s).toNat (memory.readWord (SocketRegister.rxRead.address s).toNat) count

/-- The memory when a socket's receive pointer has been moved on. -/
def passed (count : UInt16) : Memory :=
  memory.writeWord (SocketRegister.rxRead.address s).toNat
    (memory.readWord (SocketRegister.rxRead.address s).toNat + count)

@[simp] theorem length_unread (count : Nat) : (memory.unread s count).length = count :=
  length_readRing _ _ _ _

theorem passed_zero : memory.passed s 0 = memory := by
  have hregister := SocketRegister.address_succ_lt (r := .rxRead) rfl s
  rw [passed, UInt16.add_zero, writeWord_readWord (by omega)]

theorem readWord_passed (count : UInt16) :
    (memory.passed s count).readWord (SocketRegister.rxRead.address s).toNat =
      memory.readWord (SocketRegister.rxRead.address s).toNat + count := by
  have hregister := SocketRegister.address_succ_lt (r := .rxRead) rfl s
  exact readWord_writeWord_self _ _ (by omega)

theorem read_passed_of_ne (count : UInt16) {address : Nat}
    (hhigh : address ≠ (SocketRegister.rxRead.address s).toNat)
    (hlow : address ≠ (SocketRegister.rxRead.address s).toNat + 1) :
    (memory.passed s count).read address = memory.read address :=
  read_writeWord_of_ne _ _ hhigh.symm hlow.symm

theorem passed_passed (count more : UInt16) :
    (memory.passed s count).passed s more = memory.passed s (count + more) := by
  have hregister := SocketRegister.address_succ_lt (r := .rxRead) rfl s
  refine ext_read fun address => ?_
  rw [passed, readWord_passed, read_writeWord _ (by omega), passed, passed,
    read_writeWord _ (by omega), read_writeWord _ (by omega), UInt16.add_assoc]
  split
  · rfl
  split
  · rfl
  · rfl

/-- The bytes behind those that have been passed are the next ones. -/
theorem unread_add (count more : Nat) : memory.unread s (count + more) =
    memory.unread s count ++ (memory.passed s (UInt16.ofNat count)).unread s more := by
  have hregister := SocketRegister.address_succ_lt (r := .rxRead) rfl s
  have hbase := toNat_rxBase s
  rw [unread, readRing_append, unread, unread, readWord_passed]
  congr 1
  refine readRing_congr (fun place _ => ?_) _ _
  exact (memory.read_passed_of_ne s _ (by omega) (by omega)).symm

end Memory

/-! ## Chips that keep a memory -/

namespace Chip

variable {chip : Chip} {secure : Nat → Prop} {memory : Memory}

theorem Still.remembering (h : chip.Still) (memory : Memory) : Still { chip with memory } :=
  ⟨h.present, h.queue⟩

/-- A chip for which nothing is scheduled holds a memory at some places. -/
structure Retains (secure : Nat → Prop) (memory : Memory) (chip : Chip) : Prop where
  still : chip.Still
  places (address : Nat) (h : secure address) : chip.memory.read address = memory.read address

namespace Retains

theorem afterFrame (h : chip.Retains secure memory) : chip.afterFrame.Retains secure memory := by
  have hrewritten := h.still.rewritten.afterFrame
  refine ⟨hrewritten.still, fun address hsecure => ?_⟩
  rw [hrewritten.memory, h.places address hsecure]

theorem noticed (h : chip.Retains secure memory) :
    ({ chip with edge := false } : Chip).Retains secure memory :=
  ⟨⟨h.still.present, h.still.queue⟩, h.places⟩

theorem read (h : chip.Retains secure memory) (address : UInt16) :
    (chip.read address).2.Retains secure memory := by
  have hrewritten := h.still.rewritten.read address
  refine ⟨hrewritten.still, fun place hsecure => ?_⟩
  rw [hrewritten.memory, h.places place hsecure]

/-- A quiet frame changes nothing at places that are not those of flags. -/
theorem quiet (h : chip.Retains secure memory) {frame : Frame} (hq : frame.IsQuiet)
    (hspares : ∀ address, secure address → ¬IsFlagPlace address) :
    (chip.serve frame).2.Retains secure memory := by
  have hcasing := casing_serve h.still.present hq.isLocal
  refine ⟨⟨(absent_of_casing hcasing).trans h.still.present,
    (queue_of_casing hcasing).trans h.still.queue⟩, fun address hsecure => ?_⟩
  have hplace := hspares address hsecure
  rw [memory_serve_of_isQuiet h.still.present hq (fun hi => hplace (.inl hi))
    fun s hs => hplace (.inr ⟨s, hs⟩), h.places address hsecure]

theorem poke (h : chip.Retains secure memory) (address : UInt16) (value : UInt8) :
    (chip.poke address value).Retains secure (memory.write address.toNat value) :=
  ⟨h.still.remembering _, fun place hsecure =>
    Memory.read_write_congr (h.places place hsecure) _ _⟩

/-- A register is held as the memory has it. -/
theorem wordOf (h : chip.Retains secure memory) {r : SocketRegister} {s : SocketId}
    (hhigh : secure (r.address s).toNat) (hlow : secure ((r.address s).toNat + 1)) :
    chip.wordOf r s = memory.readWord (r.address s).toNat := by
  rw [Chip.wordOf, Memory.readWord, h.places _ hhigh, h.places _ hlow, Memory.readWord]

end Retains

end Chip

/-- A block of a ring reads as it is held. -/
theorem Endpoint.turnAll_retains {secure : Nat → Prop} {memory : Memory} {base : Nat}
    (hbase : 0x0800 ≤ base) (hsecure : ∀ place < 2048, secure (base + place)) (count : Nat) :
    ∀ {e : Endpoint} {address pointer : UInt16}, e.chip.Retains secure memory →
      (∀ i < count, (address + UInt16.ofNat i).toNat =
        base + ringOffset (pointer + UInt16.ofNat i)) →
      (e.turnAll (Frame.reads address count)).1 = memory.readRing base pointer count ∧
        (e.turnAll (Frame.reads address count)).2.chip.Retains secure memory := by
  induction count with
  | zero => exact fun h _ => ⟨rfl, h⟩
  | succ count ih =>
    intro e address pointer h hplaces
    have hzero (w : UInt16) : w + UInt16.ofNat 0 = w := UInt16.add_zero w
    have hplace := hplaces 0 (Nat.succ_pos count)
    rw [hzero, hzero] at hplace
    have hvalue : (e.chip.read address).1 = memory.read (base + ringOffset pointer) := by
      rw [Chip.read_ring h.still.present (by omega), hplace]
      exact h.places _ (hsecure _ (ringOffset_lt _))
    have hturned : (e.turn (Frame.read address)).2.chip.Retains secure memory :=
      (h.read address).afterFrame
    have hnext (i : Nat) (hi : i < count) : (address + 1 + UInt16.ofNat i).toNat =
        base + ringOffset (pointer + 1 + UInt16.ofNat i) := by
      rw [add_one_add_ofNat, add_one_add_ofNat, hplaces (i + 1) (by omega)]
    obtain ⟨hreplies, hlast⟩ := ih hturned hnext
    have hsplit : memory.readRing base pointer (count + 1) =
        memory.read (base + ringOffset pointer) :: memory.readRing base (pointer + 1) count := by
      rw [Nat.add_comm, Memory.readRing_append]
      show memory.read (base + ringOffset (pointer + UInt16.ofNat 0)) :: _ = _
      rw [hzero]
      rfl
    rw [Frame.reads_succ, hsplit, ← hvalue, ← hreplies]
    exact ⟨rfl, hlast⟩

/-! ## Devices that keep a memory -/

/-- The number of bytes in several pieces. -/
def total : List Nat → Nat
  | [] => 0
  | count :: counts => count + total counts

section Device

variable {σ : Type} [Host σ] [Wired σ]

omit [Wired σ] in
/-- More than a ring holds is refused before anything is asked of the chip. -/
theorem fetch_of_too_long (s : SocketId) {count : Nat} (hlong : ringSize < count) (peek : Bool)
    (device : Device σ) : (fetch s count peek).run device =
      .ok (.error (.transferTooLarge count ringSize), device) := by
  unfold fetch
  rw [checkLength_of_lt hlong]
  rfl

omit [Wired σ] in
theorem fetch_zero (s : SocketId) (peek : Bool) (device : Device σ) :
    (fetch s 0 peek).run device = .ok (.ok [], device) := rfl

namespace Habit

variable (H : Habit σ)

/-- No frame that the board exchanges by itself changes what the memory holds at a place. -/
def Secures (address : Nat) : Prop := IsFlagPlace address → ∀ frame, ¬H.between frame

variable {H}

theorem secures_of_not_isFlagPlace {address : Nat} (h : ¬IsFlagPlace address) :
    H.Secures address := fun hflag => absurd hflag h

theorem secures_rxRing (s : SocketId) (place : Nat) : H.Secures ((rxBase s).toNat + place) := by
  refine secures_of_not_isFlagPlace ?_
  have hbase := toNat_rxBase s
  rintro (hplace | ⟨t, hplace⟩)
  · have hcommon : CommonRegister.interrupt.address.toNat = 0x15 := rfl
    omega
  · have hmem := SocketRegister.interrupt.address_mem t
    omega

theorem secures_rxRead (s : SocketId) {i : Nat} (hi : i < 2) :
    H.Secures ((SocketRegister.rxRead.address s).toNat + i) :=
  secures_of_not_isFlagPlace (SocketRegister.not_isFlagPlace (by decide) s hi)

variable (H)

/-- A device whose chip holds a memory wherever the board does not change it by itself. -/
structure Retains (memory : Memory) (device : Device σ) : Prop where
  ok : H.ok device.board
  chip : device.chip.Retains H.Secures memory

variable {H} {s : SocketId} {device device' : Device σ} {memory : Memory} {address : UInt16}

/-- What the board does by itself spares the secure places. -/
theorem retains_of_between {start now : Endpoint} {o : List Occurrence}
    (h : start.Passes H.between o now) (hstart : start.chip.Retains H.Secures memory) :
    now.chip.Retains H.Secures memory := by
  refine h.chip_kept (J := Chip.Retains H.Secures memory) ?_ (fun _ hJ => hJ.noticed) hstart
  intro chip frame hJ hbetween
  refine (hJ.quiet (H.isQuiet hbetween) fun address hsecure hflag => ?_).afterFrame
  exact hsecure hflag frame hbetween

/-- What a frame leaves of a chip is kept by what follows it. -/
theorem Exchanged.retains {frame : Frame} {value : UInt8} {o : List Occurrence}
    (h : H.Exchanged device.board frame value o device'.board)
    (hserved : (device.chip.serve frame).2.Retains H.Secures memory) :
    H.Retains memory device' := by
  obtain ⟨o', -, hwalk⟩ := h.walk
  exact ⟨h.ok, retains_of_between hwalk hserved.afterFrame⟩

theorem readByte_retains (h : H.Retains memory device) (address : UInt16) :
    Ends (onLink (readByte address)) device fun value device' =>
      value = (device.chip.read address).1 ∧ H.Retains memory device' := by
  refine (Ends.onLink (H.readByte_ends h.ok address)).mono ?_
  rintro value device' ⟨⟨o, hread⟩, -⟩
  exact ⟨hread.reply, hread.retains (h.chip.read address)⟩

/-! ## The pointer -/

theorem readRxRead_retains (h : H.Retains memory device) :
    Ends (onLink (readWord (SocketRegister.rxRead.address s))) device fun pointer device' =>
      pointer = memory.readWord (SocketRegister.rxRead.address s).toNat ∧
        H.Retains memory device' := by
  have hword {d : Device σ} (hd : H.Retains memory d) :=
    hd.chip.wordOf (secures_rxRead s Nat.zero_lt_two) (secures_rxRead s Nat.one_lt_two)
  rw [readWord, onLink_bind]
  refine Ends.bind (readByte_retains h _) ?_
  rintro _ d1 ⟨rfl, h1⟩
  rw [onLink_bind]
  refine Ends.bind (readByte_retains h1 _) ?_
  rintro _ d2 ⟨rfl, h2⟩
  refine Ends.pure ⟨?_, h2⟩
  rw [Chip.read_register h.chip.still.present (by decide) (by decide),
    Chip.read_register_succ h1.chip.still.present rfl (by decide), ← Chip.highByte_wordOf,
    hword h, hword h1, word_highByte_lowByte]

theorem writeRxRead_retains (h : H.Retains memory device) (pointer : UInt16) :
    Ends (onLink (writeWord (SocketRegister.rxRead.address s) pointer)) device fun _ device' =>
      H.Retains (memory.writeWord (SocketRegister.rxRead.address s).toNat pointer) device' := by
  have hhigh : (Frame.write (SocketRegister.rxRead.address s) (highByte pointer)).IsReceiving :=
    fun _ => ⟨s, .inl rfl⟩
  have hlow : (Frame.write (SocketRegister.rxRead.address s + 1) (lowByte pointer)).IsReceiving :=
    fun _ => ⟨s, .inr (.inl rfl)⟩
  rw [writeWord, onLink_bind]
  refine Ends.bind (Ends.onLink (H.writeByte_ends h.ok hhigh.isLocal)) ?_
  rintro _ d1 ⟨⟨o, reply, hfirst⟩, -⟩
  have hserved : (device.chip.serve (Frame.write (SocketRegister.rxRead.address s)
      (highByte pointer))).2.Retains H.Secures
        (memory.write (SocketRegister.rxRead.address s).toNat (highByte pointer)) := by
    rw [Chip.serve_write, Chip.write_register h.chip.still.present s _ (by decide) (by decide)]
    exact h.chip.poke _ _
  have h1 := hfirst.retains hserved
  refine (Ends.onLink (H.writeByte_ends h1.ok hlow.isLocal)).mono ?_
  rintro _ d2 ⟨⟨o', reply', hsecond⟩, -⟩
  refine hsecond.retains ?_
  have hpoked := h1.chip.poke (SocketRegister.rxRead.address s + 1) (lowByte pointer)
  rw [SocketRegister.toNat_address_succ rfl] at hpoked
  rw [Chip.serve_write, Chip.write_register_succ h1.chip.still.present rfl]
  exact hpoked

/-! ## Bytes -/

/-- A block that stands in a receive ring in order reads as the ring is held. -/
theorem readRing_retains (h : H.Retains memory device) (pointer : UInt16) {count : Nat}
    (hplaces : ∀ i < count, (address + UInt16.ofNat i).toNat =
      (rxBase s).toNat + ringOffset (pointer + UInt16.ofNat i)) :
    Ends (onLink (readBlock address count)) device fun bytes device' =>
      bytes = memory.readRing (rxBase s).toNat pointer count ∧ H.Retains memory device' := by
  have hbase := toNat_rxBase s
  have hheld : (Wired.endpoint device.board).held.chip.Retains H.Secures memory := h.chip
  obtain ⟨hreplies, hread⟩ := Endpoint.turnAll_retains (by omega)
    (fun place _ => secures_rxRing s place) count hheld hplaces
  refine (Ends.onLink (H.readBlock_ends h.ok address count)).mono ?_
  rintro _ device' ⟨⟨rfl, hok, ⟨o, hpasses⟩, -⟩, -⟩
  exact ⟨hreplies, hok, retains_of_between hpasses hread⟩

/-- The bytes are read in two blocks, the second from the ring's start on, and the pointer moves
behind them unless they are only looked at. -/
theorem fetch_retains (h : H.Retains memory device) (s : SocketId) {count : Nat}
    (hfits : count ≤ ringSize) (peek : Bool) :
    Ends (fetch s count peek).run device fun r device' => r = .ok (memory.unread s count) ∧
      H.Retains (if peek then memory else memory.passed s (UInt16.ofNat count)) device' := by
  have hbase := rxBase_add_size_le s
  unfold fetch
  rw [checkLength_of_le hfits, pure_bind]
  by_cases hzero : count = 0
  · subst hzero
    have hstays : memory.passed s (UInt16.ofNat 0) = memory := memory.passed_zero s
    rw [if_pos rfl, hstays, ite_self]
    exact Ends.pure ⟨rfl, h⟩
  rw [if_neg hzero]
  refine Ends.sure_bind (readRxRead_retains (s := s) h) ?_
  rintro _ d1 ⟨rfl, h1⟩
  generalize hpointer : memory.readWord (SocketRegister.rxRead.address s).toNat = pointer
  have hfirst := untilEnd_le pointer count
  refine Ends.sure_bind (readRing_retains (s := s) h1 pointer fun i hi => ?_) ?_
  · exact toNat_ringAddress_add hbase hi
  rintro _ d2 ⟨rfl, h2⟩
  refine Ends.sure_bind (readRing_retains (s := s) h2
    (pointer + UInt16.ofNat (untilEnd pointer count)) fun i hi => ?_) ?_
  · rw [toNat_base_add hbase hfits hi, UInt16.ofNat_add, ← UInt16.add_assoc]
  rintro _ d3 ⟨rfl, h3⟩
  -- the second block goes on where the first one has come to the end of the ring
  rw [← Memory.readRing_append, Nat.add_sub_cancel' hfirst]
  have hbytes : memory.unread s count = memory.readRing (rxBase s).toNat pointer count := by
    rw [Memory.unread, hpointer]
  cases peek with
  | true => exact Ends.pure ⟨congrArg Except.ok hbytes.symm, h3⟩
  | false =>
    refine Ends.sure_bind (writeRxRead_retains (s := s) h3 _) ?_
    rintro _ d4 h4
    refine Ends.pure ⟨congrArg Except.ok hbytes.symm, ?_⟩
    rw [← hpointer] at h4
    exact h4

/-- Skipping moves the pointer as reading does. -/
theorem skip_retains (h : H.Retains memory device) (s : SocketId) (count : UInt16) :
    Ends (skip s count) device fun _ device' => H.Retains (memory.passed s count) device' := by
  unfold skip
  by_cases hzero : count = 0
  · rw [if_neg (by simp [hzero]), hzero, memory.passed_zero]
    exact Ends.pure h
  · rw [if_pos hzero]
    refine Ends.bind (readRxRead_retains (s := s) h) ?_
    rintro _ d1 ⟨rfl, h1⟩
    exact writeRxRead_retains h1 _

/-- However often bytes are looked at, they are found as they are. -/
theorem peeks_retains (s : SocketId) (counts : List Nat)
    (hfits : ∀ count ∈ counts, count ≤ ringSize) : ∀ {device : Device σ}, H.Retains memory device →
      Ends (counts.mapM fun count => fetch s count true).run device fun r device' =>
        r = .ok (counts.map fun count => memory.unread s count) ∧ H.Retains memory device' := by
  induction counts with
  | nil => exact fun h => Ends.pure ⟨rfl, h⟩
  | cons count counts ih =>
    intro device h
    rw [List.mapM_cons]
    refine Ends.attempt_of_ok (fetch_retains h s (hfits count List.mem_cons_self) true) ?_
    intro d1 h1
    refine Ends.attempt_of_ok
      (ih (fun more hmore => hfits more (List.mem_cons_of_mem _ hmore)) h1) ?_
    intro d2 h2
    exact Ends.pure ⟨rfl, h2⟩

/-- Bytes that are taken piece by piece are taken as a whole. -/
theorem fetches_retains (s : SocketId) (counts : List Nat) (hfits : total counts ≤ ringSize) :
    ∀ {memory : Memory} {device : Device σ}, H.Retains memory device →
      Ends (counts.mapM fun count => fetch s count false).run device fun r device' =>
        (∃ pieces, r = .ok pieces ∧ pieces.map List.length = counts ∧
          pieces.flatten = memory.unread s (total counts)) ∧
            H.Retains (memory.passed s (UInt16.ofNat (total counts))) device' := by
  induction counts with
  | nil =>
    intro memory device h
    refine Ends.pure ⟨⟨[], rfl, rfl, rfl⟩, ?_⟩
    have hstays : memory.passed s (UInt16.ofNat 0) = memory := memory.passed_zero s
    rw [total, hstays]
    exact h
  | cons count counts ih =>
    intro memory device h
    rw [total] at hfits ⊢
    rw [List.mapM_cons]
    refine Ends.attempt_of_ok (fetch_retains h s (by omega) false) ?_
    intro d1 h1
    refine Ends.attempt (ih (by omega) h1) ?_ (by rintro _ _ ⟨⟨_, hr, -⟩, -⟩; cases hr)
    rintro _ d2 ⟨⟨pieces, ⟨⟩, hlengths, hpieces⟩, h2⟩
    refine Ends.pure ⟨⟨_, rfl, ?_, ?_⟩, ?_⟩
    · rw [List.map_cons, hlengths, Memory.length_unread]
    · rw [List.flatten_cons, hpieces, Memory.unread_add]
      rfl
    · rw [UInt16.ofNat_add, ← Memory.passed_passed]
      exact h2

/-- However often bytes are looked at first, they are then taken as they were seen. -/
theorem peeks_fetch_retains (h : H.Retains memory device) (s : SocketId) (times : Nat) {count : Nat}
    (hfits : count ≤ ringSize) :
    Ends (do
        let seen ← (List.replicate times count).mapM fun count => fetch s count true
        let bytes ← fetch s count false
        return (seen, bytes) : Attempt σ _).run device fun r device' =>
      r = .ok (List.replicate times (memory.unread s count), memory.unread s count) ∧
        H.Retains (memory.passed s (UInt16.ofNat count)) device' := by
  refine Ends.attempt_of_ok (peeks_retains s _ (fun more hmore => ?_) h) ?_
  · rw [List.eq_of_mem_replicate hmore]
    exact hfits
  intro d1 h1
  refine Ends.attempt_of_ok (fetch_retains h1 s hfits false) ?_
  intro d2 h2
  rw [List.map_replicate]
  exact Ends.pure ⟨rfl, h2⟩

end Habit

end Device

/-! ## What is different afterwards -/

/-- A place of the chip's memory that the board's handler leaves alone: one that holds no interrupt
flags, or any at all if the handler does not drain. -/
def Board.Secures (board : Board) (address : Nat) : Prop :=
  IsFlagPlace address → board.Undisturbed

/-- The device's chip holds a memory wherever the handler of a board leaves it alone. -/
def Device.Holds (board : Board) (memory : Memory) (device : Device Board) : Prop :=
  ∀ address, board.Secures address → device.chip.memory.read address = memory.read address

/-- What is retained whatever can be relied on, is held. -/
theorem Chip.Still.holds {α : Type} {device : Device Board} (h : device.chip.Still)
    {m : DeviceM Board α} {Q : α → Prop} {memory : Memory}
    (hm : ∀ H : Habit Board, H.Retains device.chip.memory device →
      Ends m device fun a device' => Q a ∧ H.Retains memory device') :
    Ends m device fun a device' => Q a ∧ Device.Holds device.board memory device' := by
  by_cases hundisturbed : device.board.Undisturbed
  · refine (hm .visited ⟨⟨hundisturbed, h.visited⟩, h, fun _ _ => rfl⟩).mono ?_
    rintro a device' ⟨hQ, hretains⟩
    exact ⟨hQ, fun address _ => hretains.chip.places address fun _ _ => id⟩
  · refine (hm .free ⟨h.visited.steady, h, fun _ _ => rfl⟩).mono ?_
    rintro a device' ⟨hQ, hretains⟩
    refine ⟨hQ, fun address hsecure => hretains.chip.places address ?_⟩
    exact Habit.secures_of_not_isFlagPlace fun hflag => hundisturbed (hsecure hflag)

/-- The buffer is filled with what stands in a socket's receive ring from the receive pointer on,
which has been moved behind it unless the bytes were only looked at. At the places given, no other
byte of memory is different. -/
structure Chip.Fetched (s : SocketId) (peek : Bool) (dest filled : List UInt8)
    (secure : Nat → Prop) (start now : Chip) : Prop where
  length : filled.length = dest.length
  bytes (i : Nat) (hi : i < filled.length) : filled[i] = start.memory.read
    ((rxBase s).toNat + ringOffset (start.wordOf .rxRead s + UInt16.ofNat i))
  register : now.wordOf .rxRead s =
    if peek then start.wordOf .rxRead s
    else start.wordOf .rxRead s + UInt16.ofNat dest.length
  others (address : Nat) (hsecure : secure address)
    (hhigh : address ≠ (SocketRegister.rxRead.address s).toNat)
    (hlow : address ≠ (SocketRegister.rxRead.address s).toNat + 1) :
    now.memory.read address = start.memory.read address

namespace Device.Holds

variable {board : Board} {start now now' : Device Board} {s : SocketId} {memory : Memory}
  {count : UInt16}

theorem wordOf (h : Device.Holds board memory now) (s : SocketId) :
    now.chip.wordOf .rxRead s = memory.readWord (SocketRegister.rxRead.address s).toNat := by
  have hplace {i : Nat} (hi : i < 2) :=
    h _ fun hflag => absurd hflag (SocketRegister.not_isFlagPlace (r := .rxRead) (by decide) s hi)
  have hhigh : now.chip.memory.read (SocketRegister.rxRead.address s).toNat =
    memory.read (SocketRegister.rxRead.address s).toNat := hplace Nat.zero_lt_two
  rw [Chip.wordOf, Memory.readWord, hhigh, hplace Nat.one_lt_two, Memory.readWord]

theorem rxRead_passed (h : Device.Holds board (start.chip.memory.passed s count) now) :
    now.chip.wordOf .rxRead s = start.chip.wordOf .rxRead s + count :=
  (h.wordOf s).trans (start.chip.memory.readWord_passed s count)

theorem others_passed (h : Device.Holds board (start.chip.memory.passed s count) now)
    {address : Nat} (hsecure : board.Secures address)
    (hhigh : address ≠ (SocketRegister.rxRead.address s).toNat)
    (hlow : address ≠ (SocketRegister.rxRead.address s).toNat + 1) :
    now.chip.memory.read address = start.chip.memory.read address := by
  rw [h address hsecure, Memory.read_passed_of_ne _ _ _ hhigh hlow]

theorem same (h : Device.Holds board memory now) (h' : Device.Holds board memory now') :
    Device.Holds board now'.chip.memory now :=
  fun address hsecure => (h address hsecure).trans (h' address hsecure).symm

theorem fetched {peek : Bool} {dest : List UInt8} (h : Device.Holds board
      (if peek then start.chip.memory
        else start.chip.memory.passed s (UInt16.ofNat dest.length)) now) :
    Chip.Fetched s peek dest (fill dest (.ok (start.chip.memory.unread s dest.length)))
      board.Secures start.chip now.chip := by
  have hfilled : fill dest (.ok (start.chip.memory.unread s dest.length)) =
      start.chip.memory.unread s dest.length := by
    rw [fill, Memory.length_unread, List.drop_length, List.append_nil]
  rw [hfilled]
  refine ⟨Memory.length_unread _ _ _, fun i hi => Memory.getElem_readRing _ hi, ?_, ?_⟩
  · cases peek with
    | true => exact h.wordOf s
    | false => exact h.rxRead_passed
  · intro address hsecure hhigh hlow
    cases peek with
    | true => exact h address hsecure
    | false => exact h.others_passed hsecure hhigh hlow

end Device.Holds

/-- On a chip for which nothing is scheduled, a fetch refuses a buffer that is longer than a ring
and does nothing for an empty one, both without a frame. Any other buffer it fills with the bytes at
the receive pointer, and it changes nothing but this pointer, and that only if the bytes are not just
looked at. So bytes that are looked at any number of times are then taken as they were seen, bytes
that are taken piece by piece are taken as a whole, and skipping moves the pointer as taking does. A
board whose handler drains may clear interrupt flags meanwhile. -/
theorem fetch_reads_range {device : Device Board} (hstill : device.chip.Still) (s : SocketId)
    (dest : List UInt8) (peek : Bool) (times : Nat) (counts : List Nat) (count : UInt16) :
    (ringSize < dest.length → Ends (fetch s dest.length peek).run device fun r device' =>
      r = .error (.transferTooLarge dest.length ringSize) ∧ fill dest r = dest ∧
        device' = device) ∧
    (dest = [] → Ends (fetch s dest.length peek).run device fun r device' =>
      r = .ok [] ∧ fill dest r = dest ∧ device' = device) ∧
    (dest ≠ [] → dest.length ≤ ringSize →
      Ends (fetch s dest.length peek).run device fun r device' => (∃ bytes, r = .ok bytes) ∧
        Chip.Fetched s peek dest (fill dest r) device.board.Secures device.chip device'.chip) ∧
    (dest.length ≤ ringSize → Ends (do
        let seen ← (List.replicate times dest.length).mapM fun count => fetch s count true
        let bytes ← fetch s dest.length false
        return (seen, bytes) : Attempt Board _).run device fun r _ =>
      ∃ bytes, r = .ok (List.replicate times bytes, bytes)) ∧
    (total counts ≤ ringSize →
      Ends (counts.mapM fun count => fetch s count false).run device fun r device' =>
        ∃ pieces, r = .ok pieces ∧ pieces.map List.length = counts ∧
          Ends (fetch s (total counts) false).run device fun r' whole => r' = .ok pieces.flatten ∧
            Device.Holds device.board whole.chip.memory device') ∧
    Ends (skip s count) device fun _ device' =>
      device'.chip.wordOf .rxRead s = device.chip.wordOf .rxRead s + count ∧
      (∀ address, device.board.Secures address →
        address ≠ (SocketRegister.rxRead.address s).toNat →
        address ≠ (SocketRegister.rxRead.address s).toNat + 1 →
          device'.chip.memory.read address = device.chip.memory.read address) ∧
      (count.toNat ≤ ringSize → Ends (fetch s count.toNat false).run device fun _ taken =>
        Device.Holds device.board taken.chip.memory device') := by
  have hfetch {count : Nat} (hfits : count ≤ ringSize) (peek : Bool) :=
    hstill.holds fun H h => H.fetch_retains h s hfits peek
  refine ⟨fun hlong => ⟨_, _, fetch_of_too_long s hlong peek device, rfl, rfl, rfl⟩, ?_,
    fun _ hfits => ?_, fun hfits => ?_, fun hfits => ?_, ?_⟩
  · rintro rfl
    exact ⟨_, _, fetch_zero s peek device, rfl, rfl, rfl⟩
  · refine (hfetch hfits peek).mono ?_
    rintro _ device' ⟨rfl, h⟩
    exact ⟨⟨_, rfl⟩, h.fetched⟩
  · refine (hstill.holds fun H h => H.peeks_fetch_retains h s times hfits).mono ?_
    rintro _ device' ⟨rfl, -⟩
    exact ⟨_, rfl⟩
  · refine (hstill.holds fun H h => H.fetches_retains s counts hfits h).mono ?_
    rintro _ device' ⟨⟨pieces, rfl, hlengths, hpieces⟩, h⟩
    refine ⟨pieces, rfl, hlengths, (hfetch hfits false).mono ?_⟩
    rintro _ whole ⟨rfl, hwhole⟩
    exact ⟨congrArg Except.ok hpieces.symm, h.same hwhole⟩
  · refine (hstill.holds (Q := fun _ => True) fun H h =>
      (H.skip_retains h s count).mono fun _ _ h => ⟨trivial, h⟩).mono ?_
    rintro _ device' ⟨-, h⟩
    refine ⟨h.rxRead_passed, fun address => h.others_passed, fun hfits => ?_⟩
    refine (hfetch hfits false).mono ?_
    rintro _ taken ⟨-, htaken⟩
    rw [if_neg Bool.false_ne_true, UInt16.ofNat_toNat] at htaken
    exact h.same htaken

/-- A chip with bytes in the receive ring of socket 1, round the end of the ring. -/
def Chip.brimming : Chip :=
  let chip := (Chip.new none).setPointers 1 0 0xFFFE
  { chip with memory := chip.memory.writeRing (rxBase 1).toNat 0xFFFE [7, 8, 9] }

theorem Chip.still_brimming : Chip.brimming.Still := by
  have hnew : (Chip.new none).Silent := ⟨rfl, rfl, rfl⟩
  have hsilent := hnew.of_casing ((Chip.new none).casing_setPointers 1 0 0xFFFE)
  exact Still.remembering ⟨hsilent.present, hsilent.queue⟩ _

theorem Chip.rxRead_brimming : Chip.brimming.wordOf .rxRead 1 = 0xFFFE := by
  have hbase := toNat_rxBase 1
  have hregister := SocketRegister.address_succ_lt (r := .rxRead) rfl 1
  refine Eq.trans (wordOf_eq_of_places ?_ ?_)
    (((Chip.new none).wordOf_setPointers 1 1 0 0xFFFE rfl).trans (if_pos rfl))
  · exact Memory.read_writeRing_of_outside _ _ _ _ (by omega)
  · exact Memory.read_writeRing_of_outside _ _ _ _ (by omega)

theorem fetch_reads_range_brimming : Ends (fetch 1 3 false).run
    ⟨(Board.new none ⟨none, .off⟩).withChip Chip.brimming, Controller.new⟩ fun r device' =>
      fill [0, 0, 0] r = [7, 8, 9] ∧ device'.chip.wordOf .rxRead 1 = 1 := by
  have hring (i : Nat) (hi : i < 3) : Chip.brimming.memory.read
      ((rxBase 1).toNat + ringOffset (0xFFFE + UInt16.ofNat i)) = [7, 8, 9][i] := by
    refine (Memory.read_writeRing (by decide) [7, 8, 9] _ _ (by decide) (by omega)).trans ?_
    rw [List.getElem?_eq_getElem hi]
    rfl
  obtain ⟨-, -, hfetch, -⟩ := @fetch_reads_range
    ⟨(Board.new none ⟨none, .off⟩).withChip Chip.brimming, Controller.new⟩ Chip.still_brimming 1
    [0, 0, 0] false 0 [] 0
  refine (hfetch (by decide) (by decide)).mono ?_
  rintro r device' ⟨-, h⟩
  refine ⟨List.ext_getElem h.length fun i hi hi' => ?_, ?_⟩
  · rw [h.bytes i hi]
    show Chip.brimming.memory.read (_ + ringOffset (Chip.brimming.wordOf .rxRead 1 + _)) = _
    rw [Chip.rxRead_brimming]
    exact hring i hi'
  · rw [h.register]
    show Chip.brimming.wordOf .rxRead 1 + _ = _
    rw [Chip.rxRead_brimming]
    rfl

end SpiEthernet
