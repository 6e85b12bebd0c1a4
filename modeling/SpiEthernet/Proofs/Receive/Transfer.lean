import SpiEthernet.Proofs.Receive.Pointer
import SpiEthernet.Proofs.Receive.Travel

/-!
# Taking bytes out of a receive ring

The driver reads bytes at its pointer, moves the pointer behind them, and releases what the
pointer has passed. Between any two frames of this, more may arrive, and the board may handle
an interrupt; neither touches the bytes that are already there.

* `fetch_ends` : the bytes fetched are the next ones, wherever the ring's end is.
* `release_ends` : what was passed leaves the ring, and nothing else does.
* `pendingRx_ends` : the settled size was the size of the ring at some time during the wait.
-/

namespace SpiEthernet

/-! ## Blocks of a ring -/

theorem Frame.reads_succ (address : UInt16) (count : Nat) :
    Frame.reads address (count + 1) = Frame.read address :: Frame.reads (address + 1) count := by
  simp only [Frame.reads, List.range_succ_eq_map, List.map_cons, List.map_map]
  congr 1
  · exact congrArg Frame.read (UInt16.add_zero address)
  · refine List.map_congr_left fun i _ => ?_
    rw [add_one_add_ofNat]
    rfl

theorem Chip.read_ring {chip : Chip} (h : chip.absent = none) {address : UInt16}
    (ha : 0x0800 ≤ address.toNat) : chip.read address = (chip.memory.read address.toNat, chip) := by
  refine read_of_locate_none h (dif_neg (by omega)) ?_ ?_
  · rintro rfl
    exact absurd ha (by decide)
  · rintro rfl
    exact absurd ha (by decide)

namespace Endpoint

variable {e start now : Endpoint} {s : SocketId} {inlet : Inlet} {o : List Occurrence}

/-- Quiet frames only append what arrives. -/
theorem Passes.carries {P : Frame → Prop} (h : start.Passes P o now)
    (hP : ∀ frame, P frame → frame.IsQuiet) (hs : start.chip.Carries s inlet) :
    now.chip.Carries s (inlet.push (delivered s o)) := by
  induction h with
  | refl =>
    rw [delivered_nil, Inlet.push_nil]
    exact hs
  | turn _ frame hf ih =>
    rw [Inlet.push_delivered_append]
    exact (ih.serve (hP frame hf)).afterFrame
  | mask _ _ ih => exact ih
  | notice _ ih => exact ih.same (.of_memory rfl rfl) rfl

/-- A block of a ring reads as the bytes that stand there, whatever arrives meanwhile. -/
theorem turnAll_reads (count : Nat) : ∀ {e : Endpoint} {inlet : Inlet} {address : UInt16}
    {skipped : Nat}, e.chip.Carries s inlet → skipped + count ≤ inlet.bytes.length →
      (∀ i < count, (address + UInt16.ofNat i).toNat =
        (rxBase s).toNat + ringOffset (inlet.released + UInt16.ofNat (skipped + i))) →
      (e.turnAll (Frame.reads address count)).1 = (inlet.bytes.drop skipped).take count ∧
        ∃ o, e.Passes (·.direction = .read) o (e.turnAll (Frame.reads address count)).2 := by
  induction count with
  | zero => intro e inlet address skipped _ _ _; exact ⟨rfl, [], .refl⟩
  | succ count ih =>
    intro e inlet address skipped h hlength hplaces
    have hbase := toNat_rxBase s
    have hplace : address.toNat =
        (rxBase s).toNat + ringOffset (inlet.released + UInt16.ofNat skipped) := by
      have hfirst := hplaces 0 (Nat.succ_pos count)
      have hzero : address + UInt16.ofNat 0 = address := UInt16.add_zero address
      rwa [hzero] at hfirst
    have hvalue : (e.chip.read address).1 = inlet.bytes[skipped] := by
      rw [Chip.read_ring h.steady.present (by omega), hplace]
      exact h.ring skipped (by omega)
    have hone : e.Passes (·.direction = .read)
        (e.chip.serve (Frame.read address)).2.frameOccurrences (e.turn (Frame.read address)).2 :=
      .one e rfl
    have hholds := hone.carries (fun _ => Frame.isQuiet_of_read) h
    have hkept := inlet.length_le_push
      (delivered s (e.chip.serve (Frame.read address)).2.frameOccurrences)
    have hnext : ∀ i < count, (address + 1 + UInt16.ofNat i).toNat =
        (rxBase s).toNat + ringOffset (inlet.released + UInt16.ofNat (skipped + 1 + i)) := by
      intro i hi
      rw [add_one_add_ofNat, hplaces (i + 1) (by omega), Nat.add_right_comm, Nat.add_assoc]
    obtain ⟨hreplies, o, hpasses⟩ := ih hholds (by omega) hnext
    rw [Frame.reads_succ]
    refine ⟨?_, _, hone.trans hpasses⟩
    rw [List.drop_eq_getElem_cons (by omega), List.take_succ_cons, ← hvalue,
      ← Inlet.take_drop_push (by omega), ← hreplies]
    rfl

end Endpoint

/-! ## On a device -/

section Transfer

variable {σ : Type} [Host σ] [Wired σ]

namespace Habit

variable {H : Habit σ} {s : SocketId} {inlet : Inlet} {device start middle now : Device σ}
  {o o' : List Occurrence}

/-- By receiving, the driver has come from one state of a device to another, and `o` has happened
meanwhile. -/
structure Received (H : Habit σ) (start : Device σ) (o : List Occurrence) (now : Device σ) :
    Prop where
  ok : H.ok now.board
  passes : (Wired.endpoint start.board).Passes H.Receives o (Wired.endpoint now.board)

theorem Received.refl (h : H.ok start.board) : H.Received start [] start := ⟨h, .refl⟩

theorem Received.trans (h : H.Received start o middle) (h' : H.Received middle o' now) :
    H.Received start (o ++ o') now := ⟨h'.ok, h.passes.trans h'.passes⟩

theorem Walked.received (h : H.Walked H.Looks start now) (hs : start.chip.Carries s inlet) :
    ∃ o, H.Received start o now ∧ now.chip.Carries s (inlet.push (delivered s o)) := by
  obtain ⟨o, hpasses⟩ := h.passes
  exact ⟨o, ⟨h.ok, hpasses.mono fun _ => Looks.receives⟩,
    hpasses.carries (fun _ => Looks.isQuiet) hs⟩

/-- What a frame leaves in the ring is kept by what follows it. -/
theorem Exchanged.received {frame : Frame} {value : UInt8}
    (h : H.Exchanged start.board frame value o now.board) (hframe : frame.IsReceiving)
    (hserved : (start.chip.serve frame).2.Carries s inlet) :
    H.Received start o now ∧ now.chip.Carries s (inlet.push (delivered s o)) := by
  refine ⟨⟨h.ok, h.passes (.inl hframe) fun _ => .inr⟩, ?_⟩
  obtain ⟨o', rfl, hwalk⟩ := h.walk
  rw [Inlet.push_delivered_append]
  exact hwalk.carries (fun _ => H.isQuiet) hserved.afterFrame

/-! ## The pointer -/

theorem readPointer_ends (hok : H.ok device.board) (h : device.chip.Carries s inlet) :
    Ends (onLink (readWord (SocketRegister.rxRead.address s))) device fun pointer device' =>
      pointer = inlet.cursor ∧
        ∃ o, H.Received device o device' ∧ device'.chip.Carries s (inlet.push (delivered s o)) := by
  refine (H.readWord_ends hok rfl (by decide)).mono ?_
  rintro _ device' ⟨hwalked, ⟨middle, o, o', hfirst, -, rfl⟩, -⟩
  refine ⟨?_, hwalked.received h⟩
  have hmiddle := hfirst.carries (fun _ => Looks.isQuiet) h
  rw [h.cursor, hmiddle.cursor]
  exact word_highByte_lowByte _

theorem writePointer_ends (hok : H.ok device.board) (h : device.chip.Carries s inlet)
    (pointer : UInt16) :
    Ends (onLink (writeWord (SocketRegister.rxRead.address s) pointer)) device fun _ device' =>
      ∃ o, H.Received device o device' ∧
        device'.chip.Carries s ((inlet.moveTo pointer).push (delivered s o)) := by
  have hhigh : (Frame.write (SocketRegister.rxRead.address s) (highByte pointer)).IsReceiving :=
    fun _ => ⟨s, .inl rfl⟩
  have hlow : (Frame.write (SocketRegister.rxRead.address s + 1) (lowByte pointer)).IsReceiving :=
    fun _ => ⟨s, .inr (.inl rfl)⟩
  rw [writeWord, onLink_bind]
  refine Ends.bind (Ends.onLink (H.writeByte_ends hok hhigh.isLocal)) ?_
  rintro _ middle ⟨⟨o, reply, hfirst⟩, -⟩
  obtain ⟨hreceived, htorn⟩ := hfirst.received hhigh (h.writeHigh (highByte pointer))
  refine (Ends.onLink (H.writeByte_ends hreceived.ok hlow.isLocal)).mono ?_
  rintro _ device' ⟨⟨o', reply', hsecond⟩, -⟩
  obtain ⟨hreceived', hmoved⟩ := hsecond.received hlow (htorn.writeLow (lowByte pointer))
  refine ⟨o ++ o', hreceived.trans hreceived', ?_⟩
  have hwhole : word
      (highByte ((inlet.moveTo
        (word (highByte pointer) (lowByte inlet.cursor))).push (delivered s o)).cursor)
      (lowByte pointer) = pointer := by
    show word (highByte (word _ _)) _ = _
    rw [highByte_word, word_highByte_lowByte]
  rw [hwhole] at hmoved
  rw [Inlet.push_delivered_append]
  exact hmoved

/-- What was passed leaves the ring. -/
theorem release_ends (hok : H.ok device.board) (h : device.chip.Carries s inlet) {count : Nat}
    (hpassed : inlet.Passed count) :
    Ends (issue s .receive) device fun _ device' =>
      ∃ o, H.Received device o device' ∧
        device'.chip.Carries s ((inlet.release count).push (delivered s o)) := by
  have hframe : (Frame.write (SocketRegister.command.address s)
      SocketCommand.receive.code).IsReceiving := fun _ => ⟨s, .inr (.inr ⟨rfl, rfl⟩)⟩
  refine (H.issue_ends hok rfl).mono ?_
  rintro _ device' ⟨given, o, reply, hgiven, -, hwalked⟩
  obtain ⟨hreceived, hreleased⟩ := hgiven.received hframe (h.release hpassed)
  obtain ⟨o', hreceived', hrest⟩ := hwalked.received hreleased
  refine ⟨o ++ o', hreceived.trans hreceived', ?_⟩
  rw [Inlet.push_delivered_append]
  exact hrest

/-! ## Bytes -/

/-- A block of a ring reads as the bytes that stand there. -/
theorem readRing_ends (hok : H.ok device.board) (h : device.chip.Carries s inlet) {address : UInt16}
    (skipped count : Nat) (hlength : skipped + count ≤ inlet.bytes.length)
    (hplaces : ∀ i < count, (address + UInt16.ofNat i).toNat =
      (rxBase s).toNat + ringOffset (inlet.released + UInt16.ofNat (skipped + i))) :
    Ends (onLink (readBlock address count)) device fun bytes device' =>
      bytes = (inlet.bytes.drop skipped).take count ∧
        ∃ o, H.Received device o device' ∧ device'.chip.Carries s (inlet.push (delivered s o)) := by
  have hheld : (Wired.endpoint device.board).held.chip.Carries s inlet := h
  obtain ⟨hreplies, o, hpasses⟩ := Endpoint.turnAll_reads count hheld hlength hplaces
  refine (Ends.onLink (H.readBlock_ends hok address count)).mono ?_
  rintro _ device' ⟨⟨rfl, hok', ⟨o', hrest⟩, -⟩, -⟩
  have hall : (Wired.endpoint device.board).Passes H.Looks (o ++ o')
      (Wired.endpoint device'.board) :=
    ((Endpoint.passes_held _ _).trans (hpasses.mono fun _ => .inl)).trans
      (hrest.mono fun _ => .inr)
  exact ⟨hreplies, _, ⟨hok', hall.mono fun _ => Looks.receives⟩,
    hall.carries (fun _ => Looks.isQuiet) h⟩

/-- The bytes fetched are the ones behind the pointer, and the pointer moves behind them unless
they are only looked at. -/
theorem fetch_ends (hok : H.ok device.board) (h : device.chip.Carries s inlet) {skipped count : Nat}
    (hpassed : inlet.Passed skipped) (hlength : skipped + count ≤ inlet.bytes.length)
    (peek : Bool) :
    Ends (fetch s count peek).run device fun r device' =>
      r = .ok ((inlet.bytes.drop skipped).take count) ∧ ∃ o, H.Received device o device' ∧
        device'.chip.Carries s
          ((if peek then inlet else inlet.moveTo (inlet.cursor + UInt16.ofNat count)).push
            (delivered s o)) := by
  have hfits := h.fits
  have hcount : count ≤ ringSize := by
    simp only [ringSize]
    omega
  unfold fetch
  rw [checkLength_of_le hcount, pure_bind]
  by_cases hzero : count = 0
  · subst hzero
    have hstays : inlet.moveTo (inlet.cursor + UInt16.ofNat 0) = inlet :=
      congrArg inlet.moveTo (UInt16.add_zero inlet.cursor)
    rw [if_pos rfl, hstays, ite_self]
    exact Ends.pure ⟨by simp, [], .refl hok, by simpa using h⟩
  rw [if_neg hzero]
  refine Ends.sure_bind (H.readPointer_ends hok h) ?_
  rintro pointer d1 ⟨rfl, o1, hd1, h1⟩
  have hfirst := untilEnd_le inlet.cursor count
  have hbase := rxBase_add_size_le s
  have hlength1 := inlet.length_le_push (delivered s o1)
  refine Ends.sure_bind (H.readRing_ends hd1.ok h1 skipped (untilEnd inlet.cursor count)
    (by omega) fun i hi => ?_) ?_
  · rw [toNat_ringAddress_add hbase hi, hpassed.cursor, UInt16.ofNat_add, ← UInt16.add_assoc]
    rfl
  rintro head d2 ⟨hhead, o2, hd2, h2⟩
  have hlength2 := (inlet.push (delivered s o1)).length_le_push (delivered s o2)
  refine Ends.sure_bind (H.readRing_ends hd2.ok h2 (skipped + untilEnd inlet.cursor count)
    (count - untilEnd inlet.cursor count) (by omega) fun i hi => ?_) ?_
  · rw [toNat_base_add hbase (by omega) hi, hpassed.cursor, UInt16.add_assoc, ← UInt16.ofNat_add,
      ← Nat.add_assoc]
    rfl
  rintro tail d3 ⟨htail, o3, hd3, h3⟩
  have hbytes : head ++ tail = (inlet.bytes.drop skipped).take count := by
    rw [hhead, htail, Inlet.take_drop_push (by omega), Inlet.take_drop_push (by omega),
      Inlet.take_drop_push (by omega), ← List.drop_drop, ← List.take_add]
    congr 1
    omega
  have hd := (hd1.trans hd2).trans hd3
  have hh : d3.chip.Carries s (inlet.push (delivered s (o1 ++ o2 ++ o3))) := by
    rw [Inlet.push_delivered_append, Inlet.push_delivered_append]
    exact h3
  cases peek with
  | true => exact Ends.pure ⟨congrArg Except.ok hbytes, _, hd, hh⟩
  | false =>
    refine Ends.sure_bind (H.writePointer_ends hd.ok hh _) ?_
    rintro _ d4 ⟨o4, hd4, h4⟩
    refine Ends.pure ⟨congrArg Except.ok hbytes, _, hd.trans hd4, ?_⟩
    rw [Inlet.push_delivered_append]
    exact h4

/-- Skipping moves the pointer as reading does. -/
theorem skip_ends (hok : H.ok device.board) (h : device.chip.Carries s inlet) (count : UInt16) :
    Ends (skip s count) device fun _ device' => ∃ o, H.Received device o device' ∧
      device'.chip.Carries s ((inlet.moveTo (inlet.cursor + count)).push (delivered s o)) := by
  unfold skip
  by_cases hzero : count = 0
  · have hstays : inlet.moveTo (inlet.cursor + count) = inlet := by
      rw [hzero, UInt16.add_zero]
      rfl
    rw [if_neg (by simp [hzero]), hstays]
    exact Ends.pure ⟨[], .refl hok, by simpa using h⟩
  · rw [if_pos hzero]
    refine Ends.bind (H.readPointer_ends hok h) ?_
    rintro pointer d1 ⟨rfl, o1, hd1, h1⟩
    refine (H.writePointer_ends hd1.ok h1 _).mono ?_
    rintro _ d2 ⟨o2, hd2, h2⟩
    refine ⟨_, hd1.trans hd2, ?_⟩
    rw [Inlet.push_delivered_append]
    exact h2

/-! ## The size -/

/-- A socket's mode is read as the chip has it. -/
theorem readMode_ends (hok : H.ok device.board) (h : device.chip.Carries s inlet) :
    Ends (onLink (readByte (SocketRegister.mode.address s))) device fun mode device' =>
      mode = device.chip.byteOf .mode s ∧
        ∃ o, H.Received device o device' ∧ device'.chip.Carries s (inlet.push (delivered s o)) := by
  refine (Ends.onLink (H.readByte_ends hok _)).mono ?_
  rintro mode device' ⟨⟨o, hmode⟩, hcontroller⟩
  refine ⟨?_, ?_⟩
  · rw [hmode.reply, Chip.serve_read, Chip.read_register h.steady.present (by decide) (by decide)]
  · exact (hmode.walked hcontroller hok (Frame.isLocal_read _) (.inl rfl)
      fun _ => .inr).received h

/-- Of a word that has only grown, the low half is read later than the high one; if the high half
is still the same even later, the reading was right when its low half was read. -/
theorem word_eq_of_growing {w0 w1 w2 w3 : UInt16} (h01 : w0.toNat ≤ w1.toNat)
    (h12 : w1.toNat ≤ w2.toNat)
    (h : word (highByte w0) (lowByte w1) = word (highByte w2) (lowByte w3)) :
    word (highByte w0) (lowByte w1) = w1 := by
  have hhigh := congrArg (fun w => (highByte w).toNat) h
  simp only [highByte_word, toNat_highByte] at hhigh
  have hsame : highByte w0 = highByte w1 := by
    apply UInt8.toNat_inj.mp
    rw [toNat_highByte, toNat_highByte]
    omega
  rw [hsame, word_highByte_lowByte]

/-- The settled size was the size of the ring at some time during the wait: the high byte did not
change between the two readings, so it was right when the low byte of the first was read. -/
theorem pendingRx_ends (hok : H.ok device.board) (h : device.chip.Carries s inlet) :
    Ends (pendingRx s) device fun pending device' =>
      ∃ o o', H.Received device (o ++ o') device' ∧
        device'.chip.Carries s (inlet.push (delivered s (o ++ o'))) ∧
        pending.toNat = (inlet.push (delivered s o)).bytes.length := by
  refine (H.settledWord_ends hok rfl (by decide)).mono ?_
  rintro pending device' ⟨hwalked, o, first, second, hstart, ⟨middle, o1, o2, h1, h2, hpending⟩,
    ⟨middle', o3, o4, h3, h4, hpending'⟩⟩
  have hquiet : ∀ frame, H.Looks frame → frame.IsQuiet := fun _ => Looks.isQuiet
  have hfirst := hstart.carries hquiet h
  have hmiddle := h1.carries hquiet hfirst
  have hsecond := h2.carries hquiet hmiddle
  have hall := (hstart.trans h1).trans ((h2.trans h3).trans h4)
  have hgrows : ∀ {chip chip' : Chip} {inlet' : Inlet} {o : List Occurrence},
      chip.Carries s inlet' → chip'.Carries s (inlet'.push (delivered s o)) →
        (chip.wordOf .rxSize s).toNat ≤ (chip'.wordOf .rxSize s).toNat := by
    intro chip chip' inlet' o hc hc'
    rw [hc.toNat_size, hc'.toNat_size]
    exact Inlet.length_le_push _ _
  refine ⟨o ++ o1, o2 ++ o3 ++ o4, ⟨hwalked.ok, hall.mono fun _ => Looks.receives⟩,
    hall.carries hquiet h, ?_⟩
  rw [hpending, word_eq_of_growing (hgrows hfirst hmiddle) (hgrows hmiddle hsecond)
    (hpending.symm.trans hpending'), hmiddle.toNat_size, ← Inlet.push_delivered_append]

end Habit

end Transfer

end SpiEthernet
