import SpiEthernet.Controller.Packet
import SpiEthernet.Controller.Stream
import SpiEthernet.Proofs.Receive.Transfer

/-!
# The datagrams in a receive ring

Between two operations a receive ring holds the unread bytes of one datagram and behind them whole
datagrams, header first. In the middle of an operation there are also bytes that were passed and
not yet released. `Chip.Stocked` says so, and every operation that receives is described by what
it does to this stock: reading and skipping take bytes from the unread ones, releasing forgets
what was passed, and datagrams that arrive meanwhile are added behind the others.

* `Passes.holds_of_carries` : bytes that arrived while the driver received are datagrams.
* `receiveHeader_ends` : a header that is taken is the one of the next datagram, whole.
* `receiveFrom_ends` : so are the datagrams that are taken.
-/

namespace SpiEthernet

/-! ## Only datagrams arrive -/

/-- Receiving leaves every mode alone. -/
theorem Chip.byteOf_mode_serve {chip : Chip} (h : chip.absent = none) {frame : Frame}
    (hf : frame.IsReceiving) (s : SocketId) :
    (chip.serve frame).2.byteOf .mode s = chip.byteOf .mode s := by
  obtain ⟨direction, address, data⟩ := frame
  cases direction with
  | read => exact byteOf_serve_of_isQuiet h (Frame.isQuiet_of_read rfl) (by decide) s
  | write =>
    show (chip.write address data).byteOf .mode s = _
    obtain ⟨t, ht | ht | ⟨ht, hdata⟩⟩ := hf rfl
    · rw [show address = _ from ht, write_register h t data (by decide) (by decide),
        byteOf_setByteOf, if_neg (by simp)]
    · have hne : SocketRegister.rxRead ≠ .mode := by decide
      have hd := SocketRegister.address_disjoint_of_ne hne t s
      have hwidth : SocketRegister.rxRead.width = 2 := rfl
      have hwidth' : SocketRegister.mode.width = 1 := rfl
      have hsucc := SocketRegister.toNat_address_succ (r := .rxRead) rfl t
      rw [show address = _ from ht, write_register_succ h rfl]
      exact Memory.read_write_of_ne _ _ (by omega)
    · rw [show address = _ from ht, show data = _ from hdata, write_command h]
      simp only [command, SocketCommand.ofCode?_code, run, updateRxSize]
      rw [byteOf_setWordOf _ _ _ _ rfl (by decide), byteOf_mapLatch, byteOf_mapLatch,
        byteOf_setByteOf, if_neg (by simp)]

namespace Endpoint.Passes

variable {P : Frame → Prop} {start now : Endpoint} {s : SocketId} {inlet inlet' : Inlet}
  {o : List Occurrence}

/-- If only datagrams are to arrive, only datagrams arrive. -/
theorem suits (h : start.Passes P o now) (hP : ∀ frame, P frame → frame.IsLocal)
    (hs : start.chip.Holds s inlet) :
    ∀ occurrence ∈ o, occurrence.event.suits s inlet.framing := by
  refine h.chip_induction (A := fun event => event.suits s inlet.framing)
    (I := fun _ o => ∀ occurrence ∈ o, occurrence.event.suits s inlet.framing)
    hP [] hs.steady hs.suits (by simp) (fun _ _ _ _ _ => id) ?_ fun _ _ => id
  intro chip _ event _ hevent hsuits occurrence hmem
  rcases List.mem_append.1 hmem with hmem | hmem
  · exact hsuits occurrence hmem
  · rw [List.mem_singleton.1 hmem]
    exact hevent

theorem byteOf_mode (h : start.Passes P o now)
    (hP : ∀ frame, P frame → frame.IsReceiving ∨ frame.IsQuiet) (hs : start.chip.Steady)
    (s : SocketId) : now.chip.byteOf .mode s = start.chip.byteOf .mode s := by
  refine h.chip_induction (A := fun _ => True)
    (I := fun c _ => c.byteOf .mode s = start.chip.byteOf .mode s)
    (fun frame hf => (hP frame hf).elim Frame.IsReceiving.isLocal Frame.IsQuiet.isLocal)
    [] hs (fun _ _ => trivial) rfl ?_ ?_ fun _ _ => id
  · intro chip _ frame hsteady hf hmode
    refine Eq.trans ?_ hmode
    rcases hP frame hf with hreceiving | hquiet
    · exact Chip.byteOf_mode_serve hsteady.present hreceiving s
    · exact Chip.byteOf_serve_of_isQuiet hsteady.present hquiet (by decide) s
  · intro chip _ event hordinary _ hmode
    exact (Chip.byteOf_happen (by decide) (by decide) (by decide) hordinary
      fun hr => by cases hr).trans hmode

/-- If a ring held datagrams and only datagrams are to arrive, the bytes that arrived while the
driver received are datagrams. -/
theorem holds_of_carries (h : start.Passes P o now)
    (hP : ∀ frame, P frame → frame.IsReceiving ∨ frame.IsQuiet)
    (hs : start.chip.Holds s inlet) (hnow : now.chip.Carries s (inlet'.push (delivered s o)))
    (hframing : inlet'.framing = inlet.framing) : now.chip.Holds s (inlet'.after s o) := by
  have hlocal : ∀ frame, P frame → frame.IsLocal := fun frame hf =>
    (hP frame hf).elim Frame.IsReceiving.isLocal Frame.IsQuiet.isLocal
  rw [Inlet.push_delivered _ _ (hframing ▸ h.suits hlocal hs)] at hnow
  refine hnow.holds (fun scheduled hq => ?_) ?_
  · exact hframing ▸ hs.suits scheduled (h.mem_queue hlocal hs.steady hq)
  · rw [h.byteOf_mode hP hs.steady]
    exact hs.mode.trans hframing.symm

/-- Quiet frames only append the datagrams that arrive. -/
theorem holds (h : start.Passes P o now) (hP : ∀ frame, P frame → frame.IsQuiet)
    (hs : start.chip.Holds s inlet) : now.chip.Holds s (inlet.after s o) :=
  h.holds_of_carries (fun frame hf => .inr (hP frame hf)) hs (h.carries hP hs.carries) rfl

end Endpoint.Passes

/-! ## Aligned inlets -/

namespace Datagram

theorem length_bytes (framing : Framing) (d : Datagram) :
    (d.bytes framing).length = framing.headerLength + d.payload.length := by
  rw [bytes, List.length_append, Framing.length_header]

@[simp] theorem length_info (framing : Framing) (d : Datagram) :
    (d.info framing).length = d.payload.length := by
  cases framing <;> rfl

/-- A header is read back as what its layout keeps, and a bound that the payload respects changes
nothing about it. -/
theorem decode_header (framing : Framing) (d : Datagram) {bound : Nat}
    (h : (d.bytes framing).length ≤ 2048) (hbound : d.payload.length ≤ bound) :
    { framing.decode (framing.header ⟨d.source, d.sourcePort, d.payload.length⟩) with
      length := min (framing.decode
        (framing.header ⟨d.source, d.sourcePort, d.payload.length⟩)).length bound } =
      d.info framing := by
  rw [length_bytes] at h
  rw [Framing.decode_header _ _ (by show d.payload.length + 2 < 65536; omega)]
  show { d.info framing with length := min (d.info framing).length bound } = d.info framing
  rw [length_info, Nat.min_eq_left hbound, ← d.length_info framing]

end Datagram

theorem Framing.headerLength_pos (framing : Framing) : 0 < framing.headerLength := by
  cases framing <;> decide

namespace Inlet

/-- The inlet with some bytes passed, then the unread bytes of a datagram, and then whole
datagrams. -/
def aligned (framing : Framing) (start : UInt16) (passed unread : List UInt8)
    (waiting : List Datagram) : Inlet where
  framing
  released := start
  cursor := start + UInt16.ofNat passed.length
  bytes := passed ++ unread ++ waiting.flatMap (Datagram.bytes framing)

variable {framing : Framing} {start : UInt16} {passed unread first later : List UInt8}
  {waiting : List Datagram}

theorem aligned_after (s : SocketId) (o : List Occurrence) :
    (aligned framing start passed unread waiting).after s o =
      aligned framing start passed unread (waiting ++ arrivals s o) := by
  simp [aligned, after, push]

theorem aligned_passed : (aligned framing start passed unread waiting).Passed passed.length :=
  ⟨by simp [aligned], rfl⟩

theorem length_le_aligned : passed.length + first.length ≤
    (aligned framing start passed (first ++ later) waiting).bytes.length := by
  simp only [aligned, List.length_append]
  omega

theorem aligned_moveTo :
    (aligned framing start passed (first ++ later) waiting).moveTo
        (start + UInt16.ofNat passed.length + UInt16.ofNat first.length) =
      aligned framing start (passed ++ first) later waiting := by
  simp [aligned, moveTo, UInt16.ofNat_add, UInt16.add_assoc]

theorem aligned_release :
    (aligned framing start passed unread waiting).release passed.length =
      aligned framing (start + UInt16.ofNat passed.length) [] unread waiting := by
  simp [aligned, release]

/-- A whole datagram may be looked at as the unread bytes. -/
theorem aligned_cons (d : Datagram) :
    aligned framing start passed [] (d :: waiting) =
      aligned framing start passed (d.bytes framing) waiting := by
  simp [aligned]

end Inlet

/-- In the receive ring of a socket there are bytes that were passed, the unread bytes of a
datagram, and whole datagrams. -/
def Chip.Stocked (chip : Chip) (s : SocketId) (framing : Framing) (passed unread : List UInt8)
    (waiting : List Datagram) : Prop :=
  ∃ start, chip.Holds s (Inlet.aligned framing start passed unread waiting)

/-- A ring that was empty holds what has arrived since then. -/
theorem Chip.Holds.stocked {chip : Chip} {s : SocketId} {framing : Framing} {pointer : UInt16}
    {o : List Occurrence} (h : chip.Holds s ((Inlet.empty framing pointer).after s o)) :
    chip.Stocked s framing [] [] (arrivals s o) := by
  have hstart : Inlet.empty framing pointer = Inlet.aligned framing pointer [] [] [] := by
    simp [Inlet.empty, Inlet.aligned]
  rw [hstart, Inlet.aligned_after] at h
  exact ⟨pointer, h⟩

/-- The size register counts all that is in the ring. -/
theorem Chip.Stocked.toNat_size {chip : Chip} {s : SocketId} {framing : Framing}
    {passed unread : List UInt8} {waiting : List Datagram}
    (h : chip.Stocked s framing passed unread waiting) : (chip.wordOf .rxSize s).toNat =
      passed.length + unread.length + (waiting.flatMap (Datagram.bytes framing)).length := by
  obtain ⟨start, h⟩ := h
  rw [h.carries.toNat_size]
  simp only [Inlet.aligned, List.length_append]

/-- A datagram that arrives is put behind those that are there, if there is room for it. -/
theorem Chip.Stocked.happen {chip : Chip} {s : SocketId} {framing : Framing}
    {passed unread : List UInt8} {waiting : List Datagram}
    (h : chip.Stocked s framing passed unread waiting) {event : Event} {d : Datagram}
    (hd : event.datagram? = some (s, framing, d))
    (hfits : passed.length + unread.length + (waiting.flatMap (Datagram.bytes framing)).length +
      (d.bytes framing).length ≤ ringSize) :
    (chip.happen event).Stocked s framing passed unread (waiting ++ [d]) := by
  have hdelivery := Event.delivery?_of_datagram? hd
  have hordinary : event.isOrdinary := by cases event <;> first | rfl | cases hd
  have hsuits : event.suits s framing := by simp [Event.suits, hdelivery, hd]
  have htaken : chip.accepts event = true := by
    rw [accepts_of_delivery hdelivery, h.toNat_size]
    exact decide_eq_true hfits
  have harrived : arrivals s [chip.occurrence event] = [d] := by
    simp [arrivals, occurrence, Occurrence.arrival?, hd, htaken]
  obtain ⟨start, h⟩ := h
  have hafter := h.happen hordinary hsuits
  rw [Inlet.aligned_after, harrived] at hafter
  exact ⟨start, hafter⟩

theorem Chip.Stocked.cons {chip : Chip} {s : SocketId} {framing : Framing} {passed : List UInt8}
    {d : Datagram} {waiting : List Datagram} (h : chip.Stocked s framing passed [] (d :: waiting)) :
    chip.Stocked s framing passed (d.bytes framing) waiting := by
  obtain ⟨start, h⟩ := h
  exact ⟨start, Inlet.aligned_cons d ▸ h⟩

theorem Chip.Stocked.length_le {chip : Chip} {s : SocketId} {framing : Framing}
    {passed unread : List UInt8} {waiting : List Datagram}
    (h : chip.Stocked s framing passed unread waiting) : unread.length ≤ 2048 := by
  obtain ⟨start, h⟩ := h
  have hfits := h.fits
  simp only [Inlet.aligned, List.length_append] at hfits
  omega

/-! ## Steps of an operation -/

section Stock

variable {σ : Type} [Host σ] [Wired σ]

namespace Habit

variable {H : Habit σ} {s : SocketId} {framing : Framing} {passed unread first later : List UInt8}
  {waiting : List Datagram} {device device' : Device σ} {o : List Occurrence}

theorem Received.holds {inlet inlet' : Inlet} (h : H.Received device o device')
    (hs : device.chip.Holds s inlet)
    (hnow : device'.chip.Carries s (inlet'.push (delivered s o)))
    (hframing : inlet'.framing = inlet.framing) : device'.chip.Holds s (inlet'.after s o) :=
  h.passes.holds_of_carries (fun _ hf => hf.imp_right H.isQuiet) hs hnow hframing

variable (hok : H.ok device.board)

include hok

theorem readMode_stocked (h : device.chip.Stocked s framing passed unread waiting) :
    Ends (onLink (readByte (SocketRegister.mode.address s))) device fun mode device' =>
      Framing.ofRegister mode = framing ∧ ∃ o, H.Received device o device' ∧
        device'.chip.Stocked s framing passed unread (waiting ++ arrivals s o) := by
  obtain ⟨start, h⟩ := h
  refine (H.readMode_ends hok h.carries).mono ?_
  rintro mode device' ⟨rfl, o, hreceived, h'⟩
  exact ⟨h.mode, o, hreceived, start, Inlet.aligned_after s o ▸ hreceived.holds h h' rfl⟩

/-- The settled size counts the datagrams that were there at some time during the wait. -/
theorem pendingRx_stocked (h : device.chip.Stocked s framing passed unread waiting) :
    Ends (pendingRx s) device fun pending device' =>
      ∃ o o', H.Received device (o ++ o') device' ∧
        device'.chip.Stocked s framing passed unread (waiting ++ arrivals s o ++ arrivals s o') ∧
        pending.toNat = passed.length + unread.length +
          ((waiting ++ arrivals s o).flatMap (Datagram.bytes framing)).length := by
  obtain ⟨start, h⟩ := h
  refine (H.pendingRx_ends hok h.carries).mono ?_
  rintro pending device' ⟨o, o', hreceived, h', hpending⟩
  have hsuits := hreceived.passes.suits
    (fun _ hf => hf.elim Frame.IsReceiving.isLocal fun hb => (H.isQuiet hb).isLocal) h
  rw [Inlet.push_delivered _ _ fun next hnext => hsuits next (List.mem_append_left _ hnext),
    Inlet.aligned_after] at hpending
  have hholds := hreceived.holds h h' rfl
  rw [Inlet.after_append, Inlet.aligned_after, Inlet.aligned_after] at hholds
  refine ⟨o, o', hreceived, ⟨start, hholds⟩, hpending.trans ?_⟩
  simp only [Inlet.aligned, List.length_append]

theorem fetch_stocked (h : device.chip.Stocked s framing passed (first ++ later) waiting) :
    Ends (fetch s first.length false).run device fun r device' =>
      r = .ok first ∧ ∃ o, H.Received device o device' ∧
        device'.chip.Stocked s framing (passed ++ first) later (waiting ++ arrivals s o) := by
  obtain ⟨start, h⟩ := h
  refine (H.fetch_ends hok h.carries Inlet.aligned_passed Inlet.length_le_aligned false).mono ?_
  rintro r device' ⟨rfl, o, hreceived, h'⟩
  refine ⟨by simp [Inlet.aligned], o, hreceived, start, ?_⟩
  rw [← Inlet.aligned_after, ← Inlet.aligned_moveTo]
  exact hreceived.holds h h' rfl

theorem peek_stocked (h : device.chip.Stocked s framing passed (first ++ later) waiting) :
    Ends (fetch s first.length true).run device fun r device' =>
      r = .ok first ∧ ∃ o, H.Received device o device' ∧
        device'.chip.Stocked s framing passed (first ++ later) (waiting ++ arrivals s o) := by
  obtain ⟨start, h⟩ := h
  refine (H.fetch_ends hok h.carries Inlet.aligned_passed Inlet.length_le_aligned true).mono ?_
  rintro r device' ⟨rfl, o, hreceived, h'⟩
  exact ⟨by simp [Inlet.aligned], o, hreceived, start,
    Inlet.aligned_after s o ▸ hreceived.holds h h' rfl⟩

theorem skip_stocked (h : device.chip.Stocked s framing passed (first ++ later) waiting) :
    Ends (skip s (UInt16.ofNat first.length)) device fun _ device' =>
      ∃ o, H.Received device o device' ∧
        device'.chip.Stocked s framing (passed ++ first) later (waiting ++ arrivals s o) := by
  obtain ⟨start, h⟩ := h
  refine (H.skip_ends hok h.carries (UInt16.ofNat first.length)).mono ?_
  rintro _ device' ⟨o, hreceived, h'⟩
  refine ⟨o, hreceived, start, ?_⟩
  rw [← Inlet.aligned_after, ← Inlet.aligned_moveTo]
  exact hreceived.holds h h' rfl

theorem release_stocked (h : device.chip.Stocked s framing passed unread waiting) :
    Ends (issue s .receive) device fun _ device' =>
      ∃ o, H.Received device o device' ∧
        device'.chip.Stocked s framing [] unread (waiting ++ arrivals s o) := by
  obtain ⟨start, h⟩ := h
  refine (H.release_ends hok h.carries Inlet.aligned_passed).mono ?_
  rintro _ device' ⟨o, hreceived, h'⟩
  have hholds := hreceived.holds h h' rfl
  rw [Inlet.aligned_release, Inlet.aligned_after] at hholds
  exact ⟨o, hreceived, _, hholds⟩

/-! ## Operations -/

/-- The byte that is looked at is the next unread one. -/
theorem peekByte_stocked {byte : UInt8}
    (h : device.chip.Stocked s framing [] (byte :: later) waiting) :
    Ends (peekByte s).run device fun r device' =>
      r = .ok (some byte) ∧ ∃ o, H.Received device o device' ∧
        device'.chip.Stocked s framing [] (byte :: later) (waiting ++ arrivals s o) := by
  unfold peekByte
  refine Ends.sure_bind (H.pendingRx_stocked hok h) ?_
  rintro pending d1 ⟨o1, o2, hd1, h1, hpending⟩
  have hsome : pending ≠ 0 := by
    rintro rfl
    rw [List.length_cons] at hpending
    simp only [UInt16.reduceToNat] at hpending
    omega
  rw [if_neg hsome]
  have hnext : d1.chip.Stocked s framing [] ([byte] ++ later)
      (waiting ++ arrivals s o1 ++ arrivals s o2) := h1
  refine Ends.attempt_of_ok (H.peek_stocked hd1.ok hnext) ?_
  rintro d2 ⟨o3, hd2, h2⟩
  refine Ends.pure ⟨rfl, o1 ++ o2 ++ o3, hd1.trans hd2, ?_⟩
  simpa [← List.append_assoc] using h2

/-- The header that is taken is that of the next datagram, and it is only taken when the whole
datagram is there. -/
theorem receiveHeader_ends (h : device.chip.Stocked s framing [] [] waiting) :
    Ends (receiveHeader s).run device fun r device' => ∃ o, H.Received device o device' ∧
      ((r = .ok none ∧ waiting = [] ∧
          device'.chip.Stocked s framing [] [] (waiting ++ arrivals s o)) ∨
        ∃ d rest, r = .ok (some (d.info framing)) ∧ waiting ++ arrivals s o = d :: rest ∧
          device'.chip.Stocked s framing [] d.payload rest) := by
  unfold receiveHeader
  refine Ends.sure_bind (H.readMode_stocked hok h) ?_
  rintro mode d1 ⟨rfl, o1, hd1, h1⟩
  refine Ends.sure_bind (H.pendingRx_stocked hd1.ok h1) ?_
  rintro pending d2 ⟨o2, o3, hd2, h2, hpending⟩
  have hd := hd1.trans hd2
  generalize hseen : waiting ++ arrivals s o1 ++ arrivals s o2 = seen at h2 hpending
  cases seen with
  | nil =>
    have hnone := (Framing.ofRegister mode).headerLength_pos
    have hwaiting : waiting = [] := by simp_all
    rw [if_pos (by simp_all)]
    refine Ends.pure ⟨_, hd, .inl ⟨rfl, hwaiting, ?_⟩⟩
    simpa [hseen, ← List.append_assoc] using h2
  | cons d later =>
    have henough : (d.bytes (Framing.ofRegister mode)).length ≤ pending.toNat := by
      rw [hpending, List.flatMap_cons, List.length_append]
      omega
    rw [Datagram.length_bytes] at henough
    rw [if_neg (by omega)]
    have hbytes : d2.chip.Stocked s (Framing.ofRegister mode) [] (d.bytes (Framing.ofRegister mode))
        (later ++ arrivals s o3) := Chip.Stocked.cons h2
    have hfetch := H.fetch_stocked hd2.ok hbytes
    rw [Framing.length_header] at hfetch
    refine Ends.attempt_of_ok hfetch ?_
    rintro d3 ⟨o4, hd3, h3⟩
    refine Ends.sure_bind (H.release_stocked hd3.ok h3) ?_
    rintro _ d4 ⟨o5, hd4, h4⟩
    have hroom : d.payload.length ≤ pending.toNat - (Framing.ofRegister mode).headerLength := by
      omega
    have hinfo := d.decode_header _ hbytes.length_le hroom
    refine Ends.pure ⟨_, (hd.trans hd3).trans hd4, .inr ⟨d, _, ?_, ?_, h4⟩⟩
    · exact congrArg (fun info => Except.ok (some info)) hinfo
    · simp only [arrivals_append, ← List.append_assoc, hseen]
      simp only [List.cons_append]

/-- A datagram that is taken is the next one, however much of its payload is wanted. -/
theorem receiveFrom_ends (h : device.chip.Stocked s framing [] [] waiting) (room : Nat) :
    Ends (receiveFrom s room).run device fun r device' => ∃ o, H.Received device o device' ∧
      ((r = .ok none ∧ waiting = [] ∧
          device'.chip.Stocked s framing [] [] (waiting ++ arrivals s o)) ∨
        ∃ d rest, r = .ok (some (d.info framing, d.payload.take room)) ∧
          waiting ++ arrivals s o = d :: rest ∧ device'.chip.Stocked s framing [] [] rest) := by
  unfold receiveFrom
  refine Ends.attempt (H.receiveHeader_ends hok h) ?_ ?_
  · rintro _ d1 ⟨o1, hd1, ⟨hr, hwaiting, h1⟩ | ⟨d, rest, hr, hnext, h1⟩⟩
    · cases hr
      exact Ends.pure ⟨o1, hd1, .inl ⟨rfl, hwaiting, h1⟩⟩
    · cases hr
      have hcount : min (d.info framing).length room = (d.payload.take room).length := by
        rw [Datagram.length_info, List.length_take, Nat.min_comm]
      have hrest : (d.info framing).length - min (d.info framing).length room =
          (d.payload.drop room).length := by
        rw [Datagram.length_info, List.length_drop]
        omega
      rw [← List.take_append_drop room d.payload] at h1
      have hfetch := H.fetch_stocked hd1.ok h1
      rw [← hcount] at hfetch
      refine Ends.attempt_of_ok hfetch ?_
      rintro d2 ⟨o2, hd2, h2⟩
      rw [← List.append_nil (d.payload.drop room)] at h2
      have hskip := H.skip_stocked hd2.ok h2
      rw [← hrest] at hskip
      refine Ends.sure_bind hskip ?_
      rintro _ d3 ⟨o3, hd3, h3⟩
      refine Ends.sure_bind (H.release_stocked hd3.ok h3) ?_
      rintro _ d4 ⟨o4, hd4, h4⟩
      refine Ends.pure ⟨_, ((hd1.trans hd2).trans hd3).trans hd4, .inr ⟨d, _, rfl, ?_, h4⟩⟩
      simp only [arrivals_append, ← List.append_assoc, hnext]
      simp only [List.cons_append]
  · rintro cause d1 ⟨o1, -, ⟨hr, -⟩ | ⟨d, rest, hr, -⟩⟩
    · cases hr
    · cases hr

end Habit

end Stock

end SpiEthernet
