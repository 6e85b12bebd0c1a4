import SpiEthernet.Proofs.Chip.Events
import SpiEthernet.Proofs.Receive.Ring

/-!
# What is in a receive ring

The receive ring of a socket is described by an inlet: the layout of its headers, the pointer up
to which everything has been released, the pointer the driver has moved, and the bytes in the ring
that have not been released. Whatever arrives is appended to these bytes if the ring has room for
the whole of it; no other event changes the inlet, and no quiet frame. A ring carries an inlet
whatever its bytes mean, and it holds an inlet if they are datagrams, header first.

* `Carries.happen` : an event appends the bytes that it brings.
* `Carries.serve` : a quiet frame leaves the inlet alone.
* `Holds.happen` : what is appended are datagrams if only datagrams arrive.
-/

namespace SpiEthernet

/-! ## Datagrams that arrive -/

/-- A datagram as the network brought it. -/
structure Datagram where
  source : Ipv4
  sourcePort : UInt16
  payload : List UInt8
deriving DecidableEq, Repr

namespace Datagram

/-- The bytes of a datagram in a receive ring. -/
def bytes (framing : Framing) (d : Datagram) : List UInt8 :=
  framing.header ⟨d.source, d.sourcePort, d.payload.length⟩ ++ d.payload

/-- What a layout keeps of a datagram's description. -/
def info (framing : Framing) (d : Datagram) : DatagramInfo :=
  framing.describe ⟨d.source, d.sourcePort, d.payload.length⟩

end Datagram

/-- The datagram that an event brings, with its socket and its layout. -/
def Event.datagram? : Event → Option (SocketId × Framing × Datagram)
  | .udp s source sourcePort payload => some (s, .udp, ⟨source, sourcePort, payload⟩)
  | .ipRaw s source payload => some (s, .ipRaw, ⟨source, 0, payload⟩)
  | .macRaw s frame => some (s, .macRaw, ⟨Ipv4.unspecified, 0, frame⟩)
  | _ => none

theorem Event.delivery?_of_datagram? {event : Event} {s : SocketId} {framing : Framing}
    {d : Datagram} (h : event.datagram? = some (s, framing, d)) :
    event.delivery? = some (s, d.bytes framing) := by
  cases event <;> cases h <;> rfl

/-- Whether everything an event brings for a socket is a datagram of the given layout. -/
def Event.suits (s : SocketId) (framing : Framing) (event : Event) : Bool :=
  match event.delivery? with
  | some (t, _) => t ≠ s || event.datagram?.any fun (_, layout, _) => layout = framing
  | none => true

/-- The datagram that has arrived for a socket, if it was taken. -/
def Occurrence.arrival? (s : SocketId) (occurrence : Occurrence) : Option Datagram :=
  match occurrence.event.datagram? with
  | some (t, _, d) => if t = s ∧ occurrence.taken then some d else none
  | none => none

/-- The datagrams that have arrived for a socket and were taken, in order. -/
def arrivals (s : SocketId) (occurrences : List Occurrence) : List Datagram :=
  occurrences.filterMap (·.arrival? s)

@[simp] theorem arrivals_nil (s : SocketId) : arrivals s [] = [] := rfl

@[simp] theorem arrivals_append (s : SocketId) (o o' : List Occurrence) :
    arrivals s (o ++ o') = arrivals s o ++ arrivals s o' :=
  List.filterMap_append

/-! ## Bytes that arrive -/

/-- The bytes that have arrived for a socket, if they were taken. -/
def Occurrence.delivery (s : SocketId) (occurrence : Occurrence) : List UInt8 :=
  match occurrence.event.delivery? with
  | some (t, bytes) => if t = s ∧ occurrence.taken then bytes else []
  | none => []

/-- The bytes that have arrived for a socket and were taken, in order. -/
def delivered (s : SocketId) (occurrences : List Occurrence) : List UInt8 :=
  occurrences.flatMap (·.delivery s)

@[simp] theorem delivered_nil (s : SocketId) : delivered s [] = [] := rfl

@[simp] theorem delivered_append (s : SocketId) (o o' : List Occurrence) :
    delivered s (o ++ o') = delivered s o ++ delivered s o' :=
  List.flatMap_append

theorem delivered_singleton (s : SocketId) (occurrence : Occurrence) :
    delivered s [occurrence] = occurrence.delivery s :=
  List.append_nil _

/-- If only datagrams arrive, their bytes are all that arrives. -/
theorem Occurrence.delivery_of_suits {s : SocketId} {framing : Framing} {occurrence : Occurrence}
    (h : occurrence.event.suits s framing) :
    occurrence.delivery s = (arrivals s [occurrence]).flatMap (Datagram.bytes framing) := by
  obtain ⟨event, taken⟩ := occurrence
  cases event <;> simp_all [Occurrence.delivery, arrivals, Occurrence.arrival?, Event.suits,
    Event.delivery?, Event.datagram?] <;> split <;> simp_all [Datagram.bytes]

theorem delivered_of_suits {s : SocketId} {framing : Framing} {o : List Occurrence}
    (h : ∀ occurrence ∈ o, occurrence.event.suits s framing) :
    delivered s o = (arrivals s o).flatMap (Datagram.bytes framing) := by
  induction o with
  | nil => rfl
  | cons occurrence o ih =>
    rw [← List.singleton_append, delivered_append, delivered_singleton, arrivals_append,
      List.flatMap_append, ih fun next hnext => h next (List.mem_cons_of_mem _ hnext),
      Occurrence.delivery_of_suits (h occurrence List.mem_cons_self)]

/-! ## Inlets -/

/-- The state of a socket's receive ring. -/
structure Inlet where
  framing : Framing
  /-- The pointer up to which everything has been released. -/
  released : UInt16
  /-- The pointer that the driver has moved. -/
  cursor : UInt16
  /-- The bytes behind the released ones. -/
  bytes : List UInt8

namespace Inlet

/-- The inlet with bytes behind the others. -/
def push (inlet : Inlet) (bytes : List UInt8) : Inlet :=
  { inlet with bytes := inlet.bytes ++ bytes }

/-- The inlet after something has happened to the chip. -/
def after (s : SocketId) (o : List Occurrence) (inlet : Inlet) : Inlet :=
  inlet.push ((arrivals s o).flatMap (Datagram.bytes inlet.framing))

variable (inlet : Inlet) (s : SocketId)

@[simp] theorem push_nil : inlet.push [] = inlet := by
  simp [push]

@[simp] theorem after_nil : inlet.after s [] = inlet := inlet.push_nil

@[simp] theorem push_push (bytes more : List UInt8) :
    (inlet.push bytes).push more = inlet.push (bytes ++ more) := by
  simp [push]

theorem after_append (o o' : List Occurrence) :
    inlet.after s (o ++ o') = (inlet.after s o).after s o' := by
  simp [after, push]

theorem push_delivered_append (o o' : List Occurrence) :
    inlet.push (delivered s (o ++ o')) = (inlet.push (delivered s o)).push (delivered s o') := by
  rw [delivered_append, push_push]

/-- If only datagrams arrive, they are all that arrives. -/
theorem push_delivered {o : List Occurrence}
    (h : ∀ occurrence ∈ o, occurrence.event.suits s inlet.framing) :
    inlet.push (delivered s o) = inlet.after s o := by
  rw [after, delivered_of_suits h]

end Inlet

namespace Chip

/-- The receive ring of a socket is in a state. -/
structure Carries (chip : Chip) (s : SocketId) (inlet : Inlet) : Prop where
  steady : chip.Steady
  released : chip.latches[s].rxRead = inlet.released
  cursor : chip.wordOf .rxRead s = inlet.cursor
  size : chip.wordOf .rxSize s = UInt16.ofNat inlet.bytes.length
  write : chip.wordOf .rxWrite s = inlet.released + UInt16.ofNat inlet.bytes.length
  fits : inlet.bytes.length ≤ 2048
  ring : ∀ i (h : i < inlet.bytes.length), chip.memory.read
    ((rxBase s).toNat + ringOffset (inlet.released + UInt16.ofNat i)) = inlet.bytes[i]

/-- The receive ring of a socket is in a state, and whatever is still to arrive for the socket has
its layout. -/
structure Holds (chip : Chip) (s : SocketId) (inlet : Inlet) : Prop where
  steady : chip.Steady
  suits : ∀ scheduled ∈ chip.queue, scheduled.event.suits s inlet.framing
  mode : Framing.ofRegister (chip.byteOf .mode s) = inlet.framing
  released : chip.latches[s].rxRead = inlet.released
  cursor : chip.wordOf .rxRead s = inlet.cursor
  size : chip.wordOf .rxSize s = UInt16.ofNat inlet.bytes.length
  write : chip.wordOf .rxWrite s = inlet.released + UInt16.ofNat inlet.bytes.length
  fits : inlet.bytes.length ≤ 2048
  ring : ∀ i (h : i < inlet.bytes.length), chip.memory.read
    ((rxBase s).toNat + ringOffset (inlet.released + UInt16.ofNat i)) = inlet.bytes[i]

/-- Nothing that belongs to the receive ring of a socket is different in the second state. -/
structure SameInlet (chip chip' : Chip) (s : SocketId) : Prop where
  mode : chip'.byteOf .mode s = chip.byteOf .mode s
  released : chip'.latches[s].rxRead = chip.latches[s].rxRead
  words {r : SocketRegister} (hw : r.width = 2) : chip'.wordOf r s = chip.wordOf r s
  ring {place : Nat} (h : place < 2048) : chip'.memory.read ((rxBase s).toNat + place) =
    chip.memory.read ((rxBase s).toNat + place)

variable {chip chip' : Chip} {s : SocketId} {inlet : Inlet}

theorem Carries.toNat_size (h : chip.Carries s inlet) :
    (chip.wordOf .rxSize s).toNat = inlet.bytes.length := by
  have hfits := h.fits
  rw [h.size, UInt16.toNat_ofNat']
  omega

theorem Carries.congr (h : chip.Carries s inlet) (hsame : chip.SameInlet chip' s)
    (hsteady : chip'.Steady) : chip'.Carries s inlet where
  steady := hsteady
  released := hsame.released.trans h.released
  cursor := (hsame.words rfl).trans h.cursor
  size := (hsame.words rfl).trans h.size
  write := (hsame.words rfl).trans h.write
  fits := h.fits
  ring i hi := (hsame.ring (ringOffset_lt _)).trans (h.ring i hi)

theorem Holds.carries (h : chip.Holds s inlet) : chip.Carries s inlet :=
  ⟨h.steady, h.released, h.cursor, h.size, h.write, h.fits, h.ring⟩

theorem Carries.holds (h : chip.Carries s inlet)
    (hsuits : ∀ scheduled ∈ chip.queue, scheduled.event.suits s inlet.framing)
    (hmode : Framing.ofRegister (chip.byteOf .mode s) = inlet.framing) : chip.Holds s inlet :=
  ⟨h.steady, hsuits, hmode, h.released, h.cursor, h.size, h.write, h.fits, h.ring⟩

theorem SameInlet.of_memory (hmemory : chip'.memory = chip.memory)
    (hlatches : chip'.latches = chip.latches) : chip.SameInlet chip' s where
  mode := by rw [byteOf, hmemory, byteOf]
  released := by rw [hlatches]
  words _ := by rw [wordOf, hmemory, wordOf]
  ring _ := by rw [hmemory]

theorem SameInlet.trans {chip'' : Chip} (h : chip.SameInlet chip' s)
    (h' : chip'.SameInlet chip'' s) : chip.SameInlet chip'' s where
  mode := h'.mode.trans h.mode
  released := h'.released.trans h.released
  words hw := (h'.words hw).trans (h.words hw)
  ring hplace := (h'.ring hplace).trans (h.ring hplace)

/-! ## Events that bring nothing for the socket -/

variable (chip s)

theorem sameInlet_assertLine : chip.SameInlet chip.assertLine s :=
  .of_memory chip.memory_assertLine chip.latches_assertLine

theorem sameInlet_setByteOf (t : SocketId) {r : SocketRegister} (value : UInt8) (hr : r ≠ .mode)
    (hw : r.width = 1) : chip.SameInlet (chip.setByteOf r t value) s where
  mode := by rw [byteOf_setByteOf, if_neg fun h => hr h.1]
  released := rfl
  words {r'} hw' := by
    refine chip.wordOf_setByteOf t s value hw' ?_
    rintro rfl
    rw [hw'] at hw
    cases hw
  ring {place} _ := by
    have hbase := toNat_rxBase s
    exact chip.read_setByteOf_of_outside t r value (.inr (by omega))

theorem sameInlet_raiseSocket (t : SocketId) (bits : UInt8) :
    chip.SameInlet (chip.raiseSocket t bits) s :=
  (chip.sameInlet_setByteOf s t _ (by decide) rfl).trans (sameInlet_assertLine _ s)

/-- The common registers lie in front of everything that belongs to a socket. -/
theorem sameInlet_common {address : Nat} (value : UInt8) (h : address < 0x0400) :
    chip.SameInlet { chip with memory := chip.memory.write address value } s where
  mode := by
    have hmem := SocketRegister.mode.address_mem s
    exact Memory.read_write_of_ne _ _ (by omega)
  released := rfl
  words {r} _ := by
    have hmem := r.address_mem s
    show word _ _ = word _ _
    rw [Memory.read_write_of_ne _ _ (by omega), Memory.read_write_of_ne _ _ (by omega)]
  ring {place} _ := by
    have hbase := toNat_rxBase s
    exact Memory.read_write_of_ne _ _ (by omega)

theorem sameInlet_raiseGlobal (bits : UInt8) : chip.SameInlet (chip.raiseGlobal bits) s :=
  (chip.sameInlet_common s _ (by decide)).trans (sameInlet_assertLine _ s)

/-- What arrives for another socket stands in another ring. -/
theorem sameInlet_store {t : SocketId} (bytes : List UInt8) (ht : t ≠ s) :
    chip.SameInlet (chip.store t bytes) s := by
  by_cases hfits : chip.fits t bytes
  · rw [store_of_fits _ _ hfits]
    refine SameInlet.trans ⟨?_, ?_, fun {r} hw => ?_, fun {place} hplace => ?_⟩
      (sameInlet_raiseSocket _ s t _)
    · exact chip.byteOf_pushed t s bytes (by decide) (by decide)
    · rw [latches_pushed]
    · rw [wordOf_pushed _ _ _ _ hw, if_neg fun h => ht h.2.symm, if_neg fun h => ht h.2.symm]
    · have hs := toNat_rxBase s
      have ht' := toNat_rxBase t
      have hne : t.val ≠ s.val := fun h => ht (Fin.ext h)
      rw [memory_pushed _ _ _ (by omega)]
      exact Memory.read_writeRing_of_outside _ _ _ _ (by omega)
  · rw [store_of_not_fits _ _ hfits]
    exact .of_memory rfl rfl

/-! ## Events -/

variable {chip s}

theorem Carries.same (h : chip.Carries s inlet) (hsame : chip.SameInlet chip' s)
    (hcasing : chip'.casing = chip.casing) : chip'.Carries s inlet :=
  h.congr hsame (h.steady.of_casing hcasing)

/-- Bytes that arrive for the socket are appended if the ring has room for them. -/
theorem Carries.store (h : chip.Carries s inlet) {bytes : List UInt8}
    (hfits : chip.fits s bytes) : (chip.store s bytes).Carries s (inlet.push bytes) := by
  have hlength : (inlet.push bytes).bytes.length = inlet.bytes.length + bytes.length :=
    List.length_append
  have hroom : inlet.bytes.length + bytes.length ≤ 2048 := by
    have hfree : (chip.wordOf .rxSize s).toNat + bytes.length ≤ 2048 := hfits
    rwa [h.toNat_size] at hfree
  have hend : chip.wordOf .rxWrite s + UInt16.ofNat bytes.length =
      inlet.released + UInt16.ofNat (inlet.push bytes).bytes.length := by
    rw [h.write, hlength, UInt16.ofNat_add, UInt16.add_assoc]
  have hbase := toNat_rxBase s
  rw [store_of_fits _ _ hfits]
  have hpushed : (chip.pushed s bytes).Carries s (inlet.push bytes) := by
    refine ⟨h.steady.of_casing (chip.casing_pushed s bytes), ?_, ?_, ?_, ?_, ?_, ?_⟩
    · rw [latches_pushed]
      exact h.released
    · rw [wordOf_pushed _ _ _ _ rfl, if_neg (by simp), if_neg (by simp)]
      exact h.cursor
    · rw [wordOf_pushed _ _ _ _ rfl, if_pos ⟨rfl, rfl⟩, hend, h.released, UInt16.add_comm,
        UInt16.add_sub_cancel]
    · rw [wordOf_pushed _ _ _ _ rfl, if_neg (by simp), if_pos ⟨rfl, rfl⟩, hend]
      rfl
    · rw [hlength]
      exact hroom
    · intro i hi
      have hi : i < inlet.bytes.length + bytes.length := hlength ▸ hi
      rw [memory_pushed _ _ _ (by omega), h.write]
      by_cases hold : i < inlet.bytes.length
      · -- an older byte stands a whole round behind the place of the new ones
        have hplace : ringOffset (inlet.released + UInt16.ofNat i) =
            ringOffset (inlet.released + UInt16.ofNat inlet.bytes.length +
              UInt16.ofNat (2048 - inlet.bytes.length + i)) := by
          rw [ringOffset_add, ringOffset_add, ringOffset_add]
          omega
        show Memory.read _ (_ + ringOffset (inlet.released + UInt16.ofNat i)) = _
        rw [hplace, Memory.read_writeRing (by omega) _ _ _ (by omega) (by omega),
          List.getElem?_eq_none (by omega), ← hplace]
        simpa [Inlet.push, List.getElem_append_left hold] using h.ring i hold
      · have hplace : ringOffset (inlet.released + UInt16.ofNat i) =
            ringOffset (inlet.released + UInt16.ofNat inlet.bytes.length +
              UInt16.ofNat (i - inlet.bytes.length)) := by
          rw [ringOffset_add, ringOffset_add, ringOffset_add]
          omega
        show Memory.read _ (_ + ringOffset (inlet.released + UInt16.ofNat i)) = _
        rw [hplace, Memory.read_writeRing (by omega) _ _ _ (by omega) (by omega),
          List.getElem?_eq_getElem (by omega)]
        simp [Inlet.push, List.getElem_append_right (Nat.not_lt.1 hold)]
  exact hpushed.same (sameInlet_raiseSocket _ s s _) (casing_raiseSocket _ s _)

/-- An event brings something for the socket that fits, or it brings nothing for it. -/
theorem delivery_occurrence (chip : Chip) (event : Event) (s : SocketId) :
    (∃ bytes, event.delivery? = some (s, bytes) ∧ chip.fits s bytes ∧
        (chip.occurrence event).delivery s = bytes) ∨
      (∀ bytes, event.delivery? = some (s, bytes) → ¬chip.fits s bytes) ∧
        (chip.occurrence event).delivery s = [] := by
  cases hd : event.delivery? with
  | some delivery =>
    obtain ⟨t, bytes⟩ := delivery
    have hdelivery : (chip.occurrence event).delivery s =
        if t = s ∧ chip.accepts event then bytes else [] := by
      show (match event.delivery? with | some (t, bytes) => _ | none => _) = _
      rw [hd]
      rfl
    have haccepts : chip.accepts event ↔ chip.fits t bytes := by
      rw [accepts_of_delivery hd, decide_eq_true_iff]
      rfl
    rw [hdelivery]
    by_cases hbrings : t = s ∧ chip.fits t bytes
    · obtain ⟨rfl, hfits⟩ := hbrings
      exact .inl ⟨bytes, rfl, hfits, if_pos ⟨rfl, haccepts.2 hfits⟩⟩
    · refine .inr ⟨?_, if_neg fun hc => hbrings ⟨hc.1, haccepts.1 hc.2⟩⟩
      rintro _ ⟨⟩ hfits
      exact hbrings ⟨rfl, hfits⟩
  | none =>
    refine .inr ⟨nofun, ?_⟩
    show (match event.delivery? with | some (t, bytes) => _ | none => _) = _
    rw [hd]

/-- An event that brings nothing for the socket changes nothing of its ring. -/
theorem sameInlet_happen {event : Event} (hordinary : event.isOrdinary)
    (hnothing : ∀ bytes, event.delivery? = some (s, bytes) → ¬chip.fits s bytes) :
    chip.SameInlet (chip.happen event) s := by
  cases hd : event.delivery? with
  | some delivery =>
    obtain ⟨t, bytes⟩ := delivery
    rw [happen_of_delivery hd]
    by_cases ht : t = s
    · subst ht
      rw [store_of_not_fits _ _ (hnothing bytes hd)]
      exact .of_memory rfl rfl
    · exact chip.sameInlet_store s _ ht
  | none =>
    cases event with
    | socketInterrupt t bits => exact chip.sameInlet_raiseSocket s t bits
    | globalInterrupt bits => exact chip.sameInlet_raiseGlobal s bits
    | setStatus t status => exact chip.sameInlet_setByteOf s t _ (by decide) rfl
    | setWord => cases hordinary
    | udp | tcp | ipRaw | macRaw => cases hd

/-- An event appends what it brings for the socket, and changes nothing else of its ring. -/
theorem Carries.happen (h : chip.Carries s inlet) {event : Event}
    (hordinary : event.isOrdinary) :
    (chip.happen event).Carries s (inlet.push (delivered s [chip.occurrence event])) := by
  rw [delivered_singleton]
  obtain ⟨bytes, hd, hfits, hbrought⟩ | ⟨hnothing, hbrought⟩ := chip.delivery_occurrence event s
  · rw [hbrought, happen_of_delivery hd]
    exact h.store hfits
  · rw [hbrought, Inlet.push_nil]
    exact h.same (sameInlet_happen hordinary hnothing) (chip.casing_happen hordinary)

/-- What is appended are datagrams if the event brings nothing else for the socket. -/
theorem Holds.happen (h : chip.Holds s inlet) {event : Event} (hordinary : event.isOrdinary)
    (hsuits : event.suits s inlet.framing) :
    (chip.happen event).Holds s (inlet.after s [chip.occurrence event]) := by
  have hcarries := h.carries.happen hordinary
  rw [Inlet.push_delivered] at hcarries
  · refine hcarries.holds ?_ ?_
    · rw [queue_of_casing (chip.casing_happen hordinary)]
      exact h.suits
    · rw [byteOf_happen (by decide) (by decide) (by decide) hordinary (fun hr => by cases hr)]
      exact h.mode
  · intro occurrence hmem
    rw [List.mem_singleton.1 hmem]
    exact hsuits

/-! ## Frames -/

/-- A quiet frame leaves the ring alone. -/
theorem sameInlet_serve (hpresent : chip.absent = none) {frame : Frame} (hf : frame.IsQuiet) :
    chip.SameInlet (chip.serve frame).2 s := by
  refine ⟨byteOf_serve_of_isQuiet hpresent hf (by decide) s, ?_,
    fun hw => wordOf_serve_of_isQuiet hpresent hf hw s, fun {place} hplace => ?_⟩
  · obtain ⟨busy, -, heq⟩ := latches_serve_of_isQuiet hpresent hf s
    rw [heq]
  · have hbase := toNat_rxBase s
    refine memory_serve_of_isQuiet hpresent hf ?_ fun t => ?_
    · have hi : CommonRegister.interrupt.address.toNat = 0x15 := rfl
      omega
    · have hmem := SocketRegister.interrupt.address_mem t
      omega

theorem Carries.serve (h : chip.Carries s inlet) {frame : Frame} (hf : frame.IsQuiet) :
    (chip.serve frame).2.Carries s inlet :=
  h.same (sameInlet_serve h.steady.present hf) (casing_serve h.steady.present hf.isLocal)

theorem Carries.beforeEvents (h : chip.Carries s inlet) : chip.beforeEvents.Carries s inlet :=
  h.congr (.of_memory rfl rfl) h.steady.beforeEvents

/-- Behind a frame, the bytes that were due have been appended. -/
theorem Carries.afterFrame (h : chip.Carries s inlet) :
    chip.afterFrame.Carries s (inlet.push (delivered s chip.frameOccurrences)) := by
  refine afterFrame_induction [] (P := fun c o => c.Carries s (inlet.push (delivered s o))) ?_ ?_
  · rw [delivered_nil, Inlet.push_nil]
    exact h.beforeEvents
  · intro c o scheduled hs hc
    rw [Inlet.push_delivered_append]
    exact hc.happen (h.steady.ordinary scheduled hs)

/-- Behind a frame, the datagrams that were due have been appended. -/
theorem Holds.afterFrame (h : chip.Holds s inlet) :
    chip.afterFrame.Holds s (inlet.after s chip.frameOccurrences) := by
  refine afterFrame_induction [] (P := fun c o => c.Holds s (inlet.after s o)) ?_ ?_
  · rw [Inlet.after_nil]
    exact h.carries.beforeEvents.holds
      (fun scheduled hs => h.suits scheduled (List.mem_filter.1 hs).1) h.mode
  · intro c o scheduled hs hc
    rw [Inlet.after_append]
    exact hc.happen (h.steady.ordinary scheduled hs) (h.suits scheduled hs)

end Chip

end SpiEthernet
