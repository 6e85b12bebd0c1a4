import SpiEthernet.Proofs.Interrupt.Visits
import SpiEthernet.Proofs.Receive.Travel
import SpiEthernet.Proofs.Send.Travel

/-!
# What belongs to which socket

Every socket has its own block of registers and its own two rings. A frame tends a socket if it
writes to nothing else, and collecting interrupts touches nothing of the others but their flags. So
whatever is done about one socket, another one looks as if nothing had happened to it but what was
delivered to it.

* `sameBeside_command` : a command changes what belongs to its own socket only.
* `sameSocket_serve` : a frame that concerns one socket leaves the others as they are.
* `Passes.sameSocket` : so do many such frames, deliveries apart.
-/

namespace SpiEthernet

/-! ## Places of a socket -/

/-- A place of memory that belongs to a socket: its registers and its two rings. -/
def SocketId.Owns (s : SocketId) (address : Nat) : Prop :=
  (0x0400 + 0x0100 * s.val ≤ address ∧ address < 0x0500 + 0x0100 * s.val) ∨
    (0x4000 + 0x0800 * s.val ≤ address ∧ address < 0x4800 + 0x0800 * s.val) ∨
    (0x6000 + 0x0800 * s.val ≤ address ∧ address < 0x6800 + 0x0800 * s.val)

namespace SocketId

variable {s t : SocketId} {address : Nat}

theorem owns_register (r : SocketRegister) (s : SocketId) {i : Nat} (h : i < r.width) :
    s.Owns ((r.address s).toNat + i) := by
  have hend := r.offset_add_width_le
  rw [r.toNat_address, Owns]
  omega

/-- No place belongs to two sockets. -/
theorem Owns.not_owns (h : s.Owns address) (hst : s ≠ t) : ¬t.Owns address := by
  have hne : s.val ≠ t.val := fun he => hst (Fin.ext he)
  have hs := s.isLt
  have ht := t.isLt
  unfold Owns at h ⊢
  omega

theorem Owns.eq (h : s.Owns address) (h' : t.Owns address) : s = t :=
  Decidable.byContradiction fun hst => h.not_owns hst h'

theorem owns_of_transmitsAt (h : s.TransmitsAt address) : s.Owns address := by
  unfold TransmitsAt at h
  unfold Owns
  omega

theorem owns_of_receivesAt (h : s.ReceivesAt address) : s.Owns address := by
  unfold ReceivesAt at h
  unfold Owns
  omega

end SocketId

/-- A frame that reads, or that writes to a place of one socket. -/
def Frame.Tends (s : SocketId) (frame : Frame) : Prop :=
  frame.direction = .write → s.Owns frame.address.toNat

/-- A frame that tends a socket, or that touches nothing but flags. -/
def Frame.Concerns (s : SocketId) (frame : Frame) : Prop := frame.Tends s ∨ frame.IsQuiet

/-- A frame that concerns a socket and is not the command to open it. -/
structure Frame.Uses (s : SocketId) (frame : Frame) : Prop where
  concerns : frame.Concerns s
  spares (hw : frame.direction = .write) (ha : frame.address = SocketRegister.command.address s) :
    frame.data ≠ SocketCommand.open.code

theorem Frame.IsStaging.tends {s : SocketId} {frame : Frame} (h : frame.IsStaging s) :
    frame.Tends s := fun hw => SocketId.owns_of_transmitsAt (h hw)

theorem Frame.IsReceivingOn.tends {s : SocketId} {frame : Frame} (h : frame.IsReceivingOn s) :
    frame.Tends s := by
  intro hw
  rcases h hw with ha | ha | ⟨ha, -⟩
  · rw [ha]
    exact SocketId.owns_register .rxRead s (i := 0) (by decide)
  · rw [ha, SocketRegister.toNat_address_succ rfl]
    exact SocketId.owns_register .rxRead s (i := 1) (by decide)
  · rw [ha]
    exact SocketId.owns_register .command s (i := 0) (by decide)

theorem Frame.IsQuiet.uses {frame : Frame} (h : frame.IsQuiet) (s : SocketId) :
    frame.Uses s where
  concerns := .inr h
  spares hw ha := by
    rcases h hw with hi | ⟨t, ht⟩
    · exact absurd (ha.symm.trans hi) (SocketRegister.address_ne_of_lt _ _ (by decide))
    · cases (SocketRegister.address_inj (ht.symm.trans ha)).1

theorem Frame.IsReceivingOn.uses {s : SocketId} {frame : Frame} (h : frame.IsReceivingOn s) :
    frame.Uses s where
  concerns := .inl h.tends
  spares hw ha := by
    rcases h hw with hr | hr | ⟨-, hdata⟩
    · cases (SocketRegister.address_inj (hr.symm.trans ha)).1
    · exact absurd (hr.symm.trans ha) (SocketRegister.address_succ_ne rfl _ _ _)
    · rw [hdata]
      decide

/-- Registers of a socket may be written to, and so may its command register if the command is not
the one to open it. -/
theorem Frame.uses_write {s : SocketId} {address : UInt16} {value : UInt8}
    (hplace : s.Owns address.toNat)
    (hdata : address = SocketRegister.command.address s → value ≠ SocketCommand.open.code) :
    (Frame.write address value).Uses s :=
  ⟨.inl fun _ => hplace, fun _ => hdata⟩

theorem Frame.IsStaging.uses {s : SocketId} {frame : Frame} (h : frame.IsStaging s) :
    frame.Uses s where
  concerns := .inl h.tends
  spares hw ha := by
    have hplace := h hw
    rw [ha] at hplace
    exact absurd hplace (s.not_transmitsAt_register (by decide) s)

namespace Memory

variable {memory other : Memory} {address : Nat}

/-! ## The same writes -/

theorem read_write_congr (h : memory.read address = other.read address) (place : Nat)
    (value : UInt8) :
    (memory.write place value).read address = (other.write place value).read address := by
  by_cases hplace : place = address
  · subst hplace
    by_cases hlt : place < 0x8000
    · rw [read_write_self _ _ hlt, read_write_self _ _ hlt]
    · rw [read_of_le _ (Nat.not_lt.1 hlt), read_of_le _ (Nat.not_lt.1 hlt)]
  · rw [read_write_of_ne _ _ hplace, read_write_of_ne _ _ hplace, h]

theorem read_writeWord_congr (h : memory.read address = other.read address) (place : Nat)
    (value : UInt16) :
    (memory.writeWord place value).read address = (other.writeWord place value).read address :=
  read_write_congr (read_write_congr h _ _) _ _

theorem read_writeRing_congr (base : Nat) (bytes : List UInt8) :
    ∀ {memory other : Memory} (pointer : UInt16), memory.read address = other.read address →
      (memory.writeRing base pointer bytes).read address =
        (other.writeRing base pointer bytes).read address := by
  induction bytes with
  | nil => exact fun _ h => h
  | cons byte bytes ih => exact fun pointer h => ih _ (read_write_congr h _ _)

end Memory

namespace Chip

variable {chip chip' chip'' : Chip} {s t : SocketId}

/-! ## Beside one socket -/

/-- Nothing is different in the second state that does not belong to a socket. -/
structure SameBeside (chip chip' : Chip) (s : SocketId) : Prop where
  latches {t : SocketId} (h : s ≠ t) : chip'.latches[t] = chip.latches[t]
  places {address : Nat} (h : ¬s.Owns address) :
    chip'.memory.read address = chip.memory.read address

theorem SameBeside.of_memory (hmemory : chip'.memory = chip.memory)
    (hlatches : chip'.latches = chip.latches) : chip.SameBeside chip' s :=
  ⟨fun _ => by rw [hlatches], fun _ => by rw [hmemory]⟩

theorem SameBeside.trans (h : chip.SameBeside chip' s) (h' : chip'.SameBeside chip'' s) :
    chip.SameBeside chip'' s :=
  ⟨fun ht => (h'.latches ht).trans (h.latches ht), fun ha => (h'.places ha).trans (h.places ha)⟩

variable (chip s)

theorem sameBeside_poke {address : UInt16} (value : UInt8) (h : s.Owns address.toNat) :
    chip.SameBeside (chip.poke address value) s :=
  ⟨fun _ => rfl, fun ha => chip.read_poke_of_ne value fun he => ha (he ▸ h)⟩

theorem sameBeside_setByteOf (r : SocketRegister) (value : UInt8) :
    chip.SameBeside (chip.setByteOf r s value) s :=
  chip.sameBeside_poke s value (SocketId.owns_register r s (i := 0) r.width_pos)

theorem sameBeside_setWordOf {r : SocketRegister} (hw : r.width = 2) (value : UInt16) :
    chip.SameBeside (chip.setWordOf r s value) s where
  latches _ := rfl
  places {address} ha := by
    have hhigh := SocketId.owns_register r s (i := 0) r.width_pos
    have hlow := SocketId.owns_register r s (i := 1) (by omega)
    exact Memory.read_writeWord_of_ne _ _ (fun he => ha (he ▸ hhigh)) fun he => ha (he ▸ hlow)

theorem sameBeside_mapLatch (f : SocketLatch → SocketLatch) :
    chip.SameBeside (chip.mapLatch s f) s :=
  ⟨fun ht => chip.latches_mapLatch_of_ne f ht, fun _ => rfl⟩

theorem sameBeside_raiseSocket (bits : UInt8) : chip.SameBeside (chip.raiseSocket s bits) s :=
  (chip.sameBeside_setByteOf s _ _).trans (.of_memory (memory_assertLine _) (latches_assertLine _))

theorem sameBeside_setPointers (tx rx : UInt16) :
    chip.SameBeside (chip.setPointers s tx rx) s := by
  have hlatched := chip.sameBeside_mapLatch s
    fun latch => { latch with txWrite := tx, rxRead := rx }
  have htx := (hlatched.trans (sameBeside_setWordOf _ s (r := .txWrite) rfl tx)).trans
    (sameBeside_setWordOf _ s (r := .txRead) rfl tx)
  have hrx := (htx.trans (sameBeside_setWordOf _ s (r := .rxWrite) rfl rx)).trans
    (sameBeside_setWordOf _ s (r := .rxRead) rfl rx)
  exact (hrx.trans (sameBeside_setWordOf _ s (r := .txFree) rfl _)).trans
    (sameBeside_setWordOf _ s (r := .rxSize) rfl 0)

theorem sameBeside_releaseTx : chip.SameBeside (chip.releaseTx s) s :=
  ((chip.sameBeside_setWordOf s (r := .txRead) rfl _).trans (sameBeside_mapLatch _ s _)).trans
    (sameBeside_setWordOf _ s (r := .txFree) rfl _)

theorem sameBeside_transmit : chip.SameBeside (chip.transmit s) s := by
  have hreleased := chip.sameBeside_releaseTx s
  have hraised (bits : UInt8) := hreleased.trans (sameBeside_raiseSocket _ s bits)
  simp only [transmit]
  split
  · simp only [failTransmit]
    split
    · exact (hraised _).trans (sameBeside_setByteOf _ s .status _)
    · exact hraised _
  · refine (hraised SocketFlag.sendOk).trans ?_
    unfold answer
    split <;> exact .of_memory rfl rfl

/-- A command changes what belongs to its own socket only. -/
theorem sameBeside_command (code : UInt8) : chip.SameBeside (chip.command s code) s := by
  have hgiven := (chip.sameBeside_setByteOf s .command code).trans (sameBeside_mapLatch _ s
    fun latch => { latch with busy := chip.commandLatency.toNat })
  simp only [command]
  split
  · next command _ =>
    refine hgiven.trans ?_
    cases command with
    | «open» => exact (sameBeside_setByteOf _ s .status _).trans (sameBeside_setPointers _ s 0 0)
    | listen => exact sameBeside_setByteOf _ s .status _
    | connect | disconnect =>
      exact (sameBeside_setByteOf _ s .status _).trans (sameBeside_raiseSocket _ s _)
    | close => exact (sameBeside_setByteOf _ s .status _).trans (sameBeside_setByteOf _ s _ 0)
    | receive => exact (sameBeside_mapLatch _ s _).trans (sameBeside_setWordOf _ s rfl _)
    | send | sendMac | sendKeep => exact sameBeside_transmit _ s
  · exact hgiven

/-- What arrives for a socket changes what belongs to the socket only. -/
theorem sameBeside_store (bytes : List UInt8) : chip.SameBeside (chip.store s bytes) s := by
  by_cases hfits : chip.fits s bytes
  · rw [store_of_fits _ _ hfits]
    refine SameBeside.trans ⟨fun _ => by rw [latches_pushed], fun ha => ?_⟩
      (sameBeside_raiseSocket _ s _)
    exact chip.read_pushed_of_outside s bytes fun hreceives =>
      ha (SocketId.owns_of_receivesAt hreceives)
  · rw [store_of_not_fits _ _ hfits]
    exact .of_memory rfl rfl

variable {chip s}

/-- What is written to a place of a socket changes what belongs to the socket only. -/
theorem sameBeside_write (h : chip.absent = none) {address : UInt16} (value : UInt8)
    (ha : s.Owns address.toNat) : chip.SameBeside (chip.write address value) s := by
  have hregister (r : SocketRegister) {t : SocketId} (he : address = r.address t) : s = t := by
    rw [he] at ha
    exact ha.eq (SocketId.owns_register r t (i := 0) r.width_pos)
  have heffect := writeEffect h address value
  generalize chip.write address value = after at *
  cases heffect with
  | reset he | clearGlobal he =>
    rw [he] at ha
    unfold SocketId.Owns at ha
    simp only [CommonRegister.address, UInt16.reduceToNat] at ha
    omega
  | clearSocket t he =>
    obtain rfl := hregister _ he
    exact chip.sameBeside_setByteOf s _ _
  | command t he =>
    obtain rfl := hregister _ he
    exact chip.sameBeside_command s value
  | memory => exact chip.sameBeside_poke s value ha

end Chip

/-- Tending one socket spares the flags of the others. -/
theorem Frame.Tends.spares {s t : SocketId} {frame : Frame} (h : frame.Tends s) (hst : s ≠ t) :
    frame.Spares (.socket t) := by
  cases hd : frame.direction with
  | read => exact Frame.spares_of_read hd _
  | write =>
    obtain ⟨direction, address, value⟩ := frame
    cases hd
    intro chip hpresent
    have hplace := SocketId.owns_register .interrupt t (i := 0) (by decide)
    exact (chip.sameBeside_write hpresent value (h rfl)).places (hplace.not_owns hst.symm)

namespace Chip

variable {chip chip' chip'' : Chip} {s t : SocketId}

/-! ## Other sockets -/

/-- A socket has the same registers and the same rings in the second state, flags apart; its last
command may be shown for fewer reads. -/
structure SameSocket (chip chip' : Chip) (t : SocketId) : Prop where
  latch : ∃ busy ≤ chip.latches[t].busy, chip'.latches[t] = { chip.latches[t] with busy }
  places {address : Nat} (h : t.Owns address)
    (hi : address ≠ (SocketRegister.interrupt.address t).toNat) :
    chip'.memory.read address = chip.memory.read address

theorem SameSocket.of_memory (hmemory : chip'.memory = chip.memory)
    (hlatches : chip'.latches = chip.latches) : chip.SameSocket chip' t :=
  ⟨⟨_, Nat.le_refl _, by rw [hlatches]⟩, fun _ _ => by rw [hmemory]⟩

theorem SameSocket.trans (h : chip.SameSocket chip' t) (h' : chip'.SameSocket chip'' t) :
    chip.SameSocket chip'' t := by
  obtain ⟨busy, hbusy, hlatch⟩ := h.latch
  obtain ⟨busy', hbusy', hlatch'⟩ := h'.latch
  rw [hlatch] at hbusy' hlatch'
  exact ⟨⟨busy', Nat.le_trans hbusy' hbusy, hlatch'⟩,
    fun ha hi => (h'.places ha hi).trans (h.places ha hi)⟩

theorem SameBeside.sameSocket (h : chip.SameBeside chip' s) (hst : s ≠ t) :
    chip.SameSocket chip' t :=
  ⟨⟨_, Nat.le_refl _, h.latches hst⟩, fun ha _ => h.places (ha.not_owns hst.symm)⟩

theorem SameSocket.wordOf (h : chip.SameSocket chip' t) {r : SocketRegister} (hw : r.width = 2) :
    chip'.wordOf r t = chip.wordOf r t := by
  have hne : r ≠ .interrupt := by
    rintro rfl
    cases hw
  have hd := SocketRegister.address_disjoint_of_ne hne t t
  have hwidth : SocketRegister.interrupt.width = 1 := rfl
  exact wordOf_eq_of_places
    (h.places (SocketId.owns_register r t (i := 0) r.width_pos) (by omega))
    (h.places (SocketId.owns_register r t (by omega)) (by omega))

/-- Two chips on which a socket is the same take the same deliveries in the same way. -/
theorem SameSocket.store (h : chip.SameSocket chip' t) (bytes : List UInt8) :
    (chip.store t bytes).SameSocket (chip'.store t bytes) t := by
  have hsize : chip'.wordOf .rxSize t = chip.wordOf .rxSize t := h.wordOf rfl
  have hwrite : chip'.wordOf .rxWrite t = chip.wordOf .rxWrite t := h.wordOf rfl
  have hrxRead : chip'.latches[t].rxRead = chip.latches[t].rxRead := by
    obtain ⟨busy, -, hlatch⟩ := h.latch
    rw [hlatch]
  refine ⟨by rw [latches_store, latches_store]; exact h.latch, fun {address} ha hi => ?_⟩
  by_cases hfits : chip.fits t bytes
  · have hfits' : chip'.fits t bytes := by rwa [fits, hsize]
    rw [store_of_fits _ _ hfits, store_of_fits _ _ hfits', read_raiseSocket _ _ _ hi,
      read_raiseSocket _ _ _ hi]
    have hend (c : Chip) (value : UInt16) : (c.setWordOf .rxWrite t value).wordOf .rxWrite t =
        value := by
      rw [wordOf_setWordOf _ _ _ _ rfl rfl, if_pos ⟨rfl, rfl⟩]
    simp only [pushed, updateRxSize, hend, latches_setWordOf, hwrite, hrxRead]
    exact Memory.read_writeWord_congr (Memory.read_writeWord_congr
      (Memory.read_writeRing_congr _ _ _ (h.places ha hi)) _ _) _ _
  · have hfits' : ¬chip'.fits t bytes := by rwa [fits, hsize]
    rw [store_of_not_fits _ _ hfits, store_of_not_fits _ _ hfits']
    exact h.places ha hi

/-- A frame that concerns one socket leaves the others as they are. -/
theorem sameSocket_serve (h : chip.absent = none) {frame : Frame} (hf : frame.Concerns s)
    (hst : s ≠ t) : chip.SameSocket (chip.serve frame).2 t := by
  have hquiet (hq : frame.IsQuiet) : chip.SameSocket (chip.serve frame).2 t := by
    refine ⟨latches_serve_of_isQuiet h hq t, fun {address} ha hi => ?_⟩
    have ht := t.isLt
    have hcommon : CommonRegister.interrupt.address.toNat = 0x15 := rfl
    refine memory_serve_of_isQuiet h hq (fun he => ?_) fun u hu => ?_
    · unfold SocketId.Owns at ha
      omega
    · obtain rfl := ha.eq (hu ▸ SocketId.owns_register .interrupt u (i := 0) (by decide))
      exact hi hu
  rcases hf with htends | hq
  · obtain ⟨direction, address, value⟩ := frame
    cases direction with
    | read => exact hquiet (Frame.isQuiet_of_read rfl)
    | write => exact (chip.sameBeside_write h value (htends rfl)).sameSocket hst
  · exact hquiet hq

end Chip

/-! ## Deliveries -/

/-- Whether an event brings something for a socket. -/
def Event.isFor (t : SocketId) (event : Event) : Bool :=
  match event.delivery? with
  | some (u, _) => u = t
  | none => false

namespace Chip

variable {chip chip' : Chip} {s t : SocketId}

/-- The chip to which nothing has happened but what was delivered to one socket. -/
def afterDeliveries (chip : Chip) (t : SocketId) (o : List Occurrence) : Chip :=
  (o.filter fun occurrence => occurrence.event.isFor t).foldl
    (fun chip occurrence => chip.happen occurrence.event) chip

theorem afterDeliveries_concat (chip : Chip) (t : SocketId) (o : List Occurrence)
    (occurrence : Occurrence) :
    chip.afterDeliveries t (o ++ [occurrence]) =
      if occurrence.event.isFor t then (chip.afterDeliveries t o).happen occurrence.event
      else chip.afterDeliveries t o := by
  rw [afterDeliveries, List.filter_append, List.foldl_append]
  by_cases hfor : occurrence.event.isFor t
  · rw [if_pos hfor, List.filter_cons, if_pos hfor]
    rfl
  · rw [if_neg hfor, List.filter_cons, if_neg hfor]
    rfl

/-- A socket takes what is delivered to it, and nothing else that is delivered shows there. -/
theorem SameSocket.happen {o : List Occurrence} (h : (chip.afterDeliveries t o).SameSocket chip' t)
    {event : Event} (hdelivery : event.delivery?.isSome) :
    (chip.afterDeliveries t (o ++ [chip'.occurrence event])).SameSocket (chip'.happen event) t := by
  obtain ⟨⟨u, bytes⟩, hevent⟩ := Option.isSome_iff_exists.1 hdelivery
  have hfor : event.isFor t = decide (u = t) := by rw [Event.isFor, hevent]
  rw [afterDeliveries_concat]
  show SameSocket (if event.isFor t then (chip.afterDeliveries t o).happen event else _) _ t
  rw [hfor, happen_of_delivery hevent, happen_of_delivery hevent]
  by_cases hut : u = t
  · subst hut
    rw [if_pos (decide_eq_true rfl)]
    exact h.store bytes
  · rw [if_neg (by simpa using hut)]
    exact h.trans ((chip'.sameBeside_store u bytes).sameSocket hut)

end Chip

/-- After frames that concern one socket, another one is as if nothing had happened to it but what
was delivered to it. -/
theorem Endpoint.Passes.sameSocket {P : Frame → Prop} {start now : Endpoint} {o : List Occurrence}
    {s t : SocketId} (h : start.Passes P o now) (hP : ∀ frame, P frame → frame.Concerns s)
    (hs : start.chip.Visited) (hst : s ≠ t) :
    (start.chip.afterDeliveries t o).SameSocket now.chip t := by
  induction h with
  | refl => exact .of_memory rfl rfl
  | @turn o now h frame hf ih =>
    have hvisited := (h.visited hs).1
    have hserved := Chip.sameSocket_serve hvisited.present (hP frame hf) hst
    refine Chip.afterFrame_induction o
      (P := fun c o => (start.chip.afterDeliveries t o).SameSocket c t)
      (ih.trans (hserved.trans (.of_memory rfl rfl))) ?_
    exact fun c o scheduled hq hc => hc.happen ((hvisited.serve frame).arrivals scheduled hq)
  | mask _ _ ih => exact ih
  | notice _ ih => exact ih.trans (.of_memory rfl rfl)

end SpiEthernet
