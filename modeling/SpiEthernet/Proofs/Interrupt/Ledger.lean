import SpiEthernet.Proofs.Interrupt.Flow
import SpiEthernet.Proofs.Interrupt.Handler
import SpiEthernet.Proofs.Receive.Travel

/-!
# Keeping account of interrupt flags

A ledger lists what operations have answered and what has happened to the chip meanwhile. It is in
balance if, for every source of flags, what was taken out, what the driver still keeps and what is
still raised in the chip are together exactly what has been raised, and if no flag was taken out
more often than it was raised.

* `Accounts.balanced` : a ledger that was begun with all flags clear is in balance.
* `Habit.performAll_accounted` : a run of collecting operations always ends, and what it answers
  accounts for every flag.
-/

namespace SpiEthernet

/-! ## Operations that collect -/

/-- Whether an operation on a socket drains, takes, receives or only looks. -/
def SocketOperation.isCollecting : SocketOperation → Bool
  | .status | .stickyFlags | .takeFlags _ | .freeTx | .pendingRx | .receive _ | .peek
  | .receiveFrom _ => true
  | _ => false

/-- Whether an operation drains, takes, receives or only looks. -/
def DeviceOperation.isCollecting : DeviceOperation → Bool
  | .drain => true
  | .takeGlobal bit => bit = InterruptFlag.conflict || bit = InterruptFlag.unreachable
  | .socket _ operation => operation.isCollecting
  | _ => false

/-- The flags of a source that an operation has taken out, given its answer. -/
def takenBy : DeviceOperation × Outcome → FlagSource → UInt8
  | (.socket s (.takeFlags _), .number n), .socket t => if s = t then UInt8.ofNat n else 0
  | (.takeGlobal bit, .flag true), .chip => bit
  | _, _ => 0

/-! ## Ledgers -/

/-- What operations have answered, and what has happened to the chip meanwhile. -/
structure Ledger where
  answers : List (DeviceOperation × Outcome)
  occurrences : List Occurrence

namespace Ledger

/-- The ledger of nothing. -/
def empty : Ledger := ⟨[], []⟩

/-- Two ledgers, one after the other. -/
def append (first second : Ledger) : Ledger :=
  ⟨first.answers ++ second.answers, first.occurrences ++ second.occurrences⟩

instance : Append Ledger := ⟨append⟩

/-- The flags of a source that were taken out, one byte for each answer. -/
def taken (ledger : Ledger) (source : FlagSource) : List UInt8 :=
  ledger.answers.map (takenBy · source)

/-- The flags of a source that were raised, one byte for each occurrence. -/
def raised (ledger : Ledger) (source : FlagSource) : List UInt8 :=
  ledger.occurrences.map (·.raises source)

end Ledger

/-- The flags that occur in some bytes. -/
def union (bytes : List UInt8) : UInt8 := bytes.foldr (· ||| ·) 0

/-- The ledger, begun with all flags clear, accounts for the flags of every source that the
driver keeps and that are raised in the chip. -/
structure Ledger.Balanced (ledger : Ledger) (chip : Chip) (flags : StickyFlags) : Prop where
  /-- Nothing is lost and nothing invented. -/
  union_eq (source : FlagSource) :
    union (ledger.taken source) ||| flags.flagsOf source ||| chip.flagsOf source =
      union (ledger.raised source)
  /-- No flag is delivered more often than it was raised. -/
  count_le (source : FlagSource) (i : Nat) (hi : i < 8) :
    (ledger.taken source).countP (bit · i) ≤ (ledger.raised source).countP (bit · i)

theorem bit_union (bytes : List UInt8) (i : Nat) : bit (union bytes) i = bytes.any (bit · i) := by
  induction bytes with
  | nil => exact bit_zero i
  | cons byte bytes ih =>
    show bit (byte ||| union bytes) i = _
    rw [bit_or, ih, List.any_cons]

theorem any_eq_decide_countP (bytes : List UInt8) (i : Nat) :
    bytes.any (bit · i) = decide (0 < bytes.countP (bit · i)) := by
  rw [Bool.eq_iff_iff, List.any_eq_true, decide_eq_true_eq, List.countP_pos_iff]

/-! ## The way of one bit -/

/-- A bit may change from `collected` and `raised` to `collected'` and `raised'` while it is
raised `count` times and taken out `taken` times. -/
structure Balance (collected raised : Bool) (count taken : Nat) (collected' raised' : Bool) :
    Prop where
  kept : (decide (0 < taken) || collected' || raised') =
    (collected || raised || decide (0 < count))
  counted : taken + collected'.toNat + raised'.toNat ≤ collected.toNat + raised.toNat + count

namespace Balance

variable {c c' c'' r r' r'' : Bool} {n n' t t' : Nat}

theorem of_moves (h : Moves c r n c' r') : Balance c r n 0 c' r' := by
  constructor
  · simpa using h.kept
  · have := h.counted
    omega

theorem trans (h : Balance c r n t c' r') (h' : Balance c' r' n' t' c'' r'') :
    Balance c r (n + n') (t + t') c'' r'' := by
  constructor
  · have hk := h.kept
    have hk' := h'.kept
    simp only [Nat.add_pos_iff_pos_or_pos, Bool.decide_or]
    calc (decide (0 < t) || decide (0 < t') || c'' || r'')
        = (decide (0 < t) || (decide (0 < t') || c'' || r'')) := by simp only [Bool.or_assoc]
      _ = (decide (0 < t) || c' || r' || decide (0 < n')) := by
          rw [hk']
          simp only [Bool.or_assoc]
      _ = (c || r || (decide (0 < n) || decide (0 < n'))) := by
          rw [hk]
          simp only [Bool.or_assoc]
  · have := h.counted
    have := h'.counted
    omega

/-- A bit that is kept may be taken out, and is not kept any more then. -/
theorem take (c r mask : Bool) : Balance c r 0 (c && mask).toNat (c && !mask) r := by
  constructor <;> cases c <;> cases r <;> cases mask <;> decide

end Balance

/-- How often operations have taken out a bit of a source. -/
def takeCount (source : FlagSource) (i : Nat) (answers : List (DeviceOperation × Outcome)) : Nat :=
  answers.countP fun answer => bit (takenBy answer source) i

/-- Between two states of chip and driver, the ledger accounts for every bit of every source. -/
def Ledger.Accounts (ledger : Ledger) (chip : Chip) (flags : StickyFlags) (chip' : Chip)
    (flags' : StickyFlags) : Prop :=
  ∀ source, ∀ i < 8, Balance (bit (flags.flagsOf source) i) (bit (chip.flagsOf source) i)
    (raiseCount source i ledger.occurrences) (takeCount source i ledger.answers)
    (bit (flags'.flagsOf source) i) (bit (chip'.flagsOf source) i)

namespace Ledger.Accounts

variable {first second : Ledger} {chip chip' chip'' : Chip} {flags flags' flags'' : StickyFlags}
  {o : List Occurrence}

theorem of_flow {answers : List (DeviceOperation × Outcome)}
    (h : ∀ source, Flow source o chip flags chip' flags')
    (hnone : ∀ source, ∀ answer ∈ answers, takenBy answer source = 0) :
    Ledger.Accounts ⟨answers, o⟩ chip flags chip' flags' := by
  intro source i hi
  have hzero : takeCount source i answers = 0 := by
    rw [takeCount, List.countP_eq_zero]
    intro answer ha
    rw [hnone source answer ha]
    simp
  rw [hzero]
  exact Balance.of_moves (h source i hi)

theorem refl : Ledger.empty.Accounts chip flags chip flags :=
  of_flow (fun _ => Flow.refl) (by simp)

theorem trans (h : first.Accounts chip flags chip' flags')
    (h' : second.Accounts chip' flags' chip'' flags'') :
    (first ++ second).Accounts chip flags chip'' flags'' := by
  intro source i hi
  have hraise : raiseCount source i (first ++ second).occurrences =
      raiseCount source i first.occurrences + raiseCount source i second.occurrences :=
    raiseCount_append _ _ _ _
  have htake : takeCount source i (first ++ second).answers =
      takeCount source i first.answers + takeCount source i second.answers := List.countP_append
  rw [hraise, htake]
  exact (h source i hi).trans (h' source i hi)

/-- A ledger that was begun with all flags clear is in balance. -/
theorem balanced (h : first.Accounts chip flags chip' flags')
    (hflags : ∀ source, flags.flagsOf source = 0) (hchip : ∀ source, chip.flagsOf source = 0) :
    first.Balanced chip' flags' := by
  have htaken : ∀ source i, (first.taken source).countP (bit · i) =
      takeCount source i first.answers := fun _ _ => List.countP_map ..
  have hraised : ∀ source i, (first.raised source).countP (bit · i) =
      raiseCount source i first.occurrences := fun _ _ => List.countP_map ..
  constructor
  · intro source
    refine ext_bit fun i hi => ?_
    have hkept := (h source i hi).kept
    rw [hflags, hchip, bit_zero, Bool.false_or, Bool.false_or] at hkept
    rw [bit_or, bit_or, bit_union, bit_union, any_eq_decide_countP, any_eq_decide_countP, htaken,
      hraised]
    exact hkept
  · intro source i hi
    have hcounted := (h source i hi).counted
    rw [hflags, hchip, bit_zero] at hcounted
    rw [htaken, hraised]
    simp only [Bool.toNat_false] at hcounted
    omega

end Ledger.Accounts

/-! ## Frames that collect nothing -/

theorem Chip.flagsOf_congr {chip chip' : Chip} (hstored : chip'.stored = chip.stored)
    (hflags : ∀ s, chip'.byteOf .interrupt s = chip.byteOf .interrupt s) (source : FlagSource) :
    chip'.flagsOf source = chip.flagsOf source := by
  cases source with
  | socket s => exact hflags s
  | chip =>
    show chip'.stored &&& _ = chip.stored &&& _
    rw [hstored]

/-- Receiving leaves the flags of every source to the events. -/
theorem Frame.IsReceiving.spares {frame : Frame} (h : frame.IsReceiving) (source : FlagSource) :
    frame.Spares source := by
  cases hd : frame.direction with
  | read => exact Frame.spares_of_read hd source
  | write =>
    obtain ⟨direction, address, data⟩ := frame
    cases hd
    intro chip hpresent
    obtain ⟨s, ha | ha | ⟨ha, hdata⟩⟩ := h rfl
    · show (chip.write address data).flagsOf source = _
      rw [show address = _ from ha, Chip.write_register hpresent s _ (by decide) (by decide)]
      refine Chip.flagsOf_congr (chip.stored_setByteOf s _ _) (fun t => ?_) source
      rw [Chip.byteOf_setByteOf, if_neg fun hc => by cases hc.1]
    · show (chip.write address data).flagsOf source = _
      rw [show address = _ from ha, Chip.write_register_succ hpresent rfl]
      have hmem := SocketRegister.rxRead.address_mem s
      have hsucc := SocketRegister.toNat_address_succ (r := .rxRead) rfl s
      have hi : CommonRegister.interrupt.address.toNat = 0x15 := rfl
      have hstored : (chip.poke (SocketRegister.rxRead.address s + 1) data).stored = chip.stored :=
        Memory.read_write_of_ne _ _ (by omega)
      refine Chip.flagsOf_congr hstored (fun t => ?_) source
      have hne : SocketRegister.rxRead ≠ .interrupt := by decide
      have hdisjoint := SocketRegister.address_disjoint_of_ne hne s t
      have hw : SocketRegister.rxRead.width = 2 := rfl
      have hw' : SocketRegister.interrupt.width = 1 := rfl
      exact Memory.read_write_of_ne _ _ (by omega)
    · show (chip.write address data).flagsOf source = _
      rw [show address = _ from ha, show data = _ from hdata, Chip.write_command hpresent]
      refine Chip.flagsOf_congr ?_ (fun t => ?_) source
      · show (Chip.updateRxSize _ s).stored = _
        rw [Chip.updateRxSize, Chip.stored_setWordOf _ _ _ rfl]
        exact chip.stored_setByteOf s _ _
      · show (Chip.updateRxSize _ s).byteOf .interrupt t = _
        rw [Chip.updateRxSize, Chip.byteOf_setWordOf _ _ _ _ rfl (by decide), Chip.byteOf_mapLatch,
          Chip.byteOf_mapLatch, Chip.byteOf_setByteOf, if_neg fun hc => by cases hc.1]

theorem takenBy_eq_zero {operation : DeviceOperation}
    (hs : ∀ s mask, operation ≠ .socket s (.takeFlags mask))
    (hg : ∀ bit, operation ≠ .takeGlobal bit) (outcome : Outcome) (source : FlagSource) :
    takenBy (operation, outcome) source = 0 := by
  unfold takenBy
  split
  · next he => exact absurd (Prod.mk.inj he).1 (hs _ _)
  · next he => exact absurd (Prod.mk.inj he).1 (hg _)
  · rfl

/-! ## Operations and their ledgers -/

/-- Between two states of the link, the flags raised in the chip and those the driver keeps have
gone the way that the answers and the frames tell. -/
def Endpoint.Accounted (answers : List (DeviceOperation × Outcome)) (start : Endpoint)
    (flags : StickyFlags) (now : Endpoint) (flags' : StickyFlags) : Prop :=
  ∃ o, start.Passes Frame.IsLocal o now ∧
    Ledger.Accounts ⟨answers, o⟩ start.chip flags now.chip flags'

theorem Endpoint.Accounted.refl {start : Endpoint} {flags : StickyFlags} :
    Endpoint.Accounted [] start flags start flags := ⟨[], .refl, .refl⟩

theorem Endpoint.Accounted.trans {first second : List (DeviceOperation × Outcome)}
    {start middle now : Endpoint} {flags flags' flags'' : StickyFlags}
    (h : Endpoint.Accounted first start flags middle flags')
    (h' : Endpoint.Accounted second middle flags' now flags'') :
    Endpoint.Accounted (first ++ second) start flags now flags'' := by
  obtain ⟨o, hpasses, haccounts⟩ := h
  obtain ⟨o', hpasses', haccounts'⟩ := h'
  exact ⟨o ++ o', hpasses.trans hpasses', haccounts.trans haccounts'⟩

/-- Frames that spare every source leave the flags to the events. -/
theorem Endpoint.Accounted.of_passes {P : Frame → Prop} {start now : Endpoint}
    {o : List Occurrence} {answers : List (DeviceOperation × Outcome)} {flags : StickyFlags}
    (h : start.Passes P o now) (hs : start.chip.Steady)
    (hlocal : ∀ frame, P frame → frame.IsLocal)
    (hspares : ∀ source frame, P frame → frame.Spares source)
    (hnone : ∀ source, ∀ answer ∈ answers, takenBy answer source = 0) :
    Endpoint.Accounted answers start flags now flags :=
  ⟨o, h.mono hlocal, Ledger.Accounts.of_flow
    (fun source => Flow.of_passes h (hspares source) hs rfl) hnone⟩

section Operations

variable {σ : Type} [Host σ] [Wired σ]

namespace Habit

variable {H : Habit σ} {device : Device σ}

/-- Between two states of a device, the flags have gone the way that the answers tell. -/
def Accounted (H : Habit σ) (answers : List (DeviceOperation × Outcome)) (start now : Device σ) :
    Prop :=
  H.ok now.board ∧ Endpoint.Accounted answers (Wired.endpoint start.board)
    start.controller.sticky (Wired.endpoint now.board) now.controller.sticky

variable (hH : ∀ frame, ¬H.between frame)

include hH

/-- Operations that only receive or look collect nothing. -/
theorem Travels.accounted {s : SocketId} {m : DeviceM σ Outcome}
    (hm : H.Travels (H.ReceivesOn s) m) (hok : H.ok device.board) {operation : DeviceOperation}
    (hs : ∀ s mask, operation ≠ .socket s (.takeFlags mask))
    (hg : ∀ bit, operation ≠ .takeGlobal bit) :
    Ends m device fun outcome device' => H.Accounted [(operation, outcome)] device device' := by
  refine (hm device hok).mono ?_
  rintro outcome device' ⟨hok', hcontroller, ⟨o, hpasses⟩, -⟩
  have hreceiving := hpasses.mono (R := Frame.IsReceiving) fun frame h =>
    (h.resolve_right (hH frame)).isReceiving
  rw [Accounted, hcontroller]
  refine ⟨hok', .of_passes hreceiving (H.steady hok) (fun _ => Frame.IsReceiving.isLocal)
    (fun source _ h => h.spares source) fun source answer ha => ?_⟩
  obtain rfl := List.mem_singleton.1 ha
  exact takenBy_eq_zero hs hg _ _

/-- A drain moves flags, but takes none out. -/
theorem Drained.accounted {limit : Nat} {o : List Occurrence} {now : Device σ}
    (h : H.Drained limit device o now) (hok : H.ok device.board)
    (answers : List (DeviceOperation × Outcome))
    (hnone : ∀ source, ∀ answer ∈ answers, takenBy answer source = 0) :
    Endpoint.Accounted answers (Wired.endpoint device.board) device.controller.sticky
      (Wired.endpoint now.board) now.controller.sticky := by
  refine ⟨o, h.passes.mono fun _ => Frame.IsQuiet.isLocal,
    Ledger.Accounts.of_flow (fun source => ?_) hnone⟩
  exact h.flow hok fun _ => spares_of_none hH

theorem drain_accounted (hok : H.ok device.board) :
    Ends (DeviceOperation.drain.perform : DeviceM σ Outcome) device fun outcome device' =>
      H.Accounted [(.drain, outcome)] device device' := by
  refine Ends.bind (H.drain_ends device hok) ?_
  rintro bits device' ⟨hok', o, hdrained⟩
  refine Ends.pure ⟨hok', hdrained.accounted hH hok _ fun source answer ha => ?_⟩
  obtain rfl := List.mem_singleton.1 ha
  exact takenBy_eq_zero (by simp) (by simp) _ _

omit hH in
/-- Taking flags out leaves what is raised in the chip alone. -/
theorem Accounted.of_take {answer : DeviceOperation × Outcome} {controller : Controller}
    (hok : H.ok device.board) (mask : FlagSource → UInt8)
    (htaken : ∀ source, takenBy answer source =
      device.controller.sticky.flagsOf source &&& mask source)
    (hleft : ∀ source, controller.sticky.flagsOf source =
      device.controller.sticky.flagsOf source &&& ~~~mask source) :
    H.Accounted [answer] device ⟨device.board, controller⟩ := by
  refine ⟨hok, [], .refl, fun source i hi => ?_⟩
  have hcount : takeCount source i [answer] =
      (bit (device.controller.sticky.flagsOf source) i && bit (mask source) i).toNat := by
    rw [← bit_and, ← htaken]
    cases hb : bit (takenBy answer source) i <;> simp [takeCount, hb]
  rw [hleft, bit_and, bit_not _ hi, hcount]
  exact Balance.take _ _ _

omit hH in
theorem takeFlags_accounted (hok : H.ok device.board) (s : SocketId) (mask : UInt8) :
    Ends ((SocketOperation.takeFlags mask).perform s : DeviceM σ Outcome) device
      fun outcome device' =>
        H.Accounted [(.socket s (.takeFlags mask), outcome)] device device' := by
  refine ⟨_, _, rfl, Accounted.of_take hok (fun source => if source = .socket s then mask else 0)
    (fun source => ?_) fun source => ?_⟩
  · by_cases hsource : source = .socket s
    · subst hsource
      rw [if_pos rfl]
      show (if s = s then UInt8.ofNat (UInt8.toNat _) else 0) = _
      rw [if_pos rfl, UInt8.ofNat_toNat]
      rfl
    · rw [if_neg hsource, UInt8.and_zero]
      cases source with
      | socket t => exact if_neg fun he => hsource (congrArg _ he.symm)
      | chip => rfl
  · by_cases hsource : source = .socket s
    · subst hsource
      rw [if_pos rfl]
      exact device.controller.sticky.socket_takeSocket s mask
    · rw [if_neg hsource, UInt8.not_zero, UInt8.and_neg_one]
      cases source with
      | socket t =>
        exact StickyFlags.socket_setSocket_of_ne _ _ fun he => hsource (congrArg _ he.symm)
      | chip => rfl

omit hH in
theorem takeGlobal_accounted (hok : H.ok device.board) {flag : UInt8} {k : Nat}
    (hflag : ∀ i < 8, bit flag i = decide (i = k)) :
    Ends ((DeviceOperation.takeGlobal flag).perform : DeviceM σ Outcome) device
      fun outcome device' => H.Accounted [(.takeGlobal flag, outcome)] device device' := by
  refine ⟨_, _, rfl, Accounted.of_take hok (fun source => if source = .chip then flag else 0)
    (fun source => ?_) fun source => ?_⟩
  · cases source with
    | socket t =>
      rw [if_neg (by simp), UInt8.and_zero]
      cases device.controller.sticky.global &&& flag != 0 <;> rfl
    | chip =>
      show takenBy (_, .flag (device.controller.sticky.global &&& flag != 0)) .chip =
        device.controller.sticky.global &&& flag
      -- the flag is a single bit, so it is either taken whole or not there
      cases hset : bit (device.controller.sticky.global &&& flag) k with
      | true =>
        have hall : device.controller.sticky.global &&& flag = flag := ext_bit fun i hi => by
          rw [bit_and, hflag i hi]
          by_cases hik : i = k
          · subst hik
            rw [bit_and] at hset
            rw [(Bool.and_eq_true_iff.1 hset).1, Bool.true_and]
          · rw [decide_eq_false hik, Bool.and_false]
        have hne : flag ≠ 0 := by
          rintro rfl
          rw [bit_and, bit_zero, Bool.and_false] at hset
          cases hset
        rw [hall, bne_iff_ne.2 hne]
        rfl
      | false =>
        have hnone : device.controller.sticky.global &&& flag = 0 := ext_bit fun i hi => by
          by_cases hik : i = k
          · rw [hik, hset, bit_zero]
          · rw [bit_and, hflag i hi, bit_zero, decide_eq_false hik, Bool.and_false]
        rw [hnone]
        rfl
  · cases source with
    | socket t =>
      rw [if_neg (by simp), UInt8.not_zero, UInt8.and_neg_one]
      rfl
    | chip => rfl

/-- Every collecting operation ends, and it does to the flags what its answer says. -/
theorem perform_accounted (hok : H.ok device.board) {operation : DeviceOperation}
    (hop : operation.isCollecting) :
    Ends operation.perform device fun outcome device' =>
      H.Accounted [(operation, outcome)] device device' := by
  cases operation with
  | drain => exact drain_accounted hH hok
  | takeGlobal flag =>
    have hflags : flag = InterruptFlag.conflict ∨ flag = InterruptFlag.unreachable := by
      simpa [DeviceOperation.isCollecting] using hop
    rcases hflags with rfl | rfl
    · exact takeGlobal_accounted (k := 7) hok (by decide)
    · exact takeGlobal_accounted (k := 6) hok (by decide)
  | socket s operation =>
    cases operation with
    | takeFlags mask => exact takeFlags_accounted hok s mask
    | status => exact (Travels.map (Travels.status H s) _).accounted hH hok (by simp) (by simp)
    | stickyFlags =>
      exact (Travels.map (Travels.look (P := H.ReceivesOn s) _) _).accounted hH hok (by simp)
        (by simp)
    | freeTx => exact (Travels.map (Travels.freeTx H s) _).accounted hH hok (by simp) (by simp)
    | pendingRx =>
      exact (Travels.map (Travels.pendingRx H s) _).accounted hH hok (by simp) (by simp)
    | receive room =>
      exact (Travels.map (Travels.receive H s room) _).accounted hH hok (by simp) (by simp)
    | peek => exact (Travels.map (Travels.peekByte H s) _).accounted hH hok (by simp) (by simp)
    | receiveFrom room =>
      exact (Travels.map (Travels.receiveFrom H s room) _).accounted hH hok (by simp) (by simp)
    | _ => cases hop
  | _ => cases hop

/-- A run of collecting operations always ends, and what the operations answered accounts for
every flag. -/
theorem performAll_accounted {operations : List DeviceOperation}
    (hops : ∀ operation ∈ operations, operation.isCollecting) :
    ∀ device : Device σ, H.ok device.board →
      Ends (DeviceOperation.performAll operations) device fun outcomes device' =>
        outcomes.length = operations.length ∧
          H.Accounted (operations.zip outcomes) device device' := by
  induction operations with
  | nil => exact fun device hok => Ends.pure ⟨rfl, hok, .refl⟩
  | cons operation operations ih =>
    intro device hok
    unfold DeviceOperation.performAll
    rw [List.mapM_cons]
    refine Ends.bind (perform_accounted hH hok (hops operation List.mem_cons_self)) ?_
    rintro outcome middle hfirst
    refine Ends.bind (ih (fun op h => hops op (List.mem_cons_of_mem _ h)) middle hfirst.1) ?_
    rintro outcomes now ⟨hlength, hrest⟩
    exact Ends.pure ⟨congrArg Nat.succ hlength, hrest.1, hfirst.2.trans hrest.2⟩

end Habit

end Operations

end SpiEthernet
