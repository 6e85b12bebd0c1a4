import SpiEthernet.Controller.Basic
import SpiEthernet.Proofs.Link.Masking

/-!
# Devices that are observed

The board of a device may keep a log of what is asked of it and of what it answers. The computations
of the driver do the same on such a device as on the device itself, and what is observed of them is
one transaction after the other.

* `Transacted` : what is observed, as calls on the transport with what they have returned.
* `readByte_transacts`, `writeByte_transacts` : a single call adds its transaction.
* `Device.Forgets` : a computation does the same without the log, with a rule for every way in
  which computations are put together.
-/

namespace SpiEthernet

/-! ## Transactions -/

/-- A call on the transport as it is observed: with whether the interrupt was let through before,
and with the replies to every frame. -/
structure Transaction where
  call : BusCall
  before : Bool
  replies : List Replies
  complete : replies.length = call.data.length

namespace Transaction

variable (transaction : Transaction)

/-- What is observed of a call. -/
def observations : List Observation :=
  transaction.call.transaction transaction.before transaction.replies

/-- A call with what it has returned. -/
def summary : BusCall × List UInt8 :=
  (transaction.call, transaction.call.answer (transaction.replies.map (·.data)))

end Transaction

/-- What has been observed is one transaction after the other, of the calls given and with what
they have returned. -/
def Transacted (seen : List Observation) (calls : List (BusCall × List UInt8)) : Prop :=
  ∃ transactions : List Transaction, transactions.map (·.summary) = calls ∧
    seen = (transactions.map (·.observations)).flatten

theorem Transacted.nil : Transacted [] [] := ⟨[], rfl, rfl⟩

theorem Transacted.call {seen : List Observation} {calls : List (BusCall × List UInt8)}
    (h : Transacted seen calls) (transaction : Transaction) :
    Transacted (seen ++ transaction.observations) (calls ++ [transaction.summary]) := by
  obtain ⟨transactions, rfl, rfl⟩ := h
  refine ⟨transactions ++ [transaction], ?_, ?_⟩
  · rw [List.map_append, List.map_singleton]
  · rw [List.map_append, List.map_singleton, List.flatten_append, List.flatten_singleton]

/-! ## Single calls -/

section Calls

variable {σ : Type} [SerialLink σ] {calls : List (BusCall × List UInt8)} {x : Observed σ}

omit [SerialLink σ] in
/-- A call that asks for something adds its transaction. -/
theorem BusCall.Asked.transacted {call : BusCall} {bytes : List UInt8} {y : Observed σ}
    (h : call.Asked x bytes y) (hdata : call.data ≠ []) (hx : Transacted x.seen calls) :
    Transacted y.seen (calls ++ [(call, bytes)]) := by
  obtain ⟨before, replies, hlength, rfl, hseen⟩ := h.some hdata
  rw [hseen]
  exact hx.call ⟨call, before, replies, hlength⟩

theorem readByte_transacts (address : UInt16) :
    Leads (fun x : Observed σ => Transacted x.seen calls) (readByte address) fun value x =>
      Transacted x.seen (calls ++ [(.readByte address, [value])]) := by
  intro x value y hx hrun
  have hperform : (BusCall.readByte address).perform x = .ok ([value], y) := by
    show ((readByte address : LinkM (Observed σ) UInt8) x >>= fun r => pure ([r.1], r.2)) = _
    rw [hrun]
    rfl
  exact ((BusCall.readByte address).perform_seen x x _ y rfl hperform).transacted
    (List.cons_ne_nil _ _) hx

theorem writeByte_transacts (address : UInt16) (value : UInt8) :
    Leads (fun x : Observed σ => Transacted x.seen calls) (writeByte address value) fun _ x =>
      Transacted x.seen (calls ++ [(.writeByte address value, [])]) := by
  intro x u y hx hrun
  have hperform : (BusCall.writeByte address value).perform x = .ok ([], y) := by
    show ((writeByte address value : LinkM (Observed σ) Unit) x >>= fun r => pure ([], r.2)) = _
    rw [hrun]
    rfl
  exact ((BusCall.writeByte address value).perform_seen x x _ y rfl hperform).transacted
    (List.cons_ne_nil _ _) hx

end Calls

/-! ## Without the log -/

section Forgetting

variable {σ α β : Type}

theorem Observed.Forgets.critical [SerialLink σ] {body : LinkM (Observed σ) α} {plain : LinkM σ α}
    (h : Observed.Forgets body plain) :
    Observed.Forgets (SpiEthernet.critical body) (SpiEthernet.critical plain) :=
  .bind (.call _ _) fun _ => .bind h fun result => .bind (.call _ _) fun _ => .pure result

theorem Observed.Forgets.readByte [SerialLink σ] (address : UInt16) :
    Observed.Forgets (SpiEthernet.readByte address)
      (SpiEthernet.readByte address : LinkM σ UInt8) :=
  .critical (.exchange _)

theorem Observed.Forgets.writeByte [SerialLink σ] (address : UInt16) (value : UInt8) :
    Observed.Forgets (SpiEthernet.writeByte address value)
      (SpiEthernet.writeByte address value : LinkM σ Unit) :=
  .bind (.critical (.exchange _)) fun _ => .pure ()

/-- Remarks are not part of what is observed. -/
def Observed.recording [Host σ] (notice : Notice) : LinkM (Observed σ) Unit :=
  fun ⟨board, seen⟩ => do
    let (_, board) ← Host.record notice board
    return ((), ⟨board, seen⟩)

instance [Host σ] : Host (Observed σ) where
  record := Observed.recording
  patience x := Host.patience x.board

theorem Observed.Forgets.record [Host σ] (notice : Notice) :
    Observed.Forgets (Host.record notice) (Host.record notice : LinkM σ Unit) := by
  rintro ⟨board, seen⟩
  show Except.map _ (Host.record notice board >>= _) = Host.record notice board
  cases Host.record notice board <;> rfl

/-- A remark leaves the log alone. -/
theorem Observed.keeps_record [Host σ] {P : List Observation → Prop} (notice : Notice) :
    Keeps (fun x : Observed σ => P x.seen) (Host.record notice) := by
  rintro ⟨board, seen⟩ u y hP hrun
  have hrun : (Host.record notice board >>= fun r =>
      pure ((), (⟨r.2, seen⟩ : Observed σ))) = .ok (u, y) := hrun
  cases hr : (Host.record notice : LinkM σ Unit) board with
  | error fault =>
    rw [hr] at hrun
    cases hrun
  | ok r =>
    rw [hr] at hrun
    cases hrun
    exact hP

namespace Device

/-- The device with a log that is still empty. -/
def observed (device : Device σ) : Device (Observed σ) := ⟨⟨device.board, []⟩, device.controller⟩

/-- The device without the log. -/
def plain (device : Device (Observed σ)) : Device σ := ⟨device.board.board, device.controller⟩

/-- A computation on an observed device does what another one does on the device itself. -/
def Forgets (observed : DeviceM (Observed σ) α) (plain : DeviceM σ α) : Prop :=
  ∀ device, (observed device).map (fun r => (r.1, r.2.plain)) = plain device.plain

namespace Forgets

theorem pure (a : α) : Forgets (Pure.pure a) (Pure.pure a : DeviceM σ α) := fun _ => rfl

theorem bind {observed : DeviceM (Observed σ) α} {plain : DeviceM σ α}
    {k : α → DeviceM (Observed σ) β} {k' : α → DeviceM σ β} (h : Forgets observed plain)
    (hk : ∀ a, Forgets (k a) (k' a)) : Forgets (observed >>= k) (plain >>= k') := by
  intro device
  show Except.map _ (observed device >>= fun r => k r.1 r.2) =
    plain device.plain >>= fun r => k' r.1 r.2
  rw [← h device]
  cases observed device with
  | error fault => rfl
  | ok r => exact hk r.1 r.2

theorem onLink {observed : LinkM (Observed σ) α} {plain : LinkM σ α}
    (h : Observed.Forgets observed plain) :
    Forgets (SpiEthernet.onLink observed) (SpiEthernet.onLink plain) := by
  rintro ⟨board, controller⟩
  show Except.map _ (observed board >>= fun r => Pure.pure (r.1, Device.mk r.2 controller)) =
    plain board.board >>= fun r => Pure.pure (r.1, Device.mk r.2 controller)
  rw [← h board]
  cases observed board <;> rfl

theorem changeController (f : Controller → Controller) :
    Forgets (SpiEthernet.changeController f) (SpiEthernet.changeController f : DeviceM σ Unit) :=
  fun _ => rfl

theorem note [Host σ] (notice : Notice) :
    Forgets (SpiEthernet.note notice) (SpiEthernet.note notice : DeviceM σ Unit) :=
  onLink (.record notice)

theorem ite {c : Prop} [Decidable c] {observed observed' : DeviceM (Observed σ) α}
    {plain plain' : DeviceM σ α} (h : Forgets observed plain) (h' : Forgets observed' plain') :
    Forgets (if c then observed else observed') (if c then plain else plain') := by
  split
  · exact h
  · exact h'

/-- A computation that cannot fail, as one that can. -/
theorem sure {observed : DeviceM (Observed σ) α} {plain : DeviceM σ α} (h : Forgets observed plain) :
    Forgets (SpiEthernet.sure observed).run (SpiEthernet.sure plain).run := by
  show Forgets (Except.ok <$> observed) (Except.ok <$> plain)
  rw [map_eq_pure_bind, map_eq_pure_bind]
  exact bind h fun a => pure (Except.ok a)

theorem sure_bind {observed : DeviceM (Observed σ) α} {plain : DeviceM σ α}
    {k : α → Attempt (Observed σ) β} {k' : α → Attempt σ β} (h : Forgets observed plain)
    (hk : ∀ a, Forgets (k a).run (k' a).run) :
    Forgets (SpiEthernet.sure observed >>= k).run (SpiEthernet.sure plain >>= k').run := by
  rw [ExceptT.run_bind, ExceptT.run_bind]
  refine bind (sure h) ?_
  rintro (cause | a)
  · exact pure (Except.error cause)
  · exact hk a

/-- A run on the device is one on the observed device. -/
theorem run_eq {observed : DeviceM (Observed σ) α} {plain : DeviceM σ α} (h : Forgets observed plain)
    {device device' : Device σ} {a : α} (hrun : plain device = .ok (a, device')) :
    ∃ seen, observed device.observed = .ok (a, ⟨⟨device'.board, seen⟩, device'.controller⟩) := by
  have hplain : (observed device.observed).map (fun r => (r.1, r.2.plain)) = .ok (a, device') :=
    (h device.observed).trans hrun
  cases hobserved : observed device.observed with
  | error fault =>
    rw [hobserved] at hplain
    cases hplain
  | ok r =>
    obtain ⟨b, ⟨board, seen⟩, controller⟩ := r
    rw [hobserved] at hplain
    cases hplain
    exact ⟨seen, rfl⟩

end Forgets

end Device

end Forgetting

end SpiEthernet
