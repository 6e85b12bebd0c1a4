import SpiEthernet.Controller.Packet
import SpiEthernet.Controller.Stream
import SpiEthernet.Proofs.Receive.Transfer

/-!
# Passing over received bytes

Receiving is a matter of bytes, whatever they mean: the pointer passes some of those that are there,
and the chip is told to release what was passed. In between more may arrive behind them. A header is
read in the same way, and the length it announces is cut down to what is there, so even a ring full
of garbage is never left behind the bytes that it holds.

* `fetch_passing`, `skip_passing`, `release_passing` : the three steps of every call that receives.
* `receiveHeader_passing` : a header announces no more than is there.
* `receiveFrom_passing` : a datagram that is taken was there as a whole.
-/

namespace SpiEthernet

/-- The receive ring of a socket holds some bytes, and the driver's pointer has passed the first of
them. -/
def Chip.Passing (chip : Chip) (s : SocketId) (passed : Nat) (bytes : List UInt8) : Prop :=
  ∃ inlet, chip.Carries s inlet ∧ inlet.Passed passed ∧ inlet.bytes = bytes

theorem Inlet.passed_empty (framing : Framing) (start : UInt16) (bytes : List UInt8) :
    ((empty framing start).push bytes).Passed 0 :=
  ⟨Nat.zero_le _, (UInt16.add_zero start).symm⟩

/-- A ring from which everything has been released that was passed. -/
theorem Chip.Carries.passing {chip : Chip} {s : SocketId} {framing : Framing} {start : UInt16}
    {bytes : List UInt8} (h : chip.Carries s ((Inlet.empty framing start).push bytes)) :
    chip.Passing s 0 bytes :=
  ⟨_, h, Inlet.passed_empty framing start bytes, rfl⟩

section Passage

variable {σ : Type} [Host σ] [Wired σ]

namespace Habit

variable {H : Habit σ} {s : SocketId} {passed count : Nat} {bytes : List UInt8}
  {device device' : Device σ}

theorem Walked.passing (h : H.Walked H.Looks device device')
    (hs : device.chip.Passing s passed bytes) : ∃ o, H.Received device o device' ∧
      device'.chip.Passing s passed (bytes ++ delivered s o) := by
  obtain ⟨inlet, hcarries, hpassed, rfl⟩ := hs
  obtain ⟨o, hd, h'⟩ := h.received hcarries
  exact ⟨o, hd, _, h', hpassed.push _, rfl⟩

variable (hok : H.ok device.board)

include hok

/-! ## Steps -/

/-- The settled size counts the bytes that were there at some time during the wait. -/
theorem pendingRx_passing (h : device.chip.Passing s passed bytes) :
    Ends (pendingRx s) device fun pending device' => ∃ seen later o, H.Received device o device' ∧
      delivered s o = seen ++ later ∧ device'.chip.Passing s passed (bytes ++ seen ++ later) ∧
        pending.toNat = (bytes ++ seen).length := by
  obtain ⟨inlet, hcarries, hpassed, rfl⟩ := h
  refine (H.pendingRx_ends hok hcarries).mono ?_
  rintro pending device' ⟨o, o', hd, h', hpending⟩
  rw [delivered_append, ← Inlet.push_push] at h'
  exact ⟨delivered s o, delivered s o', _, hd, delivered_append .., ⟨_, h', (hpassed.push _).push _,
    rfl⟩, hpending⟩

theorem fetch_passing (h : device.chip.Passing s passed bytes) (count : Nat)
    (hcount : passed + count ≤ bytes.length) (peek : Bool) :
    Ends (fetch s count peek).run device fun r device' =>
      r = .ok ((bytes.drop passed).take count) ∧ ∃ o, H.Received device o device' ∧
        device'.chip.Passing s (if peek then passed else passed + count)
          (bytes ++ delivered s o) := by
  obtain ⟨inlet, hcarries, hpassed, rfl⟩ := h
  refine (H.fetch_ends hok hcarries hpassed hcount peek).mono ?_
  rintro r device' ⟨hr, o, hd, h'⟩
  refine ⟨hr, o, hd, ?_⟩
  cases peek with
  | true => exact ⟨_, h', hpassed.push _, rfl⟩
  | false => exact ⟨_, h', (hpassed.advance hcount).push _, rfl⟩

theorem skip_passing (h : device.chip.Passing s passed bytes) (count : Nat)
    (hcount : passed + count ≤ bytes.length) :
    Ends (skip s (UInt16.ofNat count)) device fun _ device' => ∃ o, H.Received device o device' ∧
      device'.chip.Passing s (passed + count) (bytes ++ delivered s o) := by
  obtain ⟨inlet, hcarries, hpassed, rfl⟩ := h
  refine (H.skip_ends hok hcarries _).mono ?_
  rintro _ device' ⟨o, hd, h'⟩
  exact ⟨o, hd, _, h', (hpassed.advance hcount).push _, rfl⟩

theorem release_passing (h : device.chip.Passing s passed bytes) :
    Ends (issue s .receive) device fun _ device' => ∃ o, H.Received device o device' ∧
      device'.chip.Passing s 0 (bytes.drop passed ++ delivered s o) := by
  obtain ⟨inlet, hcarries, hpassed, rfl⟩ := h
  refine (H.release_ends hok hcarries hpassed).mono ?_
  rintro _ device' ⟨o, hd, h'⟩
  exact ⟨o, hd, _, h', ⟨Nat.zero_le _, (UInt16.add_zero inlet.cursor).symm⟩, rfl⟩

/-- Reading some of the bytes and releasing them leaves the others. -/
theorem take_passing {α : Type} {k : List UInt8 → Attempt σ α}
    {Q : Except Error α → Device σ → Prop}
    (h : device.chip.Passing s 0 bytes) (hcount : count ≤ bytes.length)
    (hk : ∀ d o, H.Received device o d → d.chip.Passing s 0 (bytes.drop count ++ delivered s o) →
      Ends (k (bytes.take count)).run d Q) :
    Ends (do
      let bytes ← fetch s count false
      sure (issue s .receive)
      k bytes : Attempt σ α).run device Q := by
  refine Ends.attempt_of_ok (H.fetch_passing hok h count (by omega) false) ?_
  rintro d1 ⟨o1, hd1, h1⟩
  refine Ends.sure_bind (H.release_passing hd1.ok h1) ?_
  rintro _ d2 ⟨o2, hd2, h2⟩
  refine hk d2 (o1 ++ o2) (hd1.trans hd2) ?_
  rw [if_neg (by decide), Nat.zero_add, List.drop_append_of_le_length hcount, List.append_assoc,
    ← delivered_append] at h2
  exact h2

/-- Skipping some of the bytes and releasing them leaves the others. -/
theorem discard_passing (h : device.chip.Passing s passed bytes)
    (hcount : passed + count ≤ bytes.length) :
    Ends (do
      skip s (UInt16.ofNat count)
      issue s .receive) device fun _ device' => ∃ o, H.Received device o device' ∧
        device'.chip.Passing s 0 (bytes.drop (passed + count) ++ delivered s o) := by
  refine Ends.bind (H.skip_passing hok h count hcount) ?_
  rintro _ d1 ⟨o1, hd1, h1⟩
  refine (H.release_passing hd1.ok h1).mono ?_
  rintro _ d2 ⟨o2, hd2, h2⟩
  rw [List.drop_append_of_le_length hcount, List.append_assoc, ← delivered_append] at h2
  exact ⟨_, hd1.trans hd2, h2⟩

/-! ## Datagrams -/

/-- A header that is taken announces no more than what is behind it, whatever its bytes are. -/
theorem receiveHeader_passing (h : device.chip.Passing s 0 bytes) :
    Ends (receiveHeader s).run device fun r device' => H.ok device'.board ∧
      ∃ header rest, r = .ok header ∧ device'.chip.Passing s 0 rest ∧
        ∀ info, header = some info → info.length ≤ rest.length := by
  have hmode : H.Travels H.Looks (onLink (readByte (SocketRegister.mode.address s))) :=
    Travels.readByte (fun _ => id) _
  unfold receiveHeader
  refine Ends.sure_bind (hmode device hok) ?_
  rintro mode d1 hd1
  obtain ⟨o1, -, h1⟩ := hd1.passing h
  refine Ends.sure_bind (H.pendingRx_passing hd1.ok h1) ?_
  rintro pending d2 ⟨seen, later, o2, hd2, -, h2, hpending⟩
  dsimp only
  split
  · exact Ends.pure ⟨hd2.ok, _, _, rfl, h2, nofun⟩
  · next henough =>
    generalize bytes ++ delivered s o1 ++ seen = found at *
    have hcount : (Framing.ofRegister mode).headerLength ≤ (found ++ later).length := by
      rw [List.length_append]
      omega
    refine H.take_passing hd2.ok h2 hcount fun d3 o3 hd3 h3 => ?_
    refine Ends.pure ⟨hd3.ok, _, _, rfl, h3, ?_⟩
    rintro _ ⟨⟩
    refine Nat.le_trans (Nat.min_le_right _ _) ?_
    rw [List.length_append, List.length_drop, List.length_append]
    omega

/-- A datagram that is taken was there as a whole, however much of it is wanted. -/
theorem receiveFrom_passing (h : device.chip.Passing s 0 bytes) (room : Nat) :
    Ends (receiveFrom s room).run device fun _ device' =>
      ∃ rest, device'.chip.Passing s 0 rest := by
  unfold receiveFrom
  refine Ends.attempt (H.receiveHeader_passing hok h) ?_ ?_
  · rintro header d1 ⟨hok1, _, bytes1, hr, h1, hannounced⟩
    cases hr
    cases header with
    | none => exact Ends.pure ⟨_, h1⟩
    | some info =>
      have hlength := hannounced info rfl
      refine Ends.attempt_of_ok (H.fetch_passing hok1 h1 (min info.length room) (by omega) false) ?_
      rintro d2 ⟨o2, hd2, h2⟩
      rw [if_neg (by decide)] at h2
      refine Ends.sure_bind (H.skip_passing hd2.ok h2
        (info.length - min info.length room) ?_) ?_
      · rw [List.length_append]
        omega
      rintro _ d3 ⟨o3, hd3, h3⟩
      refine Ends.sure_bind (H.release_passing hd3.ok h3) ?_
      rintro _ d4 ⟨o4, -, h4⟩
      exact Ends.pure ⟨_, h4⟩
  · rintro cause d1 ⟨-, _, _, hr, -⟩
    cases hr

end Habit

end Passage

end SpiEthernet
