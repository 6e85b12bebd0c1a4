import SpiEthernet.Proofs.Operation.Channel
import SpiEthernet.Proofs.Receive.Stream
import SpiEthernet.Proofs.Rings.Accounts

/-!
# Every call keeps the rings balanced

Most calls are made of frames that leave the account of a ring alone, and those that move a pointer
leave the accounts of all other rings alone. So each of these calls has to be looked at for one ring
only. Staging puts the transmit pointer behind no more bytes than the ring holds, and receiving
passes no more bytes than are there, even where a header announces more.

* `withstands_accounts` : the calls on a socket.
* `serves_accounts` : the calls that a channel makes.
-/

namespace SpiEthernet

variable {ring : Ring} {claimed : Nat}

/-! ## Staging -/

theorem keeps_stage (s : SocketId) (data : List UInt8) :
    Keeps (fun d : Device Board => d.board.chip.Accounts claimed ring) (stage s 0 data) := by
  by_cases hring : ring = .transmit s
  · subst hring
    by_cases hlong : ringSize < data.length
    · unfold stage
      rw [checkLength_of_lt hlong]
      exact Keeps.fail_bind _ _
    have hlength : data.length ≤ ringSize := Nat.not_lt.1 hlong
    refine Leads.of_ends fun device h => ?_
    obtain ⟨outlet, hoffers, hsound, hfree, -⟩ := h.2.offers h.1
    have hroom (_ : data ≠ []) : (0 : UInt16).toNat ≤ outlet.bytes.length ∧
        (0 : UInt16).toNat + data.length ≤ ringSize :=
      ⟨Nat.zero_le _, by rw [UInt16.toNat_zero]; omega⟩
    refine (Habit.free.stage_ends ⟨h.1, hoffers⟩ hroom).mono fun _ device' ⟨_, h'⟩ => ?_
    exact .of_offers h'.chip (Outlet.sound_stage hsound hroom) (by rwa [Outlet.free_stage])
  · exact (routine_accounts claimed ring).stage s (keeps_txWrite hring) 0 data

theorem keeps_buffer (s : SocketId) (offset : UInt16) (data : List UInt8) :
    Keeps (fun d : Device Board => d.board.chip.Accounts claimed ring) (buffer s offset data) := by
  by_cases hring : ring = .transmit s
  · subst hring
    refine Leads.of_ends fun device h => ?_
    obtain ⟨outlet, hoffers, hsound, hfree, hlength⟩ := h.2.offers h.1
    refine (Habit.free.buffer_ends ⟨h.1, hoffers⟩ data hfree fun hoffset => ?_).mono
      fun _ device' ⟨_, h'⟩ => ?_
    · rw [hlength]
      omega
    refine .of_offers h'.chip (Outlet.sound_stage hsound fun hsome => ?_)
      (by rwa [Outlet.free_stage])
    have hpos := List.length_pos_iff.2 hsome
    rw [List.length_take] at hpos ⊢
    omega
  · exact (routine_accounts claimed ring).buffer s (keeps_txWrite hring) offset data

/-! ## Receiving -/

theorem keeps_receive (s : SocketId) (room : Nat) :
    Keeps (fun d : Device Board => d.board.chip.Accounts 0 ring) (receive s room) := by
  by_cases hring : ring = .receive s
  · subst hring
    refine Leads.of_ends fun device h => ?_
    obtain ⟨bytes, hbytes, -⟩ := h.passing
    refine (Habit.free.receive_ends h.steady hbytes room).mono ?_
    rintro _ device' ⟨_, _, _, _, -, -, -, -, h'⟩
    exact .of_passing h' (Nat.zero_le _)
  · exact (routine_accounts 0 ring).receive s (keeps_rxRead hring) room

theorem keeps_receiveFrom (s : SocketId) (room : Nat) :
    Keeps (fun d : Device Board => d.board.chip.Accounts 0 ring) (receiveFrom s room) := by
  by_cases hring : ring = .receive s
  · subst hring
    refine Leads.of_ends fun device h => ?_
    obtain ⟨bytes, hbytes, -⟩ := h.passing
    refine (Habit.free.receiveFrom_passing h.steady hbytes room).mono ?_
    rintro _ device' ⟨rest, h'⟩
    exact .of_passing h' (Nat.zero_le _)
  · exact (routine_accounts 0 ring).receiveFrom s (keeps_rxRead hring) room

/-- The calls on a socket that move pointers keep the account of every ring. -/
theorem withstands_accounts (s : SocketId) (ring : Ring) :
    Withstands (fun board : Board => board.chip.Accounts 0 ring) s where
  robust := routine_accounts 0 ring
  opening := (robust_accounts 0 ring).give s (Frame.respects_command s .open)
  stage := keeps_stage s
  buffer := keeps_buffer s
  receive := keeps_receive s
  receiveFrom := keeps_receiveFrom s

/-! ## Channels -/

theorem Ring.claimed_of_ne {s : SocketId} (hring : ¬ring = .receive s) (n : Nat) :
    ring.claimed s n = 0 :=
  if_neg hring

/-- A header announces no more than stands in the ring behind it. -/
theorem leads_receiveHeader (s : SocketId) (ring : Ring) :
    Leads (fun d : Device Board => d.board.chip.Accounts (ring.claimed s 0) ring)
      (receiveHeader s).run fun r d => d.board.chip.Accounts (ring.claimed s (announced r)) ring := by
  by_cases hring : ring = .receive s
  · subst hring
    simp only [Ring.claimed_self]
    refine Leads.of_ends fun device h => ?_
    obtain ⟨bytes, hbytes, -⟩ := h.passing
    refine (Habit.free.receiveHeader_passing h.steady hbytes).mono ?_
    rintro _ device' ⟨-, header, rest, rfl, h', hannounced⟩
    refine .of_passing h' ?_
    cases header with
    | none => exact Nat.zero_le _
    | some info => exact hannounced info rfl
  · simp only [Ring.claimed_of_ne hring]
    exact (routine_accounts 0 ring).receiveHeader s (keeps_rxRead hring)

/-- What is taken of the bytes claimed is not claimed any more. -/
theorem leads_take (s : SocketId) (ring : Ring) {n count : Nat} (hcount : count ≤ n) :
    Leads (fun d : Device Board => d.board.chip.Accounts (ring.claimed s n) ring)
      (do
        let bytes ← fetch s count false
        sure (issue s .receive)
        return bytes : Attempt Board (List UInt8)).run
      fun r d => d.board.chip.Accounts (ring.claimed s (if r.isOk then n - count else n)) ring := by
  by_cases hring : ring = .receive s
  · subst hring
    simp only [Ring.claimed_self]
    refine Leads.of_ends fun device h => ?_
    obtain ⟨bytes, hbytes, hclaimed⟩ := h.passing
    refine Habit.free.take_passing h.steady hbytes (Nat.le_trans hcount hclaimed)
      fun device' o _ h' => Ends.pure (.of_passing h' ?_)
    rw [List.length_append, List.length_drop]
    show n - count ≤ _
    omega
  · simp only [Ring.claimed_of_ne hring]
    exact (routine_accounts 0 ring).take s (keeps_rxRead hring) count

/-- Nothing is claimed of a ring behind the bytes that are passed over. -/
theorem leads_discard (s : SocketId) (ring : Ring) (n : Nat) :
    Leads (fun d : Device Board => d.board.chip.Accounts (ring.claimed s n) ring)
      (do
        skip s (UInt16.ofNat n)
        issue s .receive)
      fun _ d => d.board.chip.Accounts (ring.claimed s 0) ring := by
  by_cases hring : ring = .receive s
  · subst hring
    simp only [Ring.claimed_self]
    refine Leads.of_ends fun device h => ?_
    obtain ⟨bytes, hbytes, hclaimed⟩ := h.passing
    have hcount : 0 + n ≤ bytes.length := by omega
    refine (Habit.free.discard_passing h.steady hbytes hcount).mono ?_
    rintro _ device' ⟨o, -, h'⟩
    exact .of_passing h' (Nat.zero_le _)
  · simp only [Ring.claimed_of_ne hring]
    exact Keeps.bind ((routine_accounts 0 ring).skip s (keeps_rxRead hring) _) fun _ =>
      (routine_accounts 0 ring).issue s .receive (by decide)

/-- The calls that a channel makes keep the account of every ring, and what the channel has not
read of a datagram stays in the ring. -/
theorem serves_accounts (ring : Ring) :
    Serves fun s n (d : Device Board) => d.board.chip.Accounts (ring.claimed s n) ring :=
  Serves.of_robust
    (I := fun s n (board : Board) => board.chip.Accounts (ring.claimed s n) ring)
    (fun s n => routine_accounts (ring.claimed s n) ring) (fun s _ => keeps_buffer s)
    (fun s => leads_receiveHeader s ring) (fun s _ _ hcount => leads_take s ring hcount)
    fun s n => leads_discard s ring n

end SpiEthernet
