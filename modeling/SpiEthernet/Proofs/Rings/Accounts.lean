import SpiEthernet.Proofs.Operation.Device
import SpiEthernet.Proofs.Rings.Balance

/-!
# Accounts of the rings

An account says that one ring is balanced, and how many of its bytes are claimed: those of a
datagram whose header has been taken. A frame leaves the account of a ring alone if it stays away
from the ring's registers, and so does whatever the board does by itself. Giving commands and
resetting the chip are among these frames as long as nothing is claimed.

* `Accounts.serve` : a frame and what happens behind it.
* `robust_accounts` : whatever is done on the serial link.
* `keeps_init` : a reset.
-/

namespace SpiEthernet

/-! ## Rings -/

/-- One of the rings of the chip. -/
inductive Ring where
  | transmit (s : SocketId)
  | receive (s : SocketId)
deriving DecidableEq, Inhabited

namespace Ring

/-- The socket of a ring. -/
def socket : Ring → SocketId
  | transmit s | receive s => s

/-- The registers that say what is in a ring. -/
def registers : Ring → List SocketRegister
  | transmit _ => [.txFree, .txRead, .txWrite]
  | receive _ => [.rxSize, .rxRead, .rxWrite]

/-- How much of a ring is claimed if it is so much of a socket's receive ring. -/
def claimed (ring : Ring) (s : SocketId) (n : Nat) : Nat := if ring = receive s then n else 0

@[simp] theorem claimed_zero (ring : Ring) (s : SocketId) : ring.claimed s 0 = 0 := ite_self 0

@[simp] theorem claimed_self (s : SocketId) (n : Nat) : (receive s).claimed s n = n := if_pos rfl

variable {ring : Ring} {r : SocketRegister}

/-- The registers of all rings lie together. -/
theorem width_of_mem_registers (h : r ∈ ring.registers) :
    r.width = 2 ∧ 0x20 ≤ r.offset.toNat ∧ r.offset.toNat + r.width ≤ 0x2C := by
  have hall : ∀ r' ∈ [SocketRegister.txFree, .txRead, .txWrite, .rxSize, .rxRead, .rxWrite],
      r'.width = 2 ∧ 0x20 ≤ r'.offset.toNat ∧ r'.offset.toNat + r'.width ≤ 0x2C := by decide
  refine hall r ?_
  cases ring with
  | transmit s => exact List.mem_append_left [SocketRegister.rxSize, .rxRead, .rxWrite] h
  | receive s => exact List.mem_append_right [SocketRegister.txFree, .txRead, .txWrite] h

end Ring

/-- The ring is balanced, and at least the claimed bytes are in it, on a chip on which frames
succeed. -/
def Chip.Accounts (chip : Chip) (claimed : Nat) : Ring → Prop
  | .transmit s => chip.Steady ∧ chip.BalancedTx s
  | .receive s => chip.Steady ∧ chip.BalancedRx s ∧ claimed ≤ (chip.wordOf .rxSize s).toNat

/-- A frame stays away from the registers of a ring, and does not empty the ring if some of it is
claimed. -/
structure Frame.Respects (frame : Frame) (claimed : Nat) (ring : Ring) : Prop where
  avoids {r : SocketRegister} (hr : r ∈ ring.registers) : frame.Avoids r ring.socket
  opens (hclaimed : 0 < claimed) : ¬frame.Opens ring.socket

variable {ring : Ring} {claimed : Nat}

/-! ## Frames -/

namespace Frame

/-- A frame at an address outside a register does not write to it. -/
theorem avoids_of_outside {frame : Frame} {r : SocketRegister} {s : SocketId} (hw : r.width = 2)
    (h : frame.address.toNat < (r.address s).toNat ∨
      (r.address s).toNat + r.width ≤ frame.address.toNat) : frame.Avoids r s := by
  intro _
  omega

theorem IsRoutine.respects {frame : Frame} (h : frame.IsRoutine) : frame.Respects claimed ring where
  avoids {r} hr hwrite := by
    have hpoints := h.pointers hwrite ring.socket
    obtain ⟨hw, hstart, hend⟩ := Ring.width_of_mem_registers hr
    rw [r.toNat_address]
    unfold SocketId.PointsAt at hpoints
    omega
  opens _ hopens := by
    rcases hopens.opens with hmode | ⟨hcommand, hcode⟩
    · exact (h.harmless hopens.write).1 hmode
    · exact h.opening hopens.write ring.socket hcommand hcode

/-- Giving a command changes what is in a ring only by what the command does. -/
theorem respects_command (s : SocketId) (command : SocketCommand) :
    (Frame.write (SocketRegister.command.address s) command.code).Respects 0 ring where
  avoids {r} hr := by
    have hne : SocketRegister.command ≠ r := by
      rintro rfl
      exact absurd (Ring.width_of_mem_registers hr).1 (by decide)
    refine avoids_of_outside (Ring.width_of_mem_registers hr).1 ?_
    have hd := SocketRegister.address_disjoint_of_ne hne s ring.socket
    have hwidth : SocketRegister.command.width = 1 := rfl
    show (SocketRegister.command.address s).toNat < _ ∨ _ ≤ (SocketRegister.command.address s).toNat
    omega
  opens h := absurd h (Nat.lt_irrefl 0)

/-- Nothing in front of the sockets' registers belongs to a ring. -/
theorem respects_of_common {frame : Frame} (h : frame.address.toNat < 0x0400) :
    frame.Respects 0 ring where
  avoids {r} _ _ := by
    have hmem := r.address_mem ring.socket
    omega
  opens h := absurd h (Nat.lt_irrefl 0)

/-- A word that belongs to another ring may be changed. -/
theorem respects_word {r : SocketRegister} (s : SocketId) (hw : r.width = 2)
    (h : ¬(r ∈ ring.registers ∧ s = ring.socket)) (value : UInt8) :
    (Frame.write (r.address s) value).Respects claimed ring ∧
      (Frame.write (r.address s + 1) value).Respects claimed ring := by
  have hmem := r.address_mem s
  have hsucc := SocketRegister.toNat_address_succ hw s
  have hfar (address : UInt16) (hplace : (r.address s).toNat ≤ address.toNat)
      (hend : address.toNat < (r.address s).toNat + 2) :
      (Frame.write address value).Respects claimed ring := by
    refine ⟨fun {r'} hr' => ?_, fun _ hopens => ?_⟩
    · refine avoids_of_outside (Ring.width_of_mem_registers hr').1 ?_
      have hd := SocketRegister.address_disjoint
        fun hsame : r = r' ∧ s = ring.socket => h ⟨hsame.1 ▸ hr', hsame.2⟩
      show address.toNat < _ ∨ _ ≤ address.toNat
      omega
    · rcases hopens.opens with hmode | ⟨hcommand, -⟩
      · have hmode : address = CommonRegister.mode.address := hmode
        have hzero : CommonRegister.mode.address.toNat = 0 := rfl
        rw [hmode] at hplace
        omega
      · have hne : r ≠ .command := by
          rintro rfl
          cases hw
        have hd := SocketRegister.address_disjoint_of_ne hne s ring.socket
        have hwidth : SocketRegister.command.width = 1 := rfl
        have hcommand : address = SocketRegister.command.address ring.socket := hcommand
        rw [hcommand] at hplace hend
        omega
  exact ⟨hfar _ (Nat.le_refl _) (by omega), hfar _ (by omega) (by omega)⟩

end Frame

namespace Chip

namespace Accounts

variable {chip : Chip} {s : SocketId}

theorem steady (h : chip.Accounts claimed ring) : chip.Steady := by
  cases ring <;> exact h.1

theorem unclaimed (h : chip.Accounts claimed ring) : chip.Accounts 0 ring := by
  cases ring with
  | transmit s => exact h
  | receive s => exact ⟨h.1, h.2.1, Nat.zero_le _⟩

theorem serve (h : chip.Accounts claimed ring) {frame : Frame}
    (hframe : frame.Respects claimed ring) :
    (chip.serve frame).2.afterFrame.Accounts claimed ring := by
  have hsteady := h.steady.serve frame
  cases ring with
  | transmit s =>
    have hserved := h.2.of_effect h.1.present hsteady.present
      (pointerEffect_serve h.1.present frame s) (hframe.avoids (by simp [Ring.registers]))
      (hframe.avoids (by simp [Ring.registers])) (hframe.avoids (by simp [Ring.registers]))
    exact ⟨hsteady.afterFrame, hserved.afterFrame hsteady⟩
  | receive s =>
    obtain ⟨hpresent, hbalanced, hclaimed⟩ := h
    obtain ⟨hserved, hsize⟩ := hbalanced.of_effect (pointerEffect_serve hpresent.present frame s)
      (hframe.avoids (by simp [Ring.registers])) (hframe.avoids (by simp [Ring.registers]))
      (hframe.avoids (by simp [Ring.registers]))
    obtain ⟨hafter, hgrown⟩ := hserved.afterFrame hsteady
    refine ⟨hsteady.afterFrame, hafter, Nat.le_trans ?_ hgrown⟩
    rcases Nat.eq_zero_or_pos claimed with hzero | hpos
    · rw [hzero]
      exact Nat.zero_le _
    · rwa [hsize.resolve_left (hframe.opens hpos)]

/-- Noticing the interrupt line changes no ring. -/
theorem noticed (h : chip.Accounts claimed ring) :
    ({ chip with edge := false } : Chip).Accounts claimed ring := by
  have hsteady : ({ chip with edge := false } : Chip).Steady := h.steady.of_casing rfl
  have hsame (s : SocketId) : chip.SameWords { chip with edge := false } s :=
    sameWords_of_memory rfl rfl
  -- it counts as a frame that writes nothing
  have hread (r : SocketRegister) (s : SocketId) : (Frame.read 0).Avoids r s := nofun
  cases ring with
  | transmit s =>
    exact ⟨hsteady, h.2.of_effect h.1.present hsteady.present (hsame s).kept (hread _ _)
      (hread _ _) (hread _ _)⟩
  | receive s =>
    exact ⟨hsteady, (h.2.1.of_effect (hsame s).kept (hread _ _) (hread _ _) (hread _ _)).1, h.2.2⟩

theorem passing (h : chip.Accounts claimed (.receive s)) :
    ∃ bytes, chip.Passing s 0 bytes ∧ claimed ≤ bytes.length := by
  obtain ⟨bytes, hbytes, hlength⟩ := h.2.1.passing h.1
  exact ⟨bytes, hbytes, hlength ▸ h.2.2⟩

theorem of_passing {bytes : List UInt8} (h : chip.Passing s 0 bytes)
    (hclaimed : claimed ≤ bytes.length) : chip.Accounts claimed (.receive s) := by
  obtain ⟨hbalanced, hsize⟩ := h.balanced
  obtain ⟨inlet, hcarries, -⟩ := h
  exact ⟨hcarries.steady, hbalanced, hsize ▸ hclaimed⟩

theorem of_offers {outlet : Outlet} (h : chip.Offers s outlet) (hsound : outlet.Sound)
    (hfree : outlet.free.toNat ≤ ringSize) : chip.Accounts claimed (.transmit s) :=
  ⟨h.steady, h.balanced hsound hfree⟩

end Accounts

end Chip

/-! ## On the board -/

/-- What neither frames nor what happens behind them break of a chip, nothing breaks that is done on
the serial link. -/
theorem Board.robust_of_chip {P : Frame → Prop} {J : Chip → Prop}
    (hquiet : ∀ frame, frame.IsQuiet → P frame) (hsteady : ∀ chip, J chip → chip.Steady)
    (hserve : ∀ chip frame, J chip → P frame → J (chip.serve frame).2.afterFrame)
    (hnoticed : ∀ chip, J chip → J { chip with edge := false }) :
    Robust P fun board : Board => J board.chip := by
  refine Robust.of_calls (fun address => hquiet _ (Frame.isQuiet_read address)) ?mask
    (fun before => ?restore) (fun frame hf => ?exchange) fun notice => ?record
  case mask =>
    intro board _ _ h hrun
    cases (Wired.mask_eq board).symm.trans hrun
    exact h
  case restore =>
    refine Keeps.of_ends fun board h => (Habit.free.restore before (hsteady _ h)).mono ?_
    rintro _ board' ⟨-, ⟨_, hpasses⟩, -⟩
    exact hpasses.chip_kept (fun chip frame hchip hf => hserve chip frame hchip (hquiet frame hf))
      hnoticed h
  case exchange =>
    intro board _ _ h hrun
    cases (Wired.exchange_eq board frame (hsteady _ h)).symm.trans hrun
    exact hserve _ frame h hf
  case record =>
    refine Keeps.of_ends fun board h => (Habit.free.record notice (hsteady _ h)).mono ?_
    rintro _ board' ⟨-, hsame, -⟩
    have hchip : board'.chip = board.chip := congrArg Endpoint.chip hsame
    rwa [hchip]

theorem robust_accounts (claimed : Nat) (ring : Ring) :
    Robust (fun frame => frame.Respects claimed ring)
      fun board : Board => board.chip.Accounts claimed ring :=
  Board.robust_of_chip (J := fun chip => chip.Accounts claimed ring)
    (fun _ hf => (Frame.IsQuiet.isRoutine hf).respects) (fun _ h => h.steady)
    (fun _ _ h hf => h.serve hf) fun _ h => h.noticed

theorem routine_accounts (claimed : Nat) (ring : Ring) :
    Robust Frame.IsRoutine fun board : Board => board.chip.Accounts claimed ring :=
  (robust_accounts claimed ring).mono (fun _ => Frame.isRoutine_of_read rfl) fun _ => (·.respects)

/-- A pointer of another ring may be moved. -/
theorem keeps_pointer {r : SocketRegister} {s : SocketId} (hw : r.width = 2)
    (h : ¬(r ∈ ring.registers ∧ s = ring.socket)) (pointer : UInt16) :
    Keeps (fun d : Device Board => d.board.chip.Accounts claimed ring)
      (onLink (SpiEthernet.writeWord (r.address s) pointer)) :=
  Keeps.onLink ((robust_accounts claimed ring).writeWord
    (fun value => (Frame.respects_word s hw h value).1)
    fun value => (Frame.respects_word s hw h value).2)

theorem keeps_txWrite {s : SocketId} (h : ring ≠ .transmit s) (pointer : UInt16) :
    Keeps (fun d : Device Board => d.board.chip.Accounts claimed ring)
      (onLink (SpiEthernet.writeWord (SocketRegister.txWrite.address s) pointer)) := by
  refine keeps_pointer rfl ?_ pointer
  rintro ⟨hr, rfl⟩
  cases ring with
  | transmit s => exact h rfl
  | receive s => simp [Ring.registers] at hr

theorem keeps_rxRead {s : SocketId} (h : ring ≠ .receive s) (pointer : UInt16) :
    Keeps (fun d : Device Board => d.board.chip.Accounts claimed ring)
      (onLink (SpiEthernet.writeWord (SocketRegister.rxRead.address s) pointer)) := by
  refine keeps_pointer rfl ?_ pointer
  rintro ⟨hr, rfl⟩
  cases ring with
  | transmit s => simp [Ring.registers] at hr
  | receive s => exact h rfl

/-- A reset empties every ring. -/
theorem keeps_init : Keeps (fun d : Device Board => d.board.chip.Accounts 0 ring) init :=
  (robust_accounts 0 ring).init fun _ _ haddress => Frame.respects_of_common haddress

end SpiEthernet
