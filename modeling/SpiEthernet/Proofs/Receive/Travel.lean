import SpiEthernet.Proofs.Link.Travel
import SpiEthernet.Operation.Socket

/-!
# The frames of receiving

Receiving reads registers and the receive ring, moves the receive pointer, and gives the command
that releases what was read. It exchanges no other frames and leaves the controller alone,
whatever arrives meanwhile and whatever the chip holds.

* `Travels.receive`, `Travels.receiveFrom`, `Travels.peekByte` : the operations that receive.
-/

namespace SpiEthernet

/-- A frame that reads, writes to a receive pointer, or gives the command to release received
bytes. -/
def Frame.IsReceiving (frame : Frame) : Prop :=
  frame.direction = .write → ∃ s,
    frame.address = SocketRegister.rxRead.address s ∨
      frame.address = SocketRegister.rxRead.address s + 1 ∨
      frame.address = SocketRegister.command.address s ∧ frame.data = SocketCommand.receive.code

theorem Frame.IsReceiving.isLocal {frame : Frame} (h : frame.IsReceiving) : frame.IsLocal := by
  intro hw s command ha hc
  obtain ⟨t, ht | ht | ⟨-, hdata⟩⟩ := h hw
  · cases (SocketRegister.address_inj (ht.symm.trans ha)).1
  · exact absurd (ht.symm.trans ha) (SocketRegister.address_succ_ne rfl _ _ _)
  · rw [hdata] at hc
    cases hc
    rfl

/-- A frame that reads, or that receives on one socket. -/
def Frame.IsReceivingOn (s : SocketId) (frame : Frame) : Prop :=
  frame.direction = .write →
    frame.address = SocketRegister.rxRead.address s ∨
      frame.address = SocketRegister.rxRead.address s + 1 ∨
      frame.address = SocketRegister.command.address s ∧ frame.data = SocketCommand.receive.code

theorem Frame.IsReceivingOn.isReceiving {s : SocketId} {frame : Frame} (h : frame.IsReceivingOn s) :
    frame.IsReceiving := fun hw => ⟨s, h hw⟩

section Receive

variable {σ : Type} [Host σ] [Wired σ]

namespace Habit

/-- The frames that are exchanged while the driver receives: its own, and the board's. -/
def Receives (H : Habit σ) (frame : Frame) : Prop := frame.IsReceiving ∨ H.between frame

variable {H : Habit σ} {frame : Frame}

theorem Looks.receives (h : H.Looks frame) : H.Receives frame := by
  rcases h with h | h
  · exact .inl fun hw => by rw [h] at hw; cases hw
  · exact .inr h

/-- The frames that are exchanged while the driver receives on one socket: its own, and the
board's. -/
def ReceivesOn (H : Habit σ) (s : SocketId) (frame : Frame) : Prop :=
  frame.IsReceivingOn s ∨ H.between frame

theorem Looks.receivesOn {s : SocketId} (h : H.Looks frame) : H.ReceivesOn s frame := by
  rcases h with h | h
  · exact .inl fun hw => by rw [h] at hw; cases hw
  · exact .inr h

namespace Travels

variable (H) (s : SocketId)

theorem writeRxRead (pointer : UInt16) :
    H.Travels (H.ReceivesOn s) (onLink (writeWord (SocketRegister.rxRead.address s) pointer)) := by
  have hhigh : (Frame.write (SocketRegister.rxRead.address s) (highByte pointer)).IsReceivingOn s :=
    fun _ => .inl rfl
  have hlow : (Frame.write (SocketRegister.rxRead.address s + 1)
      (lowByte pointer)).IsReceivingOn s := fun _ => .inr (.inl rfl)
  have hbyte {address : UInt16} {value : UInt8} (h : (Frame.write address value).IsReceivingOn s) :
      H.Travels (H.ReceivesOn s) (onLink (SpiEthernet.writeByte address value)) :=
    writeByte (fun _ => Looks.receivesOn) (.inl h) h.isReceiving.isLocal
  exact link_bind (hbyte hhigh) fun _ => hbyte hlow

theorem release : H.Travels (H.ReceivesOn s) (SpiEthernet.issue s .receive) :=
  issue (fun _ => Looks.receivesOn) s rfl (.inl fun _ => .inr (.inr ⟨rfl, rfl⟩))

theorem fetch (count : Nat) (peek : Bool) :
    H.Travels (H.ReceivesOn s) (SpiEthernet.fetch s count peek).run := by
  have hlooks : ∀ frame, H.Looks frame → H.ReceivesOn s frame := fun _ => Looks.receivesOn
  refine attempt (attempt_ite (fail _) (pure _)) fun _ => ?_
  refine attempt_ite (pure _) ?_
  refine sure_bind (readWord hlooks _) fun pointer => ?_
  refine sure_bind (readBlock hlooks _ _) fun head => ?_
  refine sure_bind (readBlock hlooks _ _) fun tail => ?_
  refine attempt_ite (sure_bind (writeRxRead H s _) fun _ => pure _) (pure _)

theorem skip (count : UInt16) : H.Travels (H.ReceivesOn s) (SpiEthernet.skip s count) := by
  refine ite (bind (readWord (fun _ => Looks.receivesOn) _) fun pointer => ?_) (pure _)
  exact writeRxRead H s _

theorem status : H.Travels (H.ReceivesOn s) (SpiEthernet.status s) :=
  map (readByte (fun _ => Looks.receivesOn) _) _

theorem pendingRx : H.Travels (H.ReceivesOn s) (SpiEthernet.pendingRx s) :=
  settledWord (fun _ => Looks.receivesOn) s rfl (by decide)

theorem freeTx : H.Travels (H.ReceivesOn s) (SpiEthernet.freeTx s) :=
  settledWord (fun _ => Looks.receivesOn) s rfl (by decide)

theorem receiveHeader : H.Travels (H.ReceivesOn s) (SpiEthernet.receiveHeader s).run := by
  refine sure_bind (readByte (fun _ => Looks.receivesOn) _) fun mode => ?_
  refine sure_bind (pendingRx H s) fun pending => ?_
  refine attempt_ite (pure _) ?_
  refine attempt (fetch H s _ _) fun header => ?_
  exact sure_bind (release H s) fun _ => pure _

/-- Receiving a datagram exchanges only frames of receiving. -/
theorem receiveFrom (room : Nat) :
    H.Travels (H.ReceivesOn s) (SpiEthernet.receiveFrom s room).run := by
  refine attempt (receiveHeader H s) fun info => ?_
  cases info with
  | none => exact pure _
  | some info =>
    refine attempt (fetch H s _ _) fun bytes => ?_
    refine sure_bind (skip H s _) fun _ => ?_
    exact sure_bind (release H s) fun _ => pure _

/-- Receiving from a stream exchanges only frames of receiving. -/
theorem receive (room : Nat) : H.Travels (H.ReceivesOn s) (SpiEthernet.receive s room).run := by
  refine sure_bind (pendingRx H s) fun available => ?_
  refine attempt_ite (sure_bind (status H s) fun _ => pure _) ?_
  refine attempt_ite (pure _) ?_
  refine attempt (fetch H s _ _) fun bytes => ?_
  exact sure_bind (release H s) fun _ => pure _

/-- Looking at the next received byte exchanges only frames of receiving. -/
theorem peekByte : H.Travels (H.ReceivesOn s) (SpiEthernet.peekByte s).run := by
  refine sure_bind (pendingRx H s) fun available => ?_
  refine attempt_ite (pure _) ?_
  exact attempt (fetch H s _ _) fun bytes => pure _

end Travels

end Habit

end Receive

end SpiEthernet
