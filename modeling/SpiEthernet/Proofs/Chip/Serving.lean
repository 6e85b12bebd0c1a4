import SpiEthernet.Proofs.Chip.Frames

/-!
# Serving and the queue

Serving a frame adds to the queue when a peer replies, and does nothing else with it. So what is
served does not depend on what is in the queue, and what is added comes behind it. Nor does serving
count: a frame counts at its end only.

* `serve_prepend` : with events in front of the queue, the same is served.
* `transactions_serve` : serving leaves the count of frames alone.
-/

namespace SpiEthernet

namespace Chip

/-! ## What serving adds to the queue -/

/-- The chip with some events in front of those in its queue. -/
def prepend (chip : Chip) (events : List Scheduled) : Chip := chip.mapQueue (events ++ ·)

section Prepend

variable (chip : Chip) (events : List Scheduled) (s : SocketId)

theorem byteOf_prepend (r : SocketRegister) :
    (chip.prepend events).byteOf r s = chip.byteOf r s := rfl

theorem wordOf_prepend (r : SocketRegister) :
    (chip.prepend events).wordOf r s = chip.wordOf r s := rfl

theorem latches_prepend : (chip.prepend events).latches = chip.latches := rfl

theorem setByteOf_prepend (r : SocketRegister) (value : UInt8) :
    (chip.prepend events).setByteOf r s value = (chip.setByteOf r s value).prepend events := rfl

theorem setWordOf_prepend (r : SocketRegister) (value : UInt16) :
    (chip.prepend events).setWordOf r s value = (chip.setWordOf r s value).prepend events := rfl

theorem mapLatch_prepend (f : SocketLatch → SocketLatch) :
    (chip.prepend events).mapLatch s f = (chip.mapLatch s f).prepend events := rfl

theorem raiseSocket_prepend (bits : UInt8) :
    (chip.prepend events).raiseSocket s bits = (chip.raiseSocket s bits).prepend events :=
  chip.mapQueue_raiseSocket _ s bits

theorem schedule_prepend (delay : Nat) (event : Event) :
    (chip.prepend events).schedule delay event = (chip.schedule delay event).prepend events := by
  simp [schedule, prepend, mapQueue]

theorem answer_prepend (packet : SentPacket) :
    (chip.prepend events).answer packet = (chip.answer packet).prepend events := by
  have hrules : (chip.prepend events).replies = chip.replies := rfl
  unfold answer
  rw [hrules]
  split
  · rfl
  · rfl
  · next rule rest _ =>
    exact schedule_prepend { chip with replies := rest } events rule.delay (rule.event packet)

theorem failTransmit_prepend :
    (chip.prepend events).failTransmit s = (chip.failTransmit s).prepend events := by
  simp only [failTransmit, raiseSocket_prepend, byteOf_prepend]
  split <;> rfl

theorem transmit_prepend :
    (chip.prepend events).transmit s = (chip.transmit s).prepend events := by
  have hreleased : (chip.prepend events).releaseTx s = (chip.releaseTx s).prepend events := rfl
  have hpacket : (chip.prepend events).stagedPacket s = chip.stagedPacket s := rfl
  simp only [transmit, hreleased, hpacket, latches_prepend]
  split
  · exact failTransmit_prepend _ events s
  · rw [raiseSocket_prepend, answer_prepend]
    rfl

theorem run_prepend (command : SocketCommand) :
    (chip.prepend events).run s command = (chip.run s command).prepend events := by
  cases command with
  | send | sendMac | sendKeep => exact chip.transmit_prepend events s
  | «open» | listen | connect | disconnect | close | receive =>
    simp only [run, setStatus, setPointers, updateRxSize, raiseSocket_prepend, byteOf_prepend,
      wordOf_prepend, latches_prepend, setByteOf_prepend, setWordOf_prepend, mapLatch_prepend]

theorem command_prepend (code : UInt8) :
    (chip.prepend events).command s code = (chip.command s code).prepend events := by
  have hlatency : (chip.prepend events).commandLatency = chip.commandLatency := rfl
  simp only [command, hlatency, setByteOf_prepend, mapLatch_prepend]
  split
  · exact run_prepend _ events s _
  · rfl

theorem readSocket_prepend (offset address : UInt16) :
    (chip.prepend events).readSocket s offset address =
      ((chip.readSocket s offset address).1,
        (chip.readSocket s offset address).2.prepend events) := by
  have hlatches : (chip.prepend events).latches = chip.latches := rfl
  unfold readSocket
  rw [hlatches]
  dsimp only
  split
  · split <;> rfl
  split
  · rfl
  split <;> rfl

theorem read_prepend (address : UInt16) :
    (chip.prepend events).read address =
      ((chip.read address).1, (chip.read address).2.prepend events) := by
  have habsent : (chip.prepend events).absent = chip.absent := rfl
  have hbusy : (chip.prepend events).resetBusy = chip.resetBusy := rfl
  unfold read
  rw [habsent]
  split
  · rfl
  unfold readPresent
  rw [hbusy]
  split
  · rfl
  split
  · rfl
  split
  · exact chip.readSocket_prepend events _ _ address
  · rfl

theorem write_prepend (address : UInt16) (value : UInt8) :
    (chip.prepend events).write address value = (chip.write address value).prepend events := by
  have habsent : (chip.prepend events).absent = chip.absent := rfl
  unfold write
  rw [habsent]
  split
  · rfl
  unfold writePresent
  split
  · split
    · rw [powerOn, powerOn]
      rfl
    · rfl
  split
  · rfl
  split
  · next t offset _ =>
    split
    · rfl
    split
    · exact chip.command_prepend events t value
    · rfl
  · rfl

/-- What is served does not depend on the queue, and what it adds comes behind what is in it. -/
theorem serve_prepend (frame : Frame) :
    (chip.prepend events).serve frame =
      ((chip.serve frame).1, (chip.serve frame).2.prepend events) := by
  unfold serve
  split
  · exact chip.read_prepend events _
  · rw [write_prepend]

end Prepend

/-! ## What serving leaves of the count -/

theorem transactions_answer (chip : Chip) (packet : SentPacket) :
    (chip.answer packet).transactions = chip.transactions := by
  unfold answer
  split <;> rfl

theorem transactions_transmit (chip : Chip) (s : SocketId) :
    (chip.transmit s).transactions = chip.transactions := by
  simp only [transmit]
  split
  · rw [transactions_of_casing (casing_failTransmit _ s),
      transactions_of_casing (casing_releaseTx _ s)]
  · rw [transactions_answer, transactions_of_casing (casing_raiseSocket _ s _),
      transactions_of_casing (casing_releaseTx _ s)]

theorem transactions_run (chip : Chip) (s : SocketId) (command : SocketCommand) :
    (chip.run s command).transactions = chip.transactions := by
  by_cases hlocal : transmits command = false
  · exact transactions_of_casing (chip.casing_run s hlocal)
  · cases command with
    | send | sendMac | sendKeep => exact chip.transactions_transmit s
    | _ => exact absurd rfl hlocal

theorem transactions_command (chip : Chip) (s : SocketId) (code : UInt8) :
    (chip.command s code).transactions = chip.transactions := by
  simp only [command]
  split
  · exact transactions_run _ s _
  · rfl

/-- A frame counts at its end only. -/
theorem transactions_serve (chip : Chip) (frame : Frame) :
    (chip.serve frame).2.transactions = chip.transactions := by
  cases hpresent : chip.absent with
  | some fill => rw [serve_absent hpresent]
  | none =>
    obtain ⟨direction, address, value⟩ := frame
    cases direction with
    | read => exact transactions_of_casing (casing_read hpresent address)
    | write =>
      have heffect := writeEffect hpresent address value
      show (chip.write address value).transactions = chip.transactions
      generalize chip.write address value = after at *
      cases heffect with
      | reset => exact transactions_of_casing chip.casing_reset
      | command s => exact chip.transactions_command s value
      | clearGlobal | clearSocket | memory => rfl

end Chip

end SpiEthernet
