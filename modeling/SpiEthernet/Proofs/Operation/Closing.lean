import SpiEthernet.Proofs.Interrupt.Drain
import SpiEthernet.Proofs.Receive.Opening

/-!
# Closing a socket

A socket that has been closed is free for a new owner, and the driver remembers nothing of the
last one, neither flags nor a port.

* `close_releases` : closing does so, unless something else changes the socket's status.
-/

namespace SpiEthernet

section Closing

variable {σ : Type} [Host σ] [Wired σ]

/-- A socket has been given back. -/
structure Device.Released (device : Device σ) (s : SocketId) : Prop where
  status : device.chip.byteOf .status s = SocketStatus.closed.raw
  sticky : device.controller.sticky.socket s = 0
  localPort : device.controller.localPorts[s] = 0

omit [Host σ] [Wired σ] in
theorem Controller.forget_self (controller : Controller) (s : SocketId) :
    (controller.forget s).sticky.socket s = 0 ∧ (controller.forget s).localPorts[s] = 0 :=
  ⟨StickyFlags.socket_setSocket_self _ _ _, SocketId.getElem_set_self _ _ _⟩

theorem Chip.byteOf_status_close {chip : Chip} (h : chip.absent = none) (s : SocketId) :
    (chip.serve (Frame.write (SocketRegister.command.address s)
      SocketCommand.close.code)).2.byteOf .status s = SocketStatus.closed.raw := by
  rw [serve_write, write_command h]
  simp only [command, SocketCommand.ofCode?_code, run, setStatus]
  rw [byteOf_setByteOf, if_neg (by simp), byteOf_setByteOf, if_pos ⟨rfl, rfl⟩]

/-- A socket that has been closed has been given back. -/
theorem Habit.close_releases {H : Habit σ} {device : Device σ} (hok : H.ok device.board)
    {s : SocketId} (hstays : device.chip.StatusStays s) :
    Ends (close s) device fun _ device' => device'.Released s := by
  have hsteady := H.steady hok
  have hcommand : (Frame.write (SocketRegister.command.address s)
      SocketCommand.close.code).IsLocal := isLocal_command rfl
  refine Ends.bind (H.issue_ends hok rfl) ?_
  rintro _ d1 ⟨given, o, reply, hgiven, -, hwalked⟩
  have hstays' := (hgiven.came hcommand).statusStays hok hstays
  have hclosed : d1.chip.byteOf .status s = SocketStatus.closed.raw := by
    rw [hwalked.byteOf_status hgiven.ok hstays',
      hgiven.byteOf hok hcommand (by decide) rfl fun scheduled hs _ => hstays scheduled hs]
    exact Chip.byteOf_status_close hsteady.present s
  have hstays1 := (hwalked.came fun _ => Looks.isLocal).statusStays hgiven.ok hstays'
  refine Ends.bind (Ends.onLink (H.writeByte_ends hwalked.ok (isLocal_write_interrupt s 0xFF))) ?_
  rintro _ d2 ⟨⟨o', reply', hcleared⟩, -⟩
  obtain ⟨hsticky, hport⟩ := d2.controller.forget_self s
  refine Ends.changeController ⟨?_, hsticky, hport⟩
  show Chip.byteOf _ .status s = _
  rw [hcleared.byteOf hwalked.ok (isLocal_write_interrupt s 0xFF) (by decide) rfl
    fun scheduled hs _ => hstays1 scheduled hs, Chip.serve_write,
    Chip.write_socketInterrupt (H.steady hwalked.ok).present, Chip.byteOf_setByteOf,
    if_neg (by simp)]
  exact hclosed

end Closing

end SpiEthernet
