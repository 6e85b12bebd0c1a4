import SpiEthernet.Proofs.Interrupt.Sharing
import SpiEthernet.Proofs.Operation.Tending

/-!
# Sockets are isolated

The registers and the rings of the sockets lie back to back in the chip, and whoever waits for the
end of a transmission collects the flags of all sockets. Nevertheless no operation on one socket
shows on another one: its frames write to the socket's own places and to interrupt registers only,
and the flags that it collects of the others are still there.

* `performSocket_tends` : every operation on a socket tends it, and all but `send` come to an end.
* `isolated` : so nothing of the other sockets changes, and of the common registers only the
  interrupt register does.
-/

namespace SpiEthernet

/-! ## Operations tend their socket -/

section Tending

variable {σ α : Type} [Host σ] [Wired σ]

namespace Habit

variable {H : Habit σ} (hH : H.Calm) {s : SocketId} {start : Device σ}

include hH

theorem status_tends : Succeeds (H.Tended (Frame.Concerns s) s start) (status s) :=
  looks_tends hH (fun _ => .inr) (Travels.map (Travels.readByte (fun _ => id) _) _)

theorem given_tends (command : SocketCommand) :
    Succeeds (H.Tended (Frame.Concerns s) s start) (issue s command) :=
  issue_tends hH (fun _ => .inr) command
    (.inl fun _ => SocketId.owns_register .command s (i := 0) (by decide))

theorem closed_tends : Succeeds (H.Tended (Frame.Concerns s) s start) (close s) :=
  close_tends hH fun _ h => h.concerns

/-- Sending concerns the socket, for its transmit side belongs to it. -/
theorem staged_tends {m : DeviceM σ α} (hm : H.Travels (H.Stages s) m) :
    Succeeds (H.Tended (Frame.Concerns s) s start) m :=
  stages_tends hH (fun _ h => .inl h.tends) hm

/-- Receiving concerns the socket, for its receive pointer belongs to it. -/
theorem received_tends {m : DeviceM σ α} (hm : H.Travels (H.ReceivesOn s) m) :
    Succeeds (H.Tended (Frame.Concerns s) s start) m :=
  hm.tends (fun frame h => .inl (h.resolve_right (hH.between frame)).tends)
    fun frame h => (h.resolve_right (hH.between frame)).tends

theorem sent_tends : Succeeds (H.Tended (Frame.Concerns s) s start) (sendDatagram s).run :=
  sendDatagram_tends hH (fun _ => .inr)
    (.inl fun _ => SocketId.owns_register .command s (i := 0) (by decide))

theorem writeRegisterBlock_tends {r : SocketRegister} (hr : r ≠ .command) {data : List UInt8}
    (hlength : data.length ≤ r.width) :
    Succeeds (H.Tended (Frame.Concerns s) s start) (onLink (writeBlock (r.address s) data)) := by
  have hplace {i : Nat} (hi : i < data.length) :
      (r.address s + UInt16.ofNat i).toNat = (r.address s).toNat + i :=
    r.toNat_address_add s (by omega)
  rw [writeBlock, onLink_bind]
  refine Succeeds.bind (transact_tends hH (fun _ h => h.concerns) fun frame hframe => ?_)
    fun _ => Succeeds.pure _
  obtain ⟨i, hi, rfl⟩ := List.mem_mapIdx.1 hframe
  refine ⟨?_, fun t ha => ?_⟩
  · show s.Owns (r.address s + UInt16.ofNat i).toNat
    rw [hplace hi]
    exact SocketId.owns_register r s (by omega)
  · have hd := SocketRegister.address_disjoint_of_ne hr s t
    have hwidth : SocketRegister.command.width = 1 := rfl
    rw [← show r.address s + UInt16.ofNat i = _ from ha, hplace hi] at hd
    omega

/-! ### Connections -/

theorem connect_tends (ip : Ipv4) (destinationPort : UInt16) :
    Succeeds (H.Tended (Frame.Concerns s) s start) (connect s ip destinationPort).run := by
  unfold connect
  refine Succeeds.unless_fail ?_
  refine Succeeds.sure_bind (staged_tends hH (Travels.setDestination H s _ _)) fun _ => ?_
  exact Succeeds.sure (given_tends hH _)

theorem listen_tends : Succeeds (H.Tended (Frame.Concerns s) s start) (listen s).run := by
  refine Succeeds.sure_bind (status_tends hH) fun shown => ?_
  exact Succeeds.unless_fail (Succeeds.sure (given_tends hH _))

/-! ### Datagrams -/

theorem stageWhole_tends (data : List UInt8) :
    Succeeds (H.Tended (Frame.Concerns s) s start) (stageWhole s data).run := by
  refine Succeeds.sure_bind (staged_tends hH (Travels.freeTx_stages H s)) fun free => ?_
  exact Succeeds.unless_fail (staged_tends hH (Travels.stage H s _ _))

theorem sendTo_tends (data : List UInt8) (ip : Ipv4) (destinationPort : UInt16) :
    Succeeds (H.Tended (Frame.Concerns s) s start) (sendTo s data ip destinationPort).run := by
  refine Succeeds.attempt (staged_tends hH (Travels.startDatagram H s _ _)) fun _ => ?_
  refine Succeeds.attempt (stageWhole_tends hH data) fun _ => ?_
  exact Succeeds.attempt (sent_tends hH) fun _ => Succeeds.pure _

theorem sendRaw_tends (data : List UInt8) :
    Succeeds (H.Tended (Frame.Concerns s) s start) (sendRaw s data).run := by
  refine Succeeds.attempt (stageWhole_tends hH data) fun _ => ?_
  refine Succeeds.attempt (Succeeds.tryCatch (sent_tends hH) fun cause => ?_)
    fun _ => Succeeds.pure _
  exact Succeeds.sure_bind (closed_tends hH) fun _ => Succeeds.fail cause

theorem sendRawTo_tends (data : List UInt8) (ip : Ipv4) :
    Succeeds (H.Tended (Frame.Concerns s) s start) (sendRawTo s data ip).run := by
  unfold sendRawTo
  refine Succeeds.unless_fail ?_
  refine Succeeds.sure_bind ?_ fun _ => sendRaw_tends hH data
  exact writeRegisterBlock_tends hH (r := .peerIp) (by decide) (Nat.le_refl 4)

/-! ### Streams -/

/-- Sending on a stream waits for room, perhaps for ever; whenever it ends, it has tended its
socket. -/
theorem send_tends (data : List UInt8) :
    Keeps (H.Tended (Frame.Concerns s) s start) (send s data) := by
  have hroom : ∀ needed, Keeps (H.Tended (Frame.Concerns s) s start) (roomFor s needed) := by
    intro needed
    have hfree := Travels.freeTx_stages H s
    refine Keeps.bind (Keeps.sure (staged_tends hH hfree).keeps) fun free => ?_
    refine Keeps.bind (Keeps.sure (status_tends hH).keeps) fun shown => ?_
    exact Keeps.guarded (Keeps.fail _) (Keeps.pure _)
  have hgivenUp {β : Type} (cause : Error) (k : Unit → Attempt σ β) :
      Keeps (H.Tended (Frame.Concerns s) s start) (do
        sure (close s)
        fail cause >>= k) :=
    Keeps.bind (Keeps.sure (closed_tends hH).keeps) fun _ => Keeps.fail_bind _ _
  have hended : Keeps (H.Tended (Frame.Concerns s) s start) (sendEnded s true) := by
    refine Keeps.bind (Keeps.sure (drain_tends hH fun _ => .inr).keeps) fun _ => ?_
    refine Keeps.bind (Keeps.sure (takeFlags_tends _).keeps) fun flags => ?_
    refine Keeps.ite (Keeps.pure _) (Keeps.ite ?_ ?_)
    · exact Keeps.bind (Keeps.sure (note_tends _).keeps) fun _ => hgivenUp _ _
    · refine Keeps.bind (Keeps.sure (status_tends hH).keeps) fun shown => ?_
      exact Keeps.ite (hgivenUp _ _) (Keeps.pure _)
  refine Keeps.ite (Keeps.pure _) (Keeps.bind (Keeps.sure Keeps.patience) fun bound => ?_)
  refine Keeps.bind (Keeps.pollWithin (hroom _) (Keeps.sure (Keeps.fault _)) bound) fun _ => ?_
  refine Keeps.bind (Keeps.sure (clearSendFlags_tends hH fun _ => .inr).keeps) fun _ => ?_
  refine Keeps.bind (staged_tends hH (Travels.stage H s _ _)).keeps fun _ => ?_
  refine Keeps.bind (Keeps.sure (given_tends hH .send).keeps) fun _ => ?_
  refine Keeps.bind (Keeps.bind (Keeps.sure Keeps.patience) fun bound => ?_) fun _ => Keeps.pure _
  exact Keeps.pollWithin hended (Keeps.sure (Keeps.fault _)) bound

/-! ### All of them -/

/-- Every operation on a socket but `send` comes to an end, and it tends the socket. -/
theorem performSocket_tends (operation : SocketOperation) (hsend : ∀ data, operation ≠ .send data) :
    Succeeds (H.Tended (Frame.Concerns s) s start) (operation.perform s) := by
  have hconcerns : ∀ frame : Frame, frame.Uses s → frame.Concerns s := fun _ h => h.concerns
  cases operation with
  | status => exact Succeeds.answering (status_tends hH)
  | issue command => exact Succeeds.answering (given_tends hH command)
  | stickyFlags | localPort =>
    exact Succeeds.answering (onController_tends (fun _ _ _ => rfl) fun _ _ _ => rfl)
  | takeFlags mask => exact Succeeds.answering (takeFlags_tends mask)
  | freeTx => exact Succeeds.answering (staged_tends hH (Travels.freeTx_stages H s))
  | pendingRx => exact Succeeds.answering (received_tends hH (Travels.pendingRx H s))
  | stage offset data => exact Succeeds.attempting (staged_tends hH (Travels.stage H s _ _))
  | fetch count stay => exact Succeeds.attempting (received_tends hH (Travels.fetch H s _ _))
  | skip count => exact Succeeds.answering (received_tends hH (Travels.skip H s _))
  | openSocket mode flags wanted =>
    refine Succeeds.attempting (openSocket_tends hH hconcerns ?_ mode flags wanted)
    exact .inl fun _ => SocketId.owns_register .command s (i := 0) (by decide)
  | close => exact Succeeds.answering (closed_tends hH)
  | disconnect => exact Succeeds.answering (given_tends hH _)
  | connect ip port => exact Succeeds.attempting (connect_tends hH ip port)
  | listen => exact Succeeds.attempting (listen_tends hH)
  | setProtocol | setTypeOfService | setTimeToLive =>
    exact Succeeds.answering (writeRegister_tends hH hconcerns (by decide) _)
  | setSegmentSize => exact Succeeds.answering (writeRegisterWord_tends hH hconcerns rfl _)
  | setDestinationMac mac =>
    exact Succeeds.answering (writeRegisterBlock_tends hH (r := .peerHardwareAddress) (by decide)
      (Nat.le_refl 6))
  | send data => exact absurd rfl (hsend data)
  | receive room => exact Succeeds.attempting (received_tends hH (Travels.receive H s _))
  | peek => exact Succeeds.attempting (received_tends hH (Travels.peekByte H s))
  | sendTo data ip port => exact Succeeds.attempting (sendTo_tends hH data ip port)
  | receiveFrom room => exact Succeeds.attempting (received_tends hH (Travels.receiveFrom H s _))
  | startDatagram ip port =>
    exact Succeeds.attempting (staged_tends hH (Travels.startDatagram H s _ _))
  | buffer offset data => exact Succeeds.attempting (staged_tends hH (Travels.buffer H s _ _))
  | sendDatagram => exact Succeeds.attempting (sent_tends hH)
  | sendRawTo data ip => exact Succeeds.attempting (sendRawTo_tends hH data ip)
  | sendRaw data => exact Succeeds.attempting (sendRaw_tends hH data)

end Habit

end Tending

/-! ## What no operation touches -/

namespace Chip

variable {chip : Chip} {s : SocketId} {frame : Frame} {address : Nat}

/-- A frame that concerns a socket changes nothing outside of the sockets' places but the interrupt
register. -/
theorem memory_serve_of_concerns (h : chip.absent = none) (hf : frame.Concerns s)
    (hplace : ∀ t : SocketId, ¬t.Owns address)
    (hi : address ≠ CommonRegister.interrupt.address.toNat) :
    (chip.serve frame).2.memory.read address = chip.memory.read address := by
  have hflags (t : SocketId) : address ≠ (SocketRegister.interrupt.address t).toNat := fun ha =>
    hplace t (ha ▸ SocketId.owns_register .interrupt t (i := 0) (by decide))
  rcases hf with htends | hq
  · obtain ⟨direction, target, value⟩ := frame
    cases direction with
    | read => exact memory_serve_of_isQuiet h (Frame.isQuiet_of_read rfl) hi hflags
    | write => exact (chip.sameBeside_write h value (htends rfl)).places (hplace s)
  · exact memory_serve_of_isQuiet h hq hi hflags

end Chip

/-- Many such frames change nothing there either, if nothing happens to the chip by itself. -/
theorem Endpoint.Passes.memory_of_concerns {start now : Endpoint} {o : List Occurrence}
    {s : SocketId} {address : Nat} (h : start.Passes (Frame.Concerns s) o now)
    (hs : start.chip.Silent) (hplace : ∀ t : SocketId, ¬t.Owns address)
    (hi : address ≠ CommonRegister.interrupt.address.toNat) :
    now.chip.memory.read address = start.chip.memory.read address := by
  induction h with
  | refl => rfl
  | @turn _ now h frame hf ih =>
    have hsilent := (h.silent hs).1
    rw [← ih, ← Chip.memory_serve_of_concerns hsilent.present hf hplace hi]
    show (Chip.afterFrame _).memory.read address = _
    rw [(hsilent.serve frame).afterFrame_eq]
    rfl
  | mask _ _ ih => exact ih
  | notice _ ih => exact ih

/-! ## Isolation -/

/-- Nothing of a socket is different in the second state: its registers and its rings are the same,
flags apart, and so are the pointers that the chip has accepted and the port that the driver
remembers. A flag that was raised in the chip or collected by the driver still is one of the two,
and no other flag is. -/
structure Device.Isolated (t : SocketId) (device device' : Device Board) : Prop where
  places {address : Nat} (h : t.Owns address)
    (hi : address ≠ (SocketRegister.interrupt.address t).toNat) :
    device'.chip.memory.read address = device.chip.memory.read address
  txWrite : device'.chip.latches[t].txWrite = device.chip.latches[t].txWrite
  rxRead : device'.chip.latches[t].rxRead = device.chip.latches[t].rxRead
  localPort : device'.controller.localPorts[t] = device.controller.localPorts[t]
  flags : device'.controller.sticky.socket t ||| device'.chip.byteOf .interrupt t =
    device.controller.sticky.socket t ||| device.chip.byteOf .interrupt t

/-- Where nothing happens to the chip by itself, work on one socket leaves the others as they
are. -/
theorem Habit.Tended.isolated {s t : SocketId} {device device' : Device Board}
    (h : Habit.alone.Tended (Frame.Concerns s) s device device') (hs : device.chip.Silent)
    (hst : s ≠ t) : device.Isolated t device' := by
  obtain ⟨o, hpasses, hflow⟩ := h.moves
  obtain ⟨-, rfl⟩ := hpasses.silent hs
  have hsame : device.chip.SameSocket device'.chip t :=
    hpasses.sameSocket (fun _ => id) hs.visited hst
  obtain ⟨busy, -, hlatch⟩ := hsame.latch
  exact ⟨hsame.places, by rw [hlatch], by rw [hlatch], h.localPorts t hst, (hflow t hst).union_eq⟩

/-- No operation on a socket changes anything of another one, whatever it is asked to do and however
it ends. Of the common registers it changes the interrupt register only. -/
theorem sockets_isolated {device : Device Board} (hboard : device.board.Undisturbed)
    (hchip : device.chip.Silent) (s : SocketId) (operation : SocketOperation) :
    Ensures (∀ data, operation ≠ .send data) (operation.perform s) device fun _ device' =>
      (∀ t, s ≠ t → device.Isolated t device') ∧
        ∀ address < 0x30, address ≠ CommonRegister.interrupt.address.toNat →
          device'.chip.memory.read address = device.chip.memory.read address := by
  have hstart : Habit.alone.Tended (Frame.Concerns s) s device device := .refl ⟨hboard, hchip⟩
  have htended : Ensures (∀ data, operation ≠ .send data) (operation.perform s) device
      fun _ device' => Habit.alone.Tended (Frame.Concerns s) s device device' := by
    rcases Classical.em (∃ data, operation = .send data) with ⟨data, rfl⟩ | hsend
    · refine ⟨fun h => absurd rfl (h data), fun hrun => ?_⟩
      exact Keeps.attempting (Habit.send_tends Habit.alone_calm data) _ _ _ hstart hrun
    · have hnot (data : List UInt8) : operation ≠ .send data := fun h => hsend ⟨data, h⟩
      exact (Habit.performSocket_tends Habit.alone_calm operation hnot device hstart).ensures
  refine htended.mono fun _ device' h => ⟨fun t hst => h.isolated hchip hst, ?_⟩
  intro address haddress hi
  obtain ⟨o, hpasses, -⟩ := h.moves
  refine hpasses.memory_of_concerns hchip (fun t hplace => ?_) hi
  unfold SocketId.Owns at hplace
  omega

/-- While the lock of a fresh board is held, a datagram that is sent on one socket leaves the others
alone. -/
theorem sockets_isolated_pristine :
    Board.pristine.taken.Undisturbed ∧ Board.pristine.taken.chip.Silent ∧
      Ends (SocketOperation.perform 1 (.sendTo [1, 2, 3] ⟨10, 0, 0, 7⟩ 53))
        (⟨Board.pristine.taken, Controller.new⟩ : Device Board) fun _ device' =>
          ∀ t, 1 ≠ t → Device.Isolated t ⟨Board.pristine.taken, Controller.new⟩ device' := by
  have hboard : Board.pristine.taken.Undisturbed := fun _ => .inl rfl
  have hchip : Board.pristine.taken.chip.Silent := ⟨rfl, rfl, rfl⟩
  have hisolated := @sockets_isolated ⟨Board.pristine.taken, Controller.new⟩ hboard hchip 1
    (.sendTo [1, 2, 3] ⟨10, 0, 0, 7⟩ 53)
  exact ⟨hboard, hchip, (hisolated.ends nofun).mono fun _ _ h => h.1⟩

end SpiEthernet
