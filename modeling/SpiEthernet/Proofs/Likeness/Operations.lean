import SpiEthernet.Proofs.Likeness.Devices

/-!
# Operations do not see where flags lie

On two devices that are alike, an operation on a socket answers the same and leaves devices that are
alike, or it goes on forever on both. It reads registers and rings that hold the same, gives the
same commands, and where it asks for flags it drains before, so that all flags are with the driver.
Closing forgets the flags of a socket at both places.

* `SocketOperation.isTransfer` : the operations of the data path.
* `perform_mirrors` : each of them.
-/

namespace SpiEthernet

open Device (Paired Aligned)

variable {α : Type} {s : SocketId} {r : SocketRegister}

/-! ## Frames -/

theorem transact_mirrors {frames : List Frame} (hf : ∀ frame ∈ frames, frame.IsPlain) :
    Mirrors Paired Paired (onLink (transact frames)) := by
  refine Mirrors.of_ends fun x y h => ?_
  have hlocal : ∀ frame ∈ frames, frame.IsLocal := fun frame hm => (hf frame hm).isLocal
  exact ⟨_, _, Habit.transact_clocked h.first hlocal, Habit.transact_clocked h.second hlocal,
    fun _ _ _ _ hx hy => h.clocked hf hx hy⟩

theorem readByte_mirrors {address : UInt16} (hf : (Frame.read address).IsPlain) :
    Mirrors Paired Paired (onLink (readByte address)) := by
  refine Mirrors.of_ends fun x y h =>
    ⟨_, _, Habit.readByte_clocked h.first _, Habit.readByte_clocked h.second _, ?_⟩
  intro a x' b y' hx hy
  obtain ⟨hsame, hpaired⟩ := h.clocked (List.forall_mem_singleton.2 hf) hx hy
  exact ⟨List.singleton_inj.1 hsame, hpaired⟩

theorem writeByte_mirrors {address : UInt16} {value : UInt8}
    (hf : (Frame.write address value).IsPlain) :
    Mirrors Paired Paired (onLink (writeByte address value)) := by
  refine Mirrors.of_ends fun x y h =>
    ⟨_, _, Habit.writeByte_clocked h.first _ _, Habit.writeByte_clocked h.second _ _, ?_⟩
  rintro _ x' _ y' ⟨_, hx⟩ ⟨_, hy⟩
  exact ⟨rfl, (h.clocked (List.forall_mem_singleton.2 hf) hx hy).2⟩

theorem link_bind_mirrors {β : Type} {m : LinkM Board α} {k : α → LinkM Board β}
    (h : Mirrors Paired Paired (onLink m)) (hk : ∀ a, Mirrors Paired Paired (onLink (k a))) :
    Mirrors Paired Paired (onLink (m >>= k)) := by
  rw [onLink_bind]
  exact Mirrors.bind h hk

theorem readBlock_mirrors {address : UInt16} {count : Nat}
    (hplaces : ∀ i < count, 0x4000 ≤ (address + UInt16.ofNat i).toNat) :
    Mirrors Paired Paired (onLink (readBlock address count)) := by
  refine transact_mirrors fun frame hframe => ?_
  obtain ⟨i, hi, rfl⟩ := List.mem_map.1 hframe
  exact Frame.isPlain_of_ring (hplaces i (List.mem_range.1 hi))

theorem writeBlock_mirrors {address : UInt16} {data : List UInt8}
    (hf : ∀ frame ∈ Frame.writes address data, frame.IsPlain) :
    Mirrors Paired Paired (onLink (writeBlock address data)) :=
  link_bind_mirrors (transact_mirrors hf) fun _ => Mirrors.pure _

/-! ## Registers -/

theorem readRegister_mirrors (hcommand : r ≠ .command) (hflags : r ≠ .interrupt) :
    Mirrors Paired Paired (onLink (readByte (r.address s))) :=
  readByte_mirrors (Frame.isPlain_register hcommand hflags (i := 0) r.width_pos rfl)

theorem writeRegister_mirrors (hcommand : r ≠ .command) (hflags : r ≠ .interrupt) (value : UInt8) :
    Mirrors Paired Paired (onLink (writeByte (r.address s) value)) :=
  writeByte_mirrors (Frame.isPlain_register hcommand hflags (i := 0) r.width_pos rfl)

section Words

variable (hw : r.width = 2)

include hw

/-- A frame that addresses a half of a word is plain. -/
theorem Frame.isPlain_word {frame : Frame} (ha : frame.address = r.address s ∨
    frame.address = r.address s + 1) : frame.IsPlain := by
  have hcommand : r ≠ .command := by
    rintro rfl
    cases hw
  have hflags : r ≠ .interrupt := by
    rintro rfl
    cases hw
  rcases ha with ha | ha
  · exact isPlain_register (s := s) hcommand hflags (i := 0) r.width_pos (by rw [ha]; rfl)
  · refine isPlain_register (s := s) hcommand hflags (i := 1) (by omega) ?_
    rw [ha, SocketRegister.toNat_address_succ hw]

theorem readWord_mirrors : Mirrors Paired Paired (onLink (readWord (r.address s))) :=
  link_bind_mirrors (readByte_mirrors (Frame.isPlain_word hw (.inl rfl))) fun _ =>
    link_bind_mirrors (readByte_mirrors (Frame.isPlain_word hw (.inr rfl))) fun _ => Mirrors.pure _

theorem writeWord_mirrors (value : UInt16) :
    Mirrors Paired Paired (onLink (writeWord (r.address s) value)) :=
  link_bind_mirrors (writeByte_mirrors (Frame.isPlain_word hw (.inl rfl))) fun _ =>
    writeByte_mirrors (Frame.isPlain_word hw (.inr rfl))

omit hw in
/-- Where nothing is to happen, waiting is of use for the same number of polls. -/
theorem patience_mirrors : Mirrors Paired Paired (patience : DeviceM Board Nat) := by
  refine Mirrors.patience fun x y h => ?_
  have hqueue := h.first.2.queue
  have hqueue' := h.second.2.queue
  show x.board.chip.patience = y.board.chip.patience
  rw [Chip.patience, Chip.patience, hqueue, hqueue']
  rfl

/-- A word settles on both sides on the same value, or on none. -/
theorem settledWord_mirrors : Mirrors Paired Paired (settledWord (r.address s)) := by
  have hsettle (bound : Nat) : ∀ previous,
      Mirrors Paired Paired (settle (σ := Board) (r.address s) previous bound) := by
    induction bound with
    | zero => exact fun _ => Mirrors.fault _
    | succ bound ih =>
      intro previous
      exact Mirrors.bind (readWord_mirrors hw) fun _ => Mirrors.ite (Mirrors.pure _) (ih _)
  refine Mirrors.bind patience_mirrors fun bound => ?_
  exact Mirrors.bind (readWord_mirrors hw) fun first => hsettle bound first

end Words

theorem status_mirrors : Mirrors Paired Paired (status (σ := Board) s) :=
  Mirrors.bind (readRegister_mirrors (r := .status) (by decide) (by decide)) fun _ => Mirrors.pure _

theorem freeTx_mirrors : Mirrors Paired Paired (freeTx (σ := Board) s) :=
  settledWord_mirrors (r := .txFree) rfl

theorem pendingRx_mirrors : Mirrors Paired Paired (pendingRx (σ := Board) s) :=
  settledWord_mirrors (r := .rxSize) rfl

theorem note_mirrors (notice : Notice) : Mirrors Paired Paired (note (σ := Board) notice) := by
  refine Mirrors.of_ends fun x y h =>
    ⟨_, _, Habit.alone.note_ends (P := fun _ => False) h.first _,
      Habit.alone.note_ends (P := fun _ => False) h.second _, ?_⟩
  rintro _ x' _ y' hx hy
  refine ⟨rfl, h.both hx.ok hy.ok (hx.alike h.first ?_).1 (hy.alike h.second ?_).1⟩ <;>
    exact fun _ => False.elim

/-! ## Commands -/

theorem issue_mirrors {command : SocketCommand} (hcommand : command ≠ .close) :
    Mirrors Paired Paired (issue (σ := Board) s command) :=
  Mirrors.of_ends fun _ _ h => ⟨_, _, Habit.issue_issued h.first _, Habit.issue_issued h.second _,
    fun _ _ _ _ hx hy => ⟨rfl, h.issued hcommand hx hy⟩⟩

theorem close_mirrors : Mirrors Paired Paired (close (σ := Board) s) :=
  Mirrors.of_ends fun _ _ h => ⟨_, _, Habit.close_closed h.first, Habit.close_closed h.second,
    fun _ _ _ _ hx hy => ⟨rfl, h.closed hx hy⟩⟩

/-! ## Flags -/

/-- Behind a drain the flags are with the driver on both sides, wherever they were before. -/
theorem drain_aligns (x y : Device Board) (h : Paired x y) :
    Tally (fun p q => Aligned p.2 q.2) (drain x) (drain y) := by
  refine Tally.of_ends (Habit.drain_alike h.first) (Habit.drain_alike h.second) ?_
  rintro _ x' _ y' ⟨hok, halike, hnone⟩ ⟨hok', halike', hnone'⟩
  have hpaired := h.both hok hok' halike halike'
  refine ⟨hpaired, fun t => ?_, fun t => (hnone' t).trans (hnone t).symm⟩
  have hflags := hpaired.alike.flags t
  rwa [Device.flags, Device.flags, hnone, hnone', UInt8.or_zero, UInt8.or_zero] at hflags

theorem takeFlags_mirrors (mask : UInt8) :
    Mirrors Aligned Paired (takeFlags (σ := Board) s mask) := by
  refine Mirrors.onController fun x y h => ⟨congrArg (· &&& mask) (h.sticky s).symm, ?_⟩
  refine ⟨h.first, h.second, h.alike.chip, fun t => ?_, h.alike.localPorts, h.alike.nextPort⟩
  have hsticky : (y.controller.sticky.takeSocket s mask).2.socket t =
      (x.controller.sticky.takeSocket s mask).2.socket t := by
    by_cases hst : s = t
    · subst hst
      rw [StickyFlags.socket_takeSocket, StickyFlags.socket_takeSocket, h.sticky]
    · exact (StickyFlags.socket_setSocket_of_ne _ _ hst).trans
        ((h.sticky t).trans (StickyFlags.socket_setSocket_of_ne _ _ hst).symm)
  show (y.controller.sticky.takeSocket s mask).2.socket t ||| y.chip.flagsOf (.socket t) =
    (x.controller.sticky.takeSocket s mask).2.socket t ||| x.chip.flagsOf (.socket t)
  rw [hsticky, h.raised]

theorem clearSendFlags_mirrors : Mirrors Paired Paired (clearSendFlags (σ := Board) s) :=
  Mirrors.blind_bind drain_aligns (Mirrors.bind (takeFlags_mirrors _) fun _ => Mirrors.pure _)

/-! ## The end of a transmission -/

theorem sendEnded_mirrors (tcp : Bool) :
    Mirrors Paired Paired (sendEnded (σ := Board) s tcp).run := by
  have hgivenUp {β : Type} (cause : Error) (k : Unit → Attempt Board β) :
      Mirrors Paired Paired (do
        sure (close s)
        fail cause >>= k).run :=
    Mirrors.sure_bind close_mirrors fun _ => Mirrors.fail_bind _ _
  refine Mirrors.blind_sure_bind drain_aligns ?_
  refine Mirrors.sure_bind (takeFlags_mirrors _) fun flags => ?_
  refine Mirrors.attempt_ite (Mirrors.pure _) ?_
  cases tcp with
  | false =>
    refine Mirrors.attempt_ite ?_ (Mirrors.pure _)
    exact Mirrors.sure_bind (note_mirrors _) fun _ => Mirrors.fail_bind _ _
  | true =>
    refine Mirrors.attempt_ite (Mirrors.sure_bind (note_mirrors _) fun _ => hgivenUp _ _) ?_
    refine Mirrors.sure_bind status_mirrors fun shown => ?_
    exact Mirrors.attempt_ite (hgivenUp _ _) (Mirrors.pure _)

theorem awaitSent_mirrors (tcp : Bool) :
    Mirrors Paired Paired (awaitSent (σ := Board) s tcp).run :=
  Mirrors.sure_bind patience_mirrors fun bound =>
    Mirrors.pollWithin (sendEnded_mirrors tcp) bound

theorem sendDatagram_mirrors : Mirrors Paired Paired (sendDatagram (σ := Board) s).run := by
  refine Mirrors.sure_bind clearSendFlags_mirrors fun _ => ?_
  exact Mirrors.sure_bind (issue_mirrors (by decide)) fun _ => awaitSent_mirrors false

/-! ## Rings -/

theorem stage_mirrors (offset : UInt16) (data : List UInt8) :
    Mirrors Paired Paired (stage (σ := Board) s offset data).run := by
  have hs := s.isLt
  have hring {address : UInt16} {data : List UInt8} (hstart : 0x4000 ≤ address.toNat)
      (hend : address.toNat + data.length < 65536) :
      Mirrors Paired Paired (onLink (writeBlock (σ := Board) address data)) := by
    refine writeBlock_mirrors fun frame hframe => ?_
    obtain ⟨i, hi, rfl⟩ := List.mem_mapIdx.1 hframe
    refine Frame.isPlain_of_ring ?_
    show 0x4000 ≤ (address + UInt16.ofNat i).toNat
    rw [UInt16.toNat_add, UInt16.toNat_ofNat']
    omega
  unfold stage
  by_cases hlong : ringSize < data.length
  · rw [checkLength_of_lt hlong]
    exact Mirrors.fail_bind _ _
  have hlength : data.length ≤ ringSize := Nat.not_lt.1 hlong
  rw [checkLength_of_le hlength, pure_bind]
  refine Mirrors.attempt_ite (Mirrors.pure _) ?_
  refine Mirrors.sure_bind (readWord_mirrors (r := .txWrite) rfl) fun transmit => ?_
  generalize transmit + offset = pointer
  have hbound := ringOffset_add_untilEnd_le pointer data.length
  have haddress := toNat_ringAddress_txBase s pointer
  have hbase := toNat_txBase s
  have hsize : ringSize = 2048 := rfl
  refine Mirrors.sure_bind (hring (by omega) ?_) fun _ => ?_
  · rw [List.length_take]
    omega
  refine Mirrors.sure_bind (hring (by omega) ?_) fun _ => ?_
  · rw [List.length_drop]
    omega
  exact Mirrors.sure (writeWord_mirrors (r := .txWrite) rfl _)

theorem fetch_mirrors (count : Nat) (peek : Bool) :
    Mirrors Paired Paired (fetch (σ := Board) s count peek).run := by
  have hs := s.isLt
  have hring {address : UInt16} {count : Nat} (hstart : 0x4000 ≤ address.toNat)
      (hend : address.toNat + count < 65537) :
      Mirrors Paired Paired (onLink (readBlock (σ := Board) address count)) := by
    refine readBlock_mirrors fun i hi => ?_
    rw [UInt16.toNat_add, UInt16.toNat_ofNat']
    omega
  unfold fetch
  by_cases hlong : ringSize < count
  · rw [checkLength_of_lt hlong]
    exact Mirrors.fail_bind _ _
  have hcount : count ≤ ringSize := Nat.not_lt.1 hlong
  rw [checkLength_of_le hcount, pure_bind]
  refine Mirrors.attempt_ite (Mirrors.pure _) ?_
  refine Mirrors.sure_bind (readWord_mirrors (r := .rxRead) rfl) fun pointer => ?_
  have hbound := ringOffset_add_untilEnd_le pointer count
  have haddress := toNat_ringAddress_rxBase s pointer
  have hbase := toNat_rxBase s
  have hsize : ringSize = 2048 := rfl
  refine Mirrors.sure_bind (hring (by omega) (by omega)) fun head => ?_
  refine Mirrors.sure_bind (hring (by omega) (by omega)) fun tail => ?_
  refine Mirrors.attempt_ite ?_ (Mirrors.pure _)
  exact Mirrors.sure_bind (writeWord_mirrors (r := .rxRead) rfl _) fun _ => Mirrors.pure _

theorem skip_mirrors (count : UInt16) : Mirrors Paired Paired (skip (σ := Board) s count) := by
  refine Mirrors.ite (Mirrors.bind (readWord_mirrors (r := .rxRead) rfl) fun _ => ?_)
    (Mirrors.pure _)
  exact writeWord_mirrors (r := .rxRead) rfl _

/-! ## The life of a socket -/

theorem writeRegisterBlock_mirrors (hcommand : r ≠ .command) (hflags : r ≠ .interrupt)
    {data : List UInt8} (hlength : data.length ≤ r.width) :
    Mirrors Paired Paired (onLink (writeBlock (r.address s) data)) := by
  have hmem := r.address_mem s
  refine writeBlock_mirrors fun frame hframe => ?_
  obtain ⟨i, hi, rfl⟩ := List.mem_mapIdx.1 hframe
  refine Frame.isPlain_register (s := s) (i := i) hcommand hflags (by omega) ?_
  show (r.address s + UInt16.ofNat i).toNat = _
  rw [UInt16.toNat_add, UInt16.toNat_ofNat']
  omega

theorem setDestination_mirrors (ip : Ipv4) (destinationPort : UInt16) :
    Mirrors Paired Paired (setDestination (σ := Board) s ip destinationPort) := by
  refine Mirrors.bind (writeRegisterBlock_mirrors (r := .peerIp) (by decide) (by decide) ?_)
    fun _ => writeWord_mirrors (r := .peerPort) rfl _
  exact Nat.le_refl 4

theorem choosePort_mirrors (wanted : UInt16) :
    Mirrors Paired Paired (choosePort (σ := Board) wanted) := by
  refine Mirrors.ite (Mirrors.onController fun x y h => ⟨h.alike.nextPort.symm, ?_⟩)
    (Mirrors.pure _)
  exact ⟨h.first, h.second, h.alike.chip, h.alike.flags, h.alike.localPorts,
    congrArg (fun port : UInt16 => if port = 65535 then firstEphemeralPort else port + 1)
      h.alike.nextPort⟩

theorem setLocalPort_mirrors (value : UInt16) :
    Mirrors Paired Paired (changeController (σ := Board) (·.setLocalPort s value)) :=
  Mirrors.onController fun _ _ h => ⟨rfl, h.first, h.second, h.alike.chip, h.alike.flags,
    congrArg (fun ports : Vector UInt16 4 => ports.set s value s.isLt) h.alike.localPorts,
    h.alike.nextPort⟩

theorem openSocket_mirrors (mode : SocketMode) (flags : UInt8) (wanted : UInt16) :
    Mirrors Paired Paired (openSocket (σ := Board) s mode flags wanted).run := by
  have hopen : Mirrors Paired Paired (openClosed (σ := Board) s mode flags wanted) := by
    refine Mirrors.bind (writeRegister_mirrors (r := .mode) (by decide) (by decide) _) fun _ => ?_
    refine Mirrors.bind (choosePort_mirrors wanted) fun _ => ?_
    refine Mirrors.bind (writeWord_mirrors (r := .sourcePort) rfl _) fun _ => ?_
    refine Mirrors.bind (issue_mirrors (by decide)) fun _ => ?_
    exact Mirrors.bind status_mirrors fun _ => Mirrors.pure _
  refine Mirrors.sure_bind close_mirrors fun _ => Mirrors.attempt_ite (Mirrors.pure _) ?_
  refine Mirrors.sure_bind hopen fun (chosen, shown) => ?_
  refine Mirrors.attempt_ite (Mirrors.sure_bind (note_mirrors _) fun _ => ?_) ?_
  · exact Mirrors.sure_bind close_mirrors fun _ => Mirrors.fail_bind _ _
  · refine Mirrors.sure_bind (setLocalPort_mirrors chosen) fun _ => ?_
    exact Mirrors.sure_bind (note_mirrors _) fun _ => Mirrors.pure _

theorem connect_mirrors (ip : Ipv4) (destinationPort : UInt16) :
    Mirrors Paired Paired (connect (σ := Board) s ip destinationPort).run := by
  unfold connect
  refine Mirrors.unless_fail ?_
  refine Mirrors.sure_bind (setDestination_mirrors _ _) fun _ => ?_
  exact Mirrors.sure (issue_mirrors (by decide))

theorem listen_mirrors : Mirrors Paired Paired (listen (σ := Board) s).run := by
  refine Mirrors.sure_bind status_mirrors fun shown => ?_
  exact Mirrors.unless_fail (Mirrors.sure (issue_mirrors (by decide)))

/-! ## Streams -/

theorem send_mirrors (data : List UInt8) :
    Mirrors Paired Paired (send (σ := Board) s data).run := by
  have hroom (needed : Nat) : Mirrors Paired Paired (roomFor (σ := Board) s needed).run := by
    refine Mirrors.sure_bind freeTx_mirrors fun free => ?_
    refine Mirrors.sure_bind status_mirrors fun shown => ?_
    exact Mirrors.unless_fail (Mirrors.pure _)
  refine Mirrors.attempt_ite (Mirrors.pure _) ?_
  refine Mirrors.sure_bind patience_mirrors fun bound => ?_
  refine Mirrors.attempt (Mirrors.pollWithin (hroom _) bound) fun _ => ?_
  refine Mirrors.sure_bind clearSendFlags_mirrors fun _ => ?_
  refine Mirrors.attempt (stage_mirrors _ _) fun _ => ?_
  refine Mirrors.sure_bind (issue_mirrors (by decide)) fun _ => ?_
  exact Mirrors.attempt (awaitSent_mirrors true) fun _ => Mirrors.pure _

theorem receive_mirrors (room : Nat) :
    Mirrors Paired Paired (receive (σ := Board) s room).run := by
  refine Mirrors.sure_bind pendingRx_mirrors fun available => ?_
  refine Mirrors.attempt_ite (Mirrors.sure_bind status_mirrors fun _ => Mirrors.pure _) ?_
  refine Mirrors.attempt_ite (Mirrors.pure _) ?_
  refine Mirrors.attempt (fetch_mirrors _ _) fun bytes => ?_
  exact Mirrors.sure_bind (issue_mirrors (by decide)) fun _ => Mirrors.pure _

theorem peekByte_mirrors : Mirrors Paired Paired (peekByte (σ := Board) s).run := by
  refine Mirrors.sure_bind pendingRx_mirrors fun pending => ?_
  refine Mirrors.attempt_ite (Mirrors.pure _) ?_
  exact Mirrors.attempt (fetch_mirrors _ _) fun bytes => Mirrors.pure _

/-! ## Datagrams -/

theorem startDatagram_mirrors (ip : Ipv4) (destinationPort : UInt16) :
    Mirrors Paired Paired (startDatagram (σ := Board) s ip destinationPort).run := by
  unfold startDatagram
  exact Mirrors.unless_fail (Mirrors.sure (setDestination_mirrors _ _))

theorem buffer_mirrors (offset : UInt16) (data : List UInt8) :
    Mirrors Paired Paired (buffer (σ := Board) s offset data).run :=
  Mirrors.sure_bind freeTx_mirrors fun _ =>
    Mirrors.attempt (stage_mirrors _ _) fun _ => Mirrors.pure _

theorem stageWhole_mirrors (data : List UInt8) :
    Mirrors Paired Paired (stageWhole (σ := Board) s data).run := by
  refine Mirrors.sure_bind freeTx_mirrors fun free => ?_
  exact Mirrors.unless_fail (stage_mirrors _ _)

theorem sendTo_mirrors (data : List UInt8) (ip : Ipv4) (destinationPort : UInt16) :
    Mirrors Paired Paired (sendTo (σ := Board) s data ip destinationPort).run := by
  refine Mirrors.attempt (startDatagram_mirrors _ _) fun _ => ?_
  refine Mirrors.attempt (stageWhole_mirrors data) fun _ => ?_
  exact Mirrors.attempt sendDatagram_mirrors fun _ => Mirrors.pure _

theorem sendRaw_mirrors (data : List UInt8) :
    Mirrors Paired Paired (sendRaw (σ := Board) s data).run := by
  refine Mirrors.attempt (stageWhole_mirrors data) fun _ => ?_
  refine Mirrors.attempt (Mirrors.tryCatch sendDatagram_mirrors fun cause => ?_)
    fun _ => Mirrors.pure _
  exact Mirrors.sure_bind close_mirrors fun _ => Mirrors.fail cause

theorem sendRawTo_mirrors (data : List UInt8) (ip : Ipv4) :
    Mirrors Paired Paired (sendRawTo (σ := Board) s data ip).run := by
  unfold sendRawTo
  refine Mirrors.unless_fail ?_
  refine Mirrors.sure_bind ?_ fun _ => sendRaw_mirrors data
  exact writeRegisterBlock_mirrors (r := .peerIp) (by decide) (by decide) (Nat.le_refl 4)

theorem receiveFrom_mirrors (room : Nat) :
    Mirrors Paired Paired (receiveFrom (σ := Board) s room).run := by
  have hheader : Mirrors Paired Paired (receiveHeader (σ := Board) s).run := by
    refine Mirrors.sure_bind (readRegister_mirrors (r := .mode) (by decide) (by decide))
      fun mode => ?_
    refine Mirrors.sure_bind pendingRx_mirrors fun pending => ?_
    refine Mirrors.attempt_ite (Mirrors.pure _) ?_
    refine Mirrors.attempt (fetch_mirrors _ _) fun header => ?_
    exact Mirrors.sure_bind (issue_mirrors (by decide)) fun _ => Mirrors.pure _
  refine Mirrors.attempt hheader fun info => ?_
  cases info with
  | none => exact Mirrors.pure _
  | some info =>
    refine Mirrors.attempt (fetch_mirrors _ _) fun bytes => ?_
    refine Mirrors.sure_bind (skip_mirrors _) fun _ => ?_
    exact Mirrors.sure_bind (issue_mirrors (by decide)) fun _ => Mirrors.pure _

/-! ## All of them -/

/-- The operations that open and close sockets, connect them, and move data. -/
def SocketOperation.isTransfer : SocketOperation → Bool
  | openSocket .. | close | connect .. | listen | disconnect | send _ | receive _ | peek
  | sendTo .. | receiveFrom _ | startDatagram .. | buffer .. | sendDatagram | sendRaw _
  | sendRawTo .. => true
  | _ => false

/-- The operations of the data path answer the same, wherever the flags are. -/
theorem perform_mirrors {operation : SocketOperation} (h : operation.isTransfer) :
    Mirrors Paired Paired (operation.perform (σ := Board) s) := by
  cases operation with
  | openSocket mode flags wanted => exact Mirrors.attempting (openSocket_mirrors mode flags wanted)
  | close => exact Mirrors.answering close_mirrors
  | connect ip port => exact Mirrors.attempting (connect_mirrors ip port)
  | listen => exact Mirrors.attempting listen_mirrors
  | disconnect => exact Mirrors.answering (issue_mirrors (by decide))
  | send data => exact Mirrors.attempting (send_mirrors data)
  | receive room => exact Mirrors.attempting (receive_mirrors room)
  | peek => exact Mirrors.attempting peekByte_mirrors
  | sendTo data ip port => exact Mirrors.attempting (sendTo_mirrors data ip port)
  | receiveFrom room => exact Mirrors.attempting (receiveFrom_mirrors room)
  | startDatagram ip port => exact Mirrors.attempting (startDatagram_mirrors ip port)
  | buffer offset data => exact Mirrors.attempting (buffer_mirrors offset data)
  | sendDatagram => exact Mirrors.attempting sendDatagram_mirrors
  | sendRaw data => exact Mirrors.attempting (sendRaw_mirrors data)
  | sendRawTo data ip => exact Mirrors.attempting (sendRawTo_mirrors data ip)
  | _ => cases h

end SpiEthernet
