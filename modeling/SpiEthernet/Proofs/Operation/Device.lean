import SpiEthernet.Operation.Socket
import SpiEthernet.Proofs.Interrupt.Announcement
import SpiEthernet.Proofs.Link.Robust

/-!
# What operations do to a board

Most of what the driver does is routine: it collects interrupts, writes settings and destinations,
and gives commands. Few calls do more than that. Opening a socket sets its pointers, staging moves
the transmit pointer, and receiving moves the receive pointer. So a property of a board that
routine frames do not break is kept by every operation if these calls keep it, whatever makes them
do so.

* `Withstands.performSocket` : every operation on a socket but the bare transfers keeps what routine
  frames and the calls that move pointers do not break.
* `Robust.perform` : every operation but a reset keeps what harmless frames do not break.
* `Robust.performAny` : every operation keeps what no frame breaks.
-/

namespace SpiEthernet

/-! ## Harmless writes -/

theorem Frame.isHarmless_write {address : UInt16} (hmode : address.toNat ≠ 0)
    (hmask : address.toNat ≠ 0x16) (value : UInt8) : (Frame.write address value).IsHarmless := by
  intro _
  refine ⟨?_, ?_⟩ <;> rintro rfl
  · exact hmode rfl
  · exact hmask rfl

/-- Whatever lies behind the common registers is harmless to write to. -/
theorem Frame.isHarmless_write_of_lt {address : UInt16} (h : 0x16 < address.toNat)
    (value : UInt8) : (Frame.write address value).IsHarmless :=
  isHarmless_write (by omega) (by omega) value

/-! ## Routine writes -/

/-- The place of a pointer or of a size of a socket's rings. -/
def SocketId.PointsAt (s : SocketId) (address : Nat) : Prop :=
  0x0420 + 0x0100 * s.val ≤ address ∧ address < 0x042C + 0x0100 * s.val

/-- A frame that is harmless, opens no socket, and writes to no pointer. -/
structure Frame.IsRoutine (frame : Frame) : Prop where
  harmless : frame.IsHarmless
  pointers (hw : frame.direction = .write) (s : SocketId) : ¬s.PointsAt frame.address.toNat
  opening (hw : frame.direction = .write) (s : SocketId)
    (ha : frame.address = SocketRegister.command.address s) :
    frame.data ≠ SocketCommand.open.code

/-- A register whose value is neither a command nor a pointer. -/
def SocketRegister.isPlain (r : SocketRegister) : Bool :=
  r.offset.toNat + r.width ≤ 0x20 ∧ r ≠ .command

namespace Frame

theorem isRoutine_of_read {frame : Frame} (h : frame.direction = .read) : frame.IsRoutine := by
  refine ⟨fun hw => ?_, fun hw => ?_, fun hw => ?_⟩ <;> rw [h] at hw <;> cases hw

/-- The rings are written to as a matter of routine, and so are most common registers. -/
theorem isRoutine_write_of_outside {address : UInt16}
    (h : address.toNat < 0x0400 ∨ 0x0800 ≤ address.toNat) (hmode : address.toNat ≠ 0)
    (hmask : address.toNat ≠ 0x16) (value : UInt8) : (Frame.write address value).IsRoutine where
  harmless := isHarmless_write hmode hmask value
  pointers _ s hpoints := by
    have hs := s.isLt
    have hpoints : s.PointsAt address.toNat := hpoints
    unfold SocketId.PointsAt at hpoints
    omega
  opening _ s ha := by
    have hmem := SocketRegister.command.address_mem s
    have hwidth : SocketRegister.command.width = 1 := rfl
    rw [show address = _ from ha] at h
    omega

/-- A byte of a register that is neither a command nor a pointer. -/
theorem isRoutine_write_of_isPlain {r : SocketRegister} (hr : r.isPlain) (s : SocketId)
    {address : UInt16} (hstart : (r.address s).toNat ≤ address.toNat)
    (hend : address.toNat < (r.address s).toNat + r.width) (value : UInt8) :
    (Frame.write address value).IsRoutine := by
  obtain ⟨hplace, hcommand⟩ := of_decide_eq_true hr
  have hs := s.isLt
  rw [r.toNat_address] at hstart hend
  refine ⟨isHarmless_write_of_lt (by omega) value, fun _ t hpoints => ?_, fun _ t ha => ?_⟩
  · have ht := t.isLt
    have hpoints : t.PointsAt address.toNat := hpoints
    unfold SocketId.PointsAt at hpoints
    omega
  · have hd := SocketRegister.address_disjoint_of_ne hcommand s t
    have hwidth : SocketRegister.command.width = 1 := rfl
    rw [show address = _ from ha, ← r.toNat_address] at hstart hend
    omega

theorem isRoutine_command {command : SocketCommand} (h : command ≠ .open) (s : SocketId) :
    (Frame.write (SocketRegister.command.address s) command.code).IsRoutine where
  harmless := by
    have hmem := SocketRegister.command.address_mem s
    exact isHarmless_write_of_lt (by omega) _
  pointers _ t hpoints := by
    have hs := s.isLt
    have hpoints : t.PointsAt (SocketRegister.command.address s).toNat := hpoints
    rw [SocketRegister.toNat_address] at hpoints
    simp only [SocketId.PointsAt, SocketRegister.offset, UInt16.reduceToNat] at hpoints
    omega
  opening _ t _ hcode := by
    have hsame : command.code = SocketCommand.open.code := hcode
    exact h (Option.some.inj ((SocketCommand.ofCode?_code command).symm.trans
      ((congrArg SocketCommand.ofCode? hsame).trans (SocketCommand.ofCode?_code .open))))

theorem IsQuiet.isRoutine {frame : Frame} (h : frame.IsQuiet) : frame.IsRoutine := by
  obtain ⟨direction, address, data⟩ := frame
  cases direction with
  | read => exact isRoutine_of_read rfl
  | write =>
    obtain rfl | ⟨s, rfl⟩ := h rfl
    · exact isRoutine_write_of_outside (by decide) (by decide) (by decide) data
    · exact isRoutine_write_of_isPlain (r := .interrupt) rfl s (Nat.le_refl _)
        (Nat.lt_add_one _) data

end Frame

section Outcomes

variable {σ α : Type} {I : Device σ → Prop} {f : α → Outcome}

theorem Keeps.answering {action : DeviceM σ α} (h : Keeps I action) :
    Keeps I (answering f action) :=
  Keeps.bind h fun _ => Keeps.pure _

theorem Keeps.attempting {action : Attempt σ α} (h : Keeps I action) :
    Keeps I (attempting f action) :=
  Keeps.bind (m := DeviceM σ) h fun _ => Keeps.pure _

end Outcomes

/-! ## Opening -/

section Opening

variable {σ : Type} [Host σ] {s : SocketId} {mode : SocketMode} {flags : UInt8} {wanted : UInt16}

/-- Where programming a closed socket leads, opening it leads, unless the steps around it lead out
of there again. -/
theorem leads_openSocket {I J : Device σ → Prop} (hmode : mode ≠ .closed)
    (hclose : Keeps I (close s)) (hopen : Leads I (openClosed s mode flags wanted) fun _ => J)
    (hremember : ∀ port, Keeps J (changeController (·.setLocalPort s port)))
    (hnote : ∀ notice, Keeps J (note notice)) (hshut : Keeps J (close s)) :
    Leads I (openSocket s mode flags wanted).run fun _ => J := by
  refine Leads.sure_bind hclose fun _ => ?_
  rw [if_neg hmode]
  refine Leads.sure_bind hopen fun (chosen, shown) => ?_
  have hrest : Keeps J (do
      sure (changeController (·.setLocalPort s chosen))
      sure (note (.opened s mode chosen))
      return chosen : Attempt σ UInt16) :=
    Keeps.bind (Keeps.sure (hremember chosen)) fun _ =>
      Keeps.bind (Keeps.sure (hnote _)) fun _ => Keeps.pure _
  refine Keeps.ite (Keeps.bind (Keeps.sure (hnote _)) fun _ => ?_) hrest
  exact Keeps.bind (Keeps.sure hshut) fun _ => Keeps.bind (Keeps.fail _) fun _ => hrest

/-- Opening in the closed mode is closing. -/
theorem keeps_openSocket_closed {I : Device σ → Prop} (hclose : Keeps I (close s)) :
    Keeps I (openSocket s .closed flags wanted) :=
  Keeps.bind (Keeps.sure hclose) fun _ => Keeps.pure _

end Opening

namespace Robust

variable {σ : Type} [Host σ] {I : σ → Prop}

/-- What more frames do not break, fewer frames do not break. -/
theorem mono {P R : Frame → Prop} (h : Robust P I) (hreads : ∀ address, R (Frame.read address))
    (hR : ∀ frame, R frame → P frame) : Robust R I :=
  ⟨hreads, fun hf => h.transaction fun frame hm => hR frame (hf frame hm), h.record⟩

theorem routine (h : Robust Frame.IsHarmless I) : Robust Frame.IsRoutine I :=
  h.mono (fun _ => Frame.isRoutine_of_read rfl) fun _ hf => hf.harmless

theorem quiet (h : Robust Frame.IsRoutine I) : Robust Frame.IsQuiet I :=
  h.mono Frame.isQuiet_read fun _ hf => hf.isRoutine

/-- A command is one frame, and then a wait. -/
theorem give {P : Frame → Prop} (h : Robust P I) (s : SocketId) {command : SocketCommand}
    (hf : P (Frame.write (SocketRegister.command.address s) command.code)) :
    Keeps (fun d : Device σ => I d.board) (SpiEthernet.issue s command) := by
  refine Keeps.bind (Keeps.onLink (h.writeByte hf)) fun _ => ?_
  refine Keeps.bind Keeps.patience fun bound => ?_
  refine Keeps.bind (Keeps.pollWithin ?_ (Keeps.fault _) bound) fun _ => h.note _
  exact Keeps.bind (Keeps.onLink (h.readByte _)) fun _ => Keeps.pure _

/-! ## Interrupts -/

section Quiet

variable (h : Robust Frame.IsQuiet I) (s : SocketId)

include h

theorem status : Keeps (fun d : Device σ => I d.board) (status s) :=
  Keeps.bind (Keeps.onLink (h.readByte _)) fun _ => Keeps.pure _

theorem drainSocket (seen : UInt8) :
    Keeps (fun d : Device σ => I d.board) (drainSocket seen s) := by
  refine Keeps.ite (Keeps.bind (Keeps.onLink (h.readByte _)) fun raw => ?_) (Keeps.pure _)
  refine Keeps.ite (Keeps.bind (Keeps.onController _) fun _ => ?_) (Keeps.pure _)
  exact Keeps.onLink (h.writeByte fun _ => .inr ⟨s, rfl⟩)

theorem drainGlobal (seen : UInt8) : Keeps (fun d : Device σ => I d.board) (drainGlobal seen) := by
  unfold SpiEthernet.drainGlobal
  refine Keeps.guarded h.latchUnreachable ?_
  refine Keeps.guarded (h.note _) ?_
  refine Keeps.bind (Keeps.onController _) fun _ => Keeps.ite (Keeps.onLink ?_) (Keeps.pure _)
  exact h.writeByte fun _ => .inl rfl

theorem drain : Keeps (fun d : Device σ => I d.board) drain := by
  have hpasses : ∀ passes seen,
      Keeps (fun d : Device σ => I d.board) (drainPasses seen passes) := by
    intro passes
    induction passes with
    | zero => exact fun seen => Keeps.bind (h.note _) fun _ => Keeps.pure _
    | succ passes ih =>
      intro seen
      refine Keeps.bind (Keeps.onLink (h.readByte _)) fun current => ?_
      refine Keeps.ite (Keeps.pure _) ?_
      refine Keeps.bind (Keeps.forM fun s _ => h.drainSocket s current) fun _ => ?_
      exact Keeps.bind (h.drainGlobal current) fun _ => ih _
  exact hpasses drainPassLimit 0

theorem clearSendFlags : Keeps (fun d : Device σ => I d.board) (clearSendFlags s) :=
  Keeps.bind h.drain fun _ => Keeps.bind (Keeps.onController _) fun _ => Keeps.pure _

/-- Waiting for the end of a transmission only looks, unless it closes a socket. -/
theorem awaitSent {tcp : Bool}
    (hclose : tcp = true → Keeps (fun d : Device σ => I d.board) (close s)) :
    Keeps (fun d : Device σ => I d.board) (awaitSent s tcp) := by
  have hgivenUp : ∀ {cause : Error} {k : Unit → Attempt σ (Option Unit)}, tcp = true →
      Keeps (fun d : Device σ => I d.board) (do
        sure (SpiEthernet.close s)
        SpiEthernet.fail cause >>= k) :=
    fun htcp => Keeps.bind (Keeps.sure (hclose htcp)) fun _ => Keeps.fail_bind _ _
  have hended : Keeps (fun d : Device σ => I d.board) (sendEnded s tcp) := by
    refine Keeps.bind (Keeps.sure h.drain) fun _ => ?_
    refine Keeps.bind (Keeps.sure (Keeps.onController _)) fun flags => ?_
    refine Keeps.ite (Keeps.pure _) (Keeps.ite ?_ ?_)
    · refine Keeps.bind (Keeps.sure (h.note _)) fun _ => ?_
      cases tcp with
      | true => exact hgivenUp rfl
      | false => exact Keeps.fail_bind _ _
    · cases tcp with
      | true =>
        refine Keeps.bind (Keeps.sure (h.status s)) fun shown => ?_
        exact Keeps.ite (hgivenUp rfl) (Keeps.pure _)
      | false => exact Keeps.pure _
  refine Keeps.bind (Keeps.sure Keeps.patience) fun bound => ?_
  exact Keeps.pollWithin hended (Keeps.sure (Keeps.fault _)) bound

end Quiet

/-! ## Registers and commands -/

section Routine

variable (h : Robust Frame.IsRoutine I) (s : SocketId)

include h

theorem writeRegister {r : SocketRegister} (hr : r.isPlain) (value : UInt8) :
    Keeps (fun d : Device σ => I d.board) (onLink (SpiEthernet.writeByte (r.address s) value)) :=
  Keeps.onLink (h.writeByte (Frame.isRoutine_write_of_isPlain hr s (Nat.le_refl _)
    (Nat.lt_add_of_pos_right r.width_pos) value))

theorem writeRegisterBlock {r : SocketRegister} (hr : r.isPlain) {data : List UInt8}
    (hlength : data.length ≤ r.width) :
    Keeps (fun d : Device σ => I d.board)
      (onLink (SpiEthernet.writeBlock (r.address s) data)) := by
  have hmem := r.address_mem s
  have hplace {i : Nat} (hi : i < data.length) :
      (r.address s + UInt16.ofNat i).toNat = (r.address s).toNat + i := by
    rw [UInt16.toNat_add, UInt16.toNat_ofNat']
    omega
  refine Keeps.onLink (h.writeBlock fun i hi => Frame.isRoutine_write_of_isPlain hr s ?_ ?_) <;>
    rw [hplace hi] <;> omega

theorem writeRegisterWord {r : SocketRegister} (hr : r.isPlain) (hw : r.width = 2)
    (value : UInt16) : Keeps (fun d : Device σ => I d.board)
      (onLink (SpiEthernet.writeWord (r.address s) value)) := by
  have hsucc := SocketRegister.toNat_address_succ hw s
  refine Keeps.onLink (h.writeWord
    (Frame.isRoutine_write_of_isPlain hr s (Nat.le_refl _) (by omega))
    (Frame.isRoutine_write_of_isPlain hr s ?_ ?_)) <;> omega

/-- The addresses of the chip lie between the mode register and the interrupt registers. -/
theorem writeAddress {address : UInt16} {data : List UInt8} (hstart : 0 < address.toNat)
    (hend : address.toNat + data.length ≤ 0x15) :
    Keeps (fun d : Device σ => I d.board) (onLink (SpiEthernet.writeBlock address data)) := by
  have hplace {i : Nat} (hi : i < data.length) :
      (address + UInt16.ofNat i).toNat = address.toNat + i := by
    rw [UInt16.toNat_add, UInt16.toNat_ofNat']
    omega
  refine Keeps.onLink (h.writeBlock fun i hi => Frame.isRoutine_write_of_outside ?_ ?_ ?_) <;>
    rw [hplace hi] <;> omega

theorem issue (command : SocketCommand) (hcommand : command ≠ .open) :
    Keeps (fun d : Device σ => I d.board) (issue s command) :=
  h.give s (Frame.isRoutine_command hcommand s)

/-! ## Network settings -/

theorem setMac (mac : Mac) : Keeps (fun d : Device σ => I d.board) (setMac mac) :=
  h.writeAddress (by decide) (show 9 + 6 ≤ 0x15 by decide)

theorem setIp (ip : Ipv4) : Keeps (fun d : Device σ => I d.board) (setIp ip) :=
  h.writeAddress (by decide) (show 15 + 4 ≤ 0x15 by decide)

theorem setGateway (gateway : Ipv4) : Keeps (fun d : Device σ => I d.board) (setGateway gateway) :=
  h.writeAddress (by decide) (show 1 + 4 ≤ 0x15 by decide)

theorem setSubnet (subnet : Ipv4) : Keeps (fun d : Device σ => I d.board) (setSubnet subnet) :=
  h.writeAddress (by decide) (show 5 + 4 ≤ 0x15 by decide)

theorem configure (config : NetConfig) :
    Keeps (fun d : Device σ => I d.board) (configure config) := by
  refine Keeps.bind (h.setMac config.mac) fun _ => Keeps.bind (h.setIp config.ip) fun _ => ?_
  refine Keeps.bind (h.setGateway config.gateway) fun _ => ?_
  exact Keeps.bind (h.setSubnet config.subnet) fun _ => h.note _

theorem network : Keeps (fun d : Device σ => I d.board) network := by
  refine Keeps.bind (Keeps.onLink (h.readMac _)) fun _ => ?_
  refine Keeps.bind (Keeps.onLink (h.readIpv4 _)) fun _ => ?_
  refine Keeps.bind (Keeps.onLink (h.readIpv4 _)) fun _ => ?_
  exact Keeps.bind (Keeps.onLink (h.readIpv4 _)) fun _ => Keeps.pure _

theorem setRetry (config : RetryConfig) :
    Keeps (fun d : Device σ => I d.board) (setRetry config) := by
  have hbehind : ∀ {address : UInt16} (_ : address.toNat < 0x0400) (_ : 0x16 < address.toNat)
      (value : UInt8), (Frame.write address value).IsRoutine := fun hend hstart =>
    Frame.isRoutine_write_of_outside (.inl hend) (by omega) (by omega)
  refine Keeps.bind (Keeps.onLink (h.writeWord (hbehind (by decide) (by decide))
    (hbehind (by decide) (by decide)))) fun _ => ?_
  exact Keeps.onLink (h.writeByte (hbehind (by decide) (by decide) _))

theorem retry : Keeps (fun d : Device σ => I d.board) retry := by
  refine Keeps.bind (Keeps.onLink (h.readWord _)) fun _ => ?_
  exact Keeps.bind (Keeps.onLink (h.readByte _)) fun _ => Keeps.pure _

/-! ## The life of a socket -/

theorem firstReusable (sockets : List SocketId) :
    Keeps (fun d : Device σ => I d.board) (firstReusable sockets : Attempt σ SocketId) := by
  induction sockets with
  | nil => exact Keeps.fail _
  | cons s rest ih =>
    exact Keeps.bind (Keeps.sure (h.quiet.status s)) fun _ => Keeps.ite (Keeps.pure _) ih

theorem close : Keeps (fun d : Device σ => I d.board) (close s) := by
  refine Keeps.bind (h.issue s .close (by decide)) fun _ => ?_
  exact Keeps.bind (h.writeRegister s (r := .interrupt) rfl _) fun _ => Keeps.onController _

theorem setDestination (ip : Ipv4) (destinationPort : UInt16) :
    Keeps (fun d : Device σ => I d.board) (setDestination s ip destinationPort) := by
  refine Keeps.bind (h.writeRegisterBlock s (r := .peerIp) rfl (Nat.le_refl 4)) fun _ => ?_
  exact h.writeRegisterWord s (r := .peerPort) rfl rfl _

theorem connect (ip : Ipv4) (destinationPort : UInt16) :
    Keeps (fun d : Device σ => I d.board) (connect s ip destinationPort) := by
  unfold SpiEthernet.connect
  refine Keeps.guarded (Keeps.fail _) ?_
  refine Keeps.bind (Keeps.sure (h.setDestination s _ _)) fun _ => ?_
  exact Keeps.sure (h.issue s _ (by decide))

theorem listen : Keeps (fun d : Device σ => I d.board) (listen s) := by
  refine Keeps.bind (Keeps.sure (h.quiet.status s)) fun shown => ?_
  exact Keeps.guarded (Keeps.fail _) (Keeps.sure (h.issue s _ (by decide)))

theorem setDestinationMac (mac : Mac) :
    Keeps (fun d : Device σ => I d.board) (setDestinationMac s mac) :=
  h.writeRegisterBlock s (r := .peerHardwareAddress) rfl (Nat.le_refl 6)

theorem openSocket (hopening : Keeps (fun d : Device σ => I d.board) (SpiEthernet.issue s .open))
    (mode : SocketMode) (flags : UInt8) (wanted : UInt16) :
    Keeps (fun d : Device σ => I d.board) (openSocket s mode flags wanted) := by
  by_cases hmode : mode = .closed
  · rw [hmode]
    exact keeps_openSocket_closed (h.close s)
  refine leads_openSocket hmode (h.close s) ?_ (fun _ => Keeps.onController _) h.note (h.close s)
  have hport : Keeps (fun d : Device σ => I d.board) (choosePort wanted) :=
    Keeps.ite (Keeps.onController _) (Keeps.pure _)
  refine Keeps.bind (h.writeRegister s (r := .mode) rfl _) fun _ => Keeps.bind hport fun _ => ?_
  refine Keeps.bind (h.writeRegisterWord s (r := .sourcePort) rfl rfl _) fun _ => ?_
  exact Keeps.bind hopening fun _ => Keeps.bind (h.quiet.status s) fun _ => Keeps.pure _

/-! ## Datagrams -/

theorem startDatagram (ip : Ipv4) (destinationPort : UInt16) :
    Keeps (fun d : Device σ => I d.board) (startDatagram s ip destinationPort) := by
  unfold SpiEthernet.startDatagram
  exact Keeps.guarded (Keeps.fail _) (Keeps.sure (h.setDestination s _ _))

theorem sendDatagram : Keeps (fun d : Device σ => I d.board) (sendDatagram s) := by
  refine Keeps.bind (Keeps.sure (h.quiet.clearSendFlags s)) fun _ => ?_
  refine Keeps.bind (Keeps.sure (h.issue s .send (by decide))) fun _ => ?_
  exact h.quiet.awaitSent s fun _ => h.close s

/-- Nothing is written by looking at the bytes of a ring. -/
theorem fetch (peek : Bool) (hpointer : peek = false → ∀ pointer,
      Keeps (fun d : Device σ => I d.board)
        (onLink (SpiEthernet.writeWord (SocketRegister.rxRead.address s) pointer)))
    (count : Nat) : Keeps (fun d : Device σ => I d.board) (fetch s count peek) := by
  unfold SpiEthernet.fetch
  refine Keeps.bind (Keeps.ite (Keeps.fail _) (Keeps.pure _)) fun _ => Keeps.ite (Keeps.pure _) ?_
  refine Keeps.bind (Keeps.sure (Keeps.onLink (h.readWord _))) fun pointer => ?_
  refine Keeps.bind (Keeps.sure (Keeps.onLink (h.readBlock _ _))) fun head => ?_
  refine Keeps.bind (Keeps.sure (Keeps.onLink (h.readBlock _ _))) fun tail => ?_
  cases peek with
  | true => exact Keeps.pure _
  | false => exact Keeps.bind (Keeps.sure (hpointer rfl _)) fun _ => Keeps.pure _

theorem peekByte : Keeps (fun d : Device σ => I d.board) (peekByte s) := by
  refine Keeps.bind (Keeps.sure (h.settledWord _)) fun pending => Keeps.ite (Keeps.pure _) ?_
  exact Keeps.bind (h.fetch s true (fun hlook => nomatch hlook) _) fun _ => Keeps.pure _

end Routine

/-! ## Moving the transmit pointer -/

section Stage

variable (h : Robust Frame.IsRoutine I) (s : SocketId)
  (hpointer : ∀ pointer, Keeps (fun d : Device σ => I d.board)
    (onLink (SpiEthernet.writeWord (SocketRegister.txWrite.address s) pointer)))

include h hpointer

theorem stage (offset : UInt16) (data : List UInt8) :
    Keeps (fun d : Device σ => I d.board) (stage s offset data) := by
  have hs := s.isLt
  have hring : ∀ {address : UInt16} {data : List UInt8}, 0x0800 ≤ address.toNat →
      address.toNat + data.length < 65536 →
        Keeps (fun d : Device σ => I d.board) (onLink (SpiEthernet.writeBlock address data)) := by
    intro address data hstart hend
    have hplace {i : Nat} (hi : i < data.length) :
        (address + UInt16.ofNat i).toNat = address.toNat + i := by
      rw [UInt16.toNat_add, UInt16.toNat_ofNat']
      omega
    refine Keeps.onLink (h.writeBlock fun i hi => Frame.isRoutine_write_of_outside ?_ ?_ ?_) <;>
      rw [hplace hi] <;> omega
  unfold SpiEthernet.stage
  by_cases hlong : ringSize < data.length
  · rw [checkLength_of_lt hlong]
    exact Keeps.fail_bind _ _
  have hlength : data.length ≤ ringSize := Nat.not_lt.1 hlong
  rw [checkLength_of_le hlength, pure_bind]
  refine Keeps.ite (Keeps.pure _) ?_
  refine Keeps.bind (Keeps.sure (Keeps.onLink (h.readWord _))) fun transmit => ?_
  generalize transmit + offset = pointer
  have hbound := ringOffset_add_untilEnd_le pointer data.length
  have haddress := toNat_ringAddress_txBase s pointer
  have hbase := toNat_txBase s
  have hsize : ringSize = 2048 := rfl
  refine Keeps.bind (Keeps.sure (hring (by omega) ?_)) fun _ => ?_
  · rw [List.length_take]
    omega
  refine Keeps.bind (Keeps.sure (hring (by omega) ?_)) fun _ => ?_
  · rw [List.length_drop]
    omega
  exact Keeps.sure (hpointer _)

theorem buffer (offset : UInt16) (data : List UInt8) :
    Keeps (fun d : Device σ => I d.board) (buffer s offset data) := by
  refine Keeps.bind (Keeps.sure (h.settledWord _)) fun free => ?_
  exact Keeps.bind (h.stage s hpointer _ _) fun _ => Keeps.pure _

end Stage

/-! ## Moving the receive pointer -/

section Receive

variable (h : Robust Frame.IsRoutine I) (s : SocketId)
  (hpointer : ∀ pointer, Keeps (fun d : Device σ => I d.board)
    (onLink (SpiEthernet.writeWord (SocketRegister.rxRead.address s) pointer)))

include h hpointer

theorem take (count : Nat) : Keeps (fun d : Device σ => I d.board) (do
    let bytes ← SpiEthernet.fetch s count false
    sure (SpiEthernet.issue s .receive)
    return bytes : Attempt σ (List UInt8)) := by
  refine Keeps.bind (h.fetch s false (fun _ => hpointer) _) fun bytes => ?_
  exact Keeps.bind (Keeps.sure (h.issue s _ (by decide))) fun _ => Keeps.pure _

theorem skip (count : UInt16) : Keeps (fun d : Device σ => I d.board) (skip s count) := by
  refine Keeps.ite (Keeps.bind (Keeps.onLink (h.readWord _)) fun pointer => ?_) (Keeps.pure _)
  exact hpointer _

theorem receive (room : Nat) : Keeps (fun d : Device σ => I d.board) (receive s room) := by
  refine Keeps.bind (Keeps.sure (h.settledWord _)) fun pending => Keeps.ite ?_ ?_
  · exact Keeps.bind (Keeps.sure (h.quiet.status s)) fun _ => Keeps.pure _
  · refine Keeps.ite (Keeps.pure _) ?_
    refine Keeps.bind (h.fetch s false (fun _ => hpointer) _) fun bytes => ?_
    exact Keeps.bind (Keeps.sure (h.issue s _ (by decide))) fun _ => Keeps.pure _

theorem receiveHeader : Keeps (fun d : Device σ => I d.board) (receiveHeader s) := by
  refine Keeps.bind (Keeps.sure (Keeps.onLink (h.readByte _))) fun mode => ?_
  refine Keeps.bind (Keeps.sure (h.settledWord _)) fun pending => Keeps.ite (Keeps.pure _) ?_
  refine Keeps.bind (h.fetch s false (fun _ => hpointer) _) fun bytes => ?_
  exact Keeps.bind (Keeps.sure (h.issue s _ (by decide))) fun _ => Keeps.pure _

theorem receiveFrom (room : Nat) :
    Keeps (fun d : Device σ => I d.board) (receiveFrom s room) := by
  refine Keeps.bind (h.receiveHeader s hpointer) fun header => ?_
  cases header with
  | none => exact Keeps.pure _
  | some info =>
    refine Keeps.bind (h.fetch s false (fun _ => hpointer) _) fun bytes => ?_
    refine Keeps.bind (Keeps.sure (h.skip s hpointer _)) fun _ => ?_
    exact Keeps.bind (Keeps.sure (h.issue s _ (by decide))) fun _ => Keeps.pure _

end Receive

end Robust

/-! ## Operations as data -/

/-- An operation that moves bytes or a pointer without giving a command. -/
def SocketOperation.isBare : SocketOperation → Bool
  | stage .. | fetch .. | skip .. => true
  | _ => false

/-- A property of a board is broken neither by routine frames nor by the calls on a socket that
move the socket's pointers. -/
structure Withstands {σ : Type} [Host σ] (I : σ → Prop) (s : SocketId) : Prop where
  robust : Robust Frame.IsRoutine I
  opening : Keeps (fun d : Device σ => I d.board) (issue s .open)
  stage (data : List UInt8) : Keeps (fun d : Device σ => I d.board) (stage s 0 data)
  buffer (offset : UInt16) (data : List UInt8) :
    Keeps (fun d : Device σ => I d.board) (buffer s offset data)
  receive (room : Nat) : Keeps (fun d : Device σ => I d.board) (receive s room)
  receiveFrom (room : Nat) : Keeps (fun d : Device σ => I d.board) (receiveFrom s room)

namespace Withstands

theorem all {σ ι : Type} [Host σ] [Inhabited ι] {I : ι → σ → Prop} {s : SocketId}
    (h : ∀ i, Withstands (I i) s) : Withstands (fun x => ∀ i, I i x) s where
  robust := Robust.all fun i => (h i).robust
  opening := Leads.all fun i => (h i).opening
  stage data := Leads.all fun i => (h i).stage data
  buffer offset data := Leads.all fun i => (h i).buffer offset data
  receive room := Leads.all fun i => (h i).receive room
  receiveFrom room := Leads.all fun i => (h i).receiveFrom room

variable {σ : Type} [Host σ] {I : σ → Prop} {s : SocketId} (h : Withstands I s)

include h

theorem issue (command : SocketCommand) :
    Keeps (fun d : Device σ => I d.board) (issue s command) := by
  by_cases hopen : command = .open
  · rw [hopen]
    exact h.opening
  · exact h.robust.issue s _ hopen

theorem send (data : List UInt8) : Keeps (fun d : Device σ => I d.board) (send s data) := by
  have hroom : ∀ needed, Keeps (fun d : Device σ => I d.board) (roomFor s needed) := by
    intro needed
    refine Keeps.bind (Keeps.sure (h.robust.settledWord _)) fun free => ?_
    refine Keeps.bind (Keeps.sure (h.robust.quiet.status s)) fun shown => ?_
    exact Keeps.guarded (Keeps.fail _) (Keeps.pure _)
  refine Keeps.ite (Keeps.pure _) (Keeps.bind (Keeps.sure Keeps.patience) fun bound => ?_)
  refine Keeps.bind (Keeps.pollWithin (hroom _) (Keeps.sure (Keeps.fault _)) bound) fun _ => ?_
  refine Keeps.bind (Keeps.sure (h.robust.quiet.clearSendFlags s)) fun _ => ?_
  refine Keeps.bind (h.stage _) fun _ => ?_
  refine Keeps.bind (Keeps.sure (h.issue .send)) fun _ => ?_
  exact Keeps.bind (h.robust.quiet.awaitSent s fun _ => h.robust.close s) fun _ => Keeps.pure _

theorem stageWhole (data : List UInt8) :
    Keeps (fun d : Device σ => I d.board) (stageWhole s data) := by
  refine Keeps.bind (Keeps.sure (h.robust.settledWord _)) fun free => ?_
  exact Keeps.guarded (Keeps.fail _) (h.stage _)

theorem sendTo (data : List UInt8) (ip : Ipv4) (destinationPort : UInt16) :
    Keeps (fun d : Device σ => I d.board) (sendTo s data ip destinationPort) := by
  refine Keeps.bind (h.robust.startDatagram s _ _) fun _ => Keeps.bind (h.stageWhole _) fun _ => ?_
  exact Keeps.bind (h.robust.sendDatagram s) fun _ => Keeps.pure _

theorem sendRaw (data : List UInt8) : Keeps (fun d : Device σ => I d.board) (sendRaw s data) := by
  refine Keeps.bind (h.stageWhole _) fun _ => ?_
  refine Keeps.bind (Keeps.tryCatch (h.robust.sendDatagram s) fun cause => ?_) fun _ => Keeps.pure _
  exact Keeps.bind (Keeps.sure (h.robust.close s)) fun _ => Keeps.fail _

theorem sendRawTo (data : List UInt8) (ip : Ipv4) :
    Keeps (fun d : Device σ => I d.board) (sendRawTo s data ip) := by
  unfold SpiEthernet.sendRawTo
  refine Keeps.guarded (Keeps.fail _) ?_
  refine Keeps.bind (Keeps.sure ?_) fun _ => h.sendRaw data
  exact h.robust.writeRegisterBlock s (r := .peerIp) rfl (Nat.le_refl 4)

/-- Every operation on a socket but the bare ones keeps what the calls do not break that move
pointers. -/
theorem performSocket (operation : SocketOperation) (hbare : operation.isBare = false) :
    Keeps (fun d : Device σ => I d.board) (operation.perform s) := by
  have hrobust := h.robust
  cases operation with
  | status => exact Keeps.answering (hrobust.quiet.status s)
  | issue command => exact Keeps.answering (h.issue command)
  | stickyFlags | takeFlags | localPort => exact Keeps.answering (Keeps.onController _)
  | freeTx | pendingRx => exact Keeps.answering (hrobust.settledWord _)
  | stage | fetch | skip => cases hbare
  | openSocket => exact Keeps.attempting (hrobust.openSocket s h.opening _ _ _)
  | close => exact Keeps.answering (hrobust.close s)
  | disconnect => exact Keeps.answering (h.issue .disconnect)
  | connect => exact Keeps.attempting (hrobust.connect s _ _)
  | listen => exact Keeps.attempting (hrobust.listen s)
  | setProtocol | setTypeOfService | setTimeToLive =>
    exact Keeps.answering (hrobust.writeRegister s rfl _)
  | setSegmentSize => exact Keeps.answering (hrobust.writeRegisterWord s rfl rfl _)
  | setDestinationMac => exact Keeps.answering (hrobust.setDestinationMac s _)
  | send => exact Keeps.attempting (h.send _)
  | receive => exact Keeps.attempting (h.receive _)
  | peek => exact Keeps.attempting (hrobust.peekByte s)
  | sendTo => exact Keeps.attempting (h.sendTo _ _ _)
  | receiveFrom => exact Keeps.attempting (h.receiveFrom _)
  | startDatagram => exact Keeps.attempting (hrobust.startDatagram s _ _)
  | buffer => exact Keeps.attempting (h.buffer _ _)
  | sendDatagram => exact Keeps.attempting (hrobust.sendDatagram s)
  | sendRawTo => exact Keeps.attempting (h.sendRawTo _ _)
  | sendRaw => exact Keeps.attempting (h.sendRaw _)

end Withstands

namespace Robust

variable {σ : Type} [Host σ] {I : σ → Prop}

/-- A reset writes to common registers only. -/
theorem init {P : Frame → Prop} (h : Robust P I)
    (hcommon : ∀ address value, address.toNat < 0x0400 → P (Frame.write address value)) :
    Keeps (fun d : Device σ => I d.board) init := by
  have hwrite {address : UInt16} (value : UInt8) (haddress : address.toNat < 0x0400) :
      Keeps (fun d : Device σ => I d.board) (onLink (SpiEthernet.writeByte address value)) :=
    Keeps.onLink (h.writeByte (hcommon _ _ haddress))
  have hfinished : ∀ polls, Keeps (fun d : Device σ => I d.board) (resetFinished polls) := by
    intro polls
    induction polls with
    | zero => exact Keeps.pure _
    | succ polls ih =>
      exact Keeps.bind (Keeps.onLink (h.readByte _)) fun _ => Keeps.ite ih (Keeps.pure _)
  have hprobe : Keeps (fun d : Device σ => I d.board) probe :=
    Keeps.bind (Keeps.onLink (h.readByte _)) fun _ => Keeps.pure _
  have hforget : Keeps (fun d : Device σ => I d.board) (changeController fun _ => Controller.new) :=
    Keeps.onController _
  refine Keeps.bind (Keeps.sure (hwrite _ (by decide))) fun _ => ?_
  refine Keeps.bind (Keeps.sure (hfinished _)) fun finished => ?_
  refine Keeps.ite (Keeps.bind (Keeps.sure (h.note _)) fun _ => Keeps.fail_bind _ _) ?_
  refine Keeps.bind (Keeps.sure (hwrite _ (by decide))) fun _ => ?_
  refine Keeps.bind (Keeps.sure (hwrite _ (by decide))) fun _ => ?_
  refine Keeps.bind (Keeps.sure hprobe) fun kept => ?_
  refine Keeps.ite (Keeps.bind (Keeps.sure (h.note _)) fun _ => Keeps.fail_bind _ _) ?_
  refine Keeps.bind (Keeps.sure (hwrite _ (by decide))) fun _ => ?_
  exact Keeps.bind (Keeps.sure hforget) fun _ => Keeps.sure (h.note _)

/-- An operation that is neither a reset nor on one socket is routine. -/
theorem performCommon (h : Robust Frame.IsRoutine I) {operation : DeviceOperation}
    (hinit : operation ≠ .init) (hsocket : ∀ s action, operation ≠ .socket s action) :
    Keeps (fun d : Device σ => I d.board) operation.perform := by
  cases operation with
  | init => exact absurd rfl hinit
  | probe => exact Keeps.answering (Keeps.bind (Keeps.onLink (h.readByte _)) fun _ => Keeps.pure _)
  | configure config => exact Keeps.answering (h.configure config)
  | network => exact Keeps.answering h.network
  | setMac mac => exact Keeps.answering (h.setMac mac)
  | setIp ip => exact Keeps.answering (h.setIp ip)
  | setGateway gateway => exact Keeps.answering (h.setGateway gateway)
  | setSubnet subnet => exact Keeps.answering (h.setSubnet subnet)
  | setRetry config => exact Keeps.answering (h.setRetry config)
  | retry => exact Keeps.answering h.retry
  | unreachable | takeGlobal => exact Keeps.answering (Keeps.onController _)
  | drain => exact Keeps.answering h.quiet.drain
  | allocate => exact Keeps.attempting (h.firstReusable SocketId.all)
  | socket s action => exact absurd rfl (hsocket s action)
  | invalid cause => exact Keeps.pure _

/-! ## Harmless frames -/

variable (h : Robust Frame.IsHarmless I) (s : SocketId)

include h

/-- Moving a pointer is harmless. -/
theorem writePointer (r : SocketRegister) (hw : r.width = 2) (pointer : UInt16) :
    Keeps (fun d : Device σ => I d.board)
      (onLink (SpiEthernet.writeWord (r.address s) pointer)) := by
  have hmem := r.address_mem s
  have hsucc := SocketRegister.toNat_address_succ hw s
  exact Keeps.onLink (h.writeWord (Frame.isHarmless_write_of_lt (by omega))
    (Frame.isHarmless_write_of_lt (by omega)))

theorem withstands : Withstands I s where
  robust := h.routine
  opening := by
    have hmem := SocketRegister.command.address_mem s
    exact h.give s (Frame.isHarmless_write_of_lt (by omega) _)
  stage := h.routine.stage s (h.writePointer s .txWrite rfl) 0
  buffer := h.routine.buffer s (h.writePointer s .txWrite rfl)
  receive := h.routine.receive s (h.writePointer s .rxRead rfl)
  receiveFrom := h.routine.receiveFrom s (h.writePointer s .rxRead rfl)

/-- Every operation but a reset keeps what harmless frames do not break. -/
theorem perform {operation : DeviceOperation} (hinit : operation ≠ .init) :
    Keeps (fun d : Device σ => I d.board) operation.perform := by
  cases operation with
  | socket s action =>
    have hroutine := h.routine
    have hrest := (h.withstands s).performSocket action
    cases action with
    | stage => exact Keeps.attempting (hroutine.stage s (h.writePointer s .txWrite rfl) _ _)
    | fetch => exact Keeps.attempting (hroutine.fetch s _ (fun _ => h.writePointer s .rxRead rfl) _)
    | skip => exact Keeps.answering (hroutine.skip s (h.writePointer s .rxRead rfl) _)
    | _ => exact hrest rfl
  | _ => exact h.routine.performCommon hinit fun _ _ hsocket => nomatch hsocket

end Robust

section Unconditional

variable {σ : Type} [Host σ] {I : σ → Prop} (h : Robust (fun _ => True) I)

include h

theorem Robust.harmless : Robust Frame.IsHarmless I :=
  h.mono (fun _ => (Frame.isRoutine_of_read rfl).harmless) fun _ _ => trivial

/-- Every operation keeps what no frame breaks, a reset too. -/
theorem Robust.performAny (operation : DeviceOperation) :
    Keeps (fun d : Device σ => I d.board) operation.perform := by
  cases operation with
  | init => exact Keeps.attempting (h.init fun _ _ _ => trivial)
  | _ => exact h.harmless.perform nofun

end Unconditional

end SpiEthernet
