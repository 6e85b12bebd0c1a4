import SpiEthernet.Proofs.Operation.Tending

/-!
# The port counter

Sockets that are opened without a port all get one from the same counter. Nothing but an opening
without a port takes from it, and only a reset sets it back: neither the other calls on a socket nor
those on a channel look at it, and collecting interrupts does not either.

* `AtPort.performSocket`, `AtPort.perform` : operations that leave the counter alone.
* `AtPort.serves` : so does all that a channel does.
* `AtPort.init` : a reset that succeeds sets it back.
-/

namespace SpiEthernet

/-- The port that the driver hands out next. -/
def Device.AtPort {σ : Type} (port : UInt16) (device : Device σ) : Prop :=
  device.controller.nextPort = port

namespace AtPort

variable {σ α : Type} [Host σ] {port : UInt16} (s : SocketId)

/-! ## The steps of operations -/

omit [Host σ] in
/-- The link does not lead to the counter. -/
theorem onLink (action : LinkM σ α) : Keeps (Device.AtPort port) (onLink action) :=
  Keeps.onLink_of_controller (J := fun controller => controller.nextPort = port) action

omit [Host σ] in
theorem onController {action : Controller → α × Controller}
    (h : ∀ controller, (action controller).2.nextPort = controller.nextPort) :
    Keeps (Device.AtPort port : Device σ → Prop) (onController action) := by
  rintro ⟨board, controller⟩ _ _ hport hrun
  cases hrun
  exact (h controller).trans hport

theorem drain : Keeps (Device.AtPort port : Device σ → Prop) drain :=
  drain_leaves (f := Controller.nextPort) (fun _ _ => rfl) (fun _ _ => rfl) port

theorem status : Keeps (Device.AtPort port : Device σ → Prop) (status s) :=
  Keeps.bind (onLink _) fun _ => Keeps.pure _

theorem issue (command : SocketCommand) :
    Keeps (Device.AtPort port : Device σ → Prop) (issue s command) := by
  refine Keeps.bind (onLink _) fun _ => Keeps.bind Keeps.patience fun bound => ?_
  refine Keeps.bind (Keeps.pollWithin ?_ (Keeps.fault _) bound) fun _ => onLink _
  exact Keeps.bind (onLink _) fun _ => Keeps.pure _

theorem settledWord (address : UInt16) :
    Keeps (Device.AtPort port : Device σ → Prop) (settledWord address) := by
  refine Keeps.bind Keeps.patience fun bound => Keeps.bind (onLink _) fun first => ?_
  induction bound generalizing first with
  | zero => exact Keeps.fault _
  | succ bound ih =>
    exact Keeps.bind (onLink _) fun current => Keeps.ite (Keeps.pure _) (ih current)

theorem close : Keeps (Device.AtPort port : Device σ → Prop) (close s) :=
  Keeps.bind (issue s .close) fun _ => Keeps.bind (onLink _) fun _ => onController fun _ => rfl

theorem setDestination (ip : Ipv4) (destinationPort : UInt16) :
    Keeps (Device.AtPort port : Device σ → Prop) (setDestination s ip destinationPort) :=
  Keeps.bind (onLink _) fun _ => onLink _

theorem firstReusable (sockets : List SocketId) :
    Keeps (Device.AtPort port) (firstReusable sockets : Attempt σ SocketId) := by
  induction sockets with
  | nil => exact Keeps.fail _
  | cons s rest ih =>
    exact Keeps.bind (Keeps.sure (status s)) fun _ => Keeps.ite (Keeps.pure _) ih

/-! ## The end of a transmission -/

theorem clearSendFlags : Keeps (Device.AtPort port : Device σ → Prop) (clearSendFlags s) :=
  Keeps.bind drain fun _ => Keeps.bind (onController fun _ => rfl) fun _ => Keeps.pure _

theorem awaitSent (tcp : Bool) :
    Keeps (Device.AtPort port) (awaitSent s tcp : Attempt σ Unit) := by
  have hgivenUp : ∀ {cause : Error} {k : Unit → Attempt σ (Option Unit)},
      Keeps (Device.AtPort port) (do
        sure (SpiEthernet.close s)
        SpiEthernet.fail cause >>= k) :=
    Keeps.bind (Keeps.sure (close s)) fun _ => Keeps.fail_bind _ _
  have hended : Keeps (Device.AtPort port) (sendEnded s tcp : Attempt σ (Option Unit)) := by
    refine Keeps.bind (Keeps.sure drain) fun _ => ?_
    refine Keeps.bind (Keeps.sure (onController fun _ => rfl)) fun flags => ?_
    refine Keeps.ite (Keeps.pure _) (Keeps.ite ?_ ?_)
    · refine Keeps.bind (Keeps.sure (onLink _)) fun _ => ?_
      exact Keeps.guarded (Keeps.sure (close s)) (Keeps.fail_bind _ _)
    · refine Keeps.ite (Keeps.bind (Keeps.sure (status s)) fun shown => ?_) (Keeps.pure _)
      exact Keeps.ite hgivenUp (Keeps.pure _)
  refine Keeps.bind (Keeps.sure Keeps.patience) fun bound => ?_
  exact Keeps.pollWithin hended (Keeps.sure (Keeps.fault _)) bound

/-! ## Moving bytes -/

theorem stage (offset : UInt16) (data : List UInt8) :
    Keeps (Device.AtPort port) (stage s offset data : Attempt σ Unit) := by
  unfold SpiEthernet.stage
  refine Keeps.bind (Keeps.ite (Keeps.fail _) (Keeps.pure _)) fun _ => Keeps.ite (Keeps.pure _) ?_
  refine Keeps.bind (Keeps.sure (onLink _)) fun _ => Keeps.bind (Keeps.sure (onLink _)) fun _ => ?_
  exact Keeps.bind (Keeps.sure (onLink _)) fun _ => Keeps.sure (onLink _)

theorem fetch (count : Nat) (peek : Bool) :
    Keeps (Device.AtPort port) (fetch s count peek : Attempt σ (List UInt8)) := by
  unfold SpiEthernet.fetch
  refine Keeps.bind (Keeps.ite (Keeps.fail _) (Keeps.pure _)) fun _ => Keeps.ite (Keeps.pure _) ?_
  refine Keeps.bind (Keeps.sure (onLink _)) fun _ => Keeps.bind (Keeps.sure (onLink _)) fun _ => ?_
  refine Keeps.bind (Keeps.sure (onLink _)) fun _ => ?_
  exact Keeps.guarded (Keeps.sure (onLink _)) (Keeps.pure _)

theorem skip (count : UInt16) : Keeps (Device.AtPort port : Device σ → Prop) (skip s count) :=
  Keeps.ite (Keeps.bind (onLink _) fun _ => onLink _) (Keeps.pure _)

theorem take (count : Nat) : Keeps (Device.AtPort port) (do
    let bytes ← SpiEthernet.fetch s count false
    sure (SpiEthernet.issue s .receive)
    return bytes : Attempt σ (List UInt8)) :=
  Keeps.bind (fetch s count false) fun _ =>
    Keeps.bind (Keeps.sure (issue s .receive)) fun _ => Keeps.pure _

/-! ## Streams -/

theorem send (data : List UInt8) : Keeps (Device.AtPort port) (send s data : Attempt σ Nat) := by
  have hroom (needed : Nat) :
      Keeps (Device.AtPort port) (roomFor s needed : Attempt σ (Option Unit)) := by
    refine Keeps.bind (Keeps.sure (settledWord _)) fun free => ?_
    refine Keeps.bind (Keeps.sure (status s)) fun shown => ?_
    exact Keeps.guarded (Keeps.fail _) (Keeps.pure _)
  refine Keeps.ite (Keeps.pure _) (Keeps.bind (Keeps.sure Keeps.patience) fun bound => ?_)
  refine Keeps.bind (Keeps.pollWithin (hroom _) (Keeps.sure (Keeps.fault _)) bound) fun _ => ?_
  refine Keeps.bind (Keeps.sure (clearSendFlags s)) fun _ => Keeps.bind (stage s _ _) fun _ => ?_
  refine Keeps.bind (Keeps.sure (issue s .send)) fun _ => ?_
  exact Keeps.bind (awaitSent s true) fun _ => Keeps.pure _

theorem receive (room : Nat) :
    Keeps (Device.AtPort port) (receive s room : Attempt σ (Option (List UInt8))) := by
  refine Keeps.bind (Keeps.sure (settledWord _)) fun pending => Keeps.ite ?_ ?_
  · exact Keeps.bind (Keeps.sure (status s)) fun _ => Keeps.pure _
  · refine Keeps.ite (Keeps.pure _) (Keeps.bind (fetch s _ _) fun _ => ?_)
    exact Keeps.bind (Keeps.sure (issue s .receive)) fun _ => Keeps.pure _

theorem peekByte : Keeps (Device.AtPort port) (peekByte s : Attempt σ (Option UInt8)) := by
  refine Keeps.bind (Keeps.sure (settledWord _)) fun pending => Keeps.ite (Keeps.pure _) ?_
  exact Keeps.bind (fetch s 1 true) fun _ => Keeps.pure _

/-! ## Datagrams -/

theorem startDatagram (ip : Ipv4) (destinationPort : UInt16) :
    Keeps (Device.AtPort port) (startDatagram s ip destinationPort : Attempt σ Unit) := by
  unfold SpiEthernet.startDatagram
  exact Keeps.guarded (Keeps.fail _) (Keeps.sure (setDestination s _ _))

theorem buffer (offset : UInt16) (data : List UInt8) :
    Keeps (Device.AtPort port) (buffer s offset data : Attempt σ Nat) :=
  Keeps.bind (Keeps.sure (settledWord _)) fun _ => Keeps.bind (stage s _ _) fun _ => Keeps.pure _

theorem sendDatagram : Keeps (Device.AtPort port) (sendDatagram s : Attempt σ Unit) :=
  Keeps.bind (Keeps.sure (clearSendFlags s)) fun _ =>
    Keeps.bind (Keeps.sure (issue s .send)) fun _ => awaitSent s false

theorem stageWhole (data : List UInt8) :
    Keeps (Device.AtPort port) (stageWhole s data : Attempt σ Unit) := by
  refine Keeps.bind (Keeps.sure (settledWord _)) fun free => ?_
  exact Keeps.guarded (Keeps.fail _) (stage s _ _)

theorem sendRaw (data : List UInt8) :
    Keeps (Device.AtPort port) (sendRaw s data : Attempt σ Nat) := by
  refine Keeps.bind (stageWhole s data) fun _ => ?_
  refine Keeps.bind (Keeps.tryCatch (sendDatagram s) fun cause => ?_) fun _ => Keeps.pure _
  exact Keeps.bind (Keeps.sure (close s)) fun _ => Keeps.fail _

theorem receiveHeader :
    Keeps (Device.AtPort port) (receiveHeader s : Attempt σ (Option DatagramInfo)) := by
  refine Keeps.bind (Keeps.sure (onLink _)) fun mode => ?_
  refine Keeps.bind (Keeps.sure (settledWord _)) fun pending => Keeps.ite (Keeps.pure _) ?_
  refine Keeps.bind (fetch s _ _) fun bytes => ?_
  exact Keeps.bind (Keeps.sure (issue s .receive)) fun _ => Keeps.pure _

theorem receiveFrom (room : Nat) : Keeps (Device.AtPort port)
    (receiveFrom s room : Attempt σ (Option (DatagramInfo × List UInt8))) := by
  refine Keeps.bind (receiveHeader s) fun header => ?_
  cases header with
  | none => exact Keeps.pure _
  | some info =>
    refine Keeps.bind (fetch s _ _) fun bytes => Keeps.bind (Keeps.sure (skip s _)) fun _ => ?_
    exact Keeps.bind (Keeps.sure (issue s .receive)) fun _ => Keeps.pure _

/-- All that a channel does beside opening leaves the counter alone. -/
theorem serves : Serves fun _ _ => (Device.AtPort port : Device σ → Prop) where
  startDatagram s _ := startDatagram s
  freeTx _ _ := settledWord _
  buffer s _ := buffer s
  sendDatagram s _ := sendDatagram s
  note _ _ _ := onLink _
  status s _ := status s
  peekByte s _ := peekByte s
  header s := receiveHeader s
  take s _ count _ := take s count
  discard s _ := Keeps.bind (skip s _) fun _ => issue s .receive

/-! ## Opening with a port -/

/-- An opening takes nothing from the counter if it is told a port. -/
theorem openSocket (mode : SocketMode) (flags : UInt8) {wanted : UInt16} (h : wanted ≠ 0) :
    Keeps (Device.AtPort port) (openSocket s mode flags wanted : Attempt σ UInt16) := by
  by_cases hmode : mode = .closed
  · rw [hmode]
    exact keeps_openSocket_closed (close s)
  refine leads_openSocket hmode (close s) ?_ (fun _ => onController fun _ => rfl)
    (fun _ => onLink _) (close s)
  unfold openClosed choosePort
  rw [if_neg h]
  refine Keeps.bind (onLink _) fun _ => Keeps.bind (Keeps.pure _) fun _ => ?_
  refine Keeps.bind (onLink _) fun _ => Keeps.bind (issue s .open) fun _ => ?_
  exact Keeps.bind (status s) fun _ => Keeps.pure _

theorem begin {wanted : UInt16} (h : wanted ≠ 0) :
    Keeps (Device.AtPort port) (Channel.begin wanted : Attempt σ Channel) :=
  Keeps.bind (firstReusable SocketId.all) fun s =>
    Keeps.bind (openSocket s .udp 0 h) fun _ => Keeps.pure _

theorem beginMulticast (group : Ipv4) {wanted : UInt16} (h : wanted ≠ 0) :
    Keeps (Device.AtPort port) (Channel.beginMulticast group wanted : Attempt σ Channel) := by
  unfold Channel.beginMulticast
  refine Keeps.guarded (Keeps.fail _) (Keeps.bind (firstReusable SocketId.all) fun s => ?_)
  refine Keeps.bind (startDatagram s _ _) fun _ => Keeps.bind (Keeps.sure (onLink _)) fun _ => ?_
  refine Keeps.bind (openSocket s .udp _ h) fun _ => ?_
  exact Keeps.bind (Keeps.sure (onLink _)) fun _ => Keeps.pure _

/-! ## Operations as data -/

/-- No operation on a socket takes from the counter but an opening without a port. -/
theorem performSocket {operation : SocketOperation}
    (h : ∀ mode flags, operation ≠ .openSocket mode flags 0) :
    Keeps (Device.AtPort port : Device σ → Prop) (operation.perform s) := by
  cases operation with
  | status => exact Keeps.answering (status s)
  | issue command => exact Keeps.answering (issue s command)
  | stickyFlags | takeFlags | localPort => exact Keeps.answering (onController fun _ => rfl)
  | freeTx | pendingRx => exact Keeps.answering (settledWord _)
  | stage => exact Keeps.attempting (stage s _ _)
  | fetch => exact Keeps.attempting (fetch s _ _)
  | skip => exact Keeps.answering (skip s _)
  | openSocket mode flags wanted =>
    exact Keeps.attempting (openSocket s mode flags fun hw => h mode flags (hw ▸ rfl))
  | close => exact Keeps.answering (close s)
  | disconnect => exact Keeps.answering (issue s .disconnect)
  | connect =>
    unfold SocketOperation.perform SpiEthernet.connect
    refine Keeps.attempting (Keeps.guarded (Keeps.fail _) ?_)
    exact Keeps.bind (Keeps.sure (setDestination s _ _)) fun _ => Keeps.sure (issue s _)
  | listen =>
    refine Keeps.attempting (Keeps.bind (Keeps.sure (status s)) fun shown => ?_)
    exact Keeps.guarded (Keeps.fail _) (Keeps.sure (issue s _))
  | setProtocol | setTypeOfService | setTimeToLive | setSegmentSize | setDestinationMac =>
    exact Keeps.answering (onLink _)
  | send => exact Keeps.attempting (send s _)
  | receive => exact Keeps.attempting (receive s _)
  | peek => exact Keeps.attempting (peekByte s)
  | sendTo =>
    refine Keeps.attempting (Keeps.bind (startDatagram s _ _) fun _ => ?_)
    refine Keeps.bind (stageWhole s _) fun _ => ?_
    exact Keeps.bind (sendDatagram s) fun _ => Keeps.pure _
  | receiveFrom => exact Keeps.attempting (receiveFrom s _)
  | startDatagram => exact Keeps.attempting (startDatagram s _ _)
  | buffer => exact Keeps.attempting (buffer s _ _)
  | sendDatagram => exact Keeps.attempting (sendDatagram s)
  | sendRawTo =>
    unfold SocketOperation.perform SpiEthernet.sendRawTo
    refine Keeps.attempting (Keeps.guarded (Keeps.fail _) ?_)
    exact Keeps.bind (Keeps.sure (onLink _)) fun _ => sendRaw s _
  | sendRaw => exact Keeps.attempting (sendRaw s _)

/-- No operation takes from the counter but an opening without a port, and but a reset none sets it
back. -/
theorem perform {operation : DeviceOperation} (hinit : operation ≠ .init)
    (h : ∀ s mode flags, operation ≠ .socket s (.openSocket mode flags 0)) :
    Keeps (Device.AtPort port : Device σ → Prop) operation.perform := by
  cases operation with
  | init => exact absurd rfl hinit
  | probe => exact Keeps.answering (Keeps.bind (onLink _) fun _ => Keeps.pure _)
  | configure =>
    refine Keeps.answering (Keeps.bind (onLink _) fun _ => Keeps.bind (onLink _) fun _ => ?_)
    exact Keeps.bind (onLink _) fun _ => Keeps.bind (onLink _) fun _ => onLink _
  | network =>
    refine Keeps.answering (Keeps.bind (onLink _) fun _ => Keeps.bind (onLink _) fun _ => ?_)
    exact Keeps.bind (onLink _) fun _ => Keeps.bind (onLink _) fun _ => Keeps.pure _
  | setMac | setIp | setGateway | setSubnet => exact Keeps.answering (onLink _)
  | setRetry => exact Keeps.answering (Keeps.bind (onLink _) fun _ => onLink _)
  | retry =>
    exact Keeps.answering (Keeps.bind (onLink _) fun _ =>
      Keeps.bind (onLink _) fun _ => Keeps.pure _)
  | unreachable | takeGlobal => exact Keeps.answering (onController fun _ => rfl)
  | drain => exact Keeps.answering drain
  | allocate => exact Keeps.attempting (firstReusable SocketId.all)
  | socket s operation =>
    exact performSocket s fun mode flags heq => h s mode flags (congrArg _ heq)
  | invalid cause => exact Keeps.pure _

/-! ## Resetting -/

/-- A reset that succeeds sets the counter back to the first port. -/
theorem init : Leads (fun _ : Device σ => True) init.run fun r d =>
    r.isOk → d.AtPort firstEphemeralPort := by
  have hrefused {cause : Error} {notice : Notice} {k : Unit → Attempt σ Unit} :
      Leads (fun _ : Device σ => True) (do
        sure (note notice)
        fail cause >>= k : Attempt σ Unit).run fun r d =>
          r.isOk → d.AtPort firstEphemeralPort :=
    Leads.sure_bind Leads.any fun _ => Leads.pure fun _ _ => nofun
  unfold SpiEthernet.init
  refine Leads.sure_bind Leads.any fun _ => Leads.sure_bind Leads.any fun finished => ?_
  cases finished with
  | false => exact hrefused
  | true =>
    refine Leads.sure_bind Leads.any fun _ => Leads.sure_bind Leads.any fun _ => ?_
    refine Leads.sure_bind Leads.any fun kept => ?_
    cases kept with
    | false => exact hrefused
    | true =>
      have hforget : Leads (fun _ : Device σ => True) (changeController fun _ => Controller.new)
          fun _ d => d.AtPort firstEphemeralPort := by
        rintro ⟨board, controller⟩ _ _ - ⟨⟩
        rfl
      refine Leads.sure_bind Leads.any fun _ => Leads.sure_bind hforget fun _ => ?_
      exact Leads.sure fun _ _ _ hport hrun _ => onLink _ _ _ _ hport hrun

end AtPort

end SpiEthernet
