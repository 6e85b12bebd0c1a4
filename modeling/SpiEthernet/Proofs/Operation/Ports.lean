import SpiEthernet.Proofs.Interrupt.Showing

/-!
# Ports in the trace

The trace shows on which port a socket is opened: it is what was programmed last when the socket is
told to open. An observer of the link has to remember the two bytes of every port register for this.
Nothing that the handler does changes what he knows, and of the driver's frames only a command to
open adds a port.

* `writePort_views`, `issueOpen_views` : programming a port and telling the socket to open.
* `robust_opened` : what adds no port.
-/

namespace SpiEthernet

/-! ## Ports in the trace -/

/-- What an observer of the link knows about ports: the bytes that were last programmed for each
socket, and the ports on which sockets were told to open. -/
@[ext] structure PortView where
  high : SocketId → UInt8
  low : SocketId → UInt8
  opened : List UInt16

/-- Whether a write tells a socket to open. -/
def Access.opens (access : Access) (s : SocketId) : Bool :=
  access.address = SocketRegister.command.address s ∧ access.data = SocketCommand.open.code

namespace PortView

/-- The view of an observer who has seen nothing yet. -/
def blank : PortView := ⟨fun _ => 0, fun _ => 0, []⟩

/-- The port that was last programmed for a socket. -/
def port (view : PortView) (s : SocketId) : UInt16 := word (view.high s) (view.low s)

/-- The view after one more access. -/
def see (view : PortView) (access : Access) : PortView :=
  match access.direction with
  | .read => view
  | .write => {
      high := fun s =>
        if access.address = SocketRegister.sourcePort.address s then access.data else view.high s
      low := fun s =>
        if access.address = SocketRegister.sourcePort.address s + 1 then access.data
        else view.low s
      opened := view.opened ++ (SocketId.all.filter access.opens).map view.port }

/-- The view of an observer who has seen some accesses. -/
def ofTrace (accesses : List Access) : PortView := accesses.foldl see blank

end PortView

/-- The ports on which sockets were told to open. -/
def portsOpened (accesses : List Access) : List UInt16 := (PortView.ofTrace accesses).opened

/-! ## What frames show of ports -/

/-- A frame that does not tell a socket to open. -/
def Frame.OpensNone (frame : Frame) : Prop :=
  frame.direction = .write → ∀ s, frame.address = SocketRegister.command.address s →
    frame.data ≠ SocketCommand.open.code

namespace Frame

variable {frame : Frame} {view : PortView} {masked : Bool} {reply : UInt8}

theorem opensNone_read (address : UInt16) : (Frame.read address).OpensNone := nofun

theorem opensNone_write {address : UInt16} (h : ∀ s, address ≠ SocketRegister.command.address s)
    (value : UInt8) : (Frame.write address value).OpensNone :=
  fun _ s ha => absurd ha (h s)

theorem IsRoutine.opensNone (h : frame.IsRoutine) : frame.OpensNone := h.opening

theorem OpensNone.opened_see (h : frame.OpensNone) :
    (view.see (frame.access masked reply)).opened = view.opened := by
  obtain ⟨direction, address, data⟩ := frame
  cases direction with
  | read => rfl
  | write =>
    have hnone : SocketId.all.filter (Access.opens ⟨.write, address, data, masked⟩) = [] := by
      refine List.filter_eq_nil_iff.2 fun s _ hopens => ?_
      obtain ⟨ha, hd⟩ := of_decide_eq_true hopens
      exact h rfl s ha hd
    show view.opened ++ (SocketId.all.filter (Access.opens ⟨.write, address, data, masked⟩)).map
      view.port = _
    rw [hnone, List.map_nil, List.append_nil]

/-- Quiet frames show nothing of ports. -/
theorem IsQuiet.see (h : frame.IsQuiet) : view.see (frame.access masked reply) = view := by
  have hopened : (view.see (frame.access masked reply)).opened = view.opened :=
    h.isRoutine.opensNone.opened_see
  obtain ⟨direction, address, data⟩ := frame
  cases direction with
  | read => rfl
  | write =>
    have haway (s : SocketId) : address ≠ SocketRegister.sourcePort.address s ∧
        address ≠ SocketRegister.sourcePort.address s + 1 := by
      rcases h rfl with rfl | ⟨t, rfl⟩
      · have hmem := SocketRegister.sourcePort.address_mem s
        have hsucc := SocketRegister.toNat_address_succ (r := .sourcePort) rfl s
        have hcommon : CommonRegister.interrupt.address.toNat < 0x0400 := by decide
        refine ⟨(SocketRegister.address_ne_of_lt _ s hcommon).symm, fun heq => ?_⟩
        have heq : CommonRegister.interrupt.address = _ := heq
        rw [← heq] at hsucc
        omega
      · refine ⟨fun heq => ?_, (SocketRegister.address_succ_ne rfl s .interrupt t).symm⟩
        cases (SocketRegister.address_inj heq).1
    have hhigh : (view.see (Frame.access ⟨.write, address, data⟩ masked reply)).high = view.high :=
      funext fun s => if_neg (haway s).1
    have hlow : (view.see (Frame.access ⟨.write, address, data⟩ masked reply)).low = view.low :=
      funext fun s => if_neg (haway s).2
    exact PortView.ext hhigh hlow hopened

/-- The port of a socket is programmed in two halves. -/
theorem see_writeHigh (s : SocketId) (high : UInt8) :
    (view.see ((Frame.write (SocketRegister.sourcePort.address s) high).access masked
      reply)).high s = high :=
  if_pos rfl

theorem see_writeLow (s : SocketId) (low : UInt8) :
    (view.see ((Frame.write (SocketRegister.sourcePort.address s + 1) low).access masked
      reply)).port s = word (view.high s) low := by
  generalize hafter : view.see _ = after
  have hhigh : after.high s = view.high s :=
    hafter ▸ if_neg (SocketRegister.address_succ_ne rfl s .sourcePort s)
  have hlow : after.low s = low := hafter ▸ if_pos rfl
  rw [PortView.port, hhigh, hlow]

/-- A socket is opened on the port that was programmed. -/
theorem see_open (s : SocketId) :
    (view.see ((Frame.write (SocketRegister.command.address s) SocketCommand.open.code).access
      masked reply)).opened = view.opened ++ [view.port s] := by
  have hone : SocketId.all.filter (Access.opens ⟨.write, SocketRegister.command.address s,
      SocketCommand.open.code, masked⟩) = [s] := by
    revert s masked
    decide
  show view.opened ++ (SocketId.all.filter (Access.opens ⟨.write, SocketRegister.command.address s,
    SocketCommand.open.code, masked⟩)).map view.port = _
  rw [hone]
  rfl

end Frame

/-! ## Kinds of views -/

namespace PortView

/-- Sockets were told to open on certain ports. -/
def Opened (ports : List UInt16) (view : PortView) : Prop := view.opened = ports

/-- The first byte of the port of the next socket that is going to open is programmed. -/
def HalfProgrammed (ports : List UInt16) (s : SocketId) (high : UInt8) (view : PortView) : Prop :=
  view.Opened ports ∧ view.high s = high

/-- The port of the next socket that is going to open is programmed. -/
def Programmed (ports : List UInt16) (s : SocketId) (port : UInt16) (view : PortView) : Prop :=
  view.Opened ports ∧ view.port s = port

/-- Accesses give an observer a view of a certain kind. -/
def Seen (Q : PortView → Prop) (accesses : List Access) : Prop := Q (ofTrace accesses)

end PortView

/-- What has been traced since an earlier state of the link gives an observer a view of a certain
kind. -/
def Device.Views (start : Endpoint) (Q : PortView → Prop) (device : Device Board) : Prop :=
  start.Shows (PortView.Seen Q) device.board.bench.endpoint

section Views

variable {start : Endpoint} {ports : List UInt16} {Q R : PortView → Prop} (s : SocketId)

/-- A frame leads from one kind of view to another if it does so whatever is seen of it. -/
theorem Frame.extends_seen {frame : Frame}
    (h : ∀ view masked reply, Q view → R (view.see (frame.access masked reply))) :
    frame.Extends (PortView.Seen Q) (PortView.Seen R) := by
  intro accesses masked reply hQ
  rw [PortView.Seen, PortView.ofTrace, List.foldl_append]
  exact h _ masked reply hQ

theorem Frame.IsQuiet.extends {frame : Frame} (h : frame.IsQuiet) :
    frame.Extends (PortView.Seen Q) (PortView.Seen Q) :=
  extends_seen fun view masked reply hQ => by rwa [h.see]

/-- A write leads where it does for an observer, who learns nothing of ports from the handler. -/
theorem writeByte_views {address : UInt16} {value : UInt8}
    (h : ∀ view masked reply, Q view →
      R (view.see ((Frame.write address value).access masked reply))) :
    Leads (Device.Views start Q) (onLink (writeByte address value)) fun _ =>
      Device.Views start R :=
  Leads.onLink fun _ => Board.writeByte_shows (fun _ hquiet => hquiet.extends)
    (Frame.extends_seen h)

/-- Frames that tell no socket to open leave the ports on which sockets were opened. -/
theorem robust_opened : Robust Frame.OpensNone fun board : Board =>
    start.Shows (PortView.Seen (PortView.Opened ports)) board.bench.endpoint :=
  Board.robust_shows (fun _ hquiet => hquiet.extends) Frame.opensNone_read fun _ h =>
    Frame.extends_seen fun _ _ _ hopened => h.opened_see.trans hopened

theorem routine_opened : Robust Frame.IsRoutine fun board : Board =>
    start.Shows (PortView.Seen (PortView.Opened ports)) board.bench.endpoint :=
  robust_opened.mono (fun _ => Frame.isRoutine_of_read rfl) fun _ h => h.opensNone

/-- The port of a socket is programmed byte by byte. -/
theorem writePort_views (port : UInt16) :
    Leads (Device.Views start (PortView.Opened ports))
      (onLink (writeWord (SocketRegister.sourcePort.address s) port)) fun _ =>
        Device.Views start (PortView.Programmed ports s port) := by
  rw [writeWord, onLink_bind]
  refine Leads.bind (R := fun _ => Device.Views start
    (PortView.HalfProgrammed ports s (highByte port))) ?_ fun _ => ?_
  · refine writeByte_views fun view masked reply hopened => ⟨?_, Frame.see_writeHigh s _⟩
    refine (Frame.opensNone_write (fun t heq => ?_) _).opened_see.trans hopened
    cases (SocketRegister.address_inj heq).1
  · refine writeByte_views fun view masked reply hview => ?_
    refine ⟨(Frame.opensNone_write (fun t => ?_) _).opened_see.trans hview.1, ?_⟩
    · exact SocketRegister.address_succ_ne rfl s .command t
    · rw [Frame.see_writeLow, hview.2, word_highByte_lowByte]

/-- A socket that is told to open opens on the port that was programmed. -/
theorem issueOpen_views (port : UInt16) :
    Leads (Device.Views start (PortView.Programmed ports s port)) (issue s .open) fun _ =>
      Device.Views start (PortView.Opened (ports ++ [port])) := by
  have hopens : Leads (Device.Views start (PortView.Programmed ports s port))
      (onLink (writeByte (SocketRegister.command.address s) SocketCommand.open.code)) fun _ =>
        Device.Views start (PortView.Opened (ports ++ [port])) :=
    writeByte_views fun view masked reply hview => by
      rw [PortView.Opened, Frame.see_open, hview.1, hview.2]
  refine Leads.bind hopens fun _ => Keeps.bind Keeps.patience fun bound => ?_
  refine Keeps.bind (Keeps.pollWithin ?_ (Keeps.fault _) bound) fun _ => robust_opened.note _
  exact Keeps.bind (Keeps.onLink (robust_opened.readByte _)) fun _ => Keeps.pure _

end Views

end SpiEthernet
