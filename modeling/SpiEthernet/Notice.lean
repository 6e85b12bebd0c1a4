import SpiEthernet.Address
import SpiEthernet.Log
import SpiEthernet.Register
import SpiEthernet.Socket.State

/-!
# What the driver tells the log

Every remark the driver and the resolver make about their work, as a value. Level, topic and
text follow from the value, and the text is only made when the journal keeps the remark.
-/

namespace SpiEthernet

/-- A remark of the driver or the resolver. -/
inductive Notice where
  | resetStuck (polls : Nat)
  | layoutMismatch
  | ready
  | configured (ip gateway subnet : Ipv4)
  | commandDone (s : SocketId) (command : SocketCommand)
  | unreachable (ip : Ipv4) (destinationPort : UInt16)
  | addressConflict
  | lineBusy (passes : Nat)
  | openFailed (s : SocketId) (mode : SocketMode) (status : SocketStatus)
  | opened (s : SocketId) (mode : SocketMode) (localPort : UInt16)
  | sendTimedOut (s : SocketId)
  | joined (s : SocketId) (group : Ipv4)
  | queryFailed (host : String) (cause : Error)
  | querySent (id : UInt16) (host : String) (server : Ipv4)
  | resolved (host : String) (ip : Ipv4)
  | resolveFailed (host : String) (cause : ResolveError)
  | queryExpired (id : UInt16) (host : String)
  | foreignDatagram (ip : Ipv4) (sourcePort : UInt16)
  | foreignId
  | malformedReply (reason : String)
deriving DecidableEq, Repr

namespace Notice

/-- How serious a remark is. -/
def level : Notice → Level
  | resetStuck _ | layoutMismatch | addressConflict | lineBusy _ | openFailed _ _ _
  | queryFailed _ _ | resolveFailed _ _ => .warn
  | ready | configured _ _ _ | resolved _ _ => .info
  | unreachable _ _ | opened _ _ _ | sendTimedOut _ | joined _ _ | querySent _ _ _
  | queryExpired _ _ | malformedReply _ => .debug
  | commandDone _ _ | foreignDatagram _ _ | foreignId => .trace

/-- The part of the driver a remark comes from. -/
def topic : Notice → String
  | resetStuck _ | layoutMismatch | ready | configured _ _ _ => "w5100::chip"
  | commandDone _ _ | unreachable _ _ | addressConflict | lineBusy _ => "w5100::command"
  | openFailed _ _ _ | opened _ _ _ | sendTimedOut _ => "w5100::socket"
  | joined _ _ => "w5100::udp"
  | queryFailed _ _ | querySent _ _ _ | resolved _ _ | resolveFailed _ _ | queryExpired _ _
  | foreignDatagram _ _ | foreignId | malformedReply _ => "w5100::dns"

/-- The text of a remark. -/
def text : Notice → String
  | resetStuck polls => s!"W5100 reset bit stuck after {polls} polls"
  | layoutMismatch => "W5100 not responding (TMSR readback mismatch)"
  | ready => s!"W5100 ready, 4 sockets x {ringSize} byte rings"
  | configured ip gateway subnet => s!"W5100 configured: ip={ip} gw={gateway} mask={subnet}"
  | commandDone s command => s!"socket {s.val} command {command.name}"
  | unreachable ip destinationPort => s!"destination unreachable: {ip}:{destinationPort.toNat}"
  | addressConflict => "IP address conflict detected"
  | lineBusy passes => s!"interrupt line still busy after {passes} passes"
  | openFailed s mode status => s!"socket {s.val} open as {mode.name} left status {status.name}"
  | opened s mode localPort => s!"socket {s.val} open {mode.name} port {localPort.toNat}"
  | sendTimedOut s => s!"socket {s.val} send timed out"
  | joined s group => s!"socket {s.val} joined {group}"
  | queryFailed host cause => s!"DNS: failed to send query for {host}: {cause.message}"
  | querySent id host server => s!"DNS: query 0x{hexWord id} for {host} sent to {server}"
  | resolved host ip => s!"DNS: {host} -> {ip}"
  | resolveFailed host cause => s!"DNS: {host} failed: {cause.message}"
  | queryExpired id host => s!"DNS: query 0x{hexWord id} for {host} expired"
  | foreignDatagram ip sourcePort => s!"DNS: ignoring datagram from {ip}:{sourcePort.toNat}"
  | foreignId => "DNS: ignoring reply with wrong id"
  | malformedReply reason => s!"DNS: ignoring malformed reply: {reason}"

/-- The log line of a remark. -/
def line (notice : Notice) : LogLine := ⟨notice.level, notice.topic, notice.text⟩

end Notice

/-! ## The journal -/

/-- The remarks kept since the journal was last read, under the program's logging. -/
structure Journal where
  logging : Logging
  notices : List Notice
deriving DecidableEq, Repr

namespace Journal

/-- An empty journal. -/
def empty (logging : Logging) : Journal := ⟨logging, []⟩

/-- Adds a remark unless its level is held back. -/
def record (journal : Journal) (notice : Notice) : Journal :=
  if journal.logging.ceiling.allows notice.level then
    { journal with notices := notice :: journal.notices }
  else journal

/-- The lines put out for the remarks kept, the oldest first. -/
def lines (journal : Journal) : List String :=
  journal.notices.reverse.filterMap fun notice => journal.logging.emit notice.line

/-- The lines put out for the remarks kept, and the journal without them. -/
def takeLines (journal : Journal) : List String × Journal :=
  (journal.lines, { journal with notices := [] })

end Journal

end SpiEthernet
