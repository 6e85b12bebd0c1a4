/-!
# What a socket is and does

The protocol a socket runs, the commands the chip takes for it, and the status the chip reports
back, each with its code in the socket's registers. A status byte outside the documented ones
is kept as it is.

* `SocketStatus.raw_ofByte` : no status byte is lost by reading it.
-/

namespace SpiEthernet

/-! ## Modes -/

/-- The protocol in the low four bits of a socket's mode register. -/
inductive SocketMode where
  | closed
  | tcp
  | udp
  | ipRaw
  | macRaw
deriving DecidableEq, Repr

namespace SocketMode

/-- The code of a mode. -/
def code : SocketMode → UInt8
  | closed => 0
  | tcp => 1
  | udp => 2
  | ipRaw => 3
  | macRaw => 4

/-- The name of a mode. -/
def name : SocketMode → String
  | closed => "Closed"
  | tcp => "Tcp"
  | udp => "Udp"
  | ipRaw => "IpRaw"
  | macRaw => "MacRaw"

/-- The mode that a mode register selects, if its code is a known one. -/
def ofRegister? (value : UInt8) : Option SocketMode :=
  match value.toNat % 16 with
  | 0 => some closed
  | 1 => some tcp
  | 2 => some udp
  | 3 => some ipRaw
  | 4 => some macRaw
  | _ => none

theorem ofRegister?_code (mode : SocketMode) : ofRegister? mode.code = some mode := by
  cases mode <;> rfl

end SocketMode

/-! ## Commands -/

/-- What the chip can be told to do with a socket. -/
inductive SocketCommand where
  | open
  | listen
  | connect
  | disconnect
  | close
  | send
  | sendMac
  | sendKeep
  | receive
deriving DecidableEq, Repr

namespace SocketCommand

/-- All commands. -/
def all : List SocketCommand :=
  [.open, .listen, .connect, .disconnect, .close, .send, .sendMac, .sendKeep, .receive]

/-- The code of a command. -/
def code : SocketCommand → UInt8
  | .open => 0x01
  | listen => 0x02
  | connect => 0x04
  | disconnect => 0x08
  | close => 0x10
  | send => 0x20
  | sendMac => 0x21
  | sendKeep => 0x22
  | receive => 0x40

/-- The name of a command. -/
def name : SocketCommand → String
  | .open => "Open"
  | listen => "Listen"
  | connect => "Connect"
  | disconnect => "Discon"
  | close => "Close"
  | send => "Send"
  | sendMac => "SendMac"
  | sendKeep => "SendKeep"
  | receive => "Recv"

/-- The command with the given code. -/
def ofCode? (code : UInt8) : Option SocketCommand := all.find? (·.code == code)

theorem ofCode?_code (command : SocketCommand) : ofCode? command.code = some command := by
  cases command <;> rfl

end SocketCommand

/-! ## Statuses -/

/-- What the chip reports about a socket. -/
inductive SocketStatus where
  | closed
  | init
  | listen
  | synSent
  | synReceived
  | established
  | finWait
  | closing
  | timeWait
  | closeWait
  | lastAck
  | udp
  | ipRaw
  | macRaw
  /-- A transient or undocumented status byte. -/
  | unknown (raw : UInt8)
deriving DecidableEq, Repr

namespace SocketStatus

/-- The status byte. -/
def raw : SocketStatus → UInt8
  | closed => 0x00
  | init => 0x13
  | listen => 0x14
  | synSent => 0x15
  | synReceived => 0x16
  | established => 0x17
  | finWait => 0x18
  | closing => 0x1A
  | timeWait => 0x1B
  | closeWait => 0x1C
  | lastAck => 0x1D
  | udp => 0x22
  | ipRaw => 0x32
  | macRaw => 0x42
  | unknown value => value

/-- The documented statuses. -/
def documented : List SocketStatus :=
  [closed, init, listen, synSent, synReceived, established, finWait, closing, timeWait, closeWait,
    lastAck, udp, ipRaw, macRaw]

/-- The status a status byte stands for. -/
def ofByte (value : UInt8) : SocketStatus :=
  (documented.find? (·.raw == value)).getD (unknown value)

/-- The name of a status; an undocumented one shows its byte in decimal. -/
def name : SocketStatus → String
  | closed => "Closed"
  | init => "Init"
  | listen => "Listen"
  | synSent => "SynSent"
  | synReceived => "SynRecv"
  | established => "Established"
  | finWait => "FinWait"
  | closing => "Closing"
  | timeWait => "TimeWait"
  | closeWait => "CloseWait"
  | lastAck => "LastAck"
  | udp => "Udp"
  | ipRaw => "IpRaw"
  | macRaw => "MacRaw"
  | unknown value => s!"Unknown({value.toNat})"

/-- Whether a TCP connection can still carry outbound data. -/
def canSend : SocketStatus → Bool
  | established | closeWait => true
  | _ => false

/-- Whether the slot is free for a new owner. -/
def isReusable : SocketStatus → Bool
  | closed | finWait => true
  | _ => false

@[simp] theorem raw_ofByte (value : UInt8) : (ofByte value).raw = value := by
  unfold ofByte
  cases h : documented.find? (·.raw == value) with
  | none => rfl
  | some status => simpa using List.find?_some h

theorem ofByte_raw_of_mem {status : SocketStatus} (h : status ∈ documented) :
    ofByte status.raw = status := by
  simp only [documented, List.mem_cons, List.not_mem_nil, or_false] at h
  rcases h with h | h | h | h | h | h | h | h | h | h | h | h | h | h <;> subst h <;> rfl

end SocketStatus

/-- The status a driver expects of a socket that it has opened in the given mode. -/
def SocketMode.openStatus : SocketMode → SocketStatus
  | closed => .closed
  | tcp => .init
  | udp => .udp
  | ipRaw => .ipRaw
  | macRaw => .macRaw

end SpiEthernet
