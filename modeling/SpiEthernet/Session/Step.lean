import SpiEthernet.Board
import SpiEthernet.Dns.Resolver
import SpiEthernet.Operation.Channel
import SpiEthernet.Operation.Link

/-!
# The steps of a session

A session is a board, a resolver, a clock and at most one controller at hand, on which steps are
carried out one after the other. Some steps need no controller; others do, which is either the
one at hand or, inside a step that holds it, the shared one; and some need a channel that a step
has opened.
-/

namespace SpiEthernet.Session

/-- A step that needs only the board. -/
inductive BoardStep where
  | link (operation : LinkOperation)
  | peek (address : UInt16)
  | peekWord (address : UInt16)
  | poke (address : UInt16) (value : UInt8)
  | pokeWord (address value : UInt16)
  | dump (address : UInt16) (count : Nat)
  | txRing (s : SocketId) (pointer : UInt16) (count : Nat)
  | setPointers (s : SocketId) (tx rx : UInt16)
  | pendingTxWrite (s : SocketId)
  | chipStatus (s : SocketId)
  | setStatus (s : SocketId) (status : SocketStatus)
  | socketInterrupt (s : SocketId)
  | raise (event : Event)
  | schedule (delay : Nat) (event : Event)
  | pendingEvents
  | transactions
  | setCommandLatency (reads : UInt8)
  | setSendTimeout (s : SocketId) (on : Bool)
  | setReplies (rules : List (Option ReplyRule))
  | hook
  | onInterrupt
  | drainPending
  /-- A step that names something that does not exist. -/
  | invalid (cause : Error)

/-- A step on the session's resolver or clock. -/
inductive ToolStep where
  | setClock (clock : Dns.Clock)
  | setResolver (resolver : Dns.Resolver)
  | server
  | setServer (server : Ipv4)

/-- A step that needs no controller. -/
inductive FreeStep where
  | board (step : BoardStep)
  | tool (step : ToolStep)

/-- A step on an open channel. -/
inductive ChannelStep where
  | free (step : FreeStep)
  | channel (operation : ChannelOperation)

/-- A step that needs a controller. -/
inductive ControllerStep where
  | device (operation : DeviceOperation)
  | resolve (host : String) (timeout : Int)
  /-- Opens a channel, for a multicast group if one is given, carries out steps on it and closes
  it. -/
  | channel (group : Option Ipv4) (wanted : UInt16) (steps : List ChannelStep)

/-- A step where a controller is held. -/
inductive HeldStep where
  | free (step : FreeStep)
  | controller (step : ControllerStep)

/-- A step of a session. -/
inductive Step where
  | free (step : FreeStep)
  | controller (step : ControllerStep)
  /-- Resets the chip with a new controller and takes the controller at hand. -/
  | create
  /-- Takes a new controller at hand. -/
  | new
  /-- Replaces the controller at hand by a new one. -/
  | rewrap
  /-- Shares the controller at hand. -/
  | install
  /-- Takes the shared controller at hand. -/
  | takeBack
  /-- Carries out steps while the shared controller is held. -/
  | withShared (steps : List HeldStep)
  /-- Carries out a step a number of times. -/
  | again (times : Nat) (step : Step)

end SpiEthernet.Session
