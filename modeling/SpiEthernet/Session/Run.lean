import SpiEthernet.Session.Report

/-!
# Running a session

Every step is carried out and reported; the steps inside a step are reported within its answer.
A fault ends the session with a last report.
-/

namespace SpiEthernet.Session

/-! ## On the board -/

/-- Looks at the chip. -/
def lookAt (f : Chip → Outcome) : LinkM Board Outcome := do
  return f (← get).chip

/-- Changes the chip. -/
def changeChip (f : Chip → Chip) : LinkM Board Outcome := do
  Board.onChip (modify f)
  return .done

/-- Changes the chip in a way that can end in a fault. -/
def tryChange (f : Chip → Except Fault Chip) : LinkM Board Outcome := do
  Board.onChip fun chip => do return ((), ← f chip)
  return .done

/-- Looks at the chip in a way that can end in a fault. -/
def tryLook {α : Type} (f : Chip → Except Fault α) (g : α → Outcome) :
    LinkM Board Outcome := do
  let chip := (← get).chip
  return g (← (f chip : Except Fault α))

/-- The bytes from an address on, all of which have to lie in the chip's memory. -/
def dump (address : UInt16) (count : Nat) (chip : Chip) : Except Fault (List UInt8) :=
  (List.range count).mapM fun i => chip.peek (address + UInt16.ofNat i)

/-- Carries out a step on the board. -/
def performBoard : BoardStep → LinkM Board Outcome
  | .link operation => operation.perform
  | .peek address => tryLook (·.peek address) ofByte
  | .peekWord address => tryLook (·.peekWord address) ofWord
  | .poke address value => tryChange (·.pokeByte address value)
  | .pokeWord address value => tryChange (·.pokeWord address value)
  | .dump address count => tryLook (dump address count) .bytes
  | .txRing s pointer count => lookAt fun chip => .bytes (chip.txRing s pointer count)
  | .setPointers s tx rx => changeChip (·.setPointers s tx rx)
  | .pendingTxWrite s => lookAt fun chip => ofWord (chip.wordOf .txWrite s)
  | .chipStatus s => lookAt fun chip => .status (SocketStatus.ofByte (chip.byteOf .status s))
  | .setStatus s status => changeChip (·.setStatus s status)
  | .socketInterrupt s => lookAt fun chip => ofByte (chip.byteOf .interrupt s)
  | .raise event => tryChange (·.apply event)
  | .schedule delay event => changeChip (·.schedule delay event)
  | .pendingEvents => lookAt fun chip => .number chip.queue.length
  | .transactions => lookAt fun chip => .number chip.transactions
  | .setCommandLatency reads => changeChip fun chip => { chip with commandLatency := reads }
  | .setSendTimeout s on => changeChip (·.mapLatch s fun latch => { latch with timesOut := on })
  | .setReplies rules => changeChip fun chip => { chip with replies := rules }
  | .hook => do
    modify fun board => { board with hooked := true }
    return .done
  | .onInterrupt => do
    Board.onInterrupt
    return .done
  | .drainPending => do return .flag (← get).deferred
  | .invalid cause => return .failed cause

/-- Carries out a step on the resolver or the clock. -/
def performTool (tools : Tools) : ToolStep → Outcome × Tools
  | .setClock clock => (.done, { tools with clock })
  | .setResolver resolver => (.done, { tools with resolver })
  | .server => (.address tools.resolver.server, tools)
  | .setServer server => (.done, { tools with resolver := tools.resolver.withServer server })

/-- Carries out a step that needs no controller. -/
def performFree : FreeStep → BoardM Outcome
  | .board step => StateT.lift (performBoard step)
  | .tool step => fun tools => return performTool tools step

/-! ## With a controller -/

/-- Computations of a session on a device. -/
abbrev HeldM := StateT Tools (DeviceM Board)

/-- Computations of a session on a channel. -/
abbrev OpenM := StateT Tools (ChannelM Board)

variable {α : Type}

/-- Runs a computation on the board of a device. -/
def onBoard (action : BoardM α) : HeldM α := fun tools => onLink (action tools)

/-- Runs a computation on the board below a channel. -/
def onBoardBelow (action : BoardM α) : OpenM α := fun tools => StateT.lift (onLink (action tools))

/-- Carries out a step on a channel. -/
def performChannel : ChannelStep → OpenM Outcome
  | .free step => onBoardBelow (performFree step)
  | .channel operation => StateT.lift operation.perform

/-- Carries out a step on a channel and reports it. -/
def reportChannel (step : ChannelStep) : OpenM (Report Outcome) := do
  let outcome ← performChannel step
  onBoardBelow (report outcome)

/-- Reports that a channel is open, and carries out steps on it. -/
def converse (channel : Channel) (steps : List ChannelStep) : OpenM (List (Report Outcome)) := do
  let opened ← onBoardBelow (report (.channel channel.socket channel.localPort))
  return opened :: (← steps.mapM reportChannel)

/-- Opens a channel. -/
def openChannel (group : Option Ipv4) (wanted : UInt16) : Attempt Board Channel :=
  match group with
  | some group => Channel.beginMulticast group wanted
  | none => Channel.begin wanted

/-- Opens a channel, carries out steps on it and closes it. -/
def performOverChannel (group : Option Ipv4) (wanted : UInt16) (steps : List ChannelStep) :
    HeldM ControllerAnswer := fun tools => do
  match ← (openChannel group wanted).run with
  | .error cause => return (.plain (.failed cause), tools)
  | .ok channel =>
    let (reports, tools) ← channel.useChannel ((converse channel steps).run tools)
    return (.channel reports, tools)

/-- Resolves a name with the session's resolver and clock. -/
def performResolve (host : String) (timeout : Int) : HeldM Outcome := fun tools => do
  let ((result, resolver), clock) ← (tools.resolver.resolve host timeout).run tools.clock
  let outcome := match result with
    | .ok ip => .address ip
    | .error cause => .unresolved cause
  return (outcome, { tools with resolver, clock })

/-- Carries out a step that needs a controller. -/
def performController : ControllerStep → HeldM ControllerAnswer
  | .device operation => StateT.lift do return .plain (← operation.perform)
  | .resolve host timeout => do return .plain (← performResolve host timeout)
  | .channel group wanted steps => performOverChannel group wanted steps

/-- Carries out a step where a controller is held, and reports it. -/
def reportHeld (step : HeldStep) : HeldM (Report ControllerAnswer) := do
  let answer ← match step with
    | .free step => do pure (.plain (← onBoard (performFree step)))
    | .controller step => performController step
  onBoard (report answer)

/-! ## Sessions -/

/-- A session between two steps. -/
structure State where
  tools : Tools
  board : Board
  /-- The controller at hand. -/
  controller : Option Controller

/-- Computations of a session. -/
abbrev SessionM := StateT State (Except Fault)

/-- A session before its first step. -/
def State.start (absent : Option UInt8) (ceiling : Threshold) (showTrace : Bool) : State where
  tools :=
    { resolver := Dns.Resolver.new ⟨192, 168, 1, 1⟩ 0
      clock := ⟨0, 1⟩
      framesSeen := 0
      hooksSeen := 0
      showTrace }
  board := Board.new absent ⟨some (.upTo .trace), ceiling⟩
  controller := none

/-- Runs a computation on the board of a session. -/
def withBoard (action : BoardM α) : SessionM α := fun ⟨tools, board, controller⟩ => do
  let ((result, tools), board) ← action tools board
  return (result, ⟨tools, board, controller⟩)

/-- Runs a computation with a given controller, which is at hand afterwards. -/
def withController (controller : Controller) (action : HeldM α) : SessionM α :=
  fun ⟨tools, board, _⟩ => do
    let ((result, tools), device) ← action tools ⟨board, controller⟩
    return (result, ⟨tools, device.board, some device.controller⟩)

/-- Takes a controller at hand, or none. -/
def setController (controller : Option Controller) : SessionM Unit :=
  modify fun state => { state with controller }

/-- Runs a computation with the controller at hand, if there is one. -/
def ifAtHand (action : Controller → SessionM Answer) : SessionM Answer := do
  match (← get).controller with
  | some controller => action controller
  | none => return .plain .noController

/-- Resets the chip with a new controller, which is at hand afterwards unless the reset
failed. -/
def performCreate : SessionM Answer := do
  match ← withController Controller.new (StateT.lift (init : Attempt Board Unit).run) with
  | .ok () => return .plain .done
  | .error cause =>
    setController none
    return .plain (.failed cause)

/-- Carries out steps while the shared controller is held. -/
def performWith (steps : List HeldStep) : BoardM Answer := fun tools => do
  match ← Board.withShared ((steps.mapM reportHeld).run tools) with
  | some (reports, tools) => return (.held reports, tools)
  | none => return (.plain .absent, tools)

/-- Forgets the trace. -/
def clearTrace : LinkM Board Unit := do
  let _ ← Board.onBench (Bench.onEndpoint (modifyGet takeTrace))

/-- Repeats a computation and keeps the last answer. -/
def repeatAnswer (action : SessionM Answer) (answer : Answer) : Nat → SessionM Answer
  | 0 => return answer
  | times + 1 => do
    withBoard (StateT.lift clearTrace)
    let answer ← action
    repeatAnswer action answer times

/-- Carries out a step of a session. -/
def perform : Step → SessionM Answer
  | .free step => do return .plain (← withBoard (performFree step))
  | .controller step =>
    ifAtHand fun controller => do
      return .controller (← withController controller (performController step))
  | .create => performCreate
  | .new => do
    setController (some Controller.new)
    return .plain .done
  | .rewrap =>
    ifAtHand fun _ => do
      setController (some Controller.new)
      return .plain (.number (← get).board.chip.transactions)
  | .install =>
    ifAtHand fun controller => do
      withBoard (StateT.lift (Board.install controller))
      setController none
      return .plain .done
  | .takeBack => do
    let controller ← withBoard (StateT.lift Board.takeShared)
    setController controller
    return .plain (.flag controller.isSome)
  | .withShared steps => withBoard (performWith steps)
  | .again times step => repeatAnswer (perform step) (.plain .done) times

/-- Carries out a step of a session and reports it. -/
def reportStep (step : Step) : SessionM (Report Answer) := do
  let answer ← perform step
  withBoard (report answer)

/-- The reports of a session's steps; a fault is the last answer. -/
def reports (state : State) : List Step → List (Report Answer)
  | [] => []
  | step :: steps =>
    match reportStep step state with
    | .ok (report, state) => report :: reports state steps
    | .error fault => [⟨.plain (.fault fault), Traffic.none⟩]

end SpiEthernet.Session
