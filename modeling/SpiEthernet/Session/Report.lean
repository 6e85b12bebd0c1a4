import SpiEthernet.Chip.Trace
import SpiEthernet.Session.Step

/-!
# Reports

What a step answered, together with what could be seen on the board since the report before:
completed frames, the trace, transmitted packets, log lines and calls of the interrupt handler.
-/

namespace SpiEthernet.Session

/-- What could be seen on a board for some time. -/
structure Traffic where
  frames : Nat
  trace : List String
  sent : List SentPacket
  log : List String
  hooks : Nat
deriving DecidableEq, Repr

/-- No traffic at all. -/
def Traffic.none : Traffic := ⟨0, [], [], [], 0⟩

/-- An answer with the traffic up to it. -/
structure Report (α : Type) where
  answer : α
  traffic : Traffic
deriving DecidableEq, Repr

/-- The answer of a step that needs a controller. -/
inductive ControllerAnswer where
  | plain (outcome : Outcome)
  /-- The reports of the steps on a channel. -/
  | channel (reports : List (Report Outcome))
deriving DecidableEq, Repr

/-- The answer of a step of a session. -/
inductive Answer where
  | controller (answer : ControllerAnswer)
  /-- The reports of the steps while the shared controller was held. -/
  | held (reports : List (Report ControllerAnswer))
deriving DecidableEq, Repr

/-- The answer that is a single outcome. -/
def Answer.plain (outcome : Outcome) : Answer := .controller (.plain outcome)

/-- What a session has beside its board and its controller. -/
structure Tools where
  resolver : Dns.Resolver
  clock : Dns.Clock
  /-- The frames completed by the last report. -/
  framesSeen : Nat
  /-- The calls of the interrupt handler by the last report. -/
  hooksSeen : Nat
  /-- Whether reports show the trace. -/
  showTrace : Bool

/-- Computations of a session on its board. -/
abbrev BoardM := StateT Tools (LinkM Board)

/-- Takes the packets a chip has transmitted. -/
def takeSent (chip : Chip) : List SentPacket × Chip := (chip.sent, { chip with sent := [] })

/-- Takes the trace of a serial link. -/
def takeTrace (endpoint : Endpoint) : Array Access × Endpoint :=
  (endpoint.trace, { endpoint with trace := #[] })

/-- Takes the traffic since the last report. -/
def takeTraffic : BoardM Traffic := fun tools => do
  let trace ← Board.onBench (Bench.onEndpoint (modifyGet takeTrace))
  let sent ← Board.onChip (modifyGet takeSent)
  let log ← Board.onBench (Bench.onJournal Journal.takeLines)
  let board ← get
  let frames := board.chip.transactions
  let traffic : Traffic :=
    { frames := frames - tools.framesSeen
      trace := if tools.showTrace then AccessRun.summary (AccessRun.ofTrace trace) else []
      sent, log
      hooks := board.handled - tools.hooksSeen }
  return (traffic, { tools with framesSeen := frames, hooksSeen := board.handled })

/-- The report of an answer. -/
def report {α : Type} (answer : α) : BoardM (Report α) := do
  return ⟨answer, ← takeTraffic⟩

end SpiEthernet.Session
