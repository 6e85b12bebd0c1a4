import SpiEthernet.Channel
import SpiEthernet.Dns.Clock
import SpiEthernet.Dns.Query
import SpiEthernet.Dns.Reply

/-!
# The resolver

A resolver asks one name server for the address of a host and borrows a channel for it. A
dotted quad is its own answer. The query is sent once; then datagrams are looked at one by one
until one of them settles the query or its deadline has passed. Datagrams from elsewhere, with
another id or without sense are dropped. The channel is closed on every way out.
-/

namespace SpiEthernet.Dns

/-- A resolver for one name server. -/
structure Resolver where
  server : Ipv4
  /-- The id of the last query. -/
  lastId : UInt16
deriving DecidableEq, Repr

namespace Resolver

/-- A resolver whose first query has the id after `seed`. -/
def new (server : Ipv4) (seed : UInt16) : Resolver := ⟨server, seed⟩

/-- A resolver seeded with the lower half of a random number. -/
def ofRandom (server : Ipv4) (number : UInt32) : Resolver := ⟨server, number.toUInt16⟩

/-- The same resolver for another name server. -/
def withServer (resolver : Resolver) (server : Ipv4) : Resolver := { resolver with server }

/-- The resolver after choosing an id for its next query. -/
def advance (resolver : Resolver) : Resolver := { resolver with lastId := resolver.lastId + 1 }

end Resolver

/-- The result of a resolution. -/
abbrev Resolution := Except ResolveError Ipv4

/-- Computations on a channel that read the time. -/
abbrev TimedM (τ σ : Type) := StateT τ (ChannelM σ)

variable {σ τ : Type} [Timepiece τ]

/-- Runs a computation that does not read the time. -/
def untimed {α : Type} (action : ChannelM σ α) : TimedM τ σ α := StateT.lift action

/-- Takes a reading of the time. -/
def readTime : TimedM τ σ Int := modifyGetThe τ Timepiece.read

variable [Host σ]

/-- Adds a remark to the journal. -/
def remark (notice : Notice) : ChannelM σ Unit := StateT.lift (note notice)

/-! ## Asking -/

/-- Sends a query to a name server in one datagram. -/
def sendQuery (server : Ipv4) (packet : List UInt8) : ChannelAttempt σ Unit := do
  Channel.beginPacket server dnsPort
  let count ← Channel.writePacket packet
  if count < packet.length then Channel.failWith (.insufficientSpace packet.length count)
  Channel.endPacket

/-! ## Waiting for the reply -/

/-- Looks at the reply in the selected datagram. -/
def judgePacket (id : UInt16) : ChannelM σ (Option Resolution) := do
  match ← (Channel.readPacket dnsMaxMessage).run with
  | .error _ => return none
  | .ok bytes =>
    let verdict := judge bytes id
    match verdict with
    | .wrongId => remark .foreignId
    | .malformed reason => remark (.malformedReply reason.message)
    | _ => pure ()
    return verdict.conclusion

/-- Looks at the next datagram, if there is one. -/
def pollReply (server : Ipv4) (id : UInt16) : ChannelM σ (Option Resolution) := do
  match ← Channel.parsePacket.run with
  | .error _ | .ok 0 => return none
  | .ok _ =>
    let (ip, sourcePort) := (← get).remote
    if ip ≠ server || sourcePort ≠ dnsPort then
      remark (.foreignDatagram ip sourcePort)
      return none
    judgePacket id

/-- Looks at the time and, if there is some left, at the next datagram. -/
def pollUntilDeadline (server : Ipv4) (query : PendingQuery) :
    TimedM τ σ (Option Resolution) := do
  if query.expired (← readTime) then
    untimed (remark (.queryExpired query.id query.host))
    return some (.error .timeout)
  untimed (pollReply server query.id)

/-- Waits until a datagram settles the query or its deadline has passed. -/
def awaitReply (server : Ipv4) (query : PendingQuery) : TimedM τ σ Resolution := do
  let polls ← untimed (StateT.lift patience)
  let readings := Timepiece.readingsUntil (← getThe τ) query.deadline
  pollWithin (pollUntilDeadline server query) (polls + readings)

/-! ## Resolving -/

/-- The remark on a resolution. -/
def outcomeNotice (host : String) : Resolution → Notice
  | .ok ip => .resolved host ip
  | .error cause => .resolveFailed host cause

/-- Sends a query over a channel and waits for its result. -/
def converse (server : Ipv4) (query : PendingQuery) (packet : List UInt8) :
    TimedM τ σ Resolution := do
  match ← untimed (sendQuery server packet).run with
  | .error cause =>
    untimed (remark (.queryFailed query.host cause))
    return .error .sendFailed
  | .ok () =>
    untimed (remark (.querySent query.id query.host server))
    let result ← awaitReply server query
    untimed (remark (outcomeNotice query.host result))
    return result

/-- Borrows a channel, asks and waits. -/
def ask (server : Ipv4) (query : PendingQuery) (packet : List UInt8) :
    StateT τ (DeviceM σ) Resolution := fun clock => do
  match ← (Channel.begin 0).run with
  | .error _ => return (.error .noSocket, clock)
  | .ok channel => channel.useChannel ((converse server query packet).run clock)

/-- The address of a host, with the resolver afterwards. -/
def Resolver.resolve (resolver : Resolver) (host : String) (timeout : Int) :
    StateT τ (DeviceM σ) (Resolution × Resolver) := do
  let name := host.toUTF8.toList
  if let some ip := Ipv4.parse? name then return (.ok ip, resolver)
  if resolver.server = Ipv4.unspecified then return (.error .invalidServer, resolver)
  let resolver := resolver.advance
  let now ← modifyGetThe τ Timepiece.read
  match query resolver.lastId name with
  | .error cause => return (.error cause, resolver)
  | .ok packet =>
    let pending := PendingQuery.start resolver.lastId host now timeout
    return (← ask resolver.server pending packet, resolver)

end SpiEthernet.Dns
