import SpiEthernet.Proofs.Operation.Counter
import SpiEthernet.Proofs.Operation.Masked
import SpiEthernet.Proofs.Operation.Ports
import SpiEthernet.Proofs.Reset.Oblivion

/-!
# Ports handed out in a cycle

A socket that is opened without a port gets the next one of a counter, which runs from 49152 to
65535 and then starts again. Since the trace shows the port of every opening, what a run of calls
has handed out can be read off it, call by call, and an opening that fails counts as well as one
that succeeds.

* `openSocket_picks` : an opening takes the next port, or is told one.
* `DriverCall.leads_picks`, `leads_mapM_picks` : calls hand out what they take from the counter.
* `HandsOut.cycle` : the sequence of the ports that are handed out.
-/

namespace SpiEthernet

/-! ## Opening a socket without a port -/

/-- The port that is handed out after another one. -/
def portAfter (port : UInt16) : UInt16 := if port = 65535 then firstEphemeralPort else port + 1

/-- Since an earlier state of the link, sockets were told to open on certain ports, and the driver
hands out a certain port next. -/
structure Device.Picked (start : Endpoint) (port : UInt16) (ports : List UInt16)
    (device : Device Board) : Prop where
  atPort : device.AtPort port
  opened : device.Views start (PortView.Opened ports)

section Picked

variable {start : Endpoint} {port : UInt16} {ports : List UInt16} (s : SocketId)

theorem Keeps.picked {α : Type} {action : DeviceM Board α}
    (hport : Keeps (Device.AtPort port) action)
    (hopened : Keeps (Device.Views start (PortView.Opened ports)) action) :
    Keeps (Device.Picked start port ports) action :=
  fun _ _ _ h hrun => ⟨hport _ _ _ h.atPort hrun, hopened _ _ _ h.opened hrun⟩

theorem close_picked : Keeps (Device.Picked start port ports) (close s) :=
  Keeps.picked (AtPort.close s) (routine_opened.close s)

/-- Programming a closed socket without a port takes the next port and opens the socket on it. -/
theorem openClosed_picks (mode : SocketMode) (flags : UInt8) :
    Leads (Device.Picked start port ports) (openClosed s mode flags 0) fun _ =>
      Device.Picked start (portAfter port) (ports ++ [port]) := by
  have htake : Leads (Device.Picked start port ports) (choosePort 0) fun chosen d =>
      chosen = port ∧ d.Picked start (portAfter port) ports := by
    rintro ⟨board, controller⟩ _ _ ⟨hport, hopened⟩ ⟨⟩
    exact ⟨hport, congrArg portAfter hport, hopened⟩
  unfold openClosed
  refine Leads.bind (Keeps.picked (AtPort.onLink _) (routine_opened.writeRegister s
    (r := .mode) rfl _)) fun _ => ?_
  refine Leads.bind htake fun chosen => Leads.of_and fun hchosen => ?_
  rw [hchosen]
  refine Leads.bind (R := fun _ d => d.AtPort (portAfter port) ∧
    d.Views start (PortView.Programmed ports s port)) ?_ fun _ => ?_
  · intro d _ d' hpicked hrun
    exact ⟨AtPort.onLink _ _ _ _ hpicked.atPort hrun,
      writePort_views s port _ _ _ hpicked.opened hrun⟩
  refine Leads.bind (R := fun _ => Device.Picked start (portAfter port) (ports ++ [port])) ?_
    fun _ => ?_
  · intro d _ d' hwritten hrun
    exact ⟨AtPort.issue s .open _ _ _ hwritten.1 hrun, issueOpen_views s port _ _ _ hwritten.2 hrun⟩
  · exact Leads.bind (Keeps.picked (AtPort.status s) (routine_opened.quiet.status s)) fun _ =>
      Leads.pure fun _ => id

/-- Opening a socket without a port takes the next one, whether the opening succeeds or fails. -/
theorem openSocket_picks {mode : SocketMode} (hmode : mode ≠ .closed) (flags : UInt8) :
    Leads (Device.Picked start port ports) (openSocket s mode flags 0).run fun _ =>
      Device.Picked start (portAfter port) (ports ++ [port]) :=
  leads_openSocket hmode (close_picked s) (openClosed_picks s mode flags)
    (fun _ => Keeps.picked (AtPort.onController fun _ => rfl)
      (Keeps.onController (I := fun board : Board => start.Shows _ board.bench.endpoint) _))
    (fun _ => Keeps.picked (AtPort.onLink _) (routine_opened.note _)) (close_picked s)

/-! ## Opening a channel without a port -/

theorem firstReusable_picked (sockets : List SocketId) :
    Keeps (Device.Picked start port ports) (firstReusable sockets : Attempt Board SocketId).run :=
  Keeps.picked (AtPort.firstReusable sockets) (routine_opened.firstReusable sockets)

/-- Since an earlier state of the link, either nothing was handed out, or one socket was told to
open on the port that was handed out. -/
def Device.PickedAtMostOne (start : Endpoint) (port : UInt16) (device : Device Board) : Prop :=
  device.Picked start port [] ∨ device.Picked start (portAfter port) [port]

/-- A channel without a port takes one once there is a socket for it. -/
theorem begin_picks : Leads (Device.Picked start port []) (Channel.begin 0).run fun r d =>
    match r with
    | .error _ => d.PickedAtMostOne start port
    | .ok _ => d.Picked start (portAfter port) [port] := by
  refine Leads.attempt (firstReusable_picked SocketId.all) (fun s => ?_) fun _ _ => .inl
  refine Leads.attempt (openSocket_picks s (by decide) 0) (fun chosen => ?_) fun _ _ => .inr
  exact Leads.pure fun _ => id

/-- A multicast channel without a port is refused before a socket is opened for it. -/
theorem beginMulticast_picked (group : Ipv4) :
    Keeps (Device.Picked start port ports) (Channel.beginMulticast group 0).run := by
  have hrefused (s : SocketId) :
      (startDatagram s group 0 : Attempt Board Unit) = SpiEthernet.fail .invalidAddress := by
    unfold startDatagram
    rw [if_pos (by simp)]
    rfl
  unfold Channel.beginMulticast
  refine Keeps.guarded (m := Attempt Board) (Keeps.fail _) ?_
  refine Keeps.bind (firstReusable_picked SocketId.all) fun s => ?_
  rw [hrefused]
  exact Keeps.fail_bind _ _

/-- Serving a socket opens none. -/
theorem serves_opened : Serves fun (_ : SocketId) (_ : Nat) (d : Device Board) =>
    d.Views start (PortView.Opened ports) :=
  routine_opened.serves_of_pointers fun s r hw _ => Keeps.onLink <|
    robust_opened.writeWord
      (Frame.opensNone_write fun t heq => by
        cases (SocketRegister.address_inj heq).1
        cases hw)
      (Frame.opensNone_write fun t => SocketRegister.address_succ_ne hw s .command t)

/-- A resolution opens at most one channel, and none after it. -/
theorem resolve_picked {τ : Type} [Dns.Timepiece τ] (resolver : Dns.Resolver) (clock : τ)
    (host : String) (timeout : Int) :
    Leads (Device.Picked start port []) (resolver.resolve host timeout clock) fun _ =>
      Device.PickedAtMostOne start port := by
  refine leads_resolve (J := Device.Picked start (portAfter port) [port]) resolver host timeout
    clock (fun _ => .inl) begin_picks (fun server query packet clock channel => ?_) fun s => ?_
  · exact Keeps.picked (AtPort.serves.converse server query packet clock channel)
      (serves_opened.converse server query packet clock channel)
  · exact fun d _ d' hd hrun => .inr (close_picked s d _ d' hd hrun)

end Picked

/-! ## Calls -/

/-- Whether a call may open a socket without a port: directly, for a channel, or for a
resolution. -/
def DriverCall.isAutomatic : DriverCall → Bool
  | operate (.socket _ (.openSocket _ _ wanted)) => wanted == 0
  | openChannel wanted | openMulticast _ wanted => wanted == 0
  | resolve .. => true
  | _ => false

namespace DriverCall

variable {start : Endpoint} {port : UInt16}

/-- A call that opens no socket without a port leaves the counter alone, unless it is a reset. -/
theorem keeps_atPort {call : DriverCall} (hreset : call ≠ operate .init)
    (h : call.isAutomatic = false) : Keeps (Device.AtPort port) call.perform := by
  unfold perform
  cases call with
  | operate operation =>
    refine Keeps.bind (AtPort.perform (fun hinit => hreset (hinit ▸ rfl)) ?_) fun _ => Keeps.pure _
    rintro s mode flags rfl
    cases h
  | openChannel wanted =>
    have hwanted : wanted ≠ 0 := fun hzero => by simp [isAutomatic, hzero] at h
    exact Keeps.bind (m := DeviceM Board) (AtPort.begin hwanted) fun _ => Keeps.pure _
  | openMulticast group wanted =>
    have hwanted : wanted ≠ 0 := fun hzero => by simp [isAutomatic, hzero] at h
    exact Keeps.bind (m := DeviceM Board) (AtPort.beginMulticast group hwanted) fun _ =>
      Keeps.pure _
  | onChannel channel operation =>
    exact Keeps.bind (m := DeviceM Board) (AtPort.serves.performChannel operation channel)
      fun _ => Keeps.pure _
  | resolve => cases h

/-- An opening that is told no port takes the next one, unless the socket is only to be closed. -/
theorem leads_picked_opening (s : SocketId) {mode : SocketMode} (hmode : mode ≠ .closed)
    (flags : UInt8) :
    Leads (Device.Picked start port [])
      (operate (.socket s (.openSocket mode flags 0))).perform fun _ =>
        Device.Picked start (portAfter port) [port] :=
  Leads.bind (Leads.bind (openSocket_picks s hmode flags) fun _ => Leads.pure fun _ => id)
    fun _ => Leads.pure fun _ => id

/-- A socket that is only to be closed gets no port. -/
theorem keeps_picked_closing (s : SocketId) (flags : UInt8) :
    Keeps (Device.Picked start port [])
      (operate (.socket s (.openSocket .closed flags 0))).perform :=
  Keeps.bind (Keeps.attempting (keeps_openSocket_closed (close_picked s))) fun _ => Keeps.pure _

/-- A call that may open a socket without a port opens at most one, on the next port. -/
theorem leads_picked {call : DriverCall} (h : call.isAutomatic = true) :
    Leads (Device.Picked start port []) call.perform fun _ =>
      Device.PickedAtMostOne start port := by
  cases call with
  | operate operation =>
    cases operation with
    | socket s operation =>
      cases operation with
      | openSocket mode flags wanted =>
        obtain rfl : wanted = 0 := eq_of_beq h
        intro d _ d' hd hrun
        by_cases hmode : mode = .closed
        · rw [hmode] at hrun
          exact .inl (keeps_picked_closing s flags d _ d' hd hrun)
        · exact .inr (leads_picked_opening s hmode flags d _ d' hd hrun)
      | _ => cases h
    | _ => cases h
  | openChannel wanted =>
    obtain rfl : wanted = 0 := eq_of_beq h
    refine Leads.bind begin_picks fun r => Leads.pure fun d hd => ?_
    cases r with
    | error cause => exact hd
    | ok channel => exact .inr hd
  | openMulticast group wanted =>
    obtain rfl : wanted = 0 := eq_of_beq h
    exact Leads.bind (beginMulticast_picked group) fun _ => Leads.pure fun _ => .inl
  | onChannel => cases h
  | resolve resolver clock host timeout =>
    exact Leads.bind (resolve_picked resolver clock host timeout) fun _ => Leads.pure fun _ => id

/-- Carries out a call, and returns the ports on which it opened sockets that had been told none, as
the trace shows them. -/
def picks (call : DriverCall) : DeviceM Board (List UInt16) := fun device =>
  (call.perform device).map fun (_, device') =>
    let traced := device'.board.bench.endpoint.trace.toList.drop
      device.board.bench.endpoint.trace.size
    (if call.isAutomatic then portsOpened traced else [], device')

theorem picks_inv {call : DriverCall} {device device' : Device Board} {ports : List UInt16}
    (h : call.picks device = .ok (ports, device')) :
    call.perform device = .ok ((), device') ∧
      ports = if call.isAutomatic then
        portsOpened (device'.board.bench.endpoint.trace.toList.drop
          device.board.bench.endpoint.trace.size)
      else [] := by
  unfold picks at h
  cases hperform : call.perform device with
  | error fault =>
    rw [hperform] at h
    cases h
  | ok r =>
    rw [hperform] at h
    cases h
    exact ⟨rfl, rfl⟩

theorem picks_ends {call : DriverCall} {device : Device Board} {Q : Device Board → Prop}
    (h : Ends call.perform device fun _ => Q) : Ends call.picks device fun _ => Q := by
  obtain ⟨_, device', hrun, hQ⟩ := h
  exact ⟨_, device', congrArg (Except.map _) hrun, hQ⟩

end DriverCall

/-! ## The sequence of ports -/

theorem toNat_portAfter {port : UInt16} {i : Nat} (h : port.toNat = 49152 + i % 16384) :
    (portAfter port).toNat = 49152 + (i + 1) % 16384 := by
  have hnext : (portAfter port).toNat = if port.toNat = 65535 then 49152 else port.toNat + 1 :=
    Controller.toNat_nextPort_takePort { Controller.new with nextPort := port }
  rw [hnext]
  split <;> omega

/-- Handing out ports, from a first one on, gives certain ports and comes to a next one. -/
inductive HandsOut : UInt16 → List UInt16 → UInt16 → Prop where
  | none (port : UInt16) : HandsOut port [] port
  | one {port next : UInt16} {ports : List UInt16} (h : HandsOut (portAfter port) ports next) :
    HandsOut port (port :: ports) next

namespace HandsOut

variable {port next last : UInt16} {ports others : List UInt16}

theorem append (h : HandsOut port ports next) (h' : HandsOut next others last) :
    HandsOut port (ports ++ others) last := by
  induction h with
  | none => exact h'
  | one _ ih => exact .one (ih h')

/-- From the port at some place of the cycle on, the ports are those at the places that follow. -/
theorem cycle (h : HandsOut port ports next) {i : Nat} (hport : port.toNat = 49152 + i % 16384) :
    (∀ k (hk : k < ports.length), ports[k].toNat = 49152 + (i + k) % 16384) ∧
      next.toNat = 49152 + (i + ports.length) % 16384 := by
  induction h generalizing i with
  | none => exact ⟨nofun, hport⟩
  | one _ ih =>
    obtain ⟨hports, hnext⟩ := ih (toNat_portAfter hport)
    refine ⟨fun k hk => ?_, ?_⟩
    · cases k with
      | zero => exact hport
      | succ k =>
        rw [List.getElem_cons_succ, hports k (Nat.lt_of_succ_lt_succ hk), Nat.add_right_comm,
          Nat.add_assoc]
    · rw [hnext, List.length_cons, Nat.add_right_comm, Nat.add_assoc]

end HandsOut

/-- A stretch of the cycle that is no longer than the cycle has no port twice. -/
theorem nodup_of_cycle {ports : List UInt16}
    (h : ∀ k (hk : k < ports.length), ports[k].toNat = 49152 + k % 16384) (start : Nat) :
    ((ports.drop start).take 16384).Nodup := by
  refine List.pairwise_iff_getElem.2 fun i j hi hj hij heq => ?_
  have hlength := hj
  rw [List.length_take, List.length_drop] at hlength
  rw [List.getElem_take, List.getElem_take, List.getElem_drop, List.getElem_drop] at heq
  have hi := h (start + i) (by omega)
  rw [heq, h (start + j) (by omega)] at hi
  omega

/-! ## Runs of calls -/

/-- How many ports a call may take: none if it is told one, and one at most. An opening takes one in
any case, unless the socket is only to be closed. -/
structure DriverCall.Takes (call : DriverCall) (ports : List UInt16) : Prop where
  none (h : call.isAutomatic = false) : ports = []
  length_le : ports.length ≤ 1
  opening {s : SocketId} {mode : SocketMode} {flags : UInt8}
    (h : call = operate (.socket s (.openSocket mode flags 0))) (hmode : mode ≠ .closed) :
    ports.length = 1

/-- A call hands out what it takes from the counter. -/
theorem DriverCall.leads_picks {call : DriverCall} (hreset : call ≠ operate .init)
    (port : UInt16) : Leads (Device.AtPort port) call.picks fun ports device =>
      call.Takes ports ∧ HandsOut port ports device.controller.nextPort := by
  intro device ports device' hport hrun
  let start := device.board.bench.endpoint
  have hstart : device.Picked start port [] := ⟨hport, Endpoint.shows_self rfl⟩
  obtain ⟨hperform, rfl⟩ := picks_inv hrun
  have hopened {ports : List UInt16} {next : UInt16} (h : device'.Picked start next ports) :
      portsOpened (device'.board.bench.endpoint.trace.toList.drop start.trace.size) = ports :=
    h.opened.drop
  cases hauto : call.isAutomatic with
  | false =>
    have hkept : device'.AtPort port := keeps_atPort hreset hauto device _ _ hport hperform
    refine ⟨⟨fun _ => rfl, Nat.zero_le 1, ?_⟩, ?_⟩
    · rintro s mode flags rfl
      cases hauto
    · rw [hkept]
      exact .none port
  | true =>
    rw [if_pos rfl]
    have hopening {s : SocketId} {mode : SocketMode} {flags : UInt8}
        (hcall : call = operate (.socket s (.openSocket mode flags 0))) (hmode : mode ≠ .closed) :
        (portsOpened (device'.board.bench.endpoint.trace.toList.drop start.trace.size)).length =
          1 := by
      rw [hcall] at hperform
      rw [hopened (leads_picked_opening s hmode flags device _ _ hstart hperform)]
      rfl
    refine ⟨⟨fun h => Bool.noConfusion (hauto.symm.trans h), ?_, hopening⟩, ?_⟩ <;>
      rcases leads_picked hauto device _ _ hstart hperform with hpicked | hpicked <;>
      rw [hopened hpicked]
    · exact Nat.zero_le 1
    · exact Nat.le_refl 1
    · exact hpicked.atPort ▸ .none _
    · exact hpicked.atPort ▸ .one (.none _)

/-- So does a run of calls. -/
theorem leads_mapM_picks (calls : List DriverCall) (hreset : ∀ call ∈ calls, call ≠ .operate .init)
    (port : UInt16) : Leads (Device.AtPort port) (calls.mapM DriverCall.picks) fun picks device =>
      List.Forall₂ DriverCall.Takes calls picks ∧
        HandsOut port picks.flatten device.controller.nextPort := by
  induction calls generalizing port with
  | nil => exact Leads.pure fun _ hport => ⟨.nil, hport ▸ .none _⟩
  | cons call calls ih =>
    rw [List.mapM_cons]
    refine Leads.bind (call.leads_picks (hreset call List.mem_cons_self) port) fun ports => ?_
    refine Leads.of_and fun htakes => Leads.of_part (f := fun d : Device Board =>
      d.controller.nextPort) (P := HandsOut port ports) fun next hports => ?_
    refine Leads.bind (ih (fun other hm => hreset other (List.mem_cons_of_mem _ hm)) next)
      fun picks => Leads.pure fun d hd => ?_
    exact ⟨.cons htakes hd.1, hports.append hd.2⟩

/-- After a reset that succeeded, the ports that are handed out to sockets opened without one run
through 49152 to 65535 again and again, whatever else the driver does meanwhile, and whether the
openings succeed or fail, as long as there is no other reset. So no port is zero, and none is handed
out twice within a round. -/
theorem automatic_ports_cycle {start device device' : Device Board} {calls : List DriverCall}
    {picks : List (List UInt16)} (hinit : init.run start = .ok (.ok (), device))
    (hreset : ∀ call ∈ calls, call ≠ .operate .init)
    (hrun : calls.mapM DriverCall.picks device = .ok (picks, device')) :
    List.Forall₂ DriverCall.Takes calls picks ∧
      (∀ k (hk : k < picks.flatten.length), picks.flatten[k].toNat = 49152 + k % 16384) ∧
      device'.controller.nextPort.toNat = 49152 + picks.flatten.length % 16384 ∧
      (∀ port ∈ picks.flatten, port ≠ 0) ∧
      ∀ first, ((picks.flatten.drop first).take 16384).Nodup := by
  have hport : device.AtPort firstEphemeralPort := AtPort.init start _ device trivial hinit rfl
  obtain ⟨htakes, hports⟩ := leads_mapM_picks calls hreset _ device picks device' hport hrun
  obtain ⟨hcycle, hnext⟩ := hports.cycle (i := 0) (by decide)
  simp only [Nat.zero_add] at hcycle hnext
  refine ⟨htakes, hcycle, hnext, fun port hmem hzero => ?_, nodup_of_cycle hcycle⟩
  obtain ⟨k, hk, hget⟩ := List.getElem_of_mem hmem
  have hplace := hcycle k hk
  have hnought : (0 : UInt16).toNat = 0 := rfl
  rw [hget, hzero] at hplace
  omega

/-- Three openings of which the second is told a port. -/
def DriverCall.reopening : List DriverCall :=
  [.operate (.socket 0 (.openSocket .udp 0 0)), .operate (.socket 1 (.openSocket .tcp 0 8080)),
    .operate (.socket 0 (.openSocket .udp 0 0))]

theorem automatic_ports_cycle_reopening : ∃ device picks device',
    init.run ⟨Board.new none ⟨none, .off⟩, Controller.new⟩ = .ok (.ok (), device) ∧
      DriverCall.reopening.mapM DriverCall.picks device = .ok (picks, device') ∧
      picks = [[49152], [], [49153]] ∧ device'.controller.nextPort = 49154 := by
  have hnew : Habit.visited.ok (Device.mk (Board.new none ⟨none, .off⟩) Controller.new).board :=
    ⟨fun h => absurd h Bool.false_ne_true, Chip.Still.visited ⟨rfl, rfl⟩⟩
  have hopens (s : SocketId) (mode : SocketMode) (wanted : UInt16) :
      Succeeds (fun d : Device Board => Habit.visited.ok d.board)
        (DriverCall.operate (.socket s (.openSocket mode 0 wanted))).picks := by
    intro d hd
    refine DriverCall.picks_ends (Ends.bind (R := fun _ d' => Habit.visited.ok d'.board) ?_
      fun _ d' hok => ⟨(), d', rfl, hok⟩)
    have htends : Ends (openSocket s mode 0 wanted).run d fun _ d' =>
        Habit.visited.Tended (fun _ => True) s d d' :=
      Habit.openSocket_tends Habit.visited_calm (fun _ _ => trivial) trivial mode 0 wanted d
        (.refl hd)
    exact Ends.bind (htends.mono fun _ _ h => h.ok) fun _ d' hok => ⟨_, d', rfl, hok⟩
  obtain ⟨_, device, hinit, rfl, hwiped, -⟩ :=
    Habit.init_wipes Habit.visited_calm hnew ⟨rfl, rfl⟩
  have hsucceeds : Succeeds (fun d : Device Board => Habit.visited.ok d.board)
      (DriverCall.reopening.mapM DriverCall.picks) :=
    Succeeds.mapM (List.forall_mem_cons.2 ⟨hopens 0 .udp 0, List.forall_mem_cons.2
      ⟨hopens 1 .tcp 8080, List.forall_mem_singleton.2 (hopens 0 .udp 0)⟩⟩)
  obtain ⟨picks, device', hrun, -⟩ := hsucceeds device hwiped.ok
  have hreset : ∀ call ∈ DriverCall.reopening, call ≠ .operate .init :=
    List.forall_mem_cons.2 ⟨by simp, List.forall_mem_cons.2 ⟨by simp,
      List.forall_mem_singleton.2 (by simp)⟩⟩
  obtain ⟨htakes, hcycle, hnext, -⟩ := automatic_ports_cycle hinit hreset hrun
  refine ⟨device, picks, device', hinit, hrun, ?_⟩
  obtain _ | ⟨hfirst, _ | ⟨hsecond, _ | ⟨hthird, _ | _⟩⟩⟩ := htakes
  obtain ⟨first, rfl⟩ := List.length_eq_one_iff.1 (hfirst.opening rfl (by decide))
  obtain ⟨third, rfl⟩ := List.length_eq_one_iff.1 (hthird.opening rfl (by decide))
  obtain rfl := hsecond.none rfl
  have hfirst : first = 49152 := UInt16.toNat_inj.1 (hcycle 0 (Nat.zero_lt_succ 1))
  have hthird : third = 49153 := UInt16.toNat_inj.1 (hcycle 1 (Nat.lt_succ_self 1))
  rw [hfirst, hthird]
  exact ⟨rfl, UInt16.toNat_inj.1 hnext⟩

end SpiEthernet
