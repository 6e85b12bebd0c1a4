import SpiEthernet.Dns.Resolver
import SpiEthernet.Proofs.Receive.Inbox

/-!
# Waiting for a reply

A resolver looks at one datagram after the other, with a look at the time before each, until a
datagram settles its query or the deadline has passed. A datagram settles a query if it comes from
the name server's port and its first bytes give a verdict on the query; whatever else arrives is
dropped, wherever it comes from and however long it is, and the datagram behind it is looked at
whole. `Look` and `Decided` say so without rings and channels, whatever tells the time.

* `Clock.advances` : a clock that moves forward gets to every time.
* `Look.decided`, `Look.undecided` : the first datagram that settles the query decides, if its turn
  comes before the deadline.
-/

namespace SpiEthernet

namespace Dns

/-! ## The time -/

namespace Timepiece

variable {τ : Type} [Timepiece τ]

/-- What the next reading shows. -/
def shown (clock : τ) : Int := (read clock).1

/-- What tells the time after the next reading. -/
def next (clock : τ) : τ := (read clock).2

/-- What tells the time after a number of readings. -/
def after : Nat → τ → τ
  | 0, clock => clock
  | count + 1, clock => after count (next clock)

/-- Whenever somebody begins to wait for a time, it comes within the readings that are said to be
enough. -/
def Advances (clock : τ) : Prop :=
  ∀ (taken : Nat) (t : Int), t ≤ 0x7FFFFFFFFFFFFFFF →
    ∃ count < readingsUntil (after taken clock) t, t ≤ shown (after count (after taken clock))

end Timepiece

namespace Clock

variable {clock : Clock} {t : Int}

/-- A number of readings after which an advancing clock shows a time. -/
def readingsLeft (clock : Clock) (t : Int) : Nat :=
  if t ≤ clock.now then 0 else ((t - clock.now) / clock.step).toNat + 1

/-- Every reading brings a time nearer that the clock can show. -/
theorem readingsLeft_read (hstep : 0 < clock.step) (ht : t ≤ 0x7FFFFFFFFFFFFFFF)
    (hnow : ¬t ≤ clock.now) : clock.read.2.readingsLeft t < clock.readingsLeft t := by
  rw [readingsLeft, readingsLeft, if_neg hnow]
  by_cases hlast : t ≤ clock.read.2.now
  · rw [if_pos hlast]
    exact Nat.succ_pos _
  rw [if_neg hlast]
  show ((t - clock.read.2.now) / clock.step).toNat + 1 < _
  have hnext : clock.now + clock.step ≤ clock.read.2.now := by
    simp only [Clock.read, addTime, clampTime] at hlast ⊢
    omega
  have hless : (t - clock.read.2.now) / clock.step ≤ (t - clock.now) / clock.step - 1 := by
    have hdiv := Int.ediv_le_ediv hstep
      (show t - clock.read.2.now ≤ t - clock.now + -1 * clock.step by omega)
    rwa [Int.add_mul_ediv_right _ _ (by omega)] at hdiv
  have hpos : 0 ≤ (t - clock.read.2.now) / clock.step := Int.ediv_nonneg (by omega) (by omega)
  omega

theorem shows (hstep : 0 < clock.step) (ht : t ≤ 0x7FFFFFFFFFFFFFFF) :
    ∃ count ≤ clock.readingsLeft t, t ≤ Timepiece.shown (Timepiece.after count clock) := by
  induction hleft : clock.readingsLeft t using Nat.strongRecOn generalizing clock with
  | ind left ih =>
    by_cases hnow : t ≤ clock.now
    · exact ⟨0, Nat.zero_le _, hnow⟩
    · have hless := readingsLeft_read hstep ht hnow
      rw [hleft] at hless
      have hstep' : 0 < clock.read.2.step := hstep
      obtain ⟨count, hcount, hshown⟩ := ih _ hless hstep' rfl
      exact ⟨count + 1, Nat.succ_le_of_lt (Nat.lt_of_le_of_lt hcount hless), hshown⟩

theorem step_after (count : Nat) : ∀ clock : Clock,
    (Timepiece.after count clock).step = clock.step := by
  induction count with
  | zero => exact fun _ => rfl
  | succ count ih => exact fun clock => ih clock.read.2

/-- A clock that moves forward gets to every time. -/
theorem advances (hstep : 0 < clock.step) : Timepiece.Advances clock := by
  intro taken t ht
  have hstep' : 0 < (Timepiece.after taken clock).step := by rwa [step_after]
  obtain ⟨count, hcount, hshown⟩ := shows hstep' ht
  refine ⟨count, Nat.lt_of_le_of_lt hcount ?_, hshown⟩
  show readingsLeft _ t < readingsUntil _ t
  rw [readingsLeft, readingsUntil, if_pos hstep']
  split <;> omega

end Clock

namespace PendingQuery

variable {τ : Type} [Timepiece τ] {query : PendingQuery} {clock : τ} {bound : Nat}

open Timepiece

/-- One of the next readings shows that the deadline has passed. -/
def Expires (query : PendingQuery) (clock : τ) (bound : Nat) : Prop :=
  ∃ count < bound, query.expired (shown (after count clock))

theorem Expires.next (h : query.Expires clock (bound + 1)) (hnow : ¬query.expired (shown clock)) :
    query.Expires (Timepiece.next clock) bound := by
  obtain ⟨count, hcount, hexpired⟩ := h
  cases count with
  | zero => exact absurd hexpired hnow
  | succ count => exact ⟨count, Nat.lt_of_succ_lt_succ hcount, hexpired⟩

end PendingQuery

end Dns

open Dns Timepiece

/-! ## Replies that settle a query -/

/-- What a datagram settles a query with, if it comes from the name server and is a reply to the
query. -/
def Datagram.settles? (d : Datagram) (server : Ipv4) (id : UInt16) : Option Resolution :=
  if d.source = server ∧ d.sourcePort = dnsPort then
    (judge (d.payload.take dnsMaxMessage) id).conclusion
  else none

theorem Datagram.settles?_of_payload_nil {d : Datagram} (h : d.payload = []) (server : Ipv4)
    (id : UInt16) : d.settles? server id = none := by
  rw [settles?, h]
  split <;> rfl

/-- One look at the time and, if there is some left, at the oldest datagram that has arrived by
then: from the datagrams that were waiting and those that have arrived meanwhile, to the answer and
the datagrams that are still waiting. -/
inductive Look {τ : Type} [Timepiece τ] (server : Ipv4) (query : PendingQuery) (clock : τ)
    (waiting arrived : List Datagram) : Option Resolution → List Datagram → Prop where
  | late (h : query.expired (shown clock)) :
    Look server query clock waiting arrived (some (.error .timeout)) (waiting ++ arrived)
  | oldest {seen early : List Datagram} (h : ¬query.expired (shown clock))
    (harrived : arrived = seen ++ early) :
    Look server query clock waiting arrived
      ((waiting ++ seen).head?.bind (·.settles? server query.id)) ((waiting ++ seen).tail ++ early)

/-- How a wait for a reply ends, seen from the datagrams that there are in the end: each one that is
looked at takes a reading of the time, and the first one that settles the query decides if its turn
comes before the deadline. -/
inductive Decided {τ : Type} [Timepiece τ] (server : Ipv4) (query : PendingQuery) (clock : τ)
    (datagrams : List Datagram) : Resolution → τ → Prop where
  | reply (readings : Nat) (dropped rest : List Datagram) {d : Datagram} {result : Resolution}
    (htime : ∀ i ≤ readings, ¬query.expired (shown (after i clock)))
    (hd : datagrams = dropped ++ d :: rest) (hcount : dropped.length ≤ readings)
    (hdropped : ∀ other ∈ dropped, other.settles? server query.id = none)
    (hreply : d.settles? server query.id = some result) :
    Decided server query clock datagrams result (after (readings + 1) clock)
  | timeout (readings : Nat) (dropped rest : List Datagram)
    (htime : ∀ i < readings, ¬query.expired (shown (after i clock)))
    (hnow : query.expired (shown (after readings clock)))
    (hd : datagrams = dropped ++ rest) (hcount : dropped.length ≤ readings)
    (hdropped : ∀ other ∈ dropped, other.settles? server query.id = none) :
    Decided server query clock datagrams (.error .timeout) (after (readings + 1) clock)

namespace Decided

variable {τ : Type} [Timepiece τ] {server : Ipv4} {query : PendingQuery} {clock final : τ}
  {first : Datagram} {datagrams : List Datagram} {result : Resolution}

/-- No time was left for any datagram. -/
theorem late (h : Decided server query clock datagrams result final)
    (hnow : query.expired (shown clock)) : result = .error .timeout := by
  cases h with
  | reply _ _ _ htime => exact absurd hnow (htime 0 (Nat.zero_le _))
  | timeout => rfl

/-- There was time left, and nothing to look at. -/
theorem idle (h : Decided server query (next clock) datagrams result final)
    (hnow : ¬query.expired (shown clock)) :
    Decided server query clock datagrams result final := by
  cases h with
  | reply readings dropped rest htime hd hcount hdropped hreply =>
    refine .reply (readings + 1) dropped rest (fun i hi => ?_) hd (Nat.le_succ_of_le hcount)
      hdropped hreply
    cases i with
    | zero => exact hnow
    | succ i => exact htime i (Nat.le_of_succ_le_succ hi)
  | timeout readings dropped rest htime hend hd hcount hdropped =>
    refine .timeout (readings + 1) dropped rest (fun i hi => ?_) hend hd
      (Nat.le_succ_of_le hcount) hdropped
    cases i with
    | zero => exact hnow
    | succ i => exact htime i (Nat.lt_of_succ_lt_succ hi)

/-- There was time left, and the first datagram did not settle the query. -/
theorem drop (h : Decided server query (next clock) datagrams result final)
    (hnow : ¬query.expired (shown clock)) (hfirst : first.settles? server query.id = none) :
    Decided server query clock (first :: datagrams) result final := by
  cases h with
  | reply readings dropped rest htime hd hcount hdropped hreply =>
    refine .reply (readings + 1) (first :: dropped) rest (fun i hi => ?_)
      (congrArg (first :: ·) hd) (Nat.succ_le_succ hcount) ?_ hreply
    · cases i with
      | zero => exact hnow
      | succ i => exact htime i (Nat.le_of_succ_le_succ hi)
    · exact List.forall_mem_cons.2 ⟨hfirst, hdropped⟩
  | timeout readings dropped rest htime hend hd hcount hdropped =>
    refine .timeout (readings + 1) (first :: dropped) rest (fun i hi => ?_) hend
      (congrArg (first :: ·) hd) (Nat.succ_le_succ hcount) ?_
    · cases i with
      | zero => exact hnow
      | succ i => exact htime i (Nat.lt_of_succ_lt_succ hi)
    · exact List.forall_mem_cons.2 ⟨hfirst, hdropped⟩

/-- Datagrams behind the others do not matter. -/
theorem append (h : Decided server query clock datagrams result final) (more : List Datagram) :
    Decided server query clock (datagrams ++ more) result final := by
  cases h with
  | reply readings dropped rest htime hd hcount hdropped hreply =>
    refine .reply readings dropped (rest ++ more) htime ?_ hcount hdropped hreply
    rw [hd, List.append_assoc]
    rfl
  | timeout readings dropped rest htime hend hd hcount hdropped =>
    refine .timeout readings dropped (rest ++ more) htime hend ?_ hcount hdropped
    rw [hd, List.append_assoc]

end Decided

namespace Look

variable {τ : Type} [Timepiece τ] {server : Ipv4} {query : PendingQuery} {clock final : τ}
  {waiting arrived left more : List Datagram} {result : Resolution}

/-- A look that settles the query decides. -/
theorem decided (h : Look server query clock waiting arrived (some result) left) :
    Decided server query clock (waiting ++ arrived) result (next clock) := by
  generalize hanswer : some result = answer at h
  cases h with
  | late h =>
    cases hanswer
    exact .timeout 0 [] _ (fun i hi => absurd hi (Nat.not_lt_zero i)) h rfl (Nat.le_refl 0)
      (List.forall_mem_nil _)
  | oldest h harrived =>
    obtain ⟨d, hhead, hd⟩ := Option.bind_eq_some_iff.1 hanswer.symm
    obtain ⟨others, hall⟩ := List.head?_eq_some_iff.1 hhead
    rw [harrived, ← List.append_assoc, hall]
    refine .reply 0 [] _ (fun i hi => ?_) rfl (Nat.le_refl 0) (List.forall_mem_nil _) hd
    rwa [Nat.le_zero.1 hi]

/-- A look that does not settle the query leaves the decision to what is still waiting. -/
theorem undecided (h : Look server query clock waiting arrived none left)
    (rest : Decided server query (next clock) (left ++ more) result final) :
    Decided server query clock (waiting ++ (arrived ++ more)) result final := by
  generalize hanswer : none = answer at h
  cases h with
  | late => cases hanswer
  | @oldest seen early h harrived =>
    rw [harrived, ← List.append_assoc, ← List.append_assoc]
    cases hall : waiting ++ seen with
    | nil =>
      -- nothing was there to look at
      rw [hall] at rest
      exact rest.idle h
    | cons first others =>
      rw [hall] at rest hanswer
      exact rest.drop h hanswer.symm

end Look

end SpiEthernet
