/-!
# Time for the resolver

Times are whole milliseconds within 64 bits; a sum that leaves this range stays at its end. A
resolver takes readings one after the other from whatever tells it the time. The clock defined here
moves on by the same amount with every reading.

* `addTime_mem` : no sum of times leaves the range.
-/

namespace SpiEthernet.Dns

/-- A number brought into the range of signed 64-bit integers. -/
def clampTime (t : Int) : Int := max (-0x8000000000000000) (min t 0x7FFFFFFFFFFFFFFF)

/-- The sum of two times, which stays within the range of the clock. -/
def addTime (t delay : Int) : Int := clampTime (t + delay)

theorem clampTime_of_mem {t : Int} (low : -0x8000000000000000 ≤ t) (high : t ≤ 0x7FFFFFFFFFFFFFFF) :
    clampTime t = t := by
  simp only [clampTime]
  omega

theorem addTime_mem (t delay : Int) :
    -0x8000000000000000 ≤ addTime t delay ∧ addTime t delay ≤ 0x7FFFFFFFFFFFFFFF := by
  simp only [addTime, clampTime]
  omega

/-! ## Telling the time -/

/-- What tells the time: a reading shows a time and leaves what the next one is taken from. -/
class Timepiece (τ : Type) where
  /-- Takes a reading. -/
  read : τ → Int × τ
  /-- A number of readings after which waiting for a time is of no use. -/
  readingsUntil : τ → Int → Nat

/-- A clock that moves on with every reading. -/
structure Clock where
  /-- The next reading. -/
  now : Int
  step : Int
deriving DecidableEq, Repr

namespace Clock

/-- Reads the clock. -/
def read (clock : Clock) : Int × Clock :=
  (clock.now, { clock with now := addTime clock.now clock.step })

/-- A number of readings after which an advancing clock has reached a time. -/
def readingsUntil (clock : Clock) (t : Int) : Nat :=
  if 0 < clock.step then ((t - clock.now) / clock.step).toNat + 2 else 0

instance : Timepiece Clock := ⟨read, readingsUntil⟩

end Clock

/-! ## Queries under way -/

/-- A query that has not been answered yet. -/
structure PendingQuery where
  id : UInt16
  host : String
  /-- The first time at which the query counts as unanswered. -/
  deadline : Int
deriving DecidableEq, Repr

namespace PendingQuery

/-- A query asked now that waits for at most the given time. -/
def start (id : UInt16) (host : String) (now timeout : Int) : PendingQuery :=
  ⟨id, host, addTime now timeout⟩

/-- Whether a query counts as unanswered. -/
def expired (query : PendingQuery) (now : Int) : Bool := query.deadline ≤ now

end PendingQuery

end SpiEthernet.Dns
