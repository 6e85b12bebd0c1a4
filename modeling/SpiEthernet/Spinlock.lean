/-!
# A lock around a value

A lock is taken by a single exchange of its flag, so a try always ends at once: it succeeds
exactly when the lock was free, and leaves the lock held in either case. The value is read and
written only by the holder.

* `tryLock_fst` : a try succeeds exactly on a free lock.
* `value_contend` : workers that each add one under the lock lose no addition.
-/

namespace SpiEthernet

/-- A value with a flag that says whether somebody holds it. -/
structure Spinlock (α : Type) where
  locked : Bool
  value : α
deriving DecidableEq, Repr

namespace Spinlock

variable {α : Type}

/-- A free lock around a value. -/
def new (value : α) : Spinlock α := ⟨false, value⟩

/-- Takes the lock if it is free, and says whether it did. -/
def tryLock (lock : Spinlock α) : Bool × Spinlock α :=
  (!lock.locked, { lock with locked := true })

/-- Gives the lock back. -/
def unlock (lock : Spinlock α) : Spinlock α := { lock with locked := false }

/-- Stores a new value. -/
def store (lock : Spinlock α) (value : α) : Spinlock α := { lock with value }

/-- Takes the lock, changes the value and gives the lock back, if the lock is free. -/
def update (f : α → α) (lock : Spinlock α) : Spinlock α :=
  if lock.locked then lock else (lock.tryLock.2.store (f lock.value)).unlock

@[simp] theorem tryLock_fst (lock : Spinlock α) : lock.tryLock.1 = !lock.locked := rfl

@[simp] theorem locked_tryLock_snd (lock : Spinlock α) : lock.tryLock.2.locked = true := rfl

@[simp] theorem value_tryLock_snd (lock : Spinlock α) : lock.tryLock.2.value = lock.value := rfl

@[simp] theorem update_new (f : α → α) (value : α) : update f (new value) = new (f value) :=
  rfl

/-! ## One holder at a time -/

/-- What a holder, or somebody who wants to become one, does with a lock. -/
inductive Step (α : Type) where
  | lock
  | tryLock
  | unlock
  | isLocked
  | get
  | set (value : α)

/-- What a step on a lock answers. -/
inductive Answer (α : Type) where
  | flag (b : Bool)
  /-- The lock would have been waited for. -/
  | held
  | value (v : α)
  | absent

/-- Carries out a step of the only party that ever holds the lock. -/
def perform (lock : Spinlock α) : Step α → Answer α × Spinlock α
  | .lock => if lock.locked then (.held, lock) else (.flag true, lock.tryLock.2)
  | .tryLock => (.flag lock.tryLock.1, lock.tryLock.2)
  | .unlock => (.flag lock.locked, lock.unlock)
  | .isLocked => (.flag lock.locked, lock)
  | .get => (if lock.locked then .value lock.value else .absent, lock)
  | .set value => if lock.locked then (.flag true, lock.store value) else (.flag false, lock)

/-- Carries out a list of steps. -/
def performAll (lock : Spinlock α) : List (Step α) → List (Answer α) × Spinlock α
  | [] => ([], lock)
  | step :: steps =>
    let (answer, lock) := lock.perform step
    let (answers, lock) := lock.performAll steps
    (answer :: answers, lock)

/-! ## Many workers -/

/-- A counter after each of some workers has added one to it for a number of rounds. -/
def contend (workers rounds : Nat) : Spinlock Nat :=
  Nat.repeat (update (· + 1)) (workers * rounds) (new 0)

theorem repeat_update (n start : Nat) :
    Nat.repeat (update (· + 1)) n (new start) = new (start + n) := by
  induction n with
  | zero => rfl
  | succ n ih => simp only [Nat.repeat, ih, update_new]; rfl

theorem value_contend (workers rounds : Nat) :
    (contend workers rounds).value = workers * rounds := by
  rw [contend, repeat_update]
  simp [new]

end Spinlock

end SpiEthernet
