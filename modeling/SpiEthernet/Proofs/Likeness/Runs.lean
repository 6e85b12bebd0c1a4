import SpiEthernet.Proofs.Computation

/-!
# Two runs of one computation

Two results tally if both are the same fault, or if neither is one and they are related. A
computation mirrors a relation on states if its runs from related states tally: they answer the
same, and leave related states behind. No run needs to come to an end for that.

There is a rule for each way in which the driver's computations are put together, as there is for
`Ends` and `Succeeds`.

* `Mirrors.of_ends` : from what both runs are known to do.
* `Mirrors.pollWithin` : polls from related states take the same number of attempts.
-/

namespace SpiEthernet

variable {ρ σ α β γ : Type}

/-- Two results tally if both are the same fault, or neither is one and they are related. -/
inductive Tally (Q : α → β → Prop) : Except Fault α → Except Fault β → Prop where
  | fault (e : Fault) : Tally Q (.error e) (.error e)
  | ok {a : α} {b : β} (h : Q a b) : Tally Q (.ok a) (.ok b)

namespace Tally

variable {Q : α → β → Prop} {r : Except Fault α} {r' : Except Fault β}

theorem bind {α' β' : Type} {Q' : α' → β' → Prop} {f : α → Except Fault α'}
    {f' : β → Except Fault β'} (h : Tally Q r r') (hf : ∀ a b, Q a b → Tally Q' (f a) (f' b)) :
    Tally Q' (r >>= f) (r' >>= f') := by
  cases h with
  | fault e => exact .fault e
  | ok h => exact hf _ _ h

theorem map {α' β' : Type} {Q' : α' → β' → Prop} {f : α → α'} {f' : β → β'} (h : Tally Q r r')
    (hf : ∀ a b, Q a b → Q' (f a) (f' b)) : Tally Q' (r.map f) (r'.map f') := by
  cases h with
  | fault e => exact .fault e
  | ok h => exact .ok (hf _ _ h)

theorem map_right {β' : Type} {Q' : α → β' → Prop} {f' : β → β'} (h : Tally Q r r')
    (hf : ∀ a b, Q a b → Q' a (f' b)) : Tally Q' r (r'.map f') := by
  cases h with
  | fault e => exact .fault e
  | ok h => exact .ok (hf _ _ h)

/-- If one of two results that tally is no fault, neither is. -/
theorem exists_ok (h : Tally Q r r') (hr : r'.isOk = true) :
    ∃ a b, r = .ok a ∧ r' = .ok b ∧ Q a b := by
  cases h with
  | fault e => cases hr
  | @ok a b h => exact ⟨a, b, rfl, rfl, h⟩

theorem of_ends {ρ' : Type} {m : StateT ρ (Except Fault) α} {m' : StateT ρ' (Except Fault) β}
    {x : ρ} {y : ρ'} {P : α → ρ → Prop} {P' : β → ρ' → Prop} {Q : α × ρ → β × ρ' → Prop}
    (h : Ends m x P) (h' : Ends m' y P')
    (hQ : ∀ a x' b y', P a x' → P' b y' → Q (a, x') (b, y')) : Tally Q (m x) (m' y) := by
  obtain ⟨a, x', hm, hP⟩ := h
  obtain ⟨b, y', hm', hP'⟩ := h'
  rw [hm, hm']
  exact .ok (hQ a x' b y' hP hP')

end Tally

/-- Runs of the computation from states related by `R` tally: they answer the same, and leave states
related by `S`. -/
def Mirrors (R S : ρ → ρ → Prop) (m : StateT ρ (Except Fault) α) : Prop :=
  ∀ x y, R x y → Tally (fun p q => p.1 = q.1 ∧ S p.2 q.2) (m x) (m y)

namespace Mirrors

variable {R S T : ρ → ρ → Prop}

theorem of_ends {m : StateT ρ (Except Fault) α}
    (h : ∀ x y, R x y → ∃ P P', Ends m x P ∧ Ends m y P' ∧
      ∀ a x' b y', P a x' → P' b y' → a = b ∧ S x' y') : Mirrors R S m := by
  intro x y hxy
  obtain ⟨P, P', hx, hy, hboth⟩ := h x y hxy
  exact Tally.of_ends hx hy hboth

theorem pure (a : α) : Mirrors R R (Pure.pure a : StateT ρ (Except Fault) α) :=
  fun _ _ hxy => .ok ⟨rfl, hxy⟩

theorem fault (e : Fault) : Mirrors R S (throwThe Fault e : StateT ρ (Except Fault) α) :=
  fun _ _ _ => .fault e

theorem bind {m : StateT ρ (Except Fault) α} {k : α → StateT ρ (Except Fault) β}
    (h : Mirrors R S m) (hk : ∀ a, Mirrors S T (k a)) : Mirrors R T (m >>= k) := by
  refine fun x y hxy => Tally.bind (h x y hxy) ?_
  rintro ⟨a, x'⟩ ⟨_, y'⟩ ⟨rfl, hS⟩
  exact hk a x' y' hS

/-- What is answered does not matter where nobody looks at it. -/
theorem blind_bind {m : StateT ρ (Except Fault) α} {k : StateT ρ (Except Fault) β}
    (h : ∀ x y, R x y → Tally (fun p q => S p.2 q.2) (m x) (m y)) (hk : Mirrors S T k) :
    Mirrors R T (m >>= fun _ => k) :=
  fun x y hxy => Tally.bind (h x y hxy) fun p q hS => hk p.2 q.2 hS

theorem ite {c : Prop} [Decidable c] {m m' : StateT ρ (Except Fault) α} (h : Mirrors R S m)
    (h' : Mirrors R S m') : Mirrors R S (if c then m else m') := by
  split
  · exact h
  · exact h'

theorem mapM {f : α → StateT ρ (Except Fault) β} {l : List α}
    (h : ∀ a ∈ l, Mirrors R R (f a)) : Mirrors R R (l.mapM f) := by
  induction l with
  | nil => exact pure _
  | cons a l ih =>
    rw [List.mapM_cons]
    refine bind (h a List.mem_cons_self) fun _ => ?_
    exact bind (ih fun b hb => h b (List.mem_cons_of_mem _ hb)) fun _ => pure _

end Mirrors

/-! ## On a device -/

namespace Mirrors

variable {R S T : Device σ → Device σ → Prop}

theorem onController {action : Controller → α × Controller}
    (h : ∀ x y, R x y → (action x.controller).1 = (action y.controller).1 ∧
      S ⟨x.board, (action x.controller).2⟩ ⟨y.board, (action y.controller).2⟩) :
    Mirrors R S (onController action) :=
  fun x y hxy => .ok (h x y hxy)

theorem patience [Host σ] (h : ∀ x y, R x y → Host.patience x.board = Host.patience y.board) :
    Mirrors R R patience :=
  fun x y hxy => .ok ⟨h x y hxy, hxy⟩

/-! ## Attempts -/

theorem sure {m : DeviceM σ α} (h : Mirrors R S m) : Mirrors R S (SpiEthernet.sure m).run := by
  show Mirrors R S (Except.ok <$> m)
  rw [map_eq_pure_bind]
  exact bind h fun _ => pure _

theorem fail (cause : Error) : Mirrors R R (fail cause : Attempt σ α).run := pure _

theorem attempt {m : Attempt σ α} {k : α → Attempt σ β} (h : Mirrors R R m.run)
    (hk : ∀ a, Mirrors R R (k a).run) : Mirrors R R (m >>= k).run := by
  rw [ExceptT.run_bind]
  refine bind h ?_
  rintro (cause | a)
  · exact pure _
  · exact hk a

theorem sure_bind {m : DeviceM σ α} {k : α → Attempt σ β} (h : Mirrors R S m)
    (hk : ∀ a, Mirrors S T (k a).run) : Mirrors R T (SpiEthernet.sure m >>= k).run := by
  show Mirrors R T ((Except.ok <$> m) >>= ExceptT.bindCont k)
  rw [map_eq_pure_bind, bind_assoc]
  refine bind h fun a => ?_
  rw [pure_bind]
  exact hk a

/-- What is answered does not matter where nobody looks at it. -/
theorem blind_sure_bind {m : DeviceM σ α} {k : Attempt σ β}
    (h : ∀ x y, R x y → Tally (fun p q => S p.2 q.2) (m x) (m y)) (hk : Mirrors S T k.run) :
    Mirrors R T (SpiEthernet.sure m >>= fun _ => k).run := by
  show Mirrors R T ((Except.ok <$> m) >>= ExceptT.bindCont fun _ => k)
  rw [map_eq_pure_bind, bind_assoc]
  simp only [pure_bind]
  exact blind_bind h hk

theorem attempt_ite {c : Prop} [Decidable c] {m m' : Attempt σ α} (h : Mirrors R S m.run)
    (h' : Mirrors R S m'.run) : Mirrors R S (if c then m else m').run := by
  split
  · exact h
  · exact h'

/-- Nothing comes after a failure. -/
theorem fail_bind (cause : Error) (k : α → Attempt σ β) :
    Mirrors R R (SpiEthernet.fail cause >>= k).run := pure _

/-- What follows a check that ends the attempt where it fails. -/
theorem unless_fail {c : Prop} [Decidable c] {cause : Error} {k : Unit → Attempt σ α}
    (hk : Mirrors R R (k ()).run) :
    Mirrors R R (if c then SpiEthernet.fail cause >>= k else k ()).run :=
  attempt_ite (fail_bind cause k) hk

theorem tryCatch {m : Attempt σ α} {handler : Error → Attempt σ α} (h : Mirrors R R m.run)
    (hhandler : ∀ cause, Mirrors R R (handler cause).run) :
    Mirrors R R (tryCatchThe Error m handler).run := by
  show Mirrors R R (ExceptT.tryCatch m handler).run
  unfold ExceptT.tryCatch
  refine bind (m := m.run) h ?_
  rintro (cause | a)
  · exact hhandler cause
  · exact pure _

/-- Polls from related states take the same number of attempts. -/
theorem pollWithin {step : Attempt σ (Option α)} (h : Mirrors R R step.run) (bound : Nat) :
    Mirrors R R (SpiEthernet.pollWithin step bound).run := by
  induction bound with
  | zero => exact fault .stalled
  | succ bound ih =>
    refine attempt h ?_
    rintro (_ | a)
    · exact ih
    · exact pure _

theorem answering {f : α → Outcome} {action : DeviceM σ α} (h : Mirrors R S action) :
    Mirrors R S (answering f action) :=
  bind h fun _ => pure _

theorem attempting {f : α → Outcome} {action : Attempt σ α} (h : Mirrors R S action.run) :
    Mirrors R S (attempting f action) :=
  bind (m := action.run) h fun _ => pure _

end Mirrors

end SpiEthernet
