import SpiEthernet.Operation.Channel

/-!
# What a computation leaves behind

Ways of saying what a computation does to the state it runs on. `Ends m x Q` says that `m` comes to
an end without a fault when it is started in `x`, and that `Q` holds of its answer and of the state
it leaves. `Leads I m Q` and `Keeps I m` only speak about the runs that come to an end: started in
`I`, they end in `Q`, or do not lead out of `I`. `Ensures c m x Q` says both, where an end is only
sure to come under a condition.

All go through a computation step by step, so each has a rule for every way in which the
driver's computations are put together: sequencing, lifting to a device, attempts that can fail,
and polling. The rules of `Keeps` do not depend on what a computation carries along on top of the
state.

* `Ends.pollWithin` : a poll that makes progress ends within its bound.
* `Keeps.of_ends` : what holds after every run that ends, holds after every run.
-/

namespace SpiEthernet

variable {ρ σ α β : Type}

/-- Started in `x`, the computation comes to an end, and its answer and the state it leaves
satisfy `Q`. -/
def Ends (m : StateT ρ (Except Fault) α) (x : ρ) (Q : α → ρ → Prop) : Prop :=
  ∃ a x', m x = .ok (a, x') ∧ Q a x'

/-! ## Coming to an end -/

namespace Ends

variable {x : ρ}

theorem mono {m : StateT ρ (Except Fault) α} {Q R : α → ρ → Prop} (h : Ends m x Q)
    (hQR : ∀ a x', Q a x' → R a x') : Ends m x R := by
  obtain ⟨a, x', hm, hQ⟩ := h
  exact ⟨a, x', hm, hQR a x' hQ⟩

theorem pure {a : α} {Q : α → ρ → Prop} (h : Q a x) :
    Ends (Pure.pure a : StateT ρ (Except Fault) α) x Q :=
  ⟨a, x, rfl, h⟩

theorem bind {m : StateT ρ (Except Fault) α} {k : α → StateT ρ (Except Fault) β}
    {R : α → ρ → Prop} {Q : β → ρ → Prop} (h : Ends m x R)
    (hk : ∀ a x', R a x' → Ends (k a) x' Q) : Ends (m >>= k) x Q := by
  obtain ⟨a, x', hm, hR⟩ := h
  obtain ⟨b, x'', hb, hQ⟩ := hk a x' hR
  refine ⟨b, x'', ?_, hQ⟩
  show (m x >>= fun r => k r.1 r.2) = _
  rw [hm]
  exact hb

theorem get_bind {k : ρ → StateT ρ (Except Fault) β} {Q : β → ρ → Prop}
    (h : Ends (k x) x Q) : Ends (get >>= k) x Q :=
  h

/-- A computation may come after one that keeps what is known of the state, whether that is carried
out or not. -/
theorem guarded {c : Prop} [Decidable c] {m : StateT ρ (Except Fault) Unit}
    {k : Unit → StateT ρ (Except Fault) β} {I : ρ → Prop} {Q : β → ρ → Prop} (hI : I x)
    (h : Ends m x fun _ x' => I x') (hk : ∀ x', I x' → Ends (k ()) x' Q) :
    Ends (if c then m >>= k else k ()) x Q := by
  split
  · exact bind h fun _ x' hx => hk x' hx
  · exact hk x hI

/-- A computation run by a bare function application ends as it does. -/
theorem run_eq {m : StateT ρ (Except Fault) α} {Q : α → ρ → Prop} (h : Ends m x Q) {a : α}
    {x' : ρ} (hm : m x = .ok (a, x')) : Q a x' := by
  obtain ⟨b, y, hb, hQ⟩ := h
  rw [hm] at hb
  cases hb
  exact hQ

theorem and {m : StateT ρ (Except Fault) α} {Q R : α → ρ → Prop} (h : Ends m x Q)
    (h' : Ends m x R) : Ends m x fun a x' => Q a x' ∧ R a x' := by
  obtain ⟨a, x', hm, hQ⟩ := h
  exact ⟨a, x', hm, hQ, h'.run_eq hm⟩

/-- A poll ends within its bound if every unsuccessful step brings a measure down. -/
theorem pollWithin {step : StateT ρ (Except Fault) (Option α)} {I : ρ → Prop} {μ : ρ → Nat}
    {Q : α → ρ → Prop}
    (hstep : ∀ x, I x → Ends step x fun r x' =>
      match r with
      | some a => Q a x'
      | none => I x' ∧ μ x' < μ x) :
    ∀ bound x, I x → μ x < bound → Ends (SpiEthernet.pollWithin step bound) x Q := by
  intro bound
  induction bound with
  | zero => intro x _ h; omega
  | succ bound ih =>
    intro x hI hμ
    refine Ends.bind (hstep x hI) ?_
    intro r x' hr
    cases r with
    | some a => exact Ends.pure hr
    | none => exact ih x' hr.1 (by have := hr.2; omega)

end Ends

/-! ## Leading somewhere -/

/-- Every run of the computation that is started in `I` and comes to an end, ends in `Q`. -/
def Leads (I : ρ → Prop) (m : StateT ρ (Except Fault) α) (Q : α → ρ → Prop) : Prop :=
  ∀ x a x', I x → m x = .ok (a, x') → Q a x'

namespace Leads

variable {I J : ρ → Prop} {R : α → ρ → Prop} {Q : β → ρ → Prop}

theorem of_ends {m : StateT ρ (Except Fault) α} (h : ∀ x, I x → Ends m x R) : Leads I m R :=
  fun x _ _ hI hm => (h x hI).run_eq hm

theorem pure {a : α} (h : ∀ x, I x → R a x) :
    Leads I (Pure.pure a : StateT ρ (Except Fault) α) R := by
  intro x b x' hI hrun
  cases hrun
  exact h x hI

theorem mono {m : StateT ρ (Except Fault) α} (h : Leads J m R) (hIJ : ∀ x, I x → J x) :
    Leads I m R := fun x a x' hI hrun => h x a x' (hIJ x hI) hrun

theorem bind {m : StateT ρ (Except Fault) α} {k : α → StateT ρ (Except Fault) β}
    (h : Leads I m R) (hk : ∀ a, Leads (R a) (k a) Q) : Leads I (m >>= k) Q := by
  intro x b x'' hI hrun
  cases hr : m x with
  | error e =>
    have : (m >>= k) x = .error e := by
      show (m x >>= fun r => k r.1 r.2) = _
      rw [hr]
      rfl
    rw [this] at hrun
    cases hrun
  | ok r =>
    have : (m >>= k) x = k r.1 r.2 := by
      show (m x >>= fun r => k r.1 r.2) = _
      rw [hr]
      rfl
    rw [this] at hrun
    exact hk r.1 r.2 b x'' (h x r.1 r.2 hI hr) hrun

/-- What holds behind a computation for each of many reasons, holds for all of them at once. -/
theorem all {ι : Type} {I : ι → ρ → Prop} {R : ι → α → ρ → Prop} {m : StateT ρ (Except Fault) α}
    (h : ∀ i, Leads (I i) m (R i)) : Leads (fun x => ∀ i, I i x) m fun a x => ∀ i, R i a x :=
  fun x a x' hI hrun i => h i x a x' (hI i) hrun

/-- Every computation leads somewhere. -/
theorem any {m : StateT ρ (Except Fault) α} : Leads I m fun _ _ => True :=
  fun _ _ _ _ _ => trivial

theorem of_exists {ι : Type} {I : ι → ρ → Prop} {m : StateT ρ (Except Fault) α}
    (h : ∀ i, Leads (I i) m R) : Leads (fun x => ∃ i, I i x) m R :=
  fun x a x' ⟨i, hi⟩ hrun => h i x a x' hi hrun

theorem of_and {c : Prop} {m : StateT ρ (Except Fault) α} (h : c → Leads I m R) :
    Leads (fun x => c ∧ I x) m R := fun x a x' ⟨hc, hI⟩ hrun => h hc x a x' hI hrun

theorem get_bind {k : ρ → StateT ρ (Except Fault) β}
    (h : ∀ x, I x → Leads (fun y => y = x) (k x) Q) : Leads I (get >>= k) Q :=
  fun x a x' hI hrun => h x hI x a x' rfl hrun

/-- A part of the state that the run starts in may be taken as given. -/
theorem of_part {τ : Type} {f : ρ → τ} {P : τ → Prop} {m : StateT ρ (Except Fault) α}
    (h : ∀ t, P t → Leads (fun x => f x = t) m R) : Leads (fun x => P (f x)) m R :=
  fun x a x' hP hrun => h (f x) hP x a x' rfl hrun

/-- A computation that comes to an end leads where it does whenever it ends. -/
theorem ends {m : StateT ρ (Except Fault) α} {x : ρ} (h : Leads I m R) (hI : I x)
    (hm : Ends m x fun _ _ => True) : Ends m x R := by
  obtain ⟨a, x', hrun, -⟩ := hm
  exact ⟨a, x', hrun, h x a x' hI hrun⟩

/-- A computation may come after one that stays where it is, whether that is carried out or
not. -/
theorem guarded {c : Prop} [Decidable c] {m : StateT ρ (Except Fault) Unit}
    {k : Unit → StateT ρ (Except Fault) β} (h : Leads I m fun _ => I)
    (hk : Leads I (k ()) Q) : Leads I (if c then m >>= k else k ()) Q := by
  split
  · exact bind h fun _ => hk
  · exact hk

theorem pollWithin {step : StateT ρ (Except Fault) (Option α)}
    (h : Leads I step fun r x' =>
      match r with
      | some a => R a x'
      | none => I x') (bound : Nat) : Leads I (SpiEthernet.pollWithin step bound) R := by
  induction bound with
  | zero =>
    intro x a x' _ hrun
    cases hrun
  | succ bound ih =>
    refine bind h fun r => ?_
    cases r with
    | some a => exact pure fun _ => id
    | none => exact ih

end Leads

/-! ## Ending under a condition -/

/-- Every run of the computation that is started in `x` and comes to an end, ends in `Q`; and under
a condition there is one. -/
structure Ensures (c : Prop) (m : StateT ρ (Except Fault) α) (x : ρ) (Q : α → ρ → Prop) : Prop where
  ends (h : c) : Ends m x Q
  leads {a : α} {x' : ρ} (h : m x = .ok (a, x')) : Q a x'

theorem Ends.ensures {c : Prop} {m : StateT ρ (Except Fault) α} {x : ρ} {Q : α → ρ → Prop}
    (h : Ends m x Q) : Ensures c m x Q :=
  ⟨fun _ => h, fun hm => h.run_eq hm⟩

/-- A computation that comes to an end has the run in which it does. -/
theorem Ends.with_run {m : StateT ρ (Except Fault) α} {x : ρ} {Q : α → ρ → Prop} (h : Ends m x Q) :
    Ends m x fun a x' => m x = .ok (a, x') ∧ Q a x' := by
  obtain ⟨a, x', hm, hQ⟩ := h
  exact ⟨a, x', hm, hm, hQ⟩

/-- Two facts about one computation, of which the second one may depend on something else. -/
theorem Ends.and_all {ι : Type} {p : ι → Prop} {m : StateT ρ (Except Fault) α} {x : ρ}
    {Q : α → ρ → Prop} {R : ι → α → ρ → Prop} (h : Ends m x Q) (h' : ∀ i, p i → Ends m x (R i)) :
    Ends m x fun a x' => Q a x' ∧ ∀ i, p i → R i a x' := by
  obtain ⟨a, x', hm, hQ⟩ := h
  exact ⟨a, x', hm, hQ, fun i hp => (h' i hp).run_eq hm⟩

namespace Ensures

variable {c : Prop} {x : ρ} {R : α → ρ → Prop}

theorem mono {m : StateT ρ (Except Fault) α} {Q : α → ρ → Prop} (h : Ensures c m x R)
    (hRQ : ∀ a x', R a x' → Q a x') : Ensures c m x Q :=
  ⟨fun hc => (h.ends hc).mono hRQ, fun hm => hRQ _ _ (h.leads hm)⟩

/-- An end that is sure to come, is sure to come under any condition that is harder to meet. -/
theorem under {d : Prop} {m : StateT ρ (Except Fault) α} (h : Ensures c m x R) (hc : d → c) :
    Ensures d m x R :=
  ⟨fun hd => h.ends (hc hd), h.leads⟩

/-- A computation that does the same as another one, but for how its end is looked at. -/
theorem of_map {τ : Type} {m : StateT ρ (Except Fault) α} {m' : StateT τ (Except Fault) β} {y : τ}
    {f : α × ρ → β × τ} {Q : β → τ → Prop} (heq : m' y = (m x).map f)
    (h : Ensures c m x fun a x' => Q (f (a, x')).1 (f (a, x')).2) : Ensures c m' y Q where
  ends hc := by
    obtain ⟨a, x', hm, hQ⟩ := h.ends hc
    refine ⟨(f (a, x')).1, (f (a, x')).2, ?_, hQ⟩
    rw [heq, hm]
    rfl
  leads {b y'} hrun := by
    rw [heq] at hrun
    cases hm : m x with
    | error fault =>
      rw [hm] at hrun
      cases hrun
    | ok r =>
      rw [hm] at hrun
      have hlooked : f (r.1, r.2) = (b, y') := Except.ok.inj hrun
      have hQ := h.leads hm
      rwa [hlooked] at hQ

theorem bind {m : StateT ρ (Except Fault) α} {k : α → StateT ρ (Except Fault) β}
    {Q : β → ρ → Prop} (h : Ensures c m x R) (hk : ∀ a x', R a x' → Ensures c (k a) x' Q) :
    Ensures c (m >>= k) x Q where
  ends hc := Ends.bind (h.ends hc) fun a x' hR => (hk a x' hR).ends hc
  leads {b x''} hm := by
    have hfirst : Leads (fun y => y = x) m R := by
      rintro _ a x' rfl hrun
      exact h.leads hrun
    exact Leads.bind hfirst (fun a x' b x'' hR hrun => (hk a x' hR).leads hrun) x b x'' rfl hm

end Ensures

/-! ## Never leading out -/

/-- Computations that work on a state of type `ρ` in the end, whatever else they carry along on
top of it. -/
class Grounded (ρ : outParam Type) (m : Type → Type) [Monad m] where
  /-- No run of the computation that comes to an end leads out of `I`. -/
  Keeps (I : ρ → Prop) {α : Type} (action : m α) : Prop
  keeps_pure (I : ρ → Prop) {α : Type} (a : α) : Keeps I (pure a : m α)
  keeps_bind {I : ρ → Prop} {α β : Type} {action : m α} {k : α → m β} (h : Keeps I action)
    (hk : ∀ a, Keeps I (k a)) : Keeps I (action >>= k)

export Grounded (Keeps)

instance : Grounded ρ (StateT ρ (Except Fault)) where
  Keeps I _ action := Leads I action fun _ => I
  keeps_pure _ _ _ := Leads.pure fun _ => id
  keeps_bind h hk := Leads.bind h hk

section Layers

variable {m : Type → Type} [Monad m] [Grounded ρ m]

/-- A state that is carried along on top does not matter. -/
instance {τ : Type} : Grounded ρ (StateT τ m) where
  Keeps I _ action := ∀ t, Keeps I (action t)
  keeps_pure I _ a t := Grounded.keeps_pure I (a, t)
  keeps_bind h hk t := Grounded.keeps_bind (h t) fun (a, t') => hk a t'

/-- Nor does it matter whether a computation can fail. -/
instance {ε : Type} : Grounded ρ (ExceptT ε m) where
  Keeps I _ action := Keeps I action.run
  keeps_pure I _ a := Grounded.keeps_pure I (Except.ok a)
  keeps_bind {I _ _ _ _} h hk := by
    refine Grounded.keeps_bind h ?_
    rintro (cause | a)
    · exact Grounded.keeps_pure I (Except.error cause)
    · exact hk a

end Layers

namespace Keeps

variable {I : ρ → Prop}

theorem of_ends {m : StateT ρ (Except Fault) α} (h : ∀ x, I x → Ends m x fun _ x' => I x') :
    Keeps I m := Leads.of_ends h

/-- What does not change along a computation may be asked for before it. -/
theorem when {c : Prop} {m : StateT ρ (Except Fault) α} (h : c → Keeps I m) :
    Keeps (fun x => c ∧ I x) m :=
  fun _ _ _ hstart hrun => ⟨hstart.1, h hstart.1 _ _ _ hstart.2 hrun⟩

theorem get_bind {k : ρ → StateT ρ (Except Fault) β} (h : ∀ x, Keeps I (k x)) :
    Keeps I (get >>= k) :=
  Leads.get_bind fun x hI => Leads.mono (h x) fun _ hx => hx ▸ hI

theorem fault (e : Fault) : Keeps I (throwThe Fault e : StateT ρ (Except Fault) α) := by
  intro x b x' _ h
  cases h

section Rules

variable {m : Type → Type} [Monad m] [Grounded ρ m] {ε τ : Type}

theorem pure (a : α) : Keeps I (Pure.pure a : m α) := Grounded.keeps_pure I a

theorem bind {action : m α} {k : α → m β} (h : Keeps I action) (hk : ∀ a, Keeps I (k a)) :
    Keeps I (action >>= k) := Grounded.keeps_bind h hk

theorem ite {c : Prop} [Decidable c] {action other : m α} (h : Keeps I action)
    (h' : Keeps I other) : Keeps I (if c then action else other) := by
  split
  · exact h
  · exact h'

/-- What comes after a computation that may be left out. -/
theorem guarded {c : Prop} [Decidable c] {action : m PUnit} {k : PUnit → m β}
    (h : Keeps I action) (hk : Keeps I (k ⟨⟩)) :
    Keeps I (if c then action >>= k else k ⟨⟩) := ite (bind h fun _ => hk) hk

theorem forM {f : α → m PUnit} {l : List α} (h : ∀ a ∈ l, Keeps I (f a)) :
    Keeps I (l.forM f) := by
  induction l with
  | nil => exact pure _
  | cons a l ih =>
    exact bind (h a List.mem_cons_self) fun _ => ih fun b hb => h b (List.mem_cons_of_mem _ hb)

theorem mapM [LawfulMonad m] {f : α → m β} {l : List α} (h : ∀ a ∈ l, Keeps I (f a)) :
    Keeps I (l.mapM f) := by
  induction l with
  | nil => exact pure _
  | cons a l ih =>
    rw [List.mapM_cons]
    refine bind (h a List.mem_cons_self) fun _ => ?_
    refine bind (ih fun b hb => h b (List.mem_cons_of_mem _ hb)) fun _ => ?_
    exact pure _

theorem pollWithin [MonadExceptOf Fault m] {step : m (Option α)} (h : Keeps I step)
    (hstalled : Keeps I (throwThe Fault .stalled : m α)) (bound : Nat) :
    Keeps I (SpiEthernet.pollWithin step bound) := by
  induction bound with
  | zero => exact hstalled
  | succ bound ih =>
    refine bind h fun r => ?_
    cases r with
    | some a => exact pure a
    | none => exact ih

theorem lift {action : m α} (h : Keeps I action) : Keeps I (StateT.lift action : StateT τ m α) :=
  fun _ => bind h fun _ => pure _

theorem modifyGet (f : τ → α × τ) : Keeps I (modifyGet f : StateT τ m α) := fun _ => pure _

theorem sure [LawfulMonad m] {action : m α} (h : Keeps I action) :
    Keeps I (ExceptT.lift action : ExceptT ε m α) := by
  show Keeps I (Except.ok <$> action)
  rw [map_eq_pure_bind]
  exact bind h fun _ => pure _

theorem fail (cause : ε) : Keeps I (throwThe ε cause : ExceptT ε m α) :=
  Grounded.keeps_pure I (Except.error cause : Except ε α)

/-- Nothing comes after a failure. -/
theorem fail_bind [LawfulMonad m] (cause : ε) (k : α → ExceptT ε m β) :
    Keeps I (throwThe ε cause >>= k) := by
  show Keeps I (Pure.pure (Except.error cause) >>= ExceptT.bindCont k : m (Except ε β))
  rw [pure_bind]
  exact Grounded.keeps_pure I (Except.error cause : Except ε β)

theorem tryCatch {action : ExceptT ε m α} {handler : ε → ExceptT ε m α} (h : Keeps I action)
    (h' : ∀ cause, Keeps I (handler cause)) : Keeps I (tryCatchThe ε action handler) := by
  refine Grounded.keeps_bind (m := m) h ?_
  rintro (cause | a)
  · exact h' cause
  · exact Grounded.keeps_pure I (Except.ok a)

end Rules

end Keeps

/-! ## Coming to an end wherever a property holds -/

/-- Started where a property holds, the computation always comes to an end, where it holds
again. -/
def Succeeds (I : ρ → Prop) (m : StateT ρ (Except Fault) α) : Prop :=
  ∀ x, I x → Ends m x fun _ x' => I x'

namespace Succeeds

variable {I : ρ → Prop}

theorem keeps {m : StateT ρ (Except Fault) α} (h : Succeeds I m) : Keeps I m := Keeps.of_ends h

theorem pure (a : α) : Succeeds I (Pure.pure a : StateT ρ (Except Fault) α) :=
  fun _ h => Ends.pure h

theorem bind {m : StateT ρ (Except Fault) α} {k : α → StateT ρ (Except Fault) β}
    (h : Succeeds I m) (hk : ∀ a, Succeeds I (k a)) : Succeeds I (m >>= k) :=
  fun x hx => Ends.bind (h x hx) fun a x' hx' => hk a x' hx'

theorem ite {c : Prop} [Decidable c] {m m' : StateT ρ (Except Fault) α} (h : Succeeds I m)
    (h' : Succeeds I m') : Succeeds I (if c then m else m') := by
  split
  · exact h
  · exact h'

theorem mapM {f : α → StateT ρ (Except Fault) β} {l : List α}
    (h : ∀ a ∈ l, Succeeds I (f a)) : Succeeds I (l.mapM f) := by
  induction l with
  | nil => exact pure _
  | cons a l ih =>
    rw [List.mapM_cons]
    refine bind (h a List.mem_cons_self) fun _ => ?_
    exact bind (ih fun b hb => h b (List.mem_cons_of_mem _ hb)) fun _ => pure _

theorem forM {f : α → StateT ρ (Except Fault) PUnit} {l : List α}
    (h : ∀ a ∈ l, Succeeds I (f a)) : Succeeds I (l.forM f) := by
  induction l with
  | nil => exact pure _
  | cons a l ih =>
    exact bind (h a List.mem_cons_self) fun _ => ih fun b hb => h b (List.mem_cons_of_mem _ hb)

end Succeeds

/-! ## On a device -/

section Device

variable {device : Device σ}

theorem Ends.onLink {action : LinkM σ α} {R : α → σ → Prop} (h : Ends action device.board R) :
    Ends (onLink action) device fun a d =>
      R a d.board ∧ d.controller = device.controller := by
  obtain ⟨a, board, hm, hR⟩ := h
  refine ⟨a, ⟨board, device.controller⟩, ?_, hR, rfl⟩
  show (action device.board >>= fun r =>
    Pure.pure (r.1, (⟨r.2, device.controller⟩ : Device σ))) = _
  rw [hm]
  rfl

theorem Ends.onController {action : Controller → α × Controller} {Q : α → Device σ → Prop}
    (h : Q (action device.controller).1 ⟨device.board, (action device.controller).2⟩) :
    Ends (onController action) device Q :=
  ⟨_, _, rfl, h⟩

theorem Ends.changeController {f : Controller → Controller} {Q : Unit → Device σ → Prop}
    (h : Q () ⟨device.board, f device.controller⟩) : Ends (changeController f) device Q :=
  ⟨_, _, rfl, h⟩

theorem Ends.patience [Host σ] {Q : Nat → Device σ → Prop}
    (h : Q (Host.patience device.board) device) : Ends patience device Q :=
  ⟨_, _, rfl, h⟩

/-- Where a computation on the board leads with every controller, it leads on the device. -/
theorem Leads.onLink {I : Device σ → Prop} {Q : α → Device σ → Prop} {action : LinkM σ α}
    (h : ∀ controller, Leads (fun board => I ⟨board, controller⟩) action
      fun a board => Q a ⟨board, controller⟩) : Leads I (SpiEthernet.onLink action) Q := by
  rintro ⟨board, controller⟩ a d' hI hrun
  cases hr : action board with
  | error e =>
    have : SpiEthernet.onLink action ⟨board, controller⟩ = .error e := by
      show (action board >>= fun r => Pure.pure (r.1, (⟨r.2, controller⟩ : Device σ))) = _
      rw [hr]
      rfl
    rw [this] at hrun
    cases hrun
  | ok r =>
    have : SpiEthernet.onLink action ⟨board, controller⟩ = .ok (r.1, ⟨r.2, controller⟩) := by
      show (action board >>= fun r => Pure.pure (r.1, (⟨r.2, controller⟩ : Device σ))) = _
      rw [hr]
      rfl
    rw [this] at hrun
    cases hrun
    exact h controller board r.1 r.2 hI hr

theorem Keeps.onLink {I : σ → Prop} {action : LinkM σ α} (h : Keeps I action) :
    Keeps (fun d : Device σ => I d.board) (onLink action) :=
  Leads.onLink fun _ => h

/-- The link does not lead to the controller. -/
theorem Keeps.onLink_of_controller {J : Controller → Prop} (action : LinkM σ α) :
    Keeps (fun d : Device σ => J d.controller) (SpiEthernet.onLink action) :=
  Leads.onLink fun _ _ _ _ hJ _ => hJ

theorem Keeps.onController {I : σ → Prop} (action : Controller → α × Controller) :
    Keeps (fun d : Device σ => I d.board) (onController action) := by
  rintro ⟨board, controller⟩ a d' hI hrun
  cases hrun
  exact hI

theorem Keeps.patience [Host σ] {I : Device σ → Prop} : Keeps I (patience : DeviceM σ Nat) := by
  intro device a d' hI hrun
  cases hrun
  exact hI

theorem Succeeds.onLink {I : σ → Prop} {action : LinkM σ α} (h : Succeeds I action) :
    Succeeds (fun d : Device σ => I d.board) (onLink action) :=
  fun d hd => (Ends.onLink (h d.board hd)).mono fun _ _ h => h.1

theorem Succeeds.changeController {I : σ → Prop} (f : Controller → Controller) :
    Succeeds (fun d : Device σ => I d.board) (changeController f) :=
  fun _ hd => Ends.changeController hd

end Device

/-! ## Attempts -/

section Attempt

variable {device : Device σ} {Q : Except Error β → Device σ → Prop}

theorem Ends.sure {m : DeviceM σ β} (h : Ends m device fun a d => Q (.ok a) d) :
    Ends (SpiEthernet.sure m).run device Q := by
  obtain ⟨a, d, hm, hQ⟩ := h
  refine ⟨.ok a, d, ?_, hQ⟩
  show (m device >>= fun (a, d) => Pure.pure (Except.ok a, d)) = _
  rw [hm]
  rfl

theorem Ends.fail {cause : Error} (h : Q (.error cause) device) :
    Ends (fail cause : Attempt σ β).run device Q :=
  Ends.pure h

theorem Ends.attempt {m : Attempt σ α} {k : α → Attempt σ β}
    {R : Except Error α → Device σ → Prop} (h : Ends m.run device R)
    (hok : ∀ a d, R (.ok a) d → Ends (k a).run d Q)
    (herror : ∀ cause d, R (.error cause) d → Q (.error cause) d) :
    Ends (m >>= k).run device Q := by
  rw [ExceptT.run_bind]
  refine Ends.bind h ?_
  intro r d hR
  cases r with
  | ok a => exact hok a d hR
  | error cause => exact Ends.pure (herror cause d hR)

/-- What follows an attempt that succeeds with a known result. -/
theorem Ends.attempt_of_ok {m : Attempt σ α} {k : α → Attempt σ β} {a : α} {R : Device σ → Prop}
    (h : Ends m.run device fun r d => r = .ok a ∧ R d) (hk : ∀ d, R d → Ends (k a).run d Q) :
    Ends (m >>= k).run device Q := by
  refine Ends.attempt h ?_ ?_
  · rintro _ d ⟨⟨⟩, hR⟩
    exact hk d hR
  · rintro _ _ ⟨⟨⟩, -⟩

/-- Nothing follows an attempt that fails. -/
theorem Ends.attempt_of_error {m : Attempt σ α} {k : α → Attempt σ β} {cause : Error}
    {R : Device σ → Prop} (h : Ends m.run device fun r d => r = .error cause ∧ R d)
    (hQ : ∀ d, R d → Q (.error cause) d) : Ends (m >>= k).run device Q := by
  refine Ends.attempt h ?_ ?_
  · rintro _ _ ⟨⟨⟩, -⟩
  · rintro _ d ⟨⟨⟩, hR⟩
    exact hQ d hR

theorem Ends.sure_bind {m : DeviceM σ α} {k : α → Attempt σ β} {R : α → Device σ → Prop}
    (h : Ends m device R) (hk : ∀ a d, R a d → Ends (k a).run d Q) :
    Ends (SpiEthernet.sure m >>= k).run device Q := by
  refine Ends.attempt (R := fun r d => ∃ a, r = .ok a ∧ R a d)
    (Ends.sure (h.mono fun a d hR => ⟨a, rfl, hR⟩)) ?_ ?_
  · rintro a d ⟨b, hb, hR⟩
    cases hb
    exact hk a d hR
  · rintro cause d ⟨b, hb, -⟩
    cases hb

theorem Leads.sure {I : Device σ → Prop} {m : DeviceM σ β} (h : Leads I m fun a d => Q (.ok a) d) :
    Leads I (SpiEthernet.sure m).run Q := by
  show Leads I (Except.ok <$> m) Q
  rw [map_eq_pure_bind]
  exact Leads.bind h fun _ => Leads.pure fun _ => id

theorem Leads.attempt {I : Device σ → Prop} {m : Attempt σ α} {k : α → Attempt σ β}
    {R : Except Error α → Device σ → Prop} (h : Leads I m.run R)
    (hok : ∀ a, Leads (R (.ok a)) (k a).run Q)
    (herror : ∀ cause d, R (.error cause) d → Q (.error cause) d) :
    Leads I (m >>= k).run Q := by
  rw [ExceptT.run_bind]
  refine Leads.bind h ?_
  rintro (cause | a)
  · exact Leads.pure (herror cause)
  · exact hok a

theorem Leads.tryCatch {I : Device σ → Prop} {m : Attempt σ α} {handler : Error → Attempt σ α}
    {Q R : Except Error α → Device σ → Prop} (h : Leads I m.run R)
    (hok : ∀ a d, R (.ok a) d → Q (.ok a) d)
    (herror : ∀ cause, Leads (R (.error cause)) (handler cause).run Q) :
    Leads I (tryCatchThe Error m handler).run Q := by
  show Leads I (ExceptT.tryCatch m handler).run Q
  unfold ExceptT.tryCatch
  refine Leads.bind (m := m.run) h ?_
  rintro (cause | a)
  · exact herror cause
  · exact Leads.pure (hok a)

/-- What an attempt leads to if it succeeds, it leads to behind one that succeeds. -/
theorem Leads.succeeding {m : Attempt σ α} {k : α → Attempt σ β} {I J K : Device σ → Prop}
    (h : Leads I m.run fun r d => r.isOk → J d)
    (hk : ∀ a, Leads J (k a).run fun r d => r.isOk → K d) :
    Leads I (m >>= k).run fun r d => r.isOk → K d :=
  Leads.attempt h (fun a => (hk a).mono fun _ hd => hd rfl) fun _ _ _ => nofun

theorem Leads.sure_bind {I : Device σ → Prop} {m : DeviceM σ α} {k : α → Attempt σ β}
    {R : α → Device σ → Prop} (h : Leads I m R) (hk : ∀ a, Leads (R a) (k a).run Q) :
    Leads I (SpiEthernet.sure m >>= k).run Q := by
  refine Leads.attempt (R := fun r d => ∃ a, r = .ok a ∧ R a d)
    (Leads.sure fun x a x' hI hrun => ⟨a, rfl, h x a x' hI hrun⟩) ?_ ?_
  · rintro a x b x' ⟨_, ha, hR⟩ hrun
    cases ha
    exact hk a x b x' hR hrun
  · rintro cause d ⟨_, ha, -⟩
    cases ha

namespace Succeeds

variable {I : Device σ → Prop}

theorem sure {m : DeviceM σ α} (h : Succeeds I m) : Succeeds I (SpiEthernet.sure m).run :=
  fun d hd => Ends.sure (h d hd)

theorem fail (cause : Error) : Succeeds I (fail cause : Attempt σ α).run :=
  fun _ hd => Ends.fail hd

theorem attempt {m : Attempt σ α} {k : α → Attempt σ β} (h : Succeeds I m.run)
    (hk : ∀ a, Succeeds I (k a).run) : Succeeds I (m >>= k).run :=
  fun d hd => Ends.attempt (h d hd) (fun a d' hd' => hk a d' hd') fun _ _ => id

theorem sure_bind {m : DeviceM σ α} {k : α → Attempt σ β} (h : Succeeds I m)
    (hk : ∀ a, Succeeds I (k a).run) : Succeeds I (SpiEthernet.sure m >>= k).run :=
  attempt (sure h) hk

theorem attempt_ite {c : Prop} [Decidable c] {m m' : Attempt σ α} (h : Succeeds I m.run)
    (h' : Succeeds I m'.run) : Succeeds I (if c then m else m').run := by
  split
  · exact h
  · exact h'

/-- What follows a check that ends the attempt where it fails. -/
theorem unless_fail {c : Prop} [Decidable c] {cause : Error} {k : Unit → Attempt σ α}
    (hk : Succeeds I (k ()).run) :
    Succeeds I (if c then SpiEthernet.fail cause >>= k else k ()).run :=
  attempt_ite (fun _ hd => Ends.pure hd) hk

theorem tryCatch {m : Attempt σ α} {handler : Error → Attempt σ α} (h : Succeeds I m.run)
    (hhandler : ∀ cause, Succeeds I (handler cause).run) :
    Succeeds I (tryCatchThe Error m handler).run := by
  show Succeeds I (ExceptT.tryCatch m handler).run
  unfold ExceptT.tryCatch
  refine Succeeds.bind (m := m.run) h ?_
  rintro (cause | a)
  · exact hhandler cause
  · exact Succeeds.pure _

theorem answering {f : α → Outcome} {action : DeviceM σ α} (h : Succeeds I action) :
    Succeeds I (answering f action) :=
  Succeeds.bind h fun _ => Succeeds.pure _

theorem attempting {f : α → Outcome} {action : Attempt σ α} (h : Succeeds I action.run) :
    Succeeds I (attempting f action) :=
  Succeeds.bind (m := action.run) h fun _ => Succeeds.pure _

end Succeeds

end Attempt

/-! ## Channels -/

section Channel

variable {device : Device σ} {channel : Channel} {Q : Except Error β × Channel → Device σ → Prop}

theorem Ends.onSocket {action : SocketId → Attempt σ β}
    (h : Ends (action channel.socket).run device fun r d => Q (r, channel) d) :
    Ends ((Channel.onSocket action).run channel) device Q :=
  Ends.bind h fun _ _ => Ends.pure

theorem Ends.current_bind {k : Channel → ChannelAttempt σ β}
    (h : Ends ((k channel).run channel) device Q) :
    Ends ((Channel.current >>= k).run channel) device Q :=
  h

theorem Ends.change_bind {f : Channel → Channel} {k : Unit → ChannelAttempt σ β}
    (h : Ends ((k ()).run (f channel)) device Q) :
    Ends ((Channel.change f >>= k).run channel) device Q :=
  h

theorem Ends.channel_attempt {m : ChannelAttempt σ α} {k : α → ChannelAttempt σ β}
    {R : Except Error α × Channel → Device σ → Prop} (h : Ends (m.run channel) device R)
    (hok : ∀ a c d, R (.ok a, c) d → Ends ((k a).run c) d Q)
    (herror : ∀ cause c d, R (.error cause, c) d → Q (.error cause, c) d) :
    Ends ((m >>= k).run channel) device Q := by
  show Ends (m.run channel >>= fun r => ExceptT.bindCont k r.1 r.2) device Q
  refine Ends.bind h ?_
  rintro ⟨cause | a, c⟩ d hR
  · exact Ends.pure (herror cause c d hR)
  · exact hok a c d hR

theorem Ends.socket_bind {action : SocketId → Attempt σ α} {k : α → ChannelAttempt σ β}
    {R : Except Error α → Device σ → Prop} (h : Ends (action channel.socket).run device R)
    (hok : ∀ a d, R (.ok a) d → Ends ((k a).run channel) d Q)
    (herror : ∀ cause d, R (.error cause) d → Q (.error cause, channel) d) :
    Ends ((Channel.onSocket action >>= k).run channel) device Q := by
  refine Ends.channel_attempt (R := fun r d => R r.1 d ∧ r.2 = channel)
    (Ends.onSocket (h.mono fun _ _ hR => ⟨hR, rfl⟩)) ?_ ?_
  · rintro a c d ⟨hR, hc⟩
    cases hc
    exact hok a d hR
  · rintro cause c d ⟨hR, hc⟩
    cases hc
    exact herror cause d hR

theorem Ends.socket_bind_of_ok {action : SocketId → Attempt σ α} {k : α → ChannelAttempt σ β}
    {a : α} {R : Device σ → Prop}
    (h : Ends (action channel.socket).run device fun r d => r = .ok a ∧ R d)
    (hk : ∀ d, R d → Ends ((k a).run channel) d Q) :
    Ends ((Channel.onSocket action >>= k).run channel) device Q := by
  refine Ends.socket_bind h ?_ ?_
  · rintro _ d ⟨⟨⟩, hR⟩
    exact hk d hR
  · rintro _ _ ⟨⟨⟩, -⟩

theorem Leads.onSocket {I : Device σ → Prop} {action : SocketId → Attempt σ β}
    (h : Leads I (action channel.socket).run fun r d => Q (r, channel) d) :
    Leads I ((Channel.onSocket action).run channel) Q :=
  Leads.bind h fun _ => Leads.pure fun _ => id

theorem Leads.channel_attempt {I : Device σ → Prop} {m : ChannelAttempt σ α}
    {k : α → ChannelAttempt σ β} {R : Except Error α × Channel → Device σ → Prop}
    (h : Leads I (m.run channel) R)
    (hok : ∀ a c, Leads (R (.ok a, c)) ((k a).run c) Q)
    (herror : ∀ cause c d, R (.error cause, c) d → Q (.error cause, c) d) :
    Leads I ((m >>= k).run channel) Q := by
  show Leads I (m.run channel >>= fun r => ExceptT.bindCont k r.1 r.2) Q
  refine Leads.bind h ?_
  rintro ⟨cause | a, c⟩
  · exact Leads.pure (herror cause c)
  · exact hok a c

theorem Leads.socket_bind {I : Device σ → Prop} {action : SocketId → Attempt σ α}
    {k : α → ChannelAttempt σ β} {R : Except Error α → Device σ → Prop}
    (h : Leads I (action channel.socket).run R)
    (hok : ∀ a, Leads (R (.ok a)) ((k a).run channel) Q)
    (herror : ∀ cause d, R (.error cause) d → Q (.error cause, channel) d) :
    Leads I ((Channel.onSocket action >>= k).run channel) Q := by
  refine Leads.channel_attempt (R := fun r d => R r.1 d ∧ r.2 = channel)
    (Leads.bind h fun _ => Leads.pure fun _ hR => ⟨hR, rfl⟩) ?_ ?_
  · rintro a c x b x' ⟨hR, hc⟩ hrun
    cases hc
    exact hok a x b x' hR hrun
  · rintro cause c d ⟨hR, hc⟩
    cases hc
    exact herror cause d hR

theorem Leads.sure_socket_bind {I : Device σ → Prop} {action : SocketId → DeviceM σ α}
    {k : α → ChannelAttempt σ β} {R : α → Device σ → Prop} (h : Leads I (action channel.socket) R)
    (hok : ∀ a, Leads (R a) ((k a).run channel) Q) :
    Leads I ((Channel.onSocket (fun s => SpiEthernet.sure (action s)) >>= k).run channel) Q := by
  refine Leads.socket_bind (R := fun r d => ∃ a, r = .ok a ∧ R a d)
    (Leads.sure fun x a x' hI hrun => ⟨a, rfl, h x a x' hI hrun⟩) ?_ ?_
  · rintro a x b x' ⟨_, ha, hR⟩ hrun
    cases ha
    exact hok a x b x' hR hrun
  · rintro cause d ⟨_, ha, -⟩
    cases ha

theorem Leads.current_bind {I : Device σ → Prop} {k : Channel → ChannelAttempt σ β}
    (h : Leads I ((k channel).run channel) Q) :
    Leads I ((Channel.current >>= k).run channel) Q :=
  h

theorem Leads.change_bind {I : Device σ → Prop} {f : Channel → Channel}
    {k : Unit → ChannelAttempt σ β} (h : Leads I ((k ()).run (f channel)) Q) :
    Leads I ((Channel.change f >>= k).run channel) Q :=
  h

theorem Ends.channel_bind {m : ChannelM σ α} {k : α → ChannelM σ β}
    {Q : β × Channel → Device σ → Prop} {R : α × Channel → Device σ → Prop}
    (h : Ends (m channel) device R) (hk : ∀ a c d, R (a, c) d → Ends (k a c) d Q) :
    Ends ((m >>= k) channel) device Q :=
  Ends.bind h fun r d hR => hk r.1 r.2 d hR

theorem Ends.given_bind {k : Channel → ChannelM σ β} {Q : β × Channel → Device σ → Prop}
    (h : Ends (k channel channel) device Q) : Ends ((get >>= k : ChannelM σ β) channel) device Q :=
  h

theorem Ends.lift_bind {m : DeviceM σ α} {k : α → ChannelM σ β} {Q : β × Channel → Device σ → Prop}
    {R : α → Device σ → Prop} (h : Ends m device R)
    (hk : ∀ a d, R a d → Ends (k a channel) d Q) :
    Ends ((StateT.lift m >>= k : ChannelM σ β) channel) device Q := by
  show Ends ((m >>= fun a => Pure.pure (a, channel)) >>= fun r => k r.1 r.2) device Q
  refine Ends.bind (R := fun r d => R r.1 d ∧ r.2 = channel)
    (Ends.bind h fun _ _ hR => Ends.pure ⟨hR, rfl⟩) ?_
  rintro ⟨a, _⟩ d ⟨hR, rfl⟩
  exact hk a d hR

theorem Ends.attemptingOn {f : α → Outcome} {action : ChannelAttempt σ α}
    {Q : Outcome × Channel → Device σ → Prop}
    (h : Ends (action.run channel) device fun r d => Q (Outcome.ofResult f r.1, r.2) d) :
    Ends (SpiEthernet.attemptingOn f action channel) device Q :=
  Ends.bind h fun _ _ => Ends.pure

theorem Leads.attemptingOn {I : Device σ → Prop} {f : α → Outcome} {action : ChannelAttempt σ α}
    {Q : Outcome × Channel → Device σ → Prop}
    (h : Leads I (action.run channel) fun r d => Q (Outcome.ofResult f r.1, r.2) d) :
    Leads I (SpiEthernet.attemptingOn f action channel) Q :=
  Leads.bind h fun _ => Leads.pure fun _ => id

theorem Ends.looking {f : Channel → Outcome} {Q : Outcome × Channel → Device σ → Prop}
    (h : Q (f channel, channel) device) : Ends (SpiEthernet.looking f channel) device Q :=
  Ends.pure h

/-- Calls on a channel are carried out one after the other. -/
theorem Ends.mapM_cons {f : α → ChannelM σ β} {a : α} {rest : List α}
    {Q : List β × Channel → Device σ → Prop} {R : β × Channel → Device σ → Prop}
    (h : Ends (f a channel) device R)
    (hrest : ∀ b c d, R (b, c) d → Ends (rest.mapM f c) d fun r d' => Q (b :: r.1, r.2) d') :
    Ends ((a :: rest).mapM f channel) device Q := by
  rw [List.mapM_cons]
  show Ends (f a channel >>= fun r => rest.mapM f r.2 >>= fun rs =>
    Pure.pure (r.1 :: rs.1, rs.2)) device Q
  refine Ends.bind h ?_
  rintro ⟨b, c⟩ d hR
  exact Ends.bind (hrest b c d hR) fun _ _ => Ends.pure

theorem Ends.mapM_append {f : α → ChannelM σ β} {first rest : List α}
    {Q : List β × Channel → Device σ → Prop} {R : List β × Channel → Device σ → Prop}
    (h : Ends (first.mapM f channel) device R)
    (hrest : ∀ bs c d, R (bs, c) d → Ends (rest.mapM f c) d fun r d' => Q (bs ++ r.1, r.2) d') :
    Ends ((first ++ rest).mapM f channel) device Q := by
  rw [List.mapM_append]
  show Ends (first.mapM f channel >>= fun (bs, c) =>
    rest.mapM f c >>= fun (more, c) => Pure.pure (bs ++ more, c)) device Q
  refine Ends.bind h ?_
  rintro ⟨bs, c⟩ d hR
  exact Ends.bind (hrest bs c d hR) fun _ _ => Ends.pure

theorem Leads.mapM_cons {I : Device σ → Prop} {f : α → ChannelM σ β} {a : α} {rest : List α}
    {Q : List β × Channel → Device σ → Prop} {R : β × Channel → Device σ → Prop}
    (h : Leads I (f a channel) R)
    (hrest : ∀ b c, Leads (R (b, c)) (rest.mapM f c) fun r d => Q (b :: r.1, r.2) d) :
    Leads I ((a :: rest).mapM f channel) Q := by
  rw [List.mapM_cons]
  show Leads I (f a channel >>= fun r =>
    rest.mapM f r.2 >>= fun rs => Pure.pure (r.1 :: rs.1, rs.2)) Q
  refine Leads.bind h ?_
  rintro ⟨b, c⟩
  exact Leads.bind (hrest b c) fun _ => Leads.pure fun _ => id

/-- The last call on a channel comes behind all others. -/
theorem Leads.mapM_concat {I : Device σ → Prop} {f : α → ChannelM σ β} {first : List α} {last : α}
    {Q : List β × Channel → Device σ → Prop} {R : List β × Channel → Device σ → Prop}
    (h : Leads I (first.mapM f channel) R)
    (hlast : ∀ bs c, Leads (R (bs, c)) (f last c) fun r d => Q (bs ++ [r.1], r.2) d) :
    Leads I ((first ++ [last]).mapM f channel) Q := by
  simp only [List.mapM_append, List.mapM_cons, List.mapM_nil, pure_bind]
  show Leads I (first.mapM f channel >>= fun rs =>
    (f last rs.2 >>= fun r => Pure.pure ([r.1], r.2)) >>= fun more =>
      Pure.pure (rs.1 ++ more.1, more.2)) Q
  refine Leads.bind h ?_
  rintro ⟨bs, c⟩
  exact Leads.bind (R := fun r d => Q (bs ++ r.1, r.2) d)
    (Leads.bind (hlast bs c) fun _ => Leads.pure fun _ => id) fun _ => Leads.pure fun _ => id

end Channel

end SpiEthernet
