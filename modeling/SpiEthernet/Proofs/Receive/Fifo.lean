import SpiEthernet.Proofs.Interrupt.Sharing
import SpiEthernet.Proofs.Receive.Opening

/-!
# Datagrams leave in the order in which they came

Calls that receive give back the datagrams that the chip took, oldest first, each once and none
mixed with another, no matter where the ring is entered, when the datagrams arrive, and how much of
each there is room for. A socket that has just been opened begins with what has arrived since then
(`Habit.Opened.stocked`), and whatever pointers a ring is emptied at, it begins with nothing
(`Chip.holds_setPointers`).

* `receiveInto_ends` : a call takes the oldest datagram, or there is none.
* `receiveAll_ends` : what was waiting and what arrives is what was taken and what waits.
* `receiveFrom_fifo` : the same with the descriptions and the buffers that the callers get back.
-/

namespace SpiEthernet

/-! ## Calls -/

/-- What a call hands to its caller if it takes a datagram or none: the description of the datagram,
and the buffer with the beginning of the payload in it, unchanged behind that. -/
def handed (framing : Framing) (buffer : List UInt8) :
    Option Datagram → Option DatagramInfo × List UInt8
  | some d =>
    (some (d.info framing), d.payload.take buffer.length ++ buffer.drop d.payload.length)
  | none => (none, buffer)

/-- If a call takes the oldest datagram, and what waits then comes first among what the next calls
take, what was waiting before comes first among what all of them take. -/
theorem take_waiting_cons {waiting arrived left : List Datagram} {first : Option Datagram}
    {rest : List (Option Datagram)} {calls : Nat} (hnone : first = none → waiting = [])
    (hsplit : waiting ++ arrived = first.toList ++ left)
    (hrest : (left.take calls).map some <+: rest) :
    (waiting.take (calls + 1)).map some <+: first :: rest := by
  cases waiting with
  | nil => exact List.nil_prefix
  | cons d waiting =>
    cases first with
    | none => cases hnone rfl
    | some first =>
      obtain ⟨rfl, rfl⟩ := List.cons.inj hsplit
      have hkept : waiting.take calls <+: (waiting ++ arrived).take calls :=
        List.prefix_take_iff.2
          ⟨(List.take_prefix _ _).trans (List.prefix_append _ _), List.length_take_le _ _⟩
      exact List.cons_prefix_cons.2 ⟨rfl, (hkept.map some).trans hrest⟩

section Fifo

variable {σ : Type} [Host σ] [Wired σ] {s : SocketId} {framing : Framing}

namespace Habit

variable {H : Habit σ}

/-- A call takes the oldest datagram, and none only if none was waiting when it began. -/
theorem receiveInto_ends {device : Device σ} {waiting : List Datagram} (hok : H.ok device.board)
    (h : device.chip.Stocked s framing [] [] waiting) (buffer : List UInt8) :
    Ends (receiveInto s buffer).run device fun r device' => ∃ o taken left,
      r = .ok (handed framing buffer taken) ∧ H.Received device o device' ∧
        waiting ++ arrivals s o = taken.toList ++ left ∧ (taken = none → waiting = []) ∧
          device'.chip.Stocked s framing [] [] left := by
  unfold receiveInto
  refine Ends.attempt (H.receiveFrom_ends hok h buffer.length) ?_ ?_
  · rintro result d1 ⟨o, hd1, ⟨hr, hnone, h1⟩ | ⟨d, later, hr, hnext, h1⟩⟩
    · cases hr
      exact Ends.pure ⟨o, none, _, rfl, hd1, rfl, fun _ => hnone, h1⟩
    · cases hr
      refine Ends.pure ⟨o, some d, later, ?_, hd1, hnext, nofun, h1⟩
      rw [fill_take]
      rfl
  · rintro cause d1 ⟨o, -, ⟨hr, -⟩ | ⟨d, later, hr, -⟩⟩
    · cases hr
    · cases hr

/-- What was waiting, and behind it what arrives, is what the calls take, and behind it what is
waiting then. What was waiting when the first of them began comes first, one datagram with every
call. -/
theorem receiveAll_ends (buffers : List (List UInt8)) :
    ∀ {device : Device σ} {waiting : List Datagram}, H.ok device.board →
      device.chip.Stocked s framing [] [] waiting →
      Ends (buffers.mapM (receiveInto s)).run device fun r device' =>
        ∃ (o : List Occurrence) (taken : List (Option Datagram)) (left : List Datagram),
          r = .ok (List.zipWith (handed framing) buffers taken) ∧ H.Received device o device' ∧
          taken.length = buffers.length ∧
          waiting ++ arrivals s o = taken.filterMap id ++ left ∧
          (waiting.take buffers.length).map some <+: taken ∧
          device'.chip.Stocked s framing [] [] left := by
  induction buffers with
  | nil =>
    intro device waiting hok h
    exact Ends.pure ⟨[], [], waiting, rfl, .refl hok, rfl, by simp, List.prefix_rfl, h⟩
  | cons buffer buffers ih =>
    intro device waiting hok h
    rw [List.mapM_cons]
    refine Ends.attempt (H.receiveInto_ends hok h buffer) ?_ ?_
    · rintro _ d1 ⟨o1, first, left1, hr, hd1, hsplit1, hnone, h1⟩
      cases hr
      refine Ends.attempt (ih hd1.ok h1) ?_ (by rintro _ _ ⟨_, _, _, hr, -⟩; cases hr)
      rintro _ d2 ⟨o2, rest, left, hr, hd2, hlength, hsplit2, hfirst, h2⟩
      cases hr
      refine Ends.pure ⟨o1 ++ o2, first :: rest, left, rfl, hd1.trans hd2,
        congrArg Nat.succ hlength, ?_, take_waiting_cons hnone hsplit1 hfirst, h2⟩
      rw [arrivals_append, ← List.append_assoc, hsplit1, List.append_assoc, hsplit2]
      cases first <;> rfl
    · rintro cause d1 ⟨_, _, _, hr, -⟩
      cases hr

end Habit

end Fifo

/-! ## Order -/

variable {s : SocketId} {framing : Framing}

/-- Calls that receive datagrams give back those that were waiting and those that the chip takes
meanwhile, oldest first and each once, and the others go on waiting. Every call that takes one
describes the whole of it and puts as much of the payload as fits into its caller's buffer. What was
waiting when the first call began comes first, one datagram with every call; and a call gives
nothing back only if nothing was waiting when it began. -/
theorem receiveFrom_fifo {device : Device Board} {waiting : List Datagram}
    (h : device.chip.Stocked s framing [] [] waiting) (buffers : List (List UInt8)) :
    Ends (buffers.mapM (receiveInto s)).run device fun r device' =>
      ∃ (taken : List (Option Datagram)) (left : List Datagram),
        r = .ok (List.zipWith (handed framing) buffers taken) ∧ taken.length = buffers.length ∧
        waiting ++ arrivals s ((Wired.endpoint device'.board).occurrencesSince
          (Wired.endpoint device.board)) = taken.filterMap id ++ left ∧
        (waiting.take buffers.length).map some <+: taken ∧
        device'.chip.Stocked s framing [] [] left ∧
        ∀ buffer, Ends (receiveInto s buffer).run device' fun next _ =>
          next = .ok (none, buffer) → left = [] := by
  obtain ⟨start, hholds⟩ := id h
  have hok : Habit.free.ok device.board := hholds.steady
  refine (Habit.receiveAll_ends buffers hok h).mono ?_
  rintro _ device' ⟨o, taken, left, rfl, hreceived, hlength, hsplit, hfirst, hstocked⟩
  refine ⟨taken, left, rfl, hlength, ?_, hfirst, hstocked, fun buffer => ?_⟩
  · rw [hreceived.passes.occurrencesSince]
    exact hsplit
  · refine (Habit.receiveInto_ends hreceived.ok hstocked buffer).mono ?_
    rintro _ _ ⟨_, next, _, rfl, -, -, hnone, -⟩ hnext
    cases next with
    | none => exact hnone rfl
    | some d => cases hnext

/-- A chip whose first socket has been set to raw IP, with its pointers close to their end, and to
which a datagram is going to arrive. -/
def Chip.unladen : Chip :=
  (((Chip.new none).setByteOf .mode 0 SocketMode.ipRaw.code).schedule 2
    (.ipRaw 0 ⟨10, 0, 0, 9⟩ [105])).setPointers 0 0 0xFFFE

/-- The chip after two other datagrams have arrived. -/
def Chip.laden : Chip :=
  (unladen.happen (.ipRaw 0 ⟨10, 0, 0, 9⟩ [97, 98, 99, 100, 101, 102])).happen
    (.ipRaw 0 ⟨10, 0, 0, 9⟩ [103, 104])

theorem Chip.stocked_laden : laden.Stocked 0 .ipRaw [] []
    [⟨⟨10, 0, 0, 9⟩, 0, [97, 98, 99, 100, 101, 102]⟩, ⟨⟨10, 0, 0, 9⟩, 0, [103, 104]⟩] := by
  have hset : ((Chip.new none).setByteOf .mode 0 SocketMode.ipRaw.code).Steady :=
    ⟨rfl, fun _ hs => absurd hs List.not_mem_nil⟩
  have hempty : unladen.Holds 0 ((Inlet.empty .ipRaw 0xFFFE).after 0 []) := by
    rw [Inlet.after_nil]
    refine holds_setPointers (hset.schedule 2 rfl) 0 0xFFFE ?_ ?_
    · show Framing.ofRegister (Chip.byteOf (Chip.setByteOf _ _ _ _) _ _) = _
      rw [byteOf_setByteOf, if_pos ⟨rfl, rfl⟩]
      rfl
    · intro scheduled hs
      rw [List.mem_singleton.1 hs]
      rfl
  exact (hempty.stocked.happen rfl (by decide)).happen rfl (by decide)

/-- A board with such a chip, with the handler connected to its interrupt line. -/
def Board.laden : Board := Board.pristine.withChip Chip.laden

/-- The first datagram is cut off where the buffer ends, and the second one leaves the rest of its
buffer alone. -/
theorem receiveFrom_fifo_laden :
    Ends ([[1, 2, 3, 4], [5, 6, 7, 8]].mapM (receiveInto 0)).run ⟨Board.laden, Controller.new⟩
      fun r device' => r = .ok
          [(some ⟨⟨10, 0, 0, 9⟩, 0, 6⟩, [97, 98, 99, 100]),
            (some ⟨⟨10, 0, 0, 9⟩, 0, 2⟩, [103, 104, 7, 8])] ∧
        device'.chip.Stocked 0 .ipRaw [] [] (arrivals 0
          ((Wired.endpoint device'.board).occurrencesSince (Wired.endpoint Board.laden))) := by
  have h := Chip.stocked_laden
  rw [← Board.chip_withChip Board.pristine Chip.laden Controller.new] at h
  refine (receiveFrom_fifo h [[1, 2, 3, 4], [5, 6, 7, 8]]).mono ?_
  rintro _ device' ⟨taken, left, rfl, hlength, hsplit, hfirst, hstocked, -⟩
  obtain rfl := hfirst.eq_of_length hlength.symm
  obtain rfl := List.append_cancel_left hsplit
  exact ⟨rfl, hstocked⟩

end SpiEthernet
