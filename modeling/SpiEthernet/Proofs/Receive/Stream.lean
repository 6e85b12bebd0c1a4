import SpiEthernet.Proofs.Interrupt.Sharing
import SpiEthernet.Proofs.Receive.Passage

/-!
# A received stream

What the segments brought to a socket is one stream of bytes. Reads cut it up differently from how
it came, and segments arrive while a read is under way, but whatever was read and whatever is still
unread, put one behind the other, are the bytes that the chip took.

* `receive_ends`, `peekByte_ends` : a call sees the stream as it is at one moment between its
  beginning and its end.
* `receive_stream` : calls read the stream as it came.
-/

namespace SpiEthernet

/-! ## Streams -/

/-- The receive ring of a socket holds the unread bytes of a stream and nothing else. -/
abbrev Chip.Streams (chip : Chip) (s : SocketId) (unread : List UInt8) : Prop :=
  chip.Passing s 0 unread

/-! ## Calls -/

section Calls

variable {σ : Type} [Host σ] [Wired σ]

namespace Habit

variable {H : Habit σ} {s : SocketId} {unread : List UInt8} {device : Device σ}
  (hok : H.ok device.board)

/-- Looking at the next received byte exchanges no frame that the driver writes. -/
theorem Travels.look_peekByte (s : SocketId) : H.Travels H.Looks (SpiEthernet.peekByte s).run := by
  have hlooks : ∀ frame, H.Looks frame → H.Looks frame := fun _ => id
  have hpending : H.Travels H.Looks (SpiEthernet.pendingRx s) :=
    settledWord hlooks s (r := .rxSize) rfl (by decide)
  refine sure_bind hpending fun available => ?_
  refine attempt_ite (pure _) (attempt ?_ fun _ => pure _)
  refine attempt (attempt_ite (fail _) (pure _)) fun _ => attempt_ite (pure _) ?_
  refine sure_bind (readWord hlooks _) fun pointer => ?_
  refine sure_bind (readBlock hlooks _ _) fun head => ?_
  exact sure_bind (readBlock hlooks _ _) fun tail => pure _

include hok

/-- A read takes the next bytes of the stream, as far as it has come at one moment between the
beginning and the end of the call. -/
theorem receive_ends (h : device.chip.Streams s unread) (room : Nat) :
    Ends (receive s room).run device fun r device' => ∃ answer seen later o, r = .ok answer ∧
      H.Received device o device' ∧ delivered s o = seen ++ later ∧
        answer.getD [] = (unread ++ seen).take room ∧
          device'.chip.Streams s ((unread ++ seen).drop room ++ later) := by
  unfold receive
  refine Ends.sure_bind (H.pendingRx_passing hok h) ?_
  rintro pending d1 ⟨seen, later, o1, hd1, hseen, h1, hpending⟩
  dsimp only
  rw [hpending]
  by_cases hnothing : (unread ++ seen).length = 0
  · have hnil := List.length_eq_zero_iff.1 hnothing
    rw [if_pos hnothing]
    have hstatus : H.Travels H.Looks (status s) := Travels.map (Travels.readByte (fun _ => id) _) _
    refine Ends.sure_bind (hstatus d1 hd1.ok) ?_
    rintro shown d2 hd2
    obtain ⟨o2, hd2, h2⟩ := hd2.passing h1
    rw [hnil, List.nil_append] at h2
    refine Ends.pure ⟨_, seen, later ++ delivered s o2, o1 ++ o2, rfl, hd1.trans hd2, ?_, ?_, ?_⟩
    · rw [delivered_append, hseen, List.append_assoc]
    · rw [hnil, List.take_nil]
      split <;> rfl
    · rw [hnil, List.drop_nil]
      exact h2
  rw [if_neg hnothing]
  by_cases hroom : room = 0
  · subst hroom
    rw [if_pos rfl]
    refine Ends.pure ⟨none, seen, later, o1, rfl, hd1, hseen, rfl, ?_⟩
    rw [List.drop_zero]
    exact h1
  rw [if_neg hroom]
  generalize hfound : unread ++ seen = found at *
  have hcount : min found.length room ≤ found.length := Nat.min_le_left _ _
  refine H.take_passing hd1.ok h1 (by rw [List.length_append]; omega) fun d2 o2 hd2 h2 => ?_
  rw [List.take_append_of_le_length hcount, Nat.min_comm, ← List.take_eq_take_min]
  have hdrop : found.drop (min found.length room) = found.drop room := by
    rcases Nat.le_total found.length room with hle | hle
    · rw [Nat.min_eq_left hle, List.drop_length, List.drop_eq_nil_of_le hle]
    · rw [Nat.min_eq_right hle]
  rw [List.drop_append_of_le_length hcount, hdrop, List.append_assoc] at h2
  refine Ends.pure ⟨_, seen, later ++ delivered s o2, _, rfl, hd1.trans hd2, ?_, ?_, ?_⟩
  · rw [delivered_append, hseen, List.append_assoc]
  · rw [hfound]
    rfl
  · rw [hfound]
    exact h2

/-- A peek shows the next byte of the stream, as far as it has come at one moment between the
beginning and the end of the call, and changes nothing. -/
theorem peekByte_ends (h : device.chip.Streams s unread) :
    Ends (peekByte s).run device fun r device' => H.Walked H.Looks device device' ∧
      ∃ seen later o, r = .ok (unread ++ seen).head? ∧ H.Received device o device' ∧
        delivered s o = seen ++ later ∧ device'.chip.Streams s (unread ++ seen ++ later) := by
  refine Ends.mono (Ends.and (Travels.look_peekByte s device hok) (R := fun r device' =>
    ∃ seen later o, r = .ok (unread ++ seen).head? ∧ H.Received device o device' ∧
      delivered s o = seen ++ later ∧ device'.chip.Streams s (unread ++ seen ++ later)) ?_)
    fun _ _ hboth => hboth
  unfold peekByte
  refine Ends.sure_bind (H.pendingRx_passing hok h) ?_
  rintro pending d1 ⟨seen, later, o1, hd1, hseen, h1, hpending⟩
  by_cases hnothing : pending = 0
  · have hnil : unread ++ seen = [] := by
      rw [hnothing] at hpending
      exact List.length_eq_zero_iff.1 hpending.symm
    rw [if_pos hnothing]
    refine Ends.pure ⟨seen, later, o1, ?_, hd1, hseen, h1⟩
    rw [hnil]
    rfl
  rw [if_neg hnothing]
  cases hfound : unread ++ seen with
  | nil =>
    rw [hfound] at hpending
    exact absurd (UInt16.toNat_inj.mp hpending) hnothing
  | cons byte rest =>
    rw [hfound] at h1
    have hsome : 0 + 1 ≤ (byte :: rest ++ later).length := Nat.succ_le_succ (Nat.zero_le _)
    refine Ends.attempt_of_ok (H.fetch_passing hd1.ok h1 1 hsome true) ?_
    rintro d2 ⟨o2, hd2, h2⟩
    rw [if_pos rfl] at h2
    refine Ends.pure ⟨seen, later ++ delivered s o2, _, ?_, hd1.trans hd2, ?_, ?_⟩
    · rw [hfound]
      rfl
    · rw [delivered_append, hseen, List.append_assoc]
    · rw [hfound, ← List.append_assoc]
      exact h2

end Habit

end Calls

/-! ## Sequences of calls -/

/-- A call that reads a stream. -/
inductive StreamCall where
  | receive (room : Nat)
  | peek
deriving DecidableEq, Repr

/-- The operation on the socket. -/
def StreamCall.onSocket : StreamCall → SocketOperation
  | receive room => .receive room
  | peek => .peek

/-- The bytes that an answer brings. -/
def Outcome.taken : Outcome → List UInt8
  | .bytes data => data
  | _ => []

section Sequences

variable {σ : Type} [Host σ] [Wired σ] {H : Habit σ} {s : SocketId}

/-- What was unread, and behind it what arrives, is what a call takes, and behind it what is unread
then. -/
theorem StreamCall.perform_ends {unread : List UInt8} {device : Device σ} (hok : H.ok device.board)
    (h : device.chip.Streams s unread) (call : StreamCall) :
    Ends (call.onSocket.perform s) device fun outcome device' => ∃ o unread',
      H.Received device o device' ∧ unread ++ delivered s o = outcome.taken ++ unread' ∧
        device'.chip.Streams s unread' := by
  cases call with
  | receive room =>
    refine Ends.bind (H.receive_ends hok h room) ?_
    rintro _ d1 ⟨answer, seen, later, o, rfl, hd1, hseen, htaken, h1⟩
    refine Ends.pure ⟨o, _, hd1, ?_, h1⟩
    have hbytes : (Outcome.ofResult (Outcome.ofOption .bytes) (.ok answer)).taken =
        (unread ++ seen).take room := by
      rw [← htaken]
      cases answer <;> rfl
    rw [hbytes, hseen, ← List.append_assoc, ← List.append_assoc, List.take_append_drop]
  | peek =>
    refine Ends.bind (H.peekByte_ends hok h) ?_
    rintro _ d1 ⟨-, seen, later, o, rfl, hd1, hseen, h1⟩
    refine Ends.pure ⟨o, _, hd1, ?_, h1⟩
    have hbytes : (Outcome.ofResult (Outcome.ofOption ofByte)
        (.ok (unread ++ seen).head?)).taken = [] := by
      cases (unread ++ seen).head? <;> rfl
    rw [hbytes, hseen, List.nil_append, List.append_assoc]

theorem StreamCall.performAll_ends (calls : List StreamCall) :
    ∀ {device : Device σ} {unread : List UInt8}, H.ok device.board →
      device.chip.Streams s unread →
      Ends (calls.mapM fun call => call.onSocket.perform s) device fun outcomes device' =>
        ∃ o unread', H.Received device o device' ∧
          unread ++ delivered s o = outcomes.flatMap Outcome.taken ++ unread' ∧
            device'.chip.Streams s unread' := by
  induction calls with
  | nil =>
    intro device unread hok h
    exact Ends.pure ⟨[], unread, .refl hok, List.append_nil _, h⟩
  | cons call calls ih =>
    intro device unread hok h
    rw [List.mapM_cons]
    refine Ends.bind (call.perform_ends hok h) ?_
    rintro outcome d1 ⟨o1, unread1, hd1, hsplit1, h1⟩
    refine Ends.bind (ih hd1.ok h1) ?_
    rintro outcomes d2 ⟨o2, unread2, hd2, hsplit2, h2⟩
    refine Ends.pure ⟨o1 ++ o2, unread2, hd1.trans hd2, ?_, h2⟩
    rw [delivered_append, ← List.append_assoc, hsplit1, List.flatMap_cons, List.append_assoc,
      hsplit2, List.append_assoc]

end Sequences

/-! ## Order -/

/-- Bytes of a stream have been put into a buffer: the next ones, at the beginning of the buffer,
and nothing behind them. -/
structure PutInto (buffer stream bytes : List UInt8) : Prop where
  fits : bytes.length ≤ buffer.length
  next : bytes <+: stream
  filled : fill buffer (.ok bytes) = stream.take bytes.length ++ buffer.drop bytes.length

/-- The next read fills the beginning of its buffer with bytes that are unread or arrive meanwhile,
and with at least one if there is room and something is unread when it begins. -/
def ReadsNext (s : SocketId) (unread : List UInt8) (device : Device Board) : Prop :=
  ∀ buffer, Ends (receive s buffer.length).run device fun r device' => ∃ answer, r = .ok answer ∧
    (∀ bytes, answer = some bytes → PutInto buffer (unread ++ delivered s
      ((Wired.endpoint device'.board).occurrencesSince (Wired.endpoint device.board))) bytes) ∧
    (unread ≠ [] → 0 < buffer.length → ∃ byte rest, answer = some (byte :: rest))

/-- A peek shows the next unread byte, which is the first one of the next read, and exchanges no
frame of the driver that writes. -/
def PeeksNext (s : SocketId) (unread : List UInt8) (device : Device Board) : Prop :=
  Ends (peekByte s).run device fun r device' =>
    Habit.free.Walked Habit.free.Looks device device' ∧ ∃ shown, r = .ok shown ∧
      (unread ≠ [] → shown = unread.head?) ∧
      ∀ byte, shown = some byte → ∀ room, 0 < room →
        Ends (receive s room).run device' fun r _ => ∃ rest, r = .ok (some (byte :: rest))

section Next

variable {s : SocketId} {unread : List UInt8} {device : Device Board}

/-- A read that has room for a byte takes the next one if there is one. -/
theorem Chip.Streams.receive_cons {byte : UInt8} {rest : List UInt8}
    (hok : Habit.free.ok device.board) (h : device.chip.Streams s (byte :: rest)) {room : Nat}
    (hroom : 0 < room) :
    Ends (receive s room).run device fun r _ => ∃ more, r = .ok (some (byte :: more)) := by
  refine (Habit.receive_ends hok h room).mono ?_
  rintro _ _ ⟨answer, seen, later, o, rfl, -, -, htaken, -⟩
  obtain ⟨room, rfl⟩ := Nat.exists_eq_succ_of_ne_zero (Nat.ne_of_gt hroom)
  rw [List.cons_append, List.take_succ_cons] at htaken
  cases answer with
  | none => cases htaken
  | some bytes => exact ⟨_, congrArg (fun bytes => Except.ok (some bytes)) htaken⟩

theorem PutInto.of_next {buffer stream bytes : List UInt8} (hfits : bytes.length ≤ buffer.length)
    (hnext : bytes <+: stream) : PutInto buffer stream bytes := by
  refine ⟨hfits, hnext, ?_⟩
  rw [← List.prefix_iff_eq_take.1 hnext]
  rfl

theorem Chip.Streams.readsNext (hok : Habit.free.ok device.board)
    (h : device.chip.Streams s unread) : ReadsNext s unread device := by
  intro buffer
  have hnext : Ends (receive s buffer.length).run device fun r _ =>
      unread ≠ [] → 0 < buffer.length → ∃ byte rest, r = .ok (some (byte :: rest)) := by
    by_cases hsome : unread ≠ [] ∧ 0 < buffer.length
    · obtain ⟨byte, rest, rfl⟩ := List.exists_cons_of_ne_nil hsome.1
      exact (h.receive_cons hok hsome.2).mono fun _ _ hr _ _ => ⟨byte, hr⟩
    · exact (Habit.receive_ends hok h buffer.length).mono fun _ _ _ hunread hroom =>
        absurd ⟨hunread, hroom⟩ hsome
  refine ((Habit.receive_ends hok h buffer.length).and hnext).mono ?_
  rintro _ device' ⟨⟨answer, seen, later, o, rfl, hd, hseen, htaken, -⟩, hsome⟩
  refine ⟨answer, rfl, ?_, fun hunread hroom => ?_⟩
  · rintro _ rfl
    obtain rfl : _ = (unread ++ seen).take buffer.length := htaken
    rw [hd.passes.occurrencesSince, hseen, ← List.append_assoc]
    exact .of_next (List.length_take_le _ _)
      ((List.take_prefix _ _).trans (List.prefix_append _ _))
  · obtain ⟨byte, rest, hr⟩ := hsome hunread hroom
    exact ⟨byte, rest, Except.ok.inj hr⟩

theorem Chip.Streams.peeksNext (hok : Habit.free.ok device.board)
    (h : device.chip.Streams s unread) : PeeksNext s unread device := by
  refine (Habit.peekByte_ends hok h).mono ?_
  rintro _ device' ⟨hlooks, seen, later, o, rfl, hd, -, h'⟩
  refine ⟨hlooks, _, rfl, fun hunread => ?_, fun byte hbyte room hroom => ?_⟩
  · obtain ⟨byte, rest, rfl⟩ := List.exists_cons_of_ne_nil hunread
    rfl
  · obtain ⟨rest, hfound⟩ := List.head?_eq_some_iff.1 hbyte
    rw [hfound, List.cons_append] at h'
    exact h'.receive_cons hd.ok hroom

end Next

/-- Calls read what is unread and what the chip takes meanwhile, in order, each byte once and none
left out: what was taken and what is unread then are what was unread before and what has arrived. The
next read takes what comes next, and a peek shows it and leaves it where it is. -/
theorem receive_stream {device : Device Board} {s : SocketId} {unread : List UInt8}
    (h : device.chip.Streams s unread) (calls : List StreamCall) :
    Ends (calls.mapM fun call => call.onSocket.perform s) device fun outcomes device' =>
      ∃ left, unread ++ delivered s ((Wired.endpoint device'.board).occurrencesSince
          (Wired.endpoint device.board)) = outcomes.flatMap Outcome.taken ++ left ∧
        device'.chip.Streams s left ∧ ReadsNext s left device' ∧ PeeksNext s left device' := by
  obtain ⟨inlet, hcarries, -⟩ := id h
  have hok : Habit.free.ok device.board := hcarries.steady
  refine (StreamCall.performAll_ends calls hok h).mono ?_
  rintro outcomes device' ⟨o, left, hd, hsplit, h'⟩
  refine ⟨left, ?_, h', h'.readsNext hd.ok, h'.peeksNext hd.ok⟩
  rw [hd.passes.occurrencesSince]
  exact hsplit

/-- A chip whose third socket has been set to TCP, with its pointers close to their end, and to
which a segment is going to arrive. -/
def Chip.attending : Chip :=
  (((Chip.new none).setByteOf .mode 2 SocketMode.tcp.code).schedule 20 (.tcp 2 [4, 5])).setPointers
    2 0 0xFFFE

/-- The chip after another segment has arrived. -/
def Chip.streaming : Chip := attending.happen (.tcp 2 [1, 2, 3])

theorem Chip.streams_streaming : streaming.Streams 2 [1, 2, 3] := by
  have hset : ((Chip.new none).setByteOf .mode 2 SocketMode.tcp.code).Steady :=
    ⟨rfl, fun _ hs => absurd hs List.not_mem_nil⟩
  have hempty : attending.Carries 2 (.empty .udp 0xFFFE) :=
    carries_setPointers (hset.schedule 20 rfl) 0 0xFFFE
  have htaken : attending.accepts (.tcp 2 [1, 2, 3]) = true := by
    rw [accepts_of_delivery rfl, hempty.toNat_size]
    rfl
  have hafter := hempty.happen (show (Event.tcp 2 [1, 2, 3]).isOrdinary from rfl)
  rw [occurrence, htaken] at hafter
  exact hafter.passing

/-- A board with such a chip, with the handler connected to its interrupt line. -/
def Board.streaming : Board := Board.pristine.withChip Chip.streaming

theorem receive_stream_streaming :
    Ends ([.receive 2, .peek, .receive 8].mapM fun call : StreamCall => call.onSocket.perform 2)
      ⟨Board.streaming, Controller.new⟩ fun outcomes device' => ∃ left,
        [1, 2, 3] ++ delivered 2 ((Wired.endpoint device'.board).occurrencesSince
          (Wired.endpoint Board.streaming)) = outcomes.flatMap Outcome.taken ++ left ∧
        device'.chip.Streams 2 left ∧ ReadsNext 2 left device' ∧ PeeksNext 2 left device' := by
  have h : (Device.chip ⟨Board.streaming, Controller.new⟩).Streams 2 [1, 2, 3] := by
    rw [Board.streaming, Board.chip_withChip]
    exact Chip.streams_streaming
  exact receive_stream h _

end SpiEthernet
