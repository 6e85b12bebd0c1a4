import SpiEthernet.Proofs.Send.Transmission

/-!
# Datagrams in the making

A datagram is written in pieces, each behind the ones before it, at an offset that the channel
counts. The transmit pointer follows, so that in the end it stands behind the last piece. As long
as nothing has been written, it stands where it was found, and so does whatever it was moved over
before.

* `stage_draft` : pieces that are staged one behind the other are one piece.
* `writePacket_ends` : a piece is added behind the others as far as it fits.
* `payload_draft` : a draft leaves as it was written, if anything was written.
-/

namespace SpiEthernet

/-! ## Drafts -/

namespace Outlet

/-- The outlet with the first bytes of a datagram staged behind its start. As long as there are
none, it is left as it was found. -/
def draft (outlet : Outlet) (content : List UInt8) : Outlet :=
  if content.isEmpty then outlet
  else { outlet with pointer := outlet.start + UInt16.ofNat content.length, bytes := content }

variable (outlet : Outlet) (content : List UInt8)

theorem draft_cons (byte : UInt8) (rest : List UInt8) :
    outlet.draft (byte :: rest) = { outlet with
      pointer := outlet.start + UInt16.ofNat (rest.length + 1), bytes := byte :: rest } := rfl

theorem free_draft : (outlet.draft content).free = outlet.free := by
  cases content <;> rfl

theorem timesOut_draft : (outlet.draft content).timesOut = outlet.timesOut := by
  cases content <;> rfl

/-- No byte of a draft is beyond what is known of the ring. -/
theorem length_le_draft : content.length ≤ (outlet.draft content).bytes.length := by
  cases content with
  | nil => exact Nat.zero_le _
  | cons => exact Nat.le_refl _

/-- Bytes that are staged behind a draft make a longer draft. -/
theorem stage_draft (more : List UInt8) (hfits : content.length ≤ 2048) :
    (outlet.draft content).stage (UInt16.ofNat content.length) more =
      outlet.draft (content ++ more) := by
  have hoffset : (UInt16.ofNat content.length).toNat = content.length := by
    rw [UInt16.toNat_ofNat']
    omega
  cases more with
  | nil =>
    rw [List.append_nil]
    rfl
  | cons byte more =>
    rw [stage, if_neg (by simp), hoffset]
    cases content with
    | nil =>
      show { outlet with pointer := outlet.start + 0 + _, bytes := _ } = _
      rw [UInt16.add_zero]
      rfl
    | cons first rest =>
      have htake : (first :: rest).take (rest.length + 1) = first :: rest :=
        List.take_of_length_le (Nat.le_refl _)
      have hpointer : outlet.start + UInt16.ofNat (rest.length + 1) +
          UInt16.ofNat (more.length + 1) =
            outlet.start + UInt16.ofNat ((rest ++ byte :: more).length + 1) := by
        rw [UInt16.add_assoc, ← UInt16.ofNat_add, List.length_append, List.length_cons]
        congr 2
        omega
      simp only [draft_cons, List.cons_append, List.length_cons, htake, hpointer]

/-- A draft with something written leaves as it was written, whatever was staged before. -/
theorem payload_draft_of_ne_nil (hcontent : content ≠ []) (hfits : content.length ≤ 2048) :
    (outlet.draft content).Sound ∧ (outlet.draft content).payload = content := by
  cases content with
  | nil => exact absurd rfl hcontent
  | cons byte rest =>
    have hlength : (outlet.start + UInt16.ofNat (rest.length + 1) - outlet.start).toNat =
        rest.length + 1 := by
      have hfits : rest.length + 1 ≤ 2048 := hfits
      have hstart := outlet.start.toNat_lt
      rw [UInt16.toNat_sub, UInt16.toNat_add, UInt16.toNat_ofNat']
      omega
    refine ⟨Nat.le_of_eq hlength, ?_⟩
    rw [payload, draft_cons]
    show (byte :: rest).take
      (outlet.start + UInt16.ofNat (rest.length + 1) - outlet.start).toNat = _
    rw [hlength]
    exact List.take_of_length_le (Nat.le_refl _)

/-- A draft leaves as it was written. If nothing was written, whatever was staged before leaves. -/
theorem payload_draft (hfits : content.length ≤ 2048) (hsound : outlet.Sound) :
    (outlet.draft content).Sound ∧ (outlet.draft content).payload =
      if content.isEmpty then outlet.payload else content := by
  cases content with
  | nil => exact ⟨hsound, rfl⟩
  | cons byte rest => exact outlet.payload_draft_of_ne_nil _ (List.cons_ne_nil _ _) hfits

end Outlet

/-! ## On a channel -/

/-- What a call answers that adds a chunk to a datagram with a certain room left. -/
def writeOutcome (room : Nat) (chunk : List UInt8) : Outcome :=
  if chunk ≠ [] ∧ room = 0 then .failed (.insufficientSpace chunk.length 0)
  else .number (chunk.take room).length

/-- What the calls answer that add chunks, one behind the other. -/
def writeOutcomes : Nat → List (List UInt8) → List Outcome
  | _, [] => []
  | room, chunk :: rest => writeOutcome room chunk :: writeOutcomes (room - chunk.length) rest

theorem nothing_fits_iff (room : Nat) (chunk : List UInt8) :
    ((chunk.take room).length = 0 && !chunk.isEmpty) = true ↔ chunk ≠ [] ∧ room = 0 := by
  cases chunk <;> cases room <;> simp

namespace Channel

section Drafts

variable {σ : Type} [Host σ] [Wired σ]

/-- The first bytes of a datagram have been written on a channel. -/
structure Drafts (H : Habit σ) (outlet : Outlet) (content : List UInt8) (s : SocketId)
    (channel : Channel) (device : Device σ) : Prop where
  socket : channel.socket = s
  written : channel.written = some (UInt16.ofNat content.length)
  fits : content.length ≤ outlet.free.toNat
  offers : H.Offers s (outlet.draft content) device

variable {H : Habit σ} {outlet : Outlet} {content : List UInt8} {s : SocketId} {channel : Channel}
  {device : Device σ}

/-- A datagram is begun with nothing in it. -/
theorem beginPacket_ends (hsocket : channel.socket = s)
    (h : H.Offers s outlet device) {ip : Ipv4} {port : UInt16}
    (hip : ip ≠ Ipv4.unspecified) (hport : port ≠ 0) :
    Ends ((beginPacket ip port).run channel) device fun r device' => r.1 = .ok () ∧
      Drafts H { outlet with destination := ip, destinationPort := port } [] s r.2 device' := by
  subst hsocket
  unfold beginPacket
  refine Ends.socket_bind_of_ok (H.startDatagram_ends h hip hport) ?_
  exact fun d hd => Ends.pure ⟨rfl, rfl, rfl, Nat.zero_le _, hd⟩

/-- A piece is added behind the others as far as it fits; it is a failure if nothing does. -/
theorem writePacket_ends (h : Drafts H outlet content s channel device)
    (hfree : outlet.free.toNat ≤ 2048) (chunk : List UInt8) :
    Ends ((writePacket chunk).run channel) device fun r device' =>
      Outcome.ofResult .number r.1 = writeOutcome (outlet.free.toNat - content.length) chunk ∧
        Drafts H outlet (content ++ chunk.take (outlet.free.toNat - content.length)) s r.2
          device' := by
  obtain ⟨rfl, hwritten, hfits, hoffers⟩ := h
  have hoffset : (UInt16.ofNat content.length).toNat = content.length := by
    rw [UInt16.toNat_ofNat']
    omega
  have hknown := outlet.length_le_draft content
  have hsame := outlet.free_draft content
  have hbuffer := H.buffer_ends hoffers chunk (hsame ▸ hfree)
    (fun _ => Nat.le_trans (Nat.le_of_eq hoffset) hknown)
  rw [Outlet.stage_draft _ _ _ (Nat.le_trans hfits hfree), hoffset, hsame] at hbuffer
  generalize hroom : outlet.free.toNat - content.length = room at hbuffer ⊢
  unfold writePacket
  refine Ends.current_bind ?_
  rw [hwritten]
  refine Ends.socket_bind_of_ok hbuffer ?_
  intro d1 h1
  by_cases hnothing : chunk ≠ [] ∧ room = 0
  · -- nothing fits, so what is staged is still the draft as it was
    rw [if_pos ((nothing_fits_iff room chunk).2 hnothing)]
    obtain ⟨hsome, rfl⟩ := hnothing
    rw [List.take_zero, List.append_nil] at h1 ⊢
    refine Ends.socket_bind_of_ok (a := outlet.free)
      (R := fun d => H.Offers channel.socket (outlet.draft content) d)
      (Ends.sure ((H.freeTx_ends h1).mono ?_)) ?_
    · rintro _ d ⟨rfl, hd⟩
      exact ⟨congrArg Except.ok hsame, hd⟩
    · intro d hd
      refine Ends.pure ⟨?_, rfl, hwritten, hfits, hd⟩
      rw [hoffset, hroom, writeOutcome, if_pos ⟨hsome, rfl⟩]
      rfl
  · rw [if_neg fun hstuck => hnothing ((nothing_fits_iff room chunk).1 hstuck)]
    refine Ends.change_bind (Ends.pure ⟨?_, rfl, ?_, ?_, h1⟩)
    · rw [writeOutcome, if_neg hnothing]
      rfl
    · rw [List.length_append, UInt16.ofNat_add]
    · rw [List.length_append, List.length_take]
      omega

/-- The pieces of a datagram are added one behind the other, as far as they fit. -/
theorem writeChunks_ends (hfree : outlet.free.toNat ≤ 2048) (chunks : List (List UInt8)) :
    ∀ {content : List UInt8} {channel : Channel} {device : Device σ},
      Drafts H outlet content s channel device →
      Ends ((chunks.map ChannelOperation.writePacket).mapM ChannelOperation.perform channel) device
        fun r device' =>
          r.1 = writeOutcomes (outlet.free.toNat - content.length) chunks ∧
            Drafts H outlet (content ++ chunks.flatten.take (outlet.free.toNat - content.length)) s
              r.2 device' := by
  induction chunks with
  | nil =>
    intro content channel device h
    refine Ends.pure ⟨rfl, ?_⟩
    rw [List.flatten_nil, List.take_nil, List.append_nil]
    exact h
  | cons chunk rest ih =>
    intro content channel device h
    refine Ends.mapM_cons (Ends.attemptingOn (Q := fun r d =>
      r.1 = writeOutcome (outlet.free.toNat - content.length) chunk ∧
        Drafts H outlet (content ++ chunk.take (outlet.free.toNat - content.length)) s r.2 d)
      (writePacket_ends h hfree chunk)) ?_
    rintro _ channel' d ⟨rfl, hd⟩
    refine (ih hd).mono ?_
    rintro ⟨outcomes, channel''⟩ d' ⟨houtcomes, hd'⟩
    -- what is left of the room behind the chunk
    have hroom : outlet.free.toNat - (content ++
        chunk.take (outlet.free.toNat - content.length)).length =
          outlet.free.toNat - content.length - chunk.length := by
      rw [List.length_append, List.length_take]
      omega
    rw [hroom] at houtcomes hd'
    refine ⟨congrArg (_ :: ·) houtcomes, ?_⟩
    rw [List.flatten_cons, List.take_append, ← List.append_assoc]
    exact hd'

/-- The datagram that was begun leaves as it was written. -/
theorem endPacket_ends (hH : H.Calm) (h : Drafts H outlet content s channel device)
    (hfree : outlet.free.toNat ≤ 2048) (hsound : outlet.Sound) :
    Ends (endPacket.run channel) device fun r device' =>
      r.1 = (if outlet.timesOut then .error .sendTimeout else .ok ()) ∧ r.2.socket = s ∧
        H.Offers s ((outlet.draft content).transmitted s) device' := by
  obtain ⟨rfl, hwritten, hfits, hoffers⟩ := h
  obtain ⟨hknown, -⟩ := outlet.payload_draft content (Nat.le_trans hfits hfree) hsound
  unfold endPacket
  refine Ends.current_bind ?_
  rw [hwritten]
  refine Ends.change_bind (Ends.onSocket ?_)
  refine (Habit.sendDatagram_ends hH hoffers hknown).mono ?_
  rintro r d ⟨hr, hd⟩
  rw [outlet.timesOut_draft] at hr
  exact ⟨hr, rfl, hd⟩

end Drafts

end Channel

/-! ## In one go -/

section Whole

variable {σ : Type} [Host σ] [Wired σ] {H : Habit σ} {s : SocketId} {outlet : Outlet}
  {device : Device σ}

/-- Data that are handed over as a whole are staged as a whole, or not at all. -/
theorem Habit.stageWhole_drafts (h : H.Offers s outlet device) (data : List UInt8)
    (hfree : outlet.free.toNat ≤ 2048) :
    Ends (stageWhole s data).run device fun r device' =>
      if outlet.free.toNat < data.length then
        r = .error (.insufficientSpace data.length outlet.free.toNat) ∧ H.Offers s outlet device'
      else r = .ok () ∧ H.Offers s (outlet.draft data) device' := by
  have hstage := H.stageWhole_ends h data hfree
  rwa [show outlet.stage 0 data = outlet.draft data from
    outlet.stage_draft [] data (Nat.zero_le _)] at hstage

/-- Data that fit leave as one datagram, or are given up. -/
theorem Habit.sendTo_ends (hH : H.Calm) (h : H.Offers s outlet device) (data : List UInt8)
    {ip : Ipv4} {port : UInt16}
    (hip : ip ≠ Ipv4.unspecified) (hport : port ≠ 0) (hfree : outlet.free.toNat ≤ 2048)
    (hsound : outlet.Sound) :
    Ends (sendTo s data ip port).run device fun r device' =>
      let outlet : Outlet := { outlet with destination := ip, destinationPort := port }
      if outlet.free.toNat < data.length then
        r = .error (.insufficientSpace data.length outlet.free.toNat) ∧
          H.Offers s outlet device'
      else r = (if outlet.timesOut then .error .sendTimeout else .ok data.length) ∧
        H.Offers s ((outlet.draft data).transmitted s) device' := by
  unfold sendTo
  refine Ends.attempt_of_ok (H.startDatagram_ends h hip hport) ?_
  intro d1 h1
  have hstage := H.stageWhole_drafts h1 data hfree
  dsimp only at hstage ⊢
  by_cases hlarge : outlet.free.toNat < data.length
  · simp only [if_pos hlarge] at hstage ⊢
    exact Ends.attempt_of_error hstage fun _ h2 => ⟨rfl, h2⟩
  · simp only [if_neg hlarge] at hstage ⊢
    refine Ends.attempt_of_ok hstage ?_
    intro d2 h2
    obtain ⟨hknown, -⟩ := Outlet.payload_draft
      { outlet with destination := ip, destinationPort := port } data (by omega) hsound
    have hsent := Habit.sendDatagram_ends hH h2 hknown
    rw [Outlet.timesOut_draft] at hsent
    dsimp only at hsent
    cases hout : outlet.timesOut with
    | true =>
      simp only [hout, if_true] at hsent ⊢
      exact Ends.attempt_of_error hsent fun _ h3 => ⟨rfl, h3⟩
    | false =>
      simp only [hout, Bool.false_eq_true, if_false] at hsent ⊢
      exact Ends.attempt_of_ok hsent fun _ h3 => Ends.pure ⟨rfl, h3⟩

end Whole

end SpiEthernet
