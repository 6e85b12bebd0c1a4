import SpiEthernet.Proofs.Dns.Cursor

/-!
# Replies that were cut off

A reply may be longer than the room there is for it, and then only its first bytes are looked at.
What a part of a reply is put together from does not depend on what comes behind it, so a reading
that succeeds on the first bytes of a packet succeeds on the whole packet, and with the same result.
A packet that was cut off is judged like the whole one, or it is seen to be unreadable; it never
passes for another answer.

* `skipQuestions_append_right`, `firstAddress_append_right` : readings with more bytes behind.
* `judge_take` : the verdict on the first bytes of a packet.
-/

namespace SpiEthernet.Dns

variable {bytes rest : List UInt8}

/-! ## More bytes behind the parts -/

theorem skipQuestions_append_right {count : Nat} (h : skipQuestions count bytes = .ok rest)
    (more : List UInt8) : skipQuestions count (bytes ++ more) = .ok (rest ++ more) := by
  obtain ⟨questions, hlength, hall, rfl⟩ := skipQuestions_iff.mp h
  exact skipQuestions_iff.mpr ⟨questions, hlength, hall, List.append_assoc _ _ _⟩

/-- What was found in a number of records is found whatever comes behind them. -/
theorem firstAddress_append_right {count : Nat} {found : Option Ipv4}
    (h : firstAddress count bytes = .ok found) (more : List UInt8) :
    firstAddress count (bytes ++ more) = .ok found := by
  induction count generalizing bytes with
  | zero => exact h
  | succ count ih =>
    obtain ⟨record, form, behind, hform, rfl, hfound⟩ := firstAddress_succ_iff.mp h
    refine firstAddress_succ_iff.mpr
      ⟨record, form, behind ++ more, hform, List.append_assoc _ _ _, ?_⟩
    exact hfound.imp_right fun ⟨hother, hbehind⟩ => ⟨hother, ih hbehind⟩

theorem judgeBody_append_right {questions answers : UInt16}
    (h : ∀ reason, judgeBody questions answers bytes ≠ .malformed reason) (more : List UInt8) :
    judgeBody questions answers (bytes ++ more) = judgeBody questions answers bytes := by
  unfold judgeBody at h ⊢
  cases hskip : skipQuestions questions.toNat bytes with
  | error reason =>
    rw [hskip] at h
    exact absurd rfl (h reason)
  | ok behind =>
    rw [hskip] at h
    rw [skipQuestions_append_right hskip]
    simp only [bind, Except.bind] at h ⊢
    cases hfirst : firstAddress answers.toNat behind with
    | error reason =>
      rw [hfirst] at h
      exact absurd rfl (h reason)
    | ok found => rw [firstAddress_append_right hfirst]

/-! ## The verdict -/

/-- A packet that is not unreadable is judged alike with more bytes behind it. -/
theorem judge_append_right {packet : List UInt8} {id : UInt16}
    (h : ∀ reason, judge packet id ≠ .malformed reason) (more : List UInt8) :
    judge (packet ++ more) id = judge packet id := by
  by_cases hshort : packet.length < 12
  · exact absurd (judge_of_short hshort) (h .tooShort)
  -- the header is the same, and it decides whether the rest is looked at
  obtain ⟨i₁, i₂, f₁, f₂, q₁, q₂, a₁, a₂, n₁, n₂, m₁, m₂, body, rfl⟩ :=
    exists_header_of_length (Nat.not_lt.1 hshort)
  simp only [List.cons_append, judge] at h ⊢
  split
  · rfl
  next hword =>
  split
  · rfl
  next hreply =>
  split
  · rfl
  next hmissing =>
  split
  · rfl
  next hcode =>
  simp only [if_neg hword, if_neg hreply, if_neg hmissing, if_neg hcode] at h
  exact judgeBody_append_right h more

theorem Verdict.ne_malformed_of_conclusion {verdict : Verdict} {result : Except ResolveError Ipv4}
    (h : verdict.conclusion = some result) (reason : Malformed) : verdict ≠ .malformed reason := by
  rintro rfl
  cases h

/-- A packet that was cut off is judged like the whole packet, or it is unreadable. So it settles a
query with nothing else than the whole packet, and a packet that settles a query is judged alike
whatever comes behind it. -/
theorem judge_take (packet : List UInt8) (id : UInt16) :
    (∀ n, judge (packet.take n) id = judge packet id ∨
      ∃ reason, judge (packet.take n) id = .malformed reason) ∧
    (∀ n result, (judge (packet.take n) id).conclusion = some result →
      (judge packet id).conclusion = some result) ∧
    ∀ more result, (judge packet id).conclusion = some result →
      judge (packet ++ more) id = judge packet id := by
  have hcut (n : Nat) (h : ∀ reason, judge (packet.take n) id ≠ .malformed reason) :
      judge (packet.take n) id = judge packet id := by
    have happend := judge_append_right h (packet.drop n)
    rw [List.take_append_drop] at happend
    exact happend.symm
  refine ⟨fun n => ?_, fun n result hresult => ?_, fun more result hresult => ?_⟩
  · by_cases h : ∃ reason, judge (packet.take n) id = .malformed reason
    · exact .inr h
    · exact .inl (hcut n fun reason hreason => h ⟨reason, hreason⟩)
  · rw [← hcut n (Verdict.ne_malformed_of_conclusion hresult)]
    exact hresult
  · exact judge_append_right (Verdict.ne_malformed_of_conclusion hresult) more

/-- A reply with one question and two records, the second one of which is an address. -/
def answeringReply : List UInt8 :=
  [0, 7, 0x81, 0x80, 0, 1, 0, 2, 0, 0, 0, 0] ++
  [1, 97, 0, 0, 1, 0, 1] ++
  [0xC0, 12, 0, 5, 0, 1, 0, 0, 0, 9, 0, 1, 0] ++
  [0xC0, 12, 0, 1, 0, 1, 0, 0, 0, 9, 0, 4, 10, 0, 0, 7]

/-- The reply is the first part of a longer packet. It settles the query, and so does that
packet. -/
theorem judge_take_answering :
    (judge ((answeringReply ++ [1, 2, 3]).take 48) 7).conclusion = some (.ok ⟨10, 0, 0, 7⟩) ∧
    (judge (answeringReply ++ [1, 2, 3]) 7).conclusion = some (.ok ⟨10, 0, 0, 7⟩) ∧
    judge (answeringReply ++ [1, 2, 3]) 7 = judge answeringReply 7 :=
  have hpart : judge ((answeringReply ++ [1, 2, 3]).take 48) 7 = .resolved ⟨10, 0, 0, 7⟩ := by
    decide +kernel
  have hwhole : judge answeringReply 7 = .resolved ⟨10, 0, 0, 7⟩ := by decide +kernel
  ⟨congrArg Verdict.conclusion hpart,
    (judge_take (answeringReply ++ [1, 2, 3]) 7).2.1 48 _ (congrArg Verdict.conclusion hpart),
    (judge_take answeringReply 7).2.2 [1, 2, 3] _ (congrArg Verdict.conclusion hwhole)⟩

-- One byte less, and it answers nothing.
example : judge (answeringReply.take 47) 7 = .malformed .recordDataCut := by cbv

end SpiEthernet.Dns
