import SpiEthernet.Proofs.Dns.Grammar

/-!
# Reading a reply by position

The same walk over a packet as a reader does it that keeps the whole packet and a position in
it. Every byte is looked up by its position, and a name is followed for a limited number of
steps; a lookup outside of the packet, or a name that takes more steps, leaves the reading
without a result. It always has one: each lookup is behind a check that covers it, and a packet
holds no name of more parts than it has bytes.

* `Locates` : a position, or the failure, that a reading by position comes to.
* `judgeAt_eq` : the reading by position has the verdict of the packet as its result.
* `judge_grammar` : replies are accepted as the grammar says, and reading never leaves the packet.
-/

namespace SpiEthernet.Dns

/-! ## The reading -/

/-- A reading by position: without a result, cut short by what is wrong, or with its result. -/
abbrev Scan := ExceptT Malformed Option

/-- The byte at a position, which has to lie in the packet. -/
def byteAt (packet : List UInt8) (position : Nat) : Scan UInt8 := ExceptT.lift packet[position]?

/-- The word at a position. -/
def wordAt (packet : List UInt8) (position : Nat) : Scan UInt16 :=
  return word (← byteAt packet position) (← byteAt packet (position + 1))

/-- Where the name at a position ends, found in a number of steps. -/
def nameEnd (packet : List UInt8) : Nat → Nat → Scan Nat
  | 0, _ => ExceptT.lift none
  | steps + 1, position => do
    if packet.length ≤ position then throw .nameCut
    let size ← byteAt packet position
    if size = 0 then return position + 1
    if size &&& 0xC0 = 0xC0 then
      if packet.length < position + 2 then throw .pointerCut
      return position + 2
    if packet.length < position + 1 + size.toNat then throw .labelCut
    nameEnd packet steps (position + 1 + size.toNat)

/-- The steps that are enough for a name: one more than the packet has bytes. -/
def enoughSteps (packet : List UInt8) : Nat := packet.length + 1

/-- Where a number of questions ends. -/
def questionsEnd (packet : List UInt8) : Nat → Nat → Scan Nat
  | 0, position => return position
  | count + 1, position => do
    let behind ← nameEnd packet (enoughSteps packet) position
    if packet.length < behind + 4 then throw .questionCut
    questionsEnd packet count (behind + 4)

/-- The address that the record at a position gives, if it does, and where the record ends. -/
def recordAt (packet : List UInt8) (position : Nat) : Scan (Option Ipv4 × Nat) := do
  let fields ← nameEnd packet (enoughSteps packet) position
  if packet.length < fields + 10 then throw .answerCut
  let kind ← wordAt packet fields
  let space ← wordAt packet (fields + 2)
  let size ← wordAt packet (fields + 8)
  if packet.length < fields + 10 + size.toNat then throw .recordDataCut
  if kind = 1 ∧ space = 1 ∧ size = 4 then
    return (some ⟨← byteAt packet (fields + 10), ← byteAt packet (fields + 11),
      ← byteAt packet (fields + 12), ← byteAt packet (fields + 13)⟩, fields + 14)
  return (none, fields + 10 + size.toNat)

/-- The first address in a number of records. -/
def addressAt (packet : List UInt8) : Nat → Nat → Scan (Option Ipv4)
  | 0, _ => return none
  | count + 1, position => do
    match ← recordAt packet position with
    | (some ip, _) => return some ip
    | (none, behind) => addressAt packet count behind

/-- The verdict on what is behind the header. -/
def bodyAt (packet : List UInt8) : Scan Verdict := do
  let questions ← wordAt packet 4
  let answers ← wordAt packet 6
  let position ← questionsEnd packet questions.toNat 12
  match ← addressAt packet answers.toNat position with
  | some ip => return .resolved ip
  | none => return .failed .noAddress

/-- Reads a packet by position, from its header on. -/
def scan (packet : List UInt8) (id : UInt16) : Scan Verdict := do
  if packet.length < 12 then throw .tooShort
  if (← wordAt packet 0) ≠ id then return .wrongId
  if (← byteAt packet 2) &&& 0x80 = 0 then throw .notAResponse
  let code := (← byteAt packet 3) &&& 0x0F
  if code = 3 then return .failed .notFound
  if code ≠ 0 then return .failed (.serverFailure code)
  bodyAt packet

/-- The verdict a reading ends with, where a failure is a verdict of its own. -/
def Scan.verdict (reading : Scan Verdict) : Option Verdict :=
  reading.run.map fun
    | .ok verdict => verdict
    | .error reason => .malformed reason

/-- The verdict on a packet, read by position. -/
def judgeAt (packet : List UInt8) (id : UInt16) : Option Verdict := (scan packet id).verdict

/-! ## Lookups -/

variable {packet : List UInt8}

/-- A reading that comes to an end with what is given, a result or a failure. -/
def Scan.ended {α : Type} (outcome : Except Malformed α) : Scan α := ExceptT.mk (some outcome)

@[simp] theorem Scan.ended_ok_bind {α β : Type} (value : α) (next : α → Scan β) :
    (Scan.ended (.ok value) >>= next) = next value := rfl

theorem byteAt_of_lt {position : Nat} (h : position < packet.length) :
    byteAt packet position = Scan.ended (.ok packet[position]) := by
  rw [byteAt, List.getElem?_eq_getElem h]
  rfl

theorem byteAt_add {position offset : Nat} {byte : UInt8}
    (h : (packet.drop position)[offset]? = some byte) :
    byteAt packet (position + offset) = Scan.ended (.ok byte) := by
  rw [byteAt, ← List.getElem?_drop, h]
  rfl

theorem wordAt_add {position offset : Nat} {high low : UInt8}
    (hhigh : (packet.drop position)[offset]? = some high)
    (hlow : (packet.drop position)[offset + 1]? = some low) :
    wordAt packet (position + offset) = Scan.ended (.ok (word high low)) := by
  rw [wordAt, byteAt_add hhigh, Nat.add_assoc, byteAt_add hlow]
  rfl

/-! ## Names and questions -/

/-- A reading by position comes to where what a reading from the front leaves begins, or fails
for the same reason. -/
inductive Locates (packet : List UInt8) : Scan Nat → Except Malformed (List UInt8) → Prop
  | found {position : Nat} : position ≤ packet.length →
      Locates packet (Scan.ended (.ok position)) (.ok (packet.drop position))
  | failed (reason : Malformed) : Locates packet (Scan.ended (.error reason)) (.error reason)

/-- A name is followed to its end if the steps allowed exceed the bytes that are left: every step
but the last goes behind at least one byte more. -/
theorem nameEnd_locates {steps position : Nat} (hposition : position ≤ packet.length)
    (hsteps : packet.length - position < steps) :
    Locates packet (nameEnd packet steps position) (skipName (packet.drop position)) := by
  induction steps generalizing position with
  | zero => omega
  | succ steps ih =>
    rw [nameEnd]
    split
    · next hend =>
      rw [List.drop_eq_nil_of_le hend, skipName.eq_def]
      exact .failed .nameCut
    next hlt =>
    rw [Nat.not_le] at hlt
    rw [List.drop_eq_getElem_cons hlt, byteAt_of_lt hlt]
    simp only [Scan.ended_ok_bind]
    by_cases h0 : packet[position] = 0
    · rw [if_pos h0, h0, skipName_root]
      exact .found (by omega)
    rw [if_neg h0]
    by_cases hp : packet[position] &&& 0xC0 = 0xC0
    · rw [if_pos hp]
      split
      · next hcut =>
        rw [List.drop_eq_nil_of_le (by omega), skipName.eq_def]
        simp only [if_neg h0, if_pos hp]
        exact .failed .pointerCut
      · next hfits =>
        rw [List.drop_eq_getElem_cons (by omega : position + 1 < packet.length),
          skipName_pointer hp]
        exact .found (by omega)
    rw [if_neg hp, skipName_label h0 hp, dropExactly_eq, List.length_drop]
    split
    · next hcut =>
      rw [if_neg (by omega)]
      exact .failed .labelCut
    · next hfits =>
      rw [if_pos (by omega), List.drop_drop]
      exact ih (by omega) (by omega)

theorem name_locates {position : Nat} (h : position ≤ packet.length) :
    Locates packet (nameEnd packet (enoughSteps packet) position)
      (skipName (packet.drop position)) :=
  nameEnd_locates h (by rw [enoughSteps]; omega)

theorem questionsEnd_locates {count position : Nat} (h : position ≤ packet.length) :
    Locates packet (questionsEnd packet count position)
      (skipQuestions count (packet.drop position)) := by
  induction count generalizing position with
  | zero => exact .found h
  | succ count ih =>
    rw [questionsEnd, skipQuestions_succ]
    have hname := name_locates h
    generalize nameEnd packet (enoughSteps packet) position = ending at hname ⊢
    generalize skipName (packet.drop position) = read at hname ⊢
    cases hname with
    | failed reason => exact .failed reason
    | @found behind hbehind =>
      simp only [Scan.ended_ok_bind]
      simp only [bind, Except.bind]
      rw [dropExactly_eq, List.length_drop]
      split
      · next hcut =>
        rw [if_neg (by omega)]
        exact .failed .questionCut
      · next hfits =>
        rw [if_pos (by omega), List.drop_drop]
        exact ih (by omega)

/-! ## Records -/

theorem exists_fields_of_length {bytes : List UInt8} (h : 10 ≤ bytes.length) :
    ∃ t₁ t₂ c₁ c₂ e₁ e₂ e₃ e₄ l₁ l₂ rest,
      bytes = t₁ :: t₂ :: c₁ :: c₂ :: e₁ :: e₂ :: e₃ :: e₄ :: l₁ :: l₂ :: rest := by
  match bytes with
  | t₁ :: t₂ :: c₁ :: c₂ :: e₁ :: e₂ :: e₃ :: e₄ :: l₁ :: l₂ :: rest =>
    exact ⟨t₁, t₂, c₁, c₂, e₁, e₂, e₃, e₄, l₁, l₂, rest, rfl⟩

theorem exists_octets_of_length {bytes : List UInt8} (h : 4 ≤ bytes.length) :
    ∃ ip rest, bytes = Ipv4.octets ip ++ rest := by
  match bytes with
  | a :: b :: c :: d :: rest => exact ⟨⟨a, b, c, d⟩, rest, rfl⟩

/-- The fixed fields of a record, read word by word, and what is behind them. -/
theorem fixedFields {fields : Nat} (h : fields + 10 ≤ packet.length) :
    ∃ t₁ t₂ c₁ c₂ e₁ e₂ e₃ e₄ l₁ l₂,
      packet.drop fields = t₁ :: t₂ :: c₁ :: c₂ :: e₁ :: e₂ :: e₃ :: e₄ :: l₁ :: l₂ ::
        packet.drop (fields + 10) ∧
      wordAt packet fields = Scan.ended (.ok (word t₁ t₂)) ∧
      wordAt packet (fields + 2) = Scan.ended (.ok (word c₁ c₂)) ∧
      wordAt packet (fields + 8) = Scan.ended (.ok (word l₁ l₂)) := by
  have hten : 10 ≤ (packet.drop fields).length := by
    rw [List.length_drop]
    omega
  obtain ⟨t₁, t₂, c₁, c₂, e₁, e₂, e₃, e₄, l₁, l₂, rest, hfull⟩ := exists_fields_of_length hten
  have hrest : packet.drop (fields + 10) = rest := by
    rw [← List.drop_drop, hfull]
    rfl
  have hword (offset : Nat) {high low : UInt8} (hhigh : (packet.drop fields)[offset]? = some high)
      (hlow : (packet.drop fields)[offset + 1]? = some low) :
      wordAt packet (fields + offset) = Scan.ended (.ok (word high low)) := wordAt_add hhigh hlow
  rw [hfull] at hword
  exact ⟨t₁, t₂, c₁, c₂, e₁, e₂, e₃, e₄, l₁, l₂, hrest ▸ hfull, hword 0 rfl rfl, hword 2 rfl rfl,
    hword 8 rfl rfl⟩

/-- The address behind the fixed fields of a record, read byte by byte. -/
theorem addressBytes {fields : Nat} (h : fields + 14 ≤ packet.length) : ∃ a b c d,
    (packet.drop (fields + 10)).take 4 = Ipv4.octets ⟨a, b, c, d⟩ ∧
      byteAt packet (fields + 10) = Scan.ended (.ok a) ∧
      byteAt packet (fields + 11) = Scan.ended (.ok b) ∧
      byteAt packet (fields + 12) = Scan.ended (.ok c) ∧
      byteAt packet (fields + 13) = Scan.ended (.ok d) := by
  have hfour : 4 ≤ (packet.drop (fields + 10)).length := by
    rw [List.length_drop]
    omega
  obtain ⟨⟨a, b, c, d⟩, rest, hoctets⟩ := exists_octets_of_length hfour
  have hbyte (offset : Nat) {byte : UInt8}
      (hlookup : (Ipv4.octets ⟨a, b, c, d⟩ ++ rest)[offset]? = some byte) :
      byteAt packet (fields + 10 + offset) = Scan.ended (.ok byte) :=
    byteAt_add (hoctets ▸ hlookup)
  exact ⟨a, b, c, d, by rw [hoctets]; rfl, hbyte 0 rfl, hbyte 1 rfl, hbyte 2 rfl, hbyte 3 rfl⟩

theorem takeExactly?_eq (count : Nat) (bytes : List UInt8) :
    takeExactly? count bytes =
      if count ≤ bytes.length then some (bytes.take count, bytes.drop count) else none := by
  rw [takeExactly?, dropExactly_eq]
  split <;> rfl

/-- What a record with data of a stated size gives. -/
theorem Record.address?_of_size {kind space size : UInt16} {data : List UInt8}
    (hsize : data.length = size.toNat) (h : ¬ (kind = 1 ∧ space = 1 ∧ size = 4)) :
    Record.address? ⟨kind, space, data⟩ = none := by
  rw [Record.address?_none_iff]
  rintro ⟨hkind, hspace, hlength⟩
  refine h ⟨hkind, hspace, UInt16.toNat_inj.mp ?_⟩
  exact hsize.symm.trans hlength

/-- A reading by position comes to an address and a position as a reading from the front comes to
a record and what is left, or fails for the same reason. -/
inductive Finds (packet : List UInt8) :
    Scan (Option Ipv4 × Nat) → Except Malformed (Record × List UInt8) → Prop
  | found {position : Nat} (record : Record) : position ≤ packet.length →
      Finds packet (Scan.ended (.ok (record.address?, position)))
        (.ok (record, packet.drop position))
  | failed (reason : Malformed) : Finds packet (Scan.ended (.error reason)) (.error reason)

theorem recordAt_finds {position : Nat} (h : position ≤ packet.length) :
    Finds packet (recordAt packet position) (Record.read (packet.drop position)) := by
  rw [recordAt, Record.read_eq]
  have hname := name_locates h
  generalize nameEnd packet (enoughSteps packet) position = ending at hname ⊢
  generalize skipName (packet.drop position) = read at hname ⊢
  cases hname with
  | failed reason => exact .failed reason
  | @found fields hfields =>
    have hlength : (packet.drop fields).length = packet.length - fields := List.length_drop
    simp only [Scan.ended_ok_bind, Except.bind]
    by_cases hcut : packet.length < fields + 10
    · rw [if_pos hcut]
      split
      · next hfull =>
        rw [hfull] at hlength
        simp only [List.length_cons] at hlength
        omega
      · exact .failed .answerCut
    rw [if_neg hcut]
    obtain ⟨t₁, t₂, c₁, c₂, e₁, e₂, e₃, e₄, l₁, l₂, hfull, hkind, hspace, hstated⟩ :=
      fixedFields (Nat.not_lt.1 hcut)
    have hsize : (packet.drop (fields + 10)).length = packet.length - (fields + 10) :=
      List.length_drop
    rw [hkind, hspace, hstated, hfull]
    simp only [Scan.ended_ok_bind, takeExactly?_eq, hsize]
    by_cases hdata : packet.length < fields + 10 + (word l₁ l₂).toNat
    · rw [if_pos hdata, if_neg (show ¬ (word l₁ l₂).toNat ≤ _ by omega)]
      exact .failed .recordDataCut
    rw [if_neg hdata, if_pos (show (word l₁ l₂).toNat ≤ _ by omega)]
    have htaken : ((packet.drop (fields + 10)).take (word l₁ l₂).toNat).length =
        (word l₁ l₂).toNat := List.length_take_of_le (by omega)
    by_cases haddress : word t₁ t₂ = 1 ∧ word c₁ c₂ = 1 ∧ word l₁ l₂ = 4
    · have hfour : (word l₁ l₂).toNat = 4 := by rw [haddress.2.2]; rfl
      have hbound : fields + 14 ≤ packet.length := by omega
      obtain ⟨a, b, c, d, hoctets, ha, hb, hc, hd⟩ := addressBytes hbound
      rw [if_pos haddress, ha, hb, hc, hd, hfour]
      have := Finds.found ⟨word t₁ t₂, word c₁ c₂, (packet.drop (fields + 10)).take 4⟩ hbound
      rw [Record.address?_some_iff.mpr ⟨⟨haddress.1, haddress.2.1, hfour ▸ htaken⟩,
        hoctets⟩] at this
      rw [List.drop_drop]
      exact this
    · rw [if_neg haddress, List.drop_drop]
      have := Finds.found ⟨word t₁ t₂, word c₁ c₂,
        (packet.drop (fields + 10)).take (word l₁ l₂).toNat⟩
        (show fields + 10 + (word l₁ l₂).toNat ≤ packet.length by omega)
      rwa [Record.address?_of_size htaken haddress] at this

theorem firstAddress_succ (count : Nat) (bytes : List UInt8) :
    firstAddress (count + 1) bytes = (Record.read bytes).bind fun read =>
      match read.1.address? with
      | some ip => .ok (some ip)
      | none => firstAddress count read.2 := rfl

theorem addressAt_eq {count position : Nat} (h : position ≤ packet.length) :
    addressAt packet count position = Scan.ended (firstAddress count (packet.drop position)) := by
  induction count generalizing position with
  | zero => rfl
  | succ count ih =>
    rw [addressAt, firstAddress_succ]
    have hrecord := recordAt_finds h
    generalize recordAt packet position = ending at hrecord ⊢
    generalize Record.read (packet.drop position) = read at hrecord ⊢
    cases hrecord with
    | failed reason => rfl
    | found record hbehind =>
      simp only [Scan.ended_ok_bind, Except.bind]
      match record.address? with
      | some ip => rfl
      | none => exact ih hbehind

/-! ## Verdicts -/

theorem bodyAt_verdict {questions answers : UInt16} (h : 12 ≤ packet.length)
    (hquestions : wordAt packet 4 = Scan.ended (.ok questions))
    (hanswers : wordAt packet 6 = Scan.ended (.ok answers)) :
    (bodyAt packet).verdict = some (judgeBody questions answers (packet.drop 12)) := by
  rw [bodyAt, hquestions, hanswers, judgeBody]
  simp only [Scan.ended_ok_bind]
  have hskip : Locates packet (questionsEnd packet questions.toNat 12)
      (skipQuestions questions.toNat (packet.drop 12)) := questionsEnd_locates h
  generalize questionsEnd packet questions.toNat 12 = ending at hskip ⊢
  generalize skipQuestions questions.toNat (packet.drop 12) = read at hskip ⊢
  cases hskip with
  | failed reason => rfl
  | found hposition =>
    rw [Scan.ended_ok_bind, addressAt_eq hposition]
    rcases hfound : firstAddress answers.toNat _ with reason | _ | ip <;>
      simp only [bind, Except.bind, hfound] <;> rfl

theorem exists_header_of_length {bytes : List UInt8} (h : 12 ≤ bytes.length) :
    ∃ i₁ i₂ f₁ f₂ q₁ q₂ a₁ a₂ n₁ n₂ m₁ m₂ body,
      bytes = i₁ :: i₂ :: f₁ :: f₂ :: q₁ :: q₂ :: a₁ :: a₂ :: n₁ :: n₂ :: m₁ :: m₂ :: body := by
  match bytes with
  | i₁ :: i₂ :: f₁ :: f₂ :: q₁ :: q₂ :: a₁ :: a₂ :: n₁ :: n₂ :: m₁ :: m₂ :: body =>
    exact ⟨i₁, i₂, f₁, f₂, q₁, q₂, a₁, a₂, n₁, n₂, m₁, m₂, body, rfl⟩

theorem judge_of_short {id : UInt16} (h : packet.length < 12) :
    judge packet id = .malformed .tooShort := by
  unfold judge
  split
  · simp only [List.length_cons] at h
    omega
  · rfl

/-- Reading by position always has a result, and it is the verdict on the packet. -/
theorem judgeAt_eq (packet : List UInt8) (id : UInt16) :
    judgeAt packet id = some (judge packet id) := by
  rw [judgeAt, scan]
  by_cases hshort : packet.length < 12
  · rw [if_pos hshort, judge_of_short hshort]
    rfl
  rw [if_neg hshort]
  rw [Nat.not_lt] at hshort
  obtain ⟨i₁, i₂, f₁, f₂, q₁, q₂, a₁, a₂, n₁, n₂, m₁, m₂, body, hpacket⟩ :=
    exists_header_of_length hshort
  have hid : wordAt packet 0 = Scan.ended (.ok (word i₁ i₂)) := by rw [hpacket]; rfl
  have hflags : byteAt packet 2 = Scan.ended (.ok f₁) := by rw [hpacket]; rfl
  have hcode : byteAt packet 3 = Scan.ended (.ok f₂) := by rw [hpacket]; rfl
  have hquestions : wordAt packet 4 = Scan.ended (.ok (word q₁ q₂)) := by rw [hpacket]; rfl
  have hanswers : wordAt packet 6 = Scan.ended (.ok (word a₁ a₂)) := by rw [hpacket]; rfl
  have hbody := bodyAt_verdict hshort hquestions hanswers
  have hrest : packet.drop 12 = body := by rw [hpacket]; rfl
  rw [hrest] at hbody
  simp only [hid, hflags, hcode, Scan.ended_ok_bind]
  rw [hpacket, judge, ← hpacket]
  by_cases hword : word i₁ i₂ ≠ id
  · rw [if_pos hword, if_pos hword]
    rfl
  rw [if_neg hword, if_neg hword]
  by_cases hquery : f₁ &&& 0x80 = 0
  · rw [if_pos hquery, if_pos hquery]
    rfl
  rw [if_neg hquery, if_neg hquery]
  by_cases hmissing : f₂ &&& 0x0F = 3
  · rw [if_pos hmissing, if_pos hmissing]
    rfl
  rw [if_neg hmissing, if_neg hmissing]
  by_cases hfailure : f₂ &&& 0x0F ≠ 0
  · rw [if_pos hfailure, if_pos hfailure]
    rfl
  rw [if_neg hfailure, if_neg hfailure]
  exact hbody

/-- Replies are accepted as the grammar says: a packet gives an address exactly if it is put
together as a reply with that address, and none exactly if it is a reply without one. Reading
it by position stays inside of the packet and comes to an end, whatever the packet holds. -/
theorem judge_grammar (packet : List UInt8) (id : UInt16) :
    (∀ ip, judge packet id = .resolved ip ↔ Resolving packet id ip) ∧
    (judge packet id = .failed .noAddress ↔ Unresolving packet id) ∧
    judgeAt packet id = some (judge packet id) :=
  ⟨fun _ => judge_resolved_iff, judge_noAddress_iff, judgeAt_eq packet id⟩

end SpiEthernet.Dns
