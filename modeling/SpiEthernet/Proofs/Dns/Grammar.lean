import SpiEthernet.Dns.Reply

/-!
# The grammar of replies

What a reply looks like, written down as the bytes it is put together from: names, questions and
records one behind the other, and anything after them. The grammar says nothing about reading;
each part is tied to the function that reads it by an equivalence, so a reply is accepted exactly
when it can be put together by the rules, and there is no second way to read it.

* `skipName_iff`, `skipQuestions_iff`, `Record.read_iff` : the parts.
* `firstAddress_some_iff`, `firstAddress_none_iff` : what is found behind the questions.
-/

namespace SpiEthernet.Dns

variable {bytes rest : List UInt8}

/-! ## Names -/

/-- The bytes of a name: labels behind their lengths, ended by a zero byte or a pointer. -/
inductive Name : List UInt8 → Prop
  | root : Name [0]
  | pointer {high : UInt8} (low : UInt8) : high &&& 0xC0 = 0xC0 → Name [high, low]
  | label {size : UInt8} {text name : List UInt8} :
      size ≠ 0 → size &&& 0xC0 ≠ 0xC0 → text.length = size.toNat → Name name →
      Name (size :: (text ++ name))

theorem dropExactly_append (head tail : List UInt8) :
    dropExactly head.length (head ++ tail) = some tail := by
  rw [dropExactly_eq, if_pos (by simp), List.drop_left]

theorem dropExactly_iff {count : Nat} :
    dropExactly count bytes = some rest ↔ ∃ head, head.length = count ∧ bytes = head ++ rest := by
  constructor
  · intro h
    rw [dropExactly_eq] at h
    split at h
    · next hle =>
      cases h
      exact ⟨bytes.take count, List.length_take_of_le hle, (List.take_append_drop _ _).symm⟩
    · cases h
  · rintro ⟨head, rfl, rfl⟩
    exact dropExactly_append head rest

theorem skipName_root : skipName (0 :: rest) = .ok rest := by
  rw [skipName.eq_def]
  exact if_pos rfl

theorem skipName_pointer {high low : UInt8} (h : high &&& 0xC0 = 0xC0) :
    skipName (high :: low :: rest) = .ok rest := by
  have hne : high ≠ 0 := by
    rintro rfl
    exact absurd h (by decide)
  rw [skipName.eq_def]
  exact (if_neg hne).trans (if_pos h)

theorem skipName_label {size : UInt8} (h0 : size ≠ 0) (hp : size &&& 0xC0 ≠ 0xC0) :
    skipName (size :: bytes) =
      match dropExactly size.toNat bytes with
      | none => .error .labelCut
      | some rest => skipName rest := by
  rw [skipName.eq_def]
  refine ((if_neg h0).trans (if_neg hp)).trans ?_
  split <;> simp_all

theorem skipName_append {name : List UInt8} (h : Name name) (rest : List UInt8) :
    skipName (name ++ rest) = .ok rest := by
  induction h with
  | root => exact skipName_root
  | pointer low h => exact skipName_pointer h
  | @label size text name h0 hp hsize _ ih =>
    rw [List.cons_append, skipName_label h0 hp, List.append_assoc, ← hsize,
      dropExactly_append]
    exact ih

theorem exists_name_of_skipName (h : skipName bytes = .ok rest) :
    ∃ name, Name name ∧ bytes = name ++ rest := by
  fun_induction skipName bytes with
  | case1 => cases h
  | case2 bytes =>
    cases h
    exact ⟨[0], .root, rfl⟩
  | case3 => cases h
  | case4 high _ hp low bytes =>
    cases h
    exact ⟨[high, low], .pointer low hp, rfl⟩
  | case5 => cases h
  | case6 size bytes h0 hp behind hdrop _ ih =>
    obtain ⟨name, hname, rfl⟩ := ih h
    obtain ⟨text, hsize, rfl⟩ := dropExactly_iff.mp hdrop
    exact ⟨size :: (text ++ name), .label h0 hp hsize hname, by simp⟩

/-- Stepping over a name succeeds exactly if a name is there. -/
theorem skipName_iff : skipName bytes = .ok rest ↔ ∃ name, Name name ∧ bytes = name ++ rest := by
  constructor
  · exact exists_name_of_skipName
  · rintro ⟨name, hname, rfl⟩
    exact skipName_append hname rest

/-! ## Questions -/

/-- The bytes of a question: a name, its type and its class. -/
def Question (bytes : List UInt8) : Prop :=
  ∃ name ending, Name name ∧ ending.length = 4 ∧ bytes = name ++ ending

theorem skipQuestions_succ (count : Nat) (bytes : List UInt8) :
    skipQuestions (count + 1) bytes = (skipName bytes >>= fun behind =>
      match dropExactly 4 behind with
      | some rest => skipQuestions count rest
      | none => .error .questionCut) := rfl

theorem skipQuestions_succ_iff {count : Nat} :
    skipQuestions (count + 1) bytes = .ok rest ↔
      ∃ question behind, Question question ∧ bytes = question ++ behind ∧
        skipQuestions count behind = .ok rest := by
  rw [skipQuestions_succ]
  constructor
  · intro h
    match hname : skipName bytes with
    | .error reason =>
      rw [hname] at h
      cases h
    | .ok behind =>
      rw [hname] at h
      match hdrop : dropExactly 4 behind with
      | none => simp [bind, Except.bind, hdrop] at h
      | some tail =>
        obtain ⟨name, isName, rfl⟩ := skipName_iff.mp hname
        obtain ⟨ending, hending, rfl⟩ := dropExactly_iff.mp hdrop
        refine ⟨name ++ ending, tail, ⟨name, ending, isName, hending, rfl⟩, by simp, ?_⟩
        simpa [bind, Except.bind, hdrop] using h
  · rintro ⟨_, behind, ⟨name, ending, isName, hending, rfl⟩, rfl, hbehind⟩
    rw [List.append_assoc, skipName_append isName, ← hending]
    simpa [bind, Except.bind, dropExactly_append] using hbehind

/-- Stepping over questions succeeds exactly if so many are there. -/
theorem skipQuestions_iff {count : Nat} :
    skipQuestions count bytes = .ok rest ↔
      ∃ questions : List (List UInt8), questions.length = count ∧
        (∀ question ∈ questions, Question question) ∧ bytes = questions.flatten ++ rest := by
  induction count generalizing bytes with
  | zero =>
    constructor
    · intro h
      cases h
      exact ⟨[], rfl, by simp, rfl⟩
    · rintro ⟨questions, hlength, -, rfl⟩
      rw [List.length_eq_zero_iff.mp hlength]
      rfl
  | succ count ih =>
    rw [skipQuestions_succ_iff]
    constructor
    · rintro ⟨question, behind, hquestion, rfl, hbehind⟩
      obtain ⟨questions, hlength, hall, rfl⟩ := ih.mp hbehind
      exact ⟨question :: questions, by simp [hlength], by simpa using ⟨hquestion, hall⟩, by simp⟩
    · rintro ⟨_ | ⟨question, questions⟩, hlength, hall, rfl⟩
      · cases hlength
      · rw [List.forall_mem_cons] at hall
        exact ⟨question, questions.flatten ++ rest, hall.1, by simp,
          ih.mpr ⟨questions, by simpa using hlength, hall.2, rfl⟩⟩

/-! ## Records -/

/-- A record and its bytes: a name, ten bytes that end in the length of the data, the data. -/
inductive Record.Written : Record → List UInt8 → Prop
  | intro {name data : List UInt8} (t₁ t₂ c₁ c₂ e₁ e₂ e₃ e₄ l₁ l₂ : UInt8) :
      Name name → data.length = (word l₁ l₂).toNat →
      Record.Written ⟨word t₁ t₂, word c₁ c₂, data⟩
        (name ++ t₁ :: t₂ :: c₁ :: c₂ :: e₁ :: e₂ :: e₃ :: e₄ :: l₁ :: l₂ :: data)

/-- Whether a record is an address record of the internet with four bytes of data. -/
def Record.IsAddress (record : Record) : Prop :=
  record.kind = 1 ∧ record.space = 1 ∧ record.data.length = 4

theorem Record.address?_some_iff {record : Record} {ip : Ipv4} :
    record.address? = some ip ↔ record.IsAddress ∧ record.data = ip.octets := by
  obtain ⟨kind, space, data⟩ := record
  match data with
  | [] | [_] | [_, _] | [_, _, _] | _ :: _ :: _ :: _ :: _ :: _ =>
    simp [Record.address?, Record.IsAddress]
  | [a, b, c, d] =>
    obtain ⟨a', b', c', d'⟩ := ip
    simp [Record.address?, Record.IsAddress, Ipv4.octets, and_assoc]

theorem Record.address?_none_iff {record : Record} :
    record.address? = none ↔ ¬ record.IsAddress := by
  obtain ⟨kind, space, data⟩ := record
  match data with
  | [] | [_] | [_, _] | [_, _, _] | _ :: _ :: _ :: _ :: _ :: _ =>
    simp [Record.address?, Record.IsAddress]
  | [a, b, c, d] => simp [Record.address?, Record.IsAddress]

theorem takeExactly?_iff {count : Nat} {head : List UInt8} :
    takeExactly? count bytes = some (head, rest) ↔ head.length = count ∧ bytes = head ++ rest := by
  rw [takeExactly?, Option.map_eq_some_iff]
  constructor
  · rintro ⟨tail, htail, heq⟩
    obtain ⟨front, rfl, rfl⟩ := dropExactly_iff.mp htail
    rw [List.take_left] at heq
    cases heq
    exact ⟨rfl, rfl⟩
  · rintro ⟨rfl, rfl⟩
    exact ⟨rest, dropExactly_append head rest, by rw [List.take_left]⟩

theorem Record.read_eq (bytes : List UInt8) :
    Record.read bytes = (skipName bytes).bind fun behind =>
      match behind with
      | t₁ :: t₂ :: c₁ :: c₂ :: _ :: _ :: _ :: _ :: l₁ :: l₂ :: rest =>
        match takeExactly? (word l₁ l₂).toNat rest with
        | some (data, rest) => .ok (⟨word t₁ t₂, word c₁ c₂, data⟩, rest)
        | none => .error .recordDataCut
      | _ => .error .answerCut := rfl

/-- Reading a record succeeds exactly if a record is there, and gives that record. -/
theorem Record.read_iff {record : Record} :
    Record.read bytes = .ok (record, rest) ↔
      ∃ form, Record.Written record form ∧ bytes = form ++ rest := by
  constructor
  · intro h
    rw [Record.read_eq] at h
    match hname : skipName bytes with
    | .error reason =>
      rw [hname] at h
      cases h
    | .ok behind =>
      rw [hname, Except.bind] at h
      split at h
      · next t₁ t₂ c₁ c₂ e₁ e₂ e₃ e₄ l₁ l₂ tail =>
        split at h
        · next data tail' htake =>
          cases h
          obtain ⟨hlength, rfl⟩ := takeExactly?_iff.mp htake
          obtain ⟨name, isName, rfl⟩ := skipName_iff.mp hname
          exact ⟨_, .intro t₁ t₂ c₁ c₂ e₁ e₂ e₃ e₄ l₁ l₂ isName hlength, by simp⟩
        · cases h
      · cases h
  · rintro ⟨_, ⟨t₁, t₂, c₁, c₂, e₁, e₂, e₃, e₄, l₁, l₂, isName, hlength⟩, rfl⟩
    rw [List.append_assoc, Record.read_eq, skipName_append isName]
    simp only [Except.bind, List.cons_append, takeExactly?_iff.mpr ⟨hlength, rfl⟩]

/-! ## The search for an address -/

theorem firstAddress_succ_iff {count : Nat} {found : Option Ipv4} :
    firstAddress (count + 1) bytes = .ok found ↔
      ∃ record form behind, Record.Written record form ∧ bytes = form ++ behind ∧
        ((∃ ip, record.address? = some ip ∧ found = some ip) ∨
          record.address? = none ∧ firstAddress count behind = .ok found) := by
  rw [firstAddress]
  constructor
  · intro h
    cases hread : Record.read bytes with
    | error reason =>
      rw [hread] at h
      cases h
    | ok read =>
      obtain ⟨record, behind⟩ := read
      obtain ⟨form, hform, rfl⟩ := Record.read_iff.mp hread
      refine ⟨record, form, behind, hform, rfl, ?_⟩
      rw [hread] at h
      cases hip : record.address? with
      | some ip =>
        simp only [bind, Except.bind, hip] at h
        cases h
        exact .inl ⟨ip, rfl, rfl⟩
      | none =>
        simp only [bind, Except.bind, hip] at h
        exact .inr ⟨rfl, h⟩
  · rintro ⟨record, form, behind, hform, rfl, hfound⟩
    rw [Record.read_iff.mpr ⟨form, hform, rfl⟩]
    obtain ⟨ip, hip, rfl⟩ | ⟨hip, hbehind⟩ := hfound
    · simp only [bind, Except.bind, hip]
    · simpa only [bind, Except.bind, hip] using hbehind

/-- Records one behind the other with their bytes, none of them an address record. -/
def Passed (records : List (Record × List UInt8)) : Prop :=
  ∀ entry ∈ records, entry.1.Written entry.2 ∧ ¬ entry.1.IsAddress

/-- The bytes of records one behind the other. -/
def formOf (records : List (Record × List UInt8)) : List UInt8 := (records.map (·.2)).flatten

@[simp] theorem formOf_nil : formOf [] = [] := rfl

@[simp] theorem formOf_cons (entry : Record × List UInt8) (records : List (Record × List UInt8)) :
    formOf (entry :: records) = entry.2 ++ formOf records := rfl

theorem Passed.cons_iff {entry : Record × List UInt8} {records : List (Record × List UInt8)} :
    Passed (entry :: records) ↔
      (entry.1.Written entry.2 ∧ ¬ entry.1.IsAddress) ∧ Passed records :=
  List.forall_mem_cons

/-- An address is found exactly if a record among the first so many is an address record, and
then it is the address of the first such record. -/
theorem firstAddress_some_iff {count : Nat} {ip : Ipv4} :
    firstAddress count bytes = .ok (some ip) ↔
      ∃ records record form rest, Passed records ∧ records.length < count ∧
        Record.Written record form ∧ record.IsAddress ∧ record.data = ip.octets ∧
        bytes = formOf records ++ (form ++ rest) := by
  induction count generalizing bytes with
  | zero =>
    constructor
    · intro h
      cases h
    · rintro ⟨records, record, form, rest, -, hlt, -⟩
      exact absurd hlt (by omega)
  | succ count ih =>
    rw [firstAddress_succ_iff]
    constructor
    · rintro ⟨record, form, behind, hform, rfl, ⟨_, hip, ⟨⟩⟩ | ⟨hip, hbehind⟩⟩
      · obtain ⟨haddress, hdata⟩ := Record.address?_some_iff.mp hip
        exact ⟨[], record, form, behind, by simp [Passed], by simp, hform, haddress, hdata, by simp⟩
      · obtain ⟨records, last, lastForm, rest, hpassed, hlt, hlast, haddress, hdata, rfl⟩ :=
          ih.mp hbehind
        exact ⟨(record, form) :: records, last, lastForm, rest,
          Passed.cons_iff.mpr ⟨⟨hform, Record.address?_none_iff.mp hip⟩, hpassed⟩,
          by simpa using hlt, hlast, haddress, hdata, by simp⟩
    · rintro ⟨_ | ⟨⟨first, firstForm⟩, records⟩, record, form, rest, hpassed, hlt, hform, haddress,
        hdata, rfl⟩
      · exact ⟨record, form, rest, hform, rfl,
          .inl ⟨ip, Record.address?_some_iff.mpr ⟨haddress, hdata⟩, rfl⟩⟩
      · obtain ⟨⟨hfirst, hother⟩, hpassed⟩ := Passed.cons_iff.mp hpassed
        exact ⟨first, firstForm, _, hfirst, by simp, .inr ⟨Record.address?_none_iff.mpr hother,
          ih.mpr ⟨records, record, form, rest, hpassed, by simpa using hlt, hform, haddress, hdata,
            rfl⟩⟩⟩

/-- No address is found exactly if so many records are there and none is an address record. -/
theorem firstAddress_none_iff {count : Nat} :
    firstAddress count bytes = .ok none ↔
      ∃ records rest, Passed records ∧ records.length = count ∧ bytes = formOf records ++ rest := by
  induction count generalizing bytes with
  | zero =>
    constructor
    · intro _
      exact ⟨[], bytes, by simp [Passed], rfl, rfl⟩
    · intro _
      rfl
  | succ count ih =>
    rw [firstAddress_succ_iff]
    constructor
    · rintro ⟨record, form, behind, hform, rfl, ⟨_, _, ⟨⟩⟩ | ⟨hip, hbehind⟩⟩
      obtain ⟨records, rest, hpassed, hlength, rfl⟩ := ih.mp hbehind
      exact ⟨(record, form) :: records, rest,
        Passed.cons_iff.mpr ⟨⟨hform, Record.address?_none_iff.mp hip⟩, hpassed⟩,
        by simp [hlength], by simp⟩
    · rintro ⟨_ | ⟨⟨first, firstForm⟩, records⟩, rest, hpassed, hlength, rfl⟩
      · cases hlength
      · obtain ⟨⟨hfirst, hother⟩, hpassed⟩ := Passed.cons_iff.mp hpassed
        exact ⟨first, firstForm, _, hfirst, by simp, .inr ⟨Record.address?_none_iff.mpr hother,
          ih.mpr ⟨records, rest, hpassed, by simpa using hlength, rfl⟩⟩⟩

/-! ## Replies -/

/-- The header of a reply to the query with an id: twelve bytes that carry the id, are marked as
a reply without an error code, and state the numbers of questions and of answers. -/
inductive Header (id questions answers : UInt16) : List UInt8 → Prop
  | intro {i₁ i₂ f₁ f₂ q₁ q₂ a₁ a₂ : UInt8} (n₁ n₂ m₁ m₂ : UInt8) :
      word i₁ i₂ = id → f₁ &&& 0x80 ≠ 0 → f₂ &&& 0x0F = 0 →
      word q₁ q₂ = questions → word a₁ a₂ = answers →
      Header id questions answers [i₁, i₂, f₁, f₂, q₁, q₂, a₁, a₂, n₁, n₂, m₁, m₂]

/-- The parts of a reply up to its answers: the header and the questions it states. -/
def Preamble (id answers : UInt16) (bytes : List UInt8) : Prop :=
  ∃ header, ∃ questions : List (List UInt8), ∃ count : UInt16,
    Header id count answers header ∧ questions.length = count.toNat ∧
    (∀ question ∈ questions, Question question) ∧ bytes = header ++ questions.flatten

/-- A reply that gives an address: behind some records of other kinds comes an address record
with that address, within the number of answers stated. -/
def Resolving (packet : List UInt8) (id : UInt16) (ip : Ipv4) : Prop :=
  ∃ preamble answers records record form rest, Preamble id answers preamble ∧ Passed records ∧
    records.length < answers.toNat ∧ Record.Written record form ∧ record.IsAddress ∧
    record.data = ip.octets ∧ packet = preamble ++ formOf records ++ form ++ rest

/-- A reply without an address: all the records stated are there, and none is one. -/
def Unresolving (packet : List UInt8) (id : UInt16) : Prop :=
  ∃ preamble answers records rest, Preamble id answers preamble ∧ Passed records ∧
    records.length = answers.toNat ∧ packet = preamble ++ formOf records ++ rest

theorem judgeBody_resolved_iff {questions answers : UInt16} {body : List UInt8} {ip : Ipv4} :
    judgeBody questions answers body = .resolved ip ↔
      ∃ behind, skipQuestions questions.toNat body = .ok behind ∧
        firstAddress answers.toNat behind = .ok (some ip) := by
  rw [judgeBody]
  match skipQuestions questions.toNat body with
  | .error reason => simp [bind, Except.bind]
  | .ok behind =>
    simp only [bind, Except.bind, Except.ok.injEq, exists_eq_left']
    split <;> simp_all

theorem judgeBody_noAddress_iff {questions answers : UInt16} {body : List UInt8} :
    judgeBody questions answers body = .failed .noAddress ↔
      ∃ behind, skipQuestions questions.toNat body = .ok behind ∧
        firstAddress answers.toNat behind = .ok none := by
  rw [judgeBody]
  match skipQuestions questions.toNat body with
  | .error reason => simp [bind, Except.bind]
  | .ok behind =>
    simp only [bind, Except.bind, Except.ok.injEq, exists_eq_left']
    split <;> simp_all

theorem judge_append {id questions answers : UInt16} {header : List UInt8}
    (h : Header id questions answers header) (body : List UInt8) :
    judge (header ++ body) id = judgeBody questions answers body := by
  obtain ⟨n₁, n₂, m₁, m₂, hword, hflag, hcode, rfl, rfl⟩ := h
  simp only [judge, List.cons_append, List.nil_append]
  rw [if_neg (not_not_intro hword), if_neg hflag, if_neg (by rw [hcode]; decide),
    if_neg (not_not_intro hcode)]

/-- A verdict that needs the part behind the header is the verdict on that part. -/
theorem judge_iff {packet : List UInt8} {id : UInt16} {verdict : Verdict}
    (h : ∀ code, verdict ≠ .failed (.serverFailure code)) (hfound : verdict ≠ .failed .notFound)
    (hid : verdict ≠ .wrongId) (hreadable : ∀ reason, verdict ≠ .malformed reason) :
    judge packet id = verdict ↔
      ∃ header body questions answers, Header id questions answers header ∧
        packet = header ++ body ∧ judgeBody questions answers body = verdict := by
  constructor
  · intro hjudge
    unfold judge at hjudge
    split at hjudge
    · next i₁ i₂ f₁ f₂ q₁ q₂ a₁ a₂ n₁ n₂ m₁ m₂ body =>
      split at hjudge
      · exact absurd hjudge.symm hid
      split at hjudge
      · exact absurd hjudge.symm (hreadable _)
      split at hjudge
      · exact absurd hjudge.symm hfound
      split at hjudge
      · exact absurd hjudge.symm (h _)
      next hword hflag _ hcode =>
      exact ⟨_, body, _, _, .intro n₁ n₂ m₁ m₂ (Decidable.not_not.mp hword) hflag
        (Decidable.not_not.mp hcode) rfl rfl, rfl, hjudge⟩
    · exact absurd hjudge.symm (hreadable _)
  · rintro ⟨header, body, questions, answers, hheader, rfl, rfl⟩
    exact judge_append hheader body

theorem judge_resolved_iff {packet : List UInt8} {id : UInt16} {ip : Ipv4} :
    judge packet id = .resolved ip ↔ Resolving packet id ip := by
  rw [judge_iff (by simp) (by simp) (by simp) (by simp)]
  constructor
  · rintro ⟨header, body, count, answers, hheader, rfl, hbody⟩
    obtain ⟨behind, hskip, hfirst⟩ := judgeBody_resolved_iff.mp hbody
    obtain ⟨questions, hlength, hall, rfl⟩ := skipQuestions_iff.mp hskip
    obtain ⟨records, record, form, rest, hpassed, hlt, hform, haddress, hdata, rfl⟩ :=
      firstAddress_some_iff.mp hfirst
    exact ⟨header ++ questions.flatten, answers, records, record, form, rest,
      ⟨header, questions, count, hheader, hlength, hall, rfl⟩, hpassed, hlt, hform, haddress, hdata,
      by simp⟩
  · rintro ⟨_, answers, records, record, form, rest,
      ⟨header, questions, count, hheader, hlength, hall, rfl⟩, hpassed, hlt, hform, haddress, hdata,
      rfl⟩
    refine ⟨header, questions.flatten ++ (formOf records ++ (form ++ rest)), count, answers,
      hheader, by simp, judgeBody_resolved_iff.mpr ⟨_, skipQuestions_iff.mpr
        ⟨questions, hlength, hall, rfl⟩, firstAddress_some_iff.mpr ⟨records, record, form, rest,
          hpassed, hlt, hform, haddress, hdata, rfl⟩⟩⟩

theorem judge_noAddress_iff {packet : List UInt8} {id : UInt16} :
    judge packet id = .failed .noAddress ↔ Unresolving packet id := by
  rw [judge_iff (by simp) (by simp) (by simp) (by simp)]
  constructor
  · rintro ⟨header, body, count, answers, hheader, rfl, hbody⟩
    obtain ⟨behind, hskip, hfirst⟩ := judgeBody_noAddress_iff.mp hbody
    obtain ⟨questions, hlength, hall, rfl⟩ := skipQuestions_iff.mp hskip
    obtain ⟨records, rest, hpassed, hcount, rfl⟩ := firstAddress_none_iff.mp hfirst
    exact ⟨header ++ questions.flatten, answers, records, rest,
      ⟨header, questions, count, hheader, hlength, hall, rfl⟩, hpassed, hcount, by simp⟩
  · rintro ⟨_, answers, records, rest, ⟨header, questions, count, hheader, hlength, hall, rfl⟩,
      hpassed, hcount, rfl⟩
    exact ⟨header, questions.flatten ++ (formOf records ++ rest), count, answers, hheader, by simp,
      judgeBody_noAddress_iff.mpr ⟨_, skipQuestions_iff.mpr ⟨questions, hlength, hall, rfl⟩,
        firstAddress_none_iff.mpr ⟨records, rest, hpassed, hcount, rfl⟩⟩⟩

end SpiEthernet.Dns
