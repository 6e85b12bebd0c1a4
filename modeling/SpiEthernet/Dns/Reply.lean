import SpiEthernet.Address
import SpiEthernet.Error

/-!
# Replies of a name server

A reply is read from front to back: twelve bytes of header, the questions repeated, and the
answer records. The first record that is an address of the right length decides; records of
other kinds are stepped over. Everything is checked against the end of the packet, because a
packet can state any counts and lengths it likes.

* `length_dropExactly` : what is stepped over is as long as it says it is.
-/

namespace SpiEthernet.Dns

/-! ## Verdicts -/

/-- What makes a packet unreadable. -/
inductive Malformed where
  | tooShort
  | notAResponse
  | questionCut
  | answerCut
  | recordDataCut
  | nameCut
  | pointerCut
  | labelCut
deriving DecidableEq, Repr

/-- The text for an unreadable packet. -/
def Malformed.message : Malformed → String
  | tooShort => "packet too short"
  | notAResponse => "not a response"
  | questionCut => "truncated question"
  | answerCut => "truncated answer"
  | recordDataCut => "truncated RDATA"
  | nameCut => "name extends past packet"
  | pointerCut => "truncated pointer"
  | labelCut => "label extends past packet"

/-- What a packet says about a query. -/
inductive Verdict where
  /-- The host has this address. -/
  | resolved (ip : Ipv4)
  /-- The query has been answered, but not with an address. -/
  | failed (cause : ResolveError)
  /-- The packet belongs to another query. -/
  | wrongId
  /-- The packet cannot be trusted. -/
  | malformed (reason : Malformed)
deriving DecidableEq, Repr

/-- The result a verdict settles a query with, if it does. -/
def Verdict.conclusion : Verdict → Option (Except ResolveError Ipv4)
  | resolved ip => some (.ok ip)
  | failed cause => some (.error cause)
  | wrongId | malformed _ => none

/-! ## Stepping over parts -/

/-- What follows the first `count` bytes, if there are that many. -/
def dropExactly : Nat → List UInt8 → Option (List UInt8)
  | 0, bytes => some bytes
  | _ + 1, [] => none
  | count + 1, _ :: bytes => dropExactly count bytes

theorem dropExactly_eq (count : Nat) (bytes : List UInt8) :
    dropExactly count bytes = if count ≤ bytes.length then some (bytes.drop count) else none := by
  induction count generalizing bytes with
  | zero => simp [dropExactly]
  | succ count ih => cases bytes <;> simp [dropExactly, ih]

theorem length_dropExactly {count : Nat} {bytes rest : List UInt8}
    (h : dropExactly count bytes = some rest) : rest.length + count = bytes.length := by
  rw [dropExactly_eq] at h
  split at h
  · next hle =>
    cases h
    rw [List.length_drop]
    omega
  · cases h

theorem length_lt_of_dropExactly {count : Nat} {bytes rest : List UInt8}
    (h : dropExactly count bytes = some rest) : rest.length < bytes.length + 1 := by
  have := length_dropExactly h
  omega

/-- What follows a name: labels up to a zero byte or a two-byte pointer. -/
def skipName : List UInt8 → Except Malformed (List UInt8)
  | [] => .error .nameCut
  | size :: bytes =>
    if size = 0 then .ok bytes
    else if size &&& 0xC0 = 0xC0 then
      match bytes with
      | [] => .error .pointerCut
      | _ :: rest => .ok rest
    else
      match h : dropExactly size.toNat bytes with
      | none => .error .labelCut
      | some rest =>
        have : rest.length < bytes.length + 1 := length_lt_of_dropExactly h
        skipName rest
  termination_by bytes => bytes.length

/-- What follows a number of questions. -/
def skipQuestions : Nat → List UInt8 → Except Malformed (List UInt8)
  | 0, bytes => .ok bytes
  | count + 1, bytes => do
    match dropExactly 4 (← skipName bytes) with
    | some rest => skipQuestions count rest
    | none => .error .questionCut

/-! ## Records -/

/-- One record of a reply, as far as it matters. -/
structure Record where
  kind : UInt16
  space : UInt16
  data : List UInt8
deriving DecidableEq, Repr

/-- Cuts the first `count` bytes off, if there are that many. -/
def takeExactly? (count : Nat) (bytes : List UInt8) : Option (List UInt8 × List UInt8) :=
  (dropExactly count bytes).map fun rest => (bytes.take count, rest)

/-- Reads one record and what follows it. -/
def Record.read (bytes : List UInt8) : Except Malformed (Record × List UInt8) := do
  match ← skipName bytes with
  | t₁ :: t₂ :: c₁ :: c₂ :: _ :: _ :: _ :: _ :: l₁ :: l₂ :: rest =>
    match takeExactly? (word l₁ l₂).toNat rest with
    | some (data, rest) => .ok (⟨word t₁ t₂, word c₁ c₂, data⟩, rest)
    | none => .error .recordDataCut
  | _ => .error .answerCut

/-- The address a record gives, if it is an address record of the internet with four bytes. -/
def Record.address? (record : Record) : Option Ipv4 :=
  match record.data with
  | [a, b, c, d] => if record.kind = 1 ∧ record.space = 1 then some ⟨a, b, c, d⟩ else none
  | _ => none

/-- Looks through a number of records for the first address. -/
def firstAddress : Nat → List UInt8 → Except Malformed (Option Ipv4)
  | 0, _ => .ok none
  | count + 1, bytes => do
    let (record, rest) ← Record.read bytes
    match record.address? with
    | some ip => .ok (some ip)
    | none => firstAddress count rest

/-! ## Replies -/

/-- The verdict on the part behind the header of a reply without an error code. -/
def judgeBody (questions answers : UInt16) (body : List UInt8) : Verdict :=
  match skipQuestions questions.toNat body >>= firstAddress answers.toNat with
  | .ok (some ip) => .resolved ip
  | .ok none => .failed .noAddress
  | .error reason => .malformed reason

/-- The verdict on a packet that may answer the query with the given id. -/
def judge (packet : List UInt8) (id : UInt16) : Verdict :=
  match packet with
  | i₁ :: i₂ :: f₁ :: f₂ :: q₁ :: q₂ :: a₁ :: a₂ :: _ :: _ :: _ :: _ :: body =>
    if word i₁ i₂ ≠ id then .wrongId
    else if f₁ &&& 0x80 = 0 then .malformed .notAResponse
    else if f₂ &&& 0x0F = 3 then .failed .notFound
    else if f₂ &&& 0x0F ≠ 0 then .failed (.serverFailure (f₂ &&& 0x0F))
    else judgeBody (word q₁ q₂) (word a₁ a₂) body
  | _ => .malformed .tooShort

end SpiEthernet.Dns
