import SpiEthernet.Dns.Query
import SpiEthernet.Proofs.Dns.Cursor

/-!
# The wire form of a query

Which hosts can be asked for, and what the query for one looks like. A name that can be asked for
has one wire form, and the name can be read back from it: no length in front of a label is zero,
which would end the name, or has its top bits set, which would make it a pointer. So two queries
are the same bytes only if they have the same id and ask for the same name.

* `Askable` : the names that can be asked for.
* `Encoded.inj` : the id and the name are in the packet.
* `query_encodes` : a query is written exactly for the names that can be asked for.
-/

namespace SpiEthernet.Dns

/-! ## Host names -/

theorem dot_not_mem_splitDots {text piece : List UInt8} (h : piece ∈ splitDots text) :
    dot ∉ piece := by
  induction text generalizing piece with
  | nil =>
    rw [splitDots, List.mem_singleton] at h
    rw [h]
    exact List.not_mem_nil
  | cons byte rest ih =>
    rw [splitDots] at h
    split at h
    · rcases List.mem_cons.1 h with rfl | h
      · exact List.not_mem_nil
      · exact ih h
    · next hbyte =>
      cases hpieces : splitDots rest with
      | nil => exact absurd hpieces (splitDots_ne_nil rest)
      | cons first pieces =>
        rw [hpieces] at h ih
        rcases List.mem_cons.1 h with rfl | h
        · intro hmem
          rcases List.mem_cons.1 hmem with hdot | hmem
          · exact hbyte hdot.symm
          · exact ih (List.mem_cons_self ..) hmem
        · exact ih (List.mem_cons_of_mem _ h)

/-- A host name is its name with or without a dot behind it, and without one only if it does not
end in a dot. -/
theorem stripFinalDot_cases (host : List UInt8) :
    host = stripFinalDot host ++ [dot] ∨
      host = stripFinalDot host ∧ host.getLast? ≠ some dot := by
  by_cases h : host.getLast? = some dot
  · obtain ⟨name, rfl⟩ := List.getLast?_eq_some_iff.1 h
    rw [stripFinalDot, if_pos h, List.dropLast_concat]
    exact .inl rfl
  · rw [stripFinalDot, if_neg h]
    exact .inr ⟨rfl, h⟩

/-- A name that can be asked for. -/
structure Askable (name : List UInt8) : Prop where
  nonempty : 1 ≤ name.length
  short : name.length ≤ 253
  labels : ∀ label ∈ splitDots name, 1 ≤ label.length ∧ label.length ≤ 63

theorem isLabel_iff {label : List UInt8} :
    isLabel label = true ↔ 1 ≤ label.length ∧ label.length ≤ 63 := by
  rw [isLabel, Bool.and_eq_true, decide_eq_true_eq, maxLabelLength]
  cases label <;> simp

theorem labels?_of_askable {host : List UInt8} (h : Askable (stripFinalDot host)) :
    labels? host = some (splitDots (stripFinalDot host)) := by
  have hname : ¬ ((stripFinalDot host).isEmpty ||
      (stripFinalDot host).length > maxNameLength) = true := by
    have := h.nonempty
    have := h.short
    rw [Bool.or_eq_true, List.isEmpty_iff_length_eq_zero, decide_eq_true_eq, maxNameLength]
    omega
  rw [labels?, if_neg hname, if_pos]
  exact List.all_eq_true.2 fun label hmem => isLabel_iff.2 (h.labels label hmem)

theorem askable_of_labels? {host : List UInt8} {labels : List (List UInt8)}
    (h : labels? host = some labels) : Askable (stripFinalDot host) := by
  rw [labels?] at h
  by_cases hname : ((stripFinalDot host).isEmpty ||
      (stripFinalDot host).length > maxNameLength) = true
  · rw [if_pos hname] at h
    cases h
  rw [if_neg hname] at h
  rw [Bool.or_eq_true, List.isEmpty_iff_length_eq_zero, decide_eq_true_eq,
    maxNameLength] at hname
  by_cases hall : (splitDots (stripFinalDot host)).all isLabel = true
  · exact ⟨by omega, by omega, fun label hmem =>
      isLabel_iff.1 (List.all_eq_true.1 hall label hmem)⟩
  · rw [if_neg hall] at h
    cases h

/-! ## Labels on the wire -/

/-- The labels that are read from a wire form, each by the length in front of it up to a length of
zero, and what is behind them. -/
def readLabels : List UInt8 → Option (List (List UInt8) × List UInt8)
  | [] => none
  | size :: bytes =>
    if size = 0 then some ([], bytes)
    else
      match h : dropExactly size.toNat bytes with
      | none => none
      | some rest =>
        have : rest.length < bytes.length + 1 := length_lt_of_dropExactly h
        (readLabels rest).map fun read => (bytes.take size.toNat :: read.1, read.2)
  termination_by bytes => bytes.length

/-- The length of a label is neither the end of a name nor the mark of a pointer. -/
theorem size_of_label {label : List UInt8} (h : 1 ≤ label.length ∧ label.length ≤ 63) :
    UInt8.ofNat label.length ≠ 0 ∧ UInt8.ofNat label.length &&& 0xC0 ≠ 0xC0 ∧
      (UInt8.ofNat label.length).toNat = label.length := by
  have hsize : ∀ size : Fin 64, 1 ≤ size.val →
      UInt8.ofNat size ≠ 0 ∧ UInt8.ofNat size &&& 0xC0 ≠ 0xC0 ∧
        (UInt8.ofNat size).toNat = size := by decide
  exact hsize ⟨label.length, by omega⟩ h.1

theorem encodeLabels_cons (label : List UInt8) (labels : List (List UInt8)) :
    encodeLabels (label :: labels) =
      UInt8.ofNat label.length :: (label ++ encodeLabels labels) := by
  rw [encodeLabels, List.flatMap_cons, List.cons_append, List.cons_append, List.append_assoc]
  rfl

variable {labels : List (List UInt8)}

theorem readLabels_label {size : UInt8} {label bytes : List UInt8} (hzero : size ≠ 0)
    (hsize : size.toNat = label.length) :
    readLabels (size :: (label ++ bytes)) =
      (readLabels bytes).map fun read => (label :: read.1, read.2) := by
  have hdrop : dropExactly size.toNat (label ++ bytes) = some bytes :=
    hsize ▸ dropExactly_append label bytes
  rw [readLabels.eq_def]
  refine (if_neg hzero).trans ?_
  split
  · next hnone =>
    rw [hdrop] at hnone
    cases hnone
  · next behind hbehind =>
    rw [hdrop] at hbehind
    cases hbehind
    dsimp only
    rw [hsize, List.take_left]

theorem readLabels_encodeLabels (h : ∀ label ∈ labels, 1 ≤ label.length ∧ label.length ≤ 63)
    (rest : List UInt8) : readLabels (encodeLabels labels ++ rest) = some (labels, rest) := by
  induction labels with
  | nil =>
    rw [encodeLabels, List.flatMap_nil, List.nil_append, List.singleton_append,
      readLabels.eq_def]
    exact if_pos rfl
  | cons label labels ih =>
    obtain ⟨hzero, -, hsize⟩ := size_of_label (h label (List.mem_cons_self ..))
    rw [encodeLabels_cons, List.cons_append, List.append_assoc, readLabels_label hzero hsize,
      ih fun label hmem => h label (List.mem_cons_of_mem _ hmem)]
    rfl

theorem name_encodeLabels (h : ∀ label ∈ labels, 1 ≤ label.length ∧ label.length ≤ 63) :
    Name (encodeLabels labels) := by
  induction labels with
  | nil => exact .root
  | cons label labels ih =>
    obtain ⟨hzero, hpointer, hsize⟩ := size_of_label (h label (List.mem_cons_self ..))
    rw [encodeLabels_cons]
    exact .label hzero hpointer hsize.symm
      (ih fun label hmem => h label (List.mem_cons_of_mem _ hmem))

theorem length_flatMap_consFirst (byte : UInt8) {pieces : List (List UInt8)} (h : pieces ≠ []) :
    ((consFirst byte pieces).flatMap fun piece => UInt8.ofNat piece.length :: piece).length =
      (pieces.flatMap fun piece => UInt8.ofNat piece.length :: piece).length + 1 := by
  cases pieces with
  | nil => exact absurd rfl h
  | cons piece pieces =>
    simp only [consFirst, List.flatMap_cons, List.length_append, List.length_cons]
    omega

/-- The wire form of a name has a byte for the length of its first label, and one at its end. -/
theorem length_encodeLabels_splitDots (name : List UInt8) :
    (encodeLabels (splitDots name)).length = name.length + 2 := by
  have hlabels : ((splitDots name).flatMap fun piece =>
      UInt8.ofNat piece.length :: piece).length = name.length + 1 := by
    induction name with
    | nil => rfl
    | cons byte rest ih =>
      rw [splitDots]
      split
      · rw [List.flatMap_cons, List.length_append, ih, List.length_cons, List.length_nil,
          List.length_cons]
        omega
      · rw [length_flatMap_consFirst byte (splitDots_ne_nil rest), ih, List.length_cons]
  rw [encodeLabels, List.length_append, hlabels, List.length_singleton]

/-! ## Queries -/

/-- A packet asks for the addresses of a name, with an id. -/
structure Encoded (id : UInt16) (name packet : List UInt8) : Prop where
  length : packet.length = name.length + 18
  /-- The id, the wish for recursion, one question, and nothing of the other three kinds. -/
  header : packet.take 12 =
    wordBytes id ++ wordBytes 0x0100 ++ wordBytes 1 ++ wordBytes 0 ++ wordBytes 0 ++ wordBytes 0
  /-- Reading labels by their lengths gives those of the name, in front of the last four bytes. -/
  labels : readLabels (packet.drop 12) = some (splitDots name, packet.drop (packet.length - 4))
  /-- Stepping over the name, as it is done in a reply, ends at the same place. -/
  skips : skipName (packet.drop 12) = .ok (packet.drop (packet.length - 4)) ∧
    nameEnd packet (enoughSteps packet) 12 = Scan.ended (.ok (packet.length - 4))
  ending : packet.drop (packet.length - 4) = [0, 1, 0, 1]
  /-- The packet is no answer to itself. -/
  echo : judge packet id = .malformed .notAResponse

theorem drop_query (header name : List UInt8) {ending : List UInt8} (h : ending.length = 4) :
    (header ++ name ++ ending).drop ((header ++ name ++ ending).length - 4) = ending := by
  rw [List.length_append, h, Nat.add_sub_cancel, List.drop_left]

theorem nameEnd_of_skipName {packet : List UInt8} {position behind : Nat}
    (hposition : position ≤ packet.length) (hbehind : behind ≤ packet.length)
    (h : skipName (packet.drop position) = .ok (packet.drop behind)) :
    nameEnd packet (enoughSteps packet) position = Scan.ended (.ok behind) := by
  have hlocates := name_locates hposition
  rw [h] at hlocates
  generalize nameEnd packet (enoughSteps packet) position = ending at hlocates ⊢
  generalize hdrop : packet.drop behind = rest at hlocates
  cases hlocates with
  | @found found hfound =>
    have hlength := congrArg List.length hdrop
    rw [List.length_drop, List.length_drop] at hlength
    rw [show found = behind by omega]

theorem encoded_query (id : UInt16) {name : List UInt8} (h : Askable name) :
    Encoded id name (queryHeader id ++ encodeLabels (splitDots name) ++ addressQuestion) := by
  have hdrop : (queryHeader id ++ encodeLabels (splitDots name) ++ addressQuestion).drop 12 =
      encodeLabels (splitDots name) ++ addressQuestion := rfl
  have hending := drop_query (queryHeader id) (encodeLabels (splitDots name))
    (show addressQuestion.length = 4 from rfl)
  have hlength : (queryHeader id ++ encodeLabels (splitDots name) ++ addressQuestion).length =
      name.length + 18 := by
    rw [List.length_append, List.length_append, length_queryHeader,
      length_encodeLabels_splitDots]
    show 12 + (name.length + 2) + 4 = _
    omega
  have hskip : skipName ((queryHeader id ++ encodeLabels (splitDots name) ++
      addressQuestion).drop 12) = .ok addressQuestion :=
    hdrop ▸ skipName_append (name_encodeLabels h.labels) addressQuestion
  refine ⟨hlength, rfl, ?_, ⟨hending.symm ▸ hskip, ?_⟩, hending, ?_⟩
  · rw [hdrop, hending]
    exact readLabels_encodeLabels h.labels addressQuestion
  · exact nameEnd_of_skipName (by omega) (by omega) (hending.symm ▸ hskip)
  · show (if word (highByte id) (lowByte id) ≠ id then Verdict.wrongId else _) = _
    rw [word_highByte_lowByte, if_neg fun hne => hne rfl]
    rfl

/-- What a packet asks for can be read from it. -/
theorem Encoded.inj {id id' : UInt16} {name name' packet : List UInt8}
    (h : Encoded id name packet) (h' : Encoded id' name' packet) : id = id' ∧ name = name' := by
  have hheader := h.header.symm.trans h'.header
  have hhigh : highByte id = highByte id' := (List.cons.inj hheader).1
  have hlow : lowByte id = lowByte id' := (List.cons.inj (List.cons.inj hheader).2).1
  have hlabels : splitDots name = splitDots name' :=
    (Prod.mk.inj (Option.some.inj (h.labels.symm.trans h'.labels))).1
  refine ⟨?_, ?_⟩
  · rw [← word_highByte_lowByte id, hhigh, hlow, word_highByte_lowByte]
  · rw [← joinDots_splitDots name, hlabels, joinDots_splitDots]

theorem query_of_askable (id : UInt16) {host : List UInt8} (h : Askable (stripFinalDot host)) :
    query id host = .ok (queryHeader id ++ encodeLabels (splitDots (stripFinalDot host)) ++
      addressQuestion) := by
  rw [query, labels?_of_askable h]

theorem encoded_of_query {id : UInt16} {host packet : List UInt8}
    (h : query id host = .ok packet) :
    Askable (stripFinalDot host) ∧ Encoded id (stripFinalDot host) packet := by
  cases hlabels : labels? host with
  | none =>
    rw [query, hlabels] at h
    cases h
  | some labels =>
    have haskable := askable_of_labels? hlabels
    rw [query_of_askable id haskable] at h
    cases h
    exact ⟨haskable, encoded_query id haskable⟩

/-- Every query fits into a transmit ring. -/
theorem query_fits {id : UInt16} {host packet : List UInt8} (h : query id host = .ok packet) :
    packet ≠ [] ∧ packet.length ≤ 2048 := by
  obtain ⟨haskable, hencoded⟩ := encoded_of_query h
  have := haskable.short
  have := hencoded.length
  refine ⟨fun hnil => ?_, by omega⟩
  rw [hnil, List.length_nil] at this
  omega

/-- A query is written exactly for the names that can be asked for, and everything that was put
into it can be read back: its labels, their end, its id, and so the whole name. Nothing else is
written the same way, and the query itself is no answer to it. -/
theorem query_encodes (id : UInt16) (host : List UInt8) :
    (host = stripFinalDot host ++ [dot] ∨
      host = stripFinalDot host ∧ host.getLast? ≠ some dot) ∧
    (joinDots (splitDots (stripFinalDot host)) = stripFinalDot host ∧
      ∀ label ∈ splitDots (stripFinalDot host), dot ∉ label) ∧
    match query id host with
    | .ok packet => Askable (stripFinalDot host) ∧ Encoded id (stripFinalDot host) packet ∧
        ∀ id' host', query id' host' = .ok packet →
          id' = id ∧ stripFinalDot host' = stripFinalDot host
    | .error cause => cause = .invalidHostname ∧ ¬ Askable (stripFinalDot host) := by
  refine ⟨stripFinalDot_cases host,
    ⟨joinDots_splitDots _, fun label hmem => dot_not_mem_splitDots hmem⟩, ?_⟩
  cases hquery : query id host with
  | ok packet =>
    obtain ⟨haskable, hencoded⟩ := encoded_of_query hquery
    exact ⟨haskable, hencoded, fun id' host' hsame =>
      (encoded_of_query hsame).2.inj hencoded⟩
  | error cause =>
    refine ⟨?_, fun haskable => ?_⟩
    · rw [query] at hquery
      split at hquery
      · cases hquery
      · exact (Except.error.inj hquery).symm
    · rw [query_of_askable id haskable] at hquery
      cases hquery

end SpiEthernet.Dns
