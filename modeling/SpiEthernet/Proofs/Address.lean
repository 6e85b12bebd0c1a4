import Mathlib.Data.Nat.Digits.Lemmas
import SpiEthernet.Address

/-!
# Dotted text

Which texts name an address. The reader goes over the text once, with a 16-bit value and an early
check of its range; a dotted quad is a thing of its own, four runs of decimal digits with dots
between them. After any part of a text the reader knows exactly how that part is cut into runs and
what they are worth, and this is what one byte more preserves.

* `IsQuad` : the text is the dotted quad of an address.
* `Scan.Covers.next` : what the reader knows is preserved byte by byte.
* `parse?_eq_some_iff` : a text names an address exactly if it is its dotted quad.
* `quads_parsed` : the same, with the range of the value and the text of an address.
-/

namespace SpiEthernet.Ipv4

/-! ## Runs of decimal digits -/

/-- The number a run of decimal digits stands for, the last of them being the ones. -/
def decimal (run : List UInt8) : Nat :=
  Nat.ofDigits 10 (run.reverse.map fun byte => byte.toNat - 48)

/-- A non-empty run of digits that stands for an octet, with any number of zeros in front. -/
structure IsDecimal (run : List UInt8) (octet : UInt8) : Prop where
  nonempty : run ≠ []
  digits : ∀ byte ∈ run, isDigit byte
  value : decimal run = octet.toNat

/-- A text of four decimal runs, joined by dots, that stand for the octets of an address. -/
def IsQuad (text : List UInt8) (ip : Ipv4) : Prop :=
  ∃ a b c d, text = joinDots [a, b, c, d] ∧
    IsDecimal a ip.a ∧ IsDecimal b ip.b ∧ IsDecimal c ip.c ∧ IsDecimal d ip.d

@[simp] theorem decimal_nil : decimal [] = 0 := rfl

theorem decimal_concat (run : List UInt8) (byte : UInt8) :
    decimal (run ++ [byte]) = 10 * decimal run + (byte.toNat - 48) := by
  rw [decimal, decimal, List.reverse_concat, List.map_cons, Nat.ofDigits_cons]
  omega

theorem isDigit_iff {byte : UInt8} : isDigit byte = true ↔ 48 ≤ byte.toNat ∧ byte.toNat ≤ 57 := by
  simp [isDigit, UInt8.le_iff_toNat_le]

/-! ## What the reader knows -/

namespace Scan

/-- A digit is put behind the value, if the value stays an octet. -/
theorem next?_digit {scan : Scan} {byte : UInt8} (hvalue : scan.value.toNat ≤ 255)
    (hdigit : isDigit byte = true) :
    scan.next? byte =
      if 10 * scan.value.toNat + (byte.toNat - 48) ≤ 255 then
        some { scan with
          value := UInt16.ofNat (10 * scan.value.toNat + (byte.toNat - 48)), begun := true }
      else none := by
  have hbyte := isDigit_iff.1 hdigit
  have hsub : (byte - 48).toUInt16.toNat = byte.toNat - 48 := by
    rw [UInt8.toNat_toUInt16, UInt8.toNat_sub_of_le byte 48 (UInt8.le_iff_toNat_le.2 hbyte.1)]
    rfl
  have hten : (10 : UInt16).toNat = 10 := rfl
  have hnat : (scan.value * 10 + (byte - 48).toUInt16).toNat =
      10 * scan.value.toNat + (byte.toNat - 48) := by
    rw [UInt16.toNat_add, UInt16.toNat_mul, hsub, hten]
    omega
  have hlarge : scan.value * 10 + (byte - 48).toUInt16 > 255 ↔
      ¬ 10 * scan.value.toNat + (byte.toNat - 48) ≤ 255 := by
    rw [gt_iff_lt, UInt16.lt_iff_toNat_lt, hnat, Nat.not_le]
    rfl
  rw [next?, if_pos hdigit, ← hnat, UInt16.ofNat_toNat, hnat]
  by_cases h : 10 * scan.value.toNat + (byte.toNat - 48) ≤ 255
  · rw [if_pos h]
    exact if_neg fun hgt => hlarge.1 hgt h
  · rw [if_neg h]
    exact if_pos (hlarge.2 h)

/-- A dot puts the octet behind the others, if a run has begun and a dot is still due. -/
theorem next?_dot (scan : Scan) :
    scan.next? dot =
      if scan.begun = true ∧ scan.octets.length < 3 then
        some { octets := scan.octets ++ [scan.value.toUInt8] }
      else none := by
  have hclosed : (!scan.begun || decide (scan.octets.length ≥ 3)) = true ↔
      ¬ (scan.begun = true ∧ scan.octets.length < 3) := by
    cases scan.begun <;> simp
  rw [next?, if_neg (by decide), if_pos rfl]
  by_cases h : scan.begun = true ∧ scan.octets.length < 3
  · rw [if_pos h, if_neg fun closed => hclosed.1 closed h]
  · rw [if_neg h, if_pos (hclosed.2 h)]

/-- No other byte may stand in a dotted text. -/
theorem next?_other {scan : Scan} {byte : UInt8} (hdigit : ¬ isDigit byte = true)
    (hdot : byte ≠ dot) : scan.next? byte = none := by
  rw [next?, if_neg hdigit, if_neg hdot]

/-- The part of a text that has been read is some decimal runs with a dot behind each, which are
the octets the reader holds, and the digits of one run more. -/
structure Covers (scan : Scan) (read : List UInt8) (runs : List (List UInt8))
    (run : List UInt8) : Prop where
  read : read = (runs.map (· ++ [dot])).flatten ++ run
  octets : List.Forall₂ IsDecimal runs scan.octets
  few : scan.octets.length ≤ 3
  digits : ∀ byte ∈ run, isDigit byte
  value : decimal run = scan.value.toNat
  small : scan.value.toNat ≤ 255
  begun : scan.begun = true ↔ run ≠ []

theorem covers_nil : Covers {} [] [] [] where
  read := rfl
  octets := .nil
  few := Nat.zero_le 3
  digits := by simp
  value := rfl
  small := Nat.zero_le 255
  begun := by simp

variable {scan scan' : Scan} {read run : List UInt8} {runs : List (List UInt8)} {byte : UInt8}

/-- The value of a run that is small enough is the octet it stands for. -/
theorem Covers.isDecimal (h : scan.Covers read runs run) (hbegun : scan.begun = true) :
    IsDecimal run scan.value.toUInt8 where
  nonempty := h.begun.1 hbegun
  digits := h.digits
  value := by
    have hsmall := h.small
    rw [h.value, UInt16.toNat_toUInt8]
    omega

/-- A byte that is read continues the run if it is a digit, and ends it if it is a dot. -/
theorem Covers.next (h : scan.Covers read runs run) (hnext : scan.next? byte = some scan') :
    scan'.Covers (read ++ [byte]) runs (run ++ [byte]) ∨
      scan'.Covers (read ++ [byte]) (runs ++ [run]) [] := by
  by_cases hdigit : isDigit byte = true
  · rw [next?_digit h.small hdigit] at hnext
    obtain ⟨hsmall, hscan⟩ := Option.ite_none_right_eq_some.1 hnext
    cases hscan
    have hvalue : (UInt16.ofNat (10 * scan.value.toNat + (byte.toNat - 48))).toNat =
        10 * scan.value.toNat + (byte.toNat - 48) := by
      rw [UInt16.toNat_ofNat']
      omega
    refine .inl ⟨?_, h.octets, h.few, ?_, ?_, hvalue.trans_le hsmall, by simp⟩
    · rw [h.read, List.append_assoc]
    · rintro other hmem
      rcases List.mem_append.1 hmem with hmem | hmem
      · exact h.digits other hmem
      · rwa [List.mem_singleton.1 hmem]
    · rw [decimal_concat, h.value, hvalue]
  · by_cases hdot : byte = dot
    · rw [hdot, next?_dot] at hnext
      obtain ⟨⟨hbegun, hroom⟩, hscan⟩ := Option.ite_none_right_eq_some.1 hnext
      cases hscan
      refine .inr ⟨?_, ?_, ?_, by simp, rfl, Nat.zero_le 255, by simp⟩
      · rw [h.read, hdot]
        simp
      · exact List.rel_append h.octets (.cons (h.isDecimal hbegun) .nil)
      · rw [List.length_append, List.length_singleton]
        omega
    · rw [next?_other hdigit hdot] at hnext
      cases hnext

/-- Whatever part of a text has been read, it is cut into runs. -/
theorem covers_of_read {text : List UInt8} (h : text.foldlM next? {} = some scan) :
    ∃ runs run, scan.Covers text runs run := by
  induction text using List.reverseRecOn generalizing scan with
  | nil =>
    cases h
    exact ⟨[], [], covers_nil⟩
  | append_singleton text byte ih =>
    rw [List.foldlM_append] at h
    obtain ⟨before, hbefore, hlast⟩ := Option.bind_eq_some_iff.1 h
    obtain ⟨runs, run, hcovers⟩ := ih hbefore
    have hnext : before.next? byte = some scan := by simpa using hlast
    rcases hcovers.next hnext with hnow | hnow
    · exact ⟨_, _, hnow⟩
    · exact ⟨_, _, hnow⟩

/-- The value never leaves 16 bits: there is always room for one more digit. -/
theorem value_fits {text : List UInt8} (h : text.foldlM next? {} = some scan)
    (hdigit : isDigit byte = true) :
    scan.value.toNat * 10 + (byte.toNat - 48) < 2 ^ 16 := by
  obtain ⟨runs, run, hcovers⟩ := covers_of_read h
  have := hcovers.small
  have := isDigit_iff.1 hdigit
  omega

/-! ## Reading a quad -/

/-- A run of digits that stands for an octet is read to its end. -/
theorem foldlM_run {octets : List UInt8} (hdigits : ∀ byte ∈ run, isDigit byte)
    (hvalue : decimal run ≤ 255) :
    run.foldlM next? { octets } =
      some { octets, value := UInt16.ofNat (decimal run), begun := !run.isEmpty } := by
  induction run using List.reverseRecOn with
  | nil => rfl
  | append_singleton run byte ih =>
    rw [decimal_concat] at hvalue
    have hrun : ∀ other ∈ run, isDigit other := fun other h =>
      hdigits other (List.mem_append_left _ h)
    have hdigit : isDigit byte = true :=
      hdigits byte (List.mem_append_right _ (List.mem_singleton_self byte))
    have hbefore : (UInt16.ofNat (decimal run)).toNat = decimal run := by
      rw [UInt16.toNat_ofNat']
      omega
    rw [List.foldlM_append, ih hrun (by omega), Option.bind_eq_bind, Option.bind_some,
      List.foldlM_cons, next?_digit (by rw [hbefore]; omega) hdigit, hbefore, if_pos hvalue,
      ← decimal_concat]
    simp

/-- A decimal run and a dot are one octet more, if a dot is still due. -/
theorem foldlM_run_dot {octets : List UInt8} {octet : UInt8} (h : IsDecimal run octet)
    (hroom : octets.length < 3) (rest : List UInt8) :
    (run ++ dot :: rest).foldlM next? { octets } =
      rest.foldlM next? { octets := octets ++ [octet] } := by
  have hsmall : decimal run ≤ 255 := by
    have := h.value
    have := octet.toNat_lt
    omega
  have hbegun : (!run.isEmpty) = true := by simpa using h.nonempty
  have hoctet : (UInt16.ofNat (decimal run)).toUInt8 = octet := by
    rw [h.value]
    exact UInt8.toNat_inj.1 (by simp)
  rw [List.foldlM_append, foldlM_run h.digits hsmall, Option.bind_eq_bind, Option.bind_some,
    List.foldlM_cons, next?_dot, if_pos ⟨hbegun, hroom⟩, hoctet]
  rfl

end Scan

/-! ## The texts that name an address -/

/-- The dotted quad of an address is read as that address. -/
theorem parse?_of_isQuad {text : List UInt8} {ip : Ipv4} (h : IsQuad text ip) :
    parse? text = some ip := by
  obtain ⟨a, b, c, d, rfl, ha, hb, hc, hd⟩ := h
  have hsmall : decimal d ≤ 255 := by
    have := hd.value
    have := ip.d.toNat_lt
    omega
  have hread : (joinDots [a, b, c, d]).foldlM Scan.next? {} =
      some ⟨[ip.a, ip.b, ip.c], UInt16.ofNat (decimal d), !d.isEmpty⟩ := by
    rw [joinDots, Scan.foldlM_run_dot ha (by simp), joinDots,
      Scan.foldlM_run_dot hb (by simp), joinDots, Scan.foldlM_run_dot hc (by simp), joinDots,
      Scan.foldlM_run hd.digits hsmall]
    rfl
  have hoctet : (UInt16.ofNat (decimal d)).toUInt8 = ip.d := by
    rw [hd.value]
    exact UInt8.toNat_inj.1 (by simp)
  rw [parse?, hread]
  simp [Scan.finish?, hd.nonempty, hoctet, ofOctets]

/-- A text that is read as an address is its dotted quad. -/
theorem isQuad_of_parse? {text : List UInt8} {ip : Ipv4} (h : parse? text = some ip) :
    IsQuad text ip := by
  obtain ⟨scan, hread, hfinish⟩ := Option.bind_eq_some_iff.1 h
  obtain ⟨runs, run, hcovers⟩ := Scan.covers_of_read hread
  rw [Scan.finish?] at hfinish
  obtain ⟨hend, hip⟩ := Option.ite_none_left_eq_some.1 hfinish
  obtain ⟨hbegun, hlength⟩ : scan.begun = true ∧ scan.octets.length = 3 := by simpa using hend
  obtain ⟨a, b, c, hoctets⟩ := List.length_eq_three.1 hlength
  have hruns := hcovers.octets
  rw [hoctets] at hruns
  obtain ⟨first, second, third, rfl, ha, hb, hc⟩ :
      ∃ first second third, runs = [first, second, third] ∧
        IsDecimal first a ∧ IsDecimal second b ∧ IsDecimal third c := by
    cases hruns with
    | cons ha hruns => cases hruns with
      | cons hb hruns => cases hruns with
        | cons hc hruns =>
          cases hruns
          exact ⟨_, _, _, rfl, ha, hb, hc⟩
  cases hip
  refine ⟨first, second, third, run, ?_, ?_⟩
  · rw [hcovers.read]
    simp [joinDots]
  · rw [hoctets]
    exact ⟨ha, hb, hc, hcovers.isDecimal hbegun⟩

theorem parse?_eq_some_iff {text : List UInt8} {ip : Ipv4} :
    parse? text = some ip ↔ IsQuad text ip :=
  ⟨isQuad_of_parse?, parse?_of_isQuad⟩

/-! ## The text of an address -/

/-- The bytes of a byte array in a list, which are read off one after the other. -/
theorem toList_eq_data (bytes : ByteArray) : bytes.toList = bytes.data.toList := by
  have hloop (count i : Nat) (before : List UInt8) (hcount : bytes.size - i = count) :
      ByteArray.toList.loop bytes i before = before.reverse ++ bytes.data.toList.drop i := by
    induction count generalizing i before with
    | zero =>
      rw [ByteArray.toList.loop, if_neg (by omega),
        List.drop_eq_nil_of_le (Nat.le_of_sub_eq_zero hcount), List.append_nil]
    | succ count ih =>
      have hi : i < bytes.size := by omega
      have hget : bytes.get! i = bytes.data.toList.get ⟨i, hi⟩ := getElem!_pos bytes.data i hi
      rw [ByteArray.toList.loop, if_pos hi, ih _ _ (by omega), List.drop_eq_getElem_cons hi, hget,
        List.get_eq_getElem, List.reverse_cons, List.append_assoc, List.singleton_append]
  exact hloop _ 0 [] rfl

theorem bytes_append (first second : String) :
    (first ++ second).toUTF8.toList = first.toUTF8.toList ++ second.toUTF8.toList := by
  rw [toList_eq_data, toList_eq_data, toList_eq_data, String.toUTF8, String.toByteArray_append,
    ByteArray.toList_data_append]
  rfl

/-- A text of ASCII characters has one byte for each of them. -/
theorem bytes_ofList {chars : List Char} (h : ∀ char ∈ chars, char.val ≤ 127) :
    (String.ofList chars).toUTF8.toList = chars.map fun char => char.val.toUInt8 := by
  rw [toList_eq_data, String.toUTF8, String.toByteArray_ofList, List.utf8Encode,
    List.data_toByteArray, List.toList_toArray, List.map_eq_flatMap]
  refine List.flatMap_congr fun char hmem => ?_
  exact String.utf8EncodeChar_eq_singleton (Char.utf8Size_eq_one_iff.2 (h char hmem))

/-- Reading characters as decimal digits and reading their bytes is the same. -/
theorem decimal_map (chars : List Char) (h : ∀ char ∈ chars, char.val ≤ 127) :
    decimal (chars.map fun char => char.val.toUInt8) = Nat.ofDigitChars 10 chars 0 := by
  induction chars using List.reverseRecOn with
  | nil => rfl
  | append_singleton chars char ih =>
    have hchar : char.val.toNat ≤ 127 := UInt32.le_iff_toNat_le.1 (h char (by simp))
    have hbyte : char.val.toUInt8.toNat = char.toNat := by
      rw [UInt32.toNat_toUInt8]
      exact Nat.mod_eq_of_lt (by omega)
    rw [List.map_append, List.map_singleton, decimal_concat,
      ih fun other hmem => h other (List.mem_append_left _ hmem), hbyte, Nat.ofDigitChars,
      Nat.ofDigitChars, List.foldl_append]
    rfl

/-- The decimal text of an octet is a run of digits that stands for it. -/
theorem isDecimal_toString (octet : UInt8) :
    IsDecimal (toString octet.toNat).toUTF8.toList octet := by
  have hdigit (char : Char) (hmem : char ∈ Nat.toDigits 10 octet.toNat) :
      48 ≤ char.val.toNat ∧ char.val.toNat ≤ 57 := by
    have h := Nat.isDigit_of_mem_toDigits (by decide) (by decide) hmem
    rw [Char.isDigit, Bool.and_eq_true, decide_eq_true_eq, decide_eq_true_eq] at h
    exact ⟨UInt32.le_iff_toNat_le.1 h.1, UInt32.le_iff_toNat_le.1 h.2⟩
  have hascii (char : Char) (hmem : char ∈ Nat.toDigits 10 octet.toNat) : char.val ≤ 127 := by
    have := (hdigit char hmem).2
    refine UInt32.le_iff_toNat_le.2 (this.trans ?_)
    decide
  rw [Nat.toString_eq_repr, Nat.repr, bytes_ofList hascii]
  refine ⟨by simp [Nat.toDigits_ne_nil], ?_, ?_⟩
  · rintro byte hmem
    obtain ⟨char, hchar, rfl⟩ := List.mem_map.1 hmem
    have := hdigit char hchar
    rw [isDigit_iff, UInt32.toNat_toUInt8]
    omega
  · rw [decimal_map _ hascii, Nat.ofDigitChars_toDigits (by decide) (by decide)]

/-- The text of an address is its dotted quad, without zeros in front. -/
theorem isQuad_toText (ip : Ipv4) : IsQuad ip.toText.toUTF8.toList ip := by
  refine ⟨_, _, _, _, ?_, isDecimal_toString ip.a, isDecimal_toString ip.b,
    isDecimal_toString ip.c, isDecimal_toString ip.d⟩
  have hdot : ".".toUTF8.toList = [dot] := by decide +kernel
  simp only [toText, octets, List.map_cons, List.map_nil, String.intercalate_cons_cons,
    String.intercalate_singleton, bytes_append, hdot, joinDots, List.append_assoc,
    List.singleton_append]

/-! ## The reader as a whole -/

/-- A text is read as an address exactly if it is the dotted quad of it, and not at all if it is
the dotted quad of none; on the way there is room in 16 bits for the value of every digit, and
what is written for an address is read as that address. -/
theorem quads_parsed :
    (∀ text ip, parse? text = some ip ↔ IsQuad text ip) ∧
    (∀ text, (∀ ip, ¬ IsQuad text ip) → parse? text = none) ∧
    (∀ read scan byte, List.foldlM Scan.next? {} read = some scan → isDigit byte = true →
      scan.value.toNat * 10 + (byte.toNat - 48) < 2 ^ 16) ∧
    ∀ ip : Ipv4, parse? ip.toText.toUTF8.toList = some ip := by
  refine ⟨fun text ip => parse?_eq_some_iff, fun text hnone => ?_,
    fun read scan byte hread hdigit => Scan.value_fits hread hdigit,
    fun ip => parse?_of_isQuad (isQuad_toText ip)⟩
  rw [Option.eq_none_iff_forall_ne_some]
  exact fun ip hip => hnone ip (isQuad_of_parse? hip)

/-- Zeros in front of the third run are read over, and there is room for the 5 of 255 behind the
25 that has been read before it. -/
theorem quads_parsed_zeros :
    (IsQuad "10.1.007.255".toUTF8.toList ⟨10, 1, 7, 255⟩ ∧
      parse? "10.1.007.255".toUTF8.toList = some ⟨10, 1, 7, 255⟩) ∧
    ((∀ ip, ¬ IsQuad "10.1.7.".toUTF8.toList ip) ∧ parse? "10.1.7.".toUTF8.toList = none) ∧
    (List.foldlM Scan.next? {} "10.1.007.25".toUTF8.toList = some ⟨[10, 1, 7], 25, true⟩ ∧
      (25 : UInt16).toNat * 10 + ((53 : UInt8).toNat - 48) < 2 ^ 16) := by
  obtain ⟨hsome, hnone, hfits, -⟩ := quads_parsed
  have hread : List.foldlM Scan.next? {} "10.1.007.25".toUTF8.toList =
      some ⟨[10, 1, 7], 25, true⟩ := by decide +kernel
  have hzeros : IsQuad "10.1.007.255".toUTF8.toList ⟨10, 1, 7, 255⟩ :=
    ⟨[49, 48], [49], [48, 48, 55], [50, 53, 53], by decide +kernel,
      ⟨by decide, List.all_eq_true.1 rfl, rfl⟩, ⟨by decide, List.all_eq_true.1 rfl, rfl⟩,
      ⟨by decide, List.all_eq_true.1 rfl, rfl⟩, ⟨by decide, List.all_eq_true.1 rfl, rfl⟩⟩
  have hopen : ∀ ip, ¬ IsQuad "10.1.7.".toUTF8.toList ip := by
    intro ip hquad
    have hclosed : parse? "10.1.7.".toUTF8.toList = none := by decide +kernel
    rw [← hsome, hclosed] at hquad
    cases hquad
  exact ⟨⟨hzeros, (hsome _ _).2 hzeros⟩, ⟨hopen, hnone _ hopen⟩,
    ⟨hread, hfits _ _ 53 hread (by decide)⟩⟩

end SpiEthernet.Ipv4
