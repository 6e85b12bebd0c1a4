/-!
# Byte strings cut at dots

Dotted quads and host names are both lists of pieces with dots between them. This file cuts a
byte string at its dots and joins pieces again.

* `joinDots_splitDots` : joining what was cut gives the text back.
* `splitDots_joinDots` : cutting what was joined from dot-free pieces gives the pieces back.
-/

namespace SpiEthernet

/-- The byte of the full stop. -/
def dot : UInt8 := 46

/-- Puts a byte in front of the first piece. -/
def consFirst (byte : UInt8) : List (List UInt8) → List (List UInt8)
  | [] => [[byte]]
  | piece :: pieces => (byte :: piece) :: pieces

/-- Cuts a text at every dot; there is always one piece more than there are dots. -/
def splitDots : List UInt8 → List (List UInt8)
  | [] => [[]]
  | byte :: rest => if byte = dot then [] :: splitDots rest else consFirst byte (splitDots rest)

/-- Writes the pieces one after the other with a dot between neighbours. -/
def joinDots : List (List UInt8) → List UInt8
  | [] => []
  | [piece] => piece
  | piece :: next :: pieces => piece ++ dot :: joinDots (next :: pieces)

theorem splitDots_ne_nil (text : List UInt8) : splitDots text ≠ [] := by
  cases text with
  | nil => simp [splitDots]
  | cons byte rest =>
    simp only [splitDots]
    split
    · simp
    · cases splitDots rest <;> simp [consFirst]

theorem joinDots_splitDots (text : List UInt8) : joinDots (splitDots text) = text := by
  induction text with
  | nil => rfl
  | cons byte rest ih =>
    simp only [splitDots]
    cases h : splitDots rest with
    | nil => exact absurd h (splitDots_ne_nil rest)
    | cons piece pieces =>
      rw [h] at ih
      split
      · next hb => simp [joinDots, ih, hb]
      · cases pieces with
        | nil => simpa [consFirst, joinDots] using ih
        | cons next pieces => simpa [consFirst, joinDots] using ih

theorem splitDots_append_dot (piece text : List UInt8) (h : dot ∉ piece) :
    splitDots (piece ++ dot :: text) = piece :: splitDots text := by
  induction piece with
  | nil => simp [splitDots]
  | cons byte rest ih =>
    have hb : byte ≠ dot := fun e => h (by simp [e])
    have hr : dot ∉ rest := fun e => h (by simp [e])
    simp [splitDots, hb, ih hr, consFirst]

theorem splitDots_of_not_mem (piece : List UInt8) (h : dot ∉ piece) :
    splitDots piece = [piece] := by
  induction piece with
  | nil => rfl
  | cons byte rest ih =>
    have hb : byte ≠ dot := fun e => h (by simp [e])
    have hr : dot ∉ rest := fun e => h (by simp [e])
    simp [splitDots, hb, ih hr, consFirst]

theorem splitDots_joinDots (pieces : List (List UInt8)) (hne : pieces ≠ [])
    (h : ∀ piece ∈ pieces, dot ∉ piece) : splitDots (joinDots pieces) = pieces := by
  induction pieces with
  | nil => exact absurd rfl hne
  | cons piece pieces ih =>
    cases pieces with
    | nil => exact splitDots_of_not_mem piece (h piece (by simp))
    | cons next pieces =>
      rw [joinDots, splitDots_append_dot _ _ (h piece (by simp)),
        ih (by simp) (fun p hp => h p (by simp [hp]))]

end SpiEthernet
