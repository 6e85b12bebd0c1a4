import SpiEthernet.Error

/-!
# Socket slots

The chip has four sockets. A slot number is a value below four by its type, so no operation
has to check it again; only a number that comes from outside is checked, once.
-/

namespace SpiEthernet

/-- One of the chip's four sockets. -/
abbrev SocketId := Fin 4

namespace SocketId

/-- The number of sockets. -/
def count : Nat := 4

/-- A socket may be named by its number. -/
instance instNeZero : @NeZero Nat Zero.ofOfNat0 4 := ⟨Nat.succ_ne_zero 3⟩

theorem isLt (s : SocketId) : s.val < 4 := Fin.isLt s

/-- What there is once for each socket can be looked up for every socket. -/
instance instGetElemVector {α : Type} : GetElem (Vector α 4) SocketId α fun _ _ => True where
  getElem values s _ := values.get s

/-- All sockets, lowest first. -/
def all : List SocketId := [0, 1, 2, 3]

/-- The socket with the given number. -/
def ofIndex (index : UInt8) : Except Error SocketId :=
  if h : index.toNat < 4 then .ok ⟨index.toNat, h⟩ else .error (.invalidSocket index)

/-- A socket's bit in the chip's interrupt register. -/
def interruptBit (s : SocketId) : UInt8 := 1 <<< UInt8.ofNat s.val

@[simp] theorem getElem_set_self {α : Type} (values : Vector α 4) (s : SocketId) (value : α) :
    (values.set s value s.isLt)[s] = value := Vector.getElem_set_self s.isLt

theorem getElem_set_of_ne {α : Type} (values : Vector α 4) {s t : SocketId} (value : α)
    (h : s ≠ t) : (values.set s value s.isLt)[t] = values[t] :=
  Vector.getElem_set_ne s.isLt t.isLt fun hval => h (Fin.ext hval)

theorem mem_all (s : SocketId) : s ∈ all := by
  revert s
  decide

theorem ofIndex_val (s : SocketId) : ofIndex (UInt8.ofNat s.val) = .ok s := by
  have hs : (UInt8.ofNat s.val).toNat = s.val := by simp; omega
  simp only [ofIndex, hs, s.isLt, dif_pos]

end SocketId

end SpiEthernet
