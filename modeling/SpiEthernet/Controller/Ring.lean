import SpiEthernet.Controller.Command

/-!
# Moving bytes through the rings

Bytes are staged behind a socket's transmit pointer and fetched from its receive pointer. Both
pointers run freely over 16 bits, and a transfer that reaches the end of the ring goes on at its
start. Nothing here tells the chip about it: staged bytes leave with a send command, and fetched
bytes are released with a receive command.

* `toNat_ringAddress_txBase`, `toNat_ringAddress_rxBase` : a pointer's place is always inside the
  socket's own ring.
-/

namespace SpiEthernet

variable {σ : Type} [Host σ]

/-! ## Sizes -/

/-- Reads a word until it reads the same twice in a row, given the previous reading. -/
def settle (address previous : UInt16) : Nat → DeviceM σ UInt16
  | 0 => throwThe Fault .stalled
  | bound + 1 => do
    let current ← onLink (readWord address)
    if current = previous then return current else settle address current bound

/-- Reads a word that the chip may change byte by byte meanwhile. -/
def settledWord (address : UInt16) : DeviceM σ UInt16 := do
  let bound ← patience
  let first ← onLink (readWord address)
  settle address first bound

/-- The free space in a socket's transmit ring. -/
def freeTx (s : SocketId) : DeviceM σ UInt16 := settledWord (SocketRegister.txFree.address s)

/-- The bytes in a socket's receive ring that have not been released. -/
def pendingRx (s : SocketId) : DeviceM σ UInt16 := settledWord (SocketRegister.rxSize.address s)

/-! ## Transfers -/

/-- How many of `count` bytes at a pointer come before the end of the ring. -/
def untilEnd (pointer : UInt16) (count : Nat) : Nat := min count (ringSize - ringOffset pointer)

/-- The address of a pointer's place in the ring at `base`. -/
def ringAddress (base pointer : UInt16) : UInt16 := base + UInt16.ofNat (ringOffset pointer)

theorem toNat_ringAddress_txBase (s : SocketId) (pointer : UInt16) :
    (ringAddress (txBase s) pointer).toNat = 0x4000 + 2048 * s.val + ringOffset pointer := by
  have := ringOffset_lt pointer
  have := s.isLt
  simp only [ringAddress, UInt16.toNat_add, toNat_txBase, UInt16.toNat_ofNat']
  omega

theorem toNat_ringAddress_rxBase (s : SocketId) (pointer : UInt16) :
    (ringAddress (rxBase s) pointer).toNat = 0x6000 + 2048 * s.val + ringOffset pointer := by
  have := ringOffset_lt pointer
  have := s.isLt
  simp only [ringAddress, UInt16.toNat_add, toNat_rxBase, UInt16.toNat_ofNat']
  omega

theorem untilEnd_le (pointer : UInt16) (count : Nat) : untilEnd pointer count ≤ count :=
  Nat.min_le_left _ _

theorem ringOffset_add_untilEnd_le (pointer : UInt16) (count : Nat) :
    ringOffset pointer + untilEnd pointer count ≤ 2048 := by
  have := ringOffset_lt pointer
  simp only [untilEnd, ringSize]
  omega

/-- Refuses more bytes than a ring holds. -/
def checkLength (count : Nat) : Attempt σ Unit :=
  if count > ringSize then fail (.transferTooLarge count ringSize) else pure ()

omit [Host σ] in
theorem checkLength_of_le {count : Nat} (h : count ≤ ringSize) :
    (checkLength count : Attempt σ Unit) = pure () :=
  if_neg (Nat.not_lt.2 h)

omit [Host σ] in
theorem checkLength_of_lt {count : Nat} (h : ringSize < count) :
    (checkLength count : Attempt σ Unit) = fail (.transferTooLarge count ringSize) :=
  if_pos h

/-- Copies bytes into the transmit ring, `offset` bytes behind the transmit pointer, and moves
the pointer behind them. Free space is not checked. -/
def stage (s : SocketId) (offset : UInt16) (data : List UInt8) : Attempt σ Unit := do
  checkLength data.length
  if data.isEmpty then return ()
  let pointer := (← sure (onLink (readWord (SocketRegister.txWrite.address s)))) + offset
  let first := untilEnd pointer data.length
  sure (onLink (writeBlock (ringAddress (txBase s) pointer) (data.take first)))
  sure (onLink (writeBlock (txBase s) (data.drop first)))
  sure (onLink (writeWord (SocketRegister.txWrite.address s)
    (pointer + UInt16.ofNat data.length)))

/-- Copies bytes out of the receive ring, from the receive pointer on. Unless the bytes are
only to be looked at, the pointer moves behind them. -/
def fetch (s : SocketId) (count : Nat) (peek : Bool) : Attempt σ (List UInt8) := do
  checkLength count
  if count = 0 then return []
  let pointer ← sure (onLink (readWord (SocketRegister.rxRead.address s)))
  let first := untilEnd pointer count
  let head ← sure (onLink (readBlock (ringAddress (rxBase s) pointer) first))
  let tail ← sure (onLink (readBlock (rxBase s) (count - first)))
  if !peek then
    sure (onLink (writeWord (SocketRegister.rxRead.address s) (pointer + UInt16.ofNat count)))
  return head ++ tail

/-- The caller's buffer when it was to be filled. -/
def fill (dest : List UInt8) : Except Error (List UInt8) → List UInt8
  | .ok bytes => bytes ++ dest.drop bytes.length
  | .error _ => dest

/-- A buffer that takes as much of some bytes as it holds keeps what it has behind them. -/
theorem fill_take (dest bytes : List UInt8) :
    fill dest (.ok (bytes.take dest.length)) =
      bytes.take dest.length ++ dest.drop bytes.length := by
  show _ ++ dest.drop (bytes.take dest.length).length = _
  rcases Nat.le_total dest.length bytes.length with h | h
  · rw [List.length_take_of_le h, List.drop_length, List.drop_eq_nil_of_le h]
  · rw [List.take_of_length_le h]

/-- Moves the receive pointer without reading. -/
def skip (s : SocketId) (count : UInt16) : DeviceM σ Unit := do
  if count ≠ 0 then
    let pointer ← onLink (readWord (SocketRegister.rxRead.address s))
    onLink (writeWord (SocketRegister.rxRead.address s) (pointer + count))

end SpiEthernet
