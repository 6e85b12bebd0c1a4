import SpiEthernet.Link
import SpiEthernet.Operation.Outcome

/-!
# Operations on the serial link

Transactions, accesses to registers by their width, and the single calls below them.
-/

namespace SpiEthernet

/-- An operation on the serial link. -/
inductive LinkOperation where
  | writeByte (address : UInt16) (value : UInt8)
  | writeBlock (address : UInt16) (data : List UInt8)
  | readByte (address : UInt16)
  | readBlock (address : UInt16) (count : Nat)
  | readRegister (register : Register)
  /-- Writes a number to a register of one or two bytes. -/
  | writeRegister (register : Register) (value : UInt16)
  /-- Writes bytes to a wider register. -/
  | writeRegisterBytes (register : Register) (data : List UInt8)
  | select
  | deselect
  | transfer (data : List UInt8)
  | maskInterrupt
  | restoreInterrupt (before : Bool)
deriving DecidableEq, Repr

variable {σ : Type} [SerialLink σ]

/-- Reads a register by its width. -/
def readRegister (register : Register) : LinkM σ Outcome :=
  match register.width with
  | 1 => do return .number (← readByte register.address).toNat
  | 2 => do return .number (← readWord register.address).toNat
  | width => do return .bytes (← readBlock register.address width)

/-- Writes a number to a register of one or two bytes. -/
def writeRegister (register : Register) (value : UInt16) : LinkM σ Unit :=
  if register.width = 1 then writeByte register.address (lowByte value)
  else writeWord register.address value

/-- Carries out an operation on the serial link. -/
def LinkOperation.perform : LinkOperation → LinkM σ Outcome
  | writeByte address value => do
    SpiEthernet.writeByte address value
    return .done
  | writeBlock address data => do
    SpiEthernet.writeBlock address data
    return .done
  | readByte address => do return .number (← SpiEthernet.readByte address).toNat
  | readBlock address count => do return .bytes (← SpiEthernet.readBlock address count)
  | readRegister register => SpiEthernet.readRegister register
  | writeRegister register value => do
    SpiEthernet.writeRegister register value
    return .done
  | writeRegisterBytes register data => do
    SpiEthernet.writeBlock register.address data
    return .done
  | select => do
    SerialLink.select
    return .done
  | deselect => do
    SerialLink.deselect
    return .done
  | transfer data => do return .numbers (← data.mapM SerialLink.transfer)
  | maskInterrupt => do return .flag (← SerialLink.maskInterrupt)
  | restoreInterrupt before => do
    SerialLink.restoreInterrupt before
    return .done

end SpiEthernet
