import SpiEthernet.Dotted
import SpiEthernet.Error

/-!
# Queries to a name server

A query asks for the addresses of one host. Its name is a list of labels; on the wire each
label follows its length, and a zero byte ends the name. A host name may end in one dot; apart
from that every label has 1 to 63 bytes and the whole name at most 253.
-/

namespace SpiEthernet.Dns

/-! ## Names -/

/-- A host name without the dot at its end, if it has one. -/
def stripFinalDot (host : List UInt8) : List UInt8 :=
  if host.getLast? = some dot then host.dropLast else host

/-- The length of the longest label. -/
def maxLabelLength : Nat := 63

/-- The length of the longest name. -/
def maxNameLength : Nat := 253

/-- Whether a label can be written. -/
def isLabel (label : List UInt8) : Bool := !label.isEmpty && label.length ≤ maxLabelLength

/-- The labels of a host name, if it is a name that can be asked for. -/
def labels? (host : List UInt8) : Option (List (List UInt8)) :=
  let name := stripFinalDot host
  if name.isEmpty || name.length > maxNameLength then none
  else
    let labels := splitDots name
    if labels.all isLabel then some labels else none

/-- The wire form of a name: every label behind its length, and a zero byte. -/
def encodeLabels (labels : List (List UInt8)) : List UInt8 :=
  labels.flatMap (fun label => UInt8.ofNat label.length :: label) ++ [0]

/-! ## Queries -/

/-- The header of a query: its id, the wish for recursion, and a single question. -/
def queryHeader (id : UInt16) : List UInt8 :=
  wordBytes id ++ [0x01, 0x00, 0, 1, 0, 0, 0, 0, 0, 0]

/-- The type of address records and the class of the internet. -/
def addressQuestion : List UInt8 := [0, 1, 0, 1]

/-- The query for the addresses of a host. -/
def query (id : UInt16) (host : List UInt8) : Except ResolveError (List UInt8) :=
  match labels? host with
  | some labels => .ok (queryHeader id ++ encodeLabels labels ++ addressQuestion)
  | none => .error .invalidHostname

@[simp] theorem length_queryHeader (id : UInt16) : (queryHeader id).length = 12 := rfl

end SpiEthernet.Dns
