import SpiEthernet.Link

/-!
# A board that writes down what it is asked

The recorder answers transfers from a list of replies that starts again at its end, and keeps
every call in order. Its interrupt is either wired, so that holding it back is a flag, or not
wired at all, in which case the two interrupt calls do nothing and are not kept.
-/

namespace SpiEthernet

/-- One call on the serial link. -/
inductive LinkCall where
  | select
  | deselect
  | transfer (byte : UInt8)
  | maskInterrupt
  | restoreInterrupt (before : Bool)
deriving DecidableEq, Repr

/-- The short form of a call. -/
def LinkCall.text : LinkCall → String
  | select => "s"
  | deselect => "d"
  | transfer byte => "t" ++ hexBytes [byte]
  | maskInterrupt => "m"
  | restoreInterrupt before => if before then "r1" else "r0"

/-- A board that only records. -/
structure Recorder where
  /-- The bytes given in reply, over and over. -/
  replies : Array UInt8
  /-- The number of transfers so far. -/
  transfers : Nat
  /-- Whether the interrupt line reaches the board. -/
  wired : Bool
  /-- Whether the interrupt is let through. -/
  enabled : Bool
  /-- The calls so far, the latest first. -/
  calls : List LinkCall
deriving DecidableEq, Repr

namespace Recorder

/-- A recorder without calls. -/
def new (replies : List UInt8) (wired enabled : Bool) : Recorder :=
  { replies := replies.toArray, transfers := 0, wired, enabled, calls := [] }

/-- Keeps a call. -/
def push (recorder : Recorder) (call : LinkCall) : Recorder :=
  { recorder with calls := call :: recorder.calls }

/-- The reply to the next transfer. -/
def reply (recorder : Recorder) : UInt8 :=
  recorder.replies.getD (recorder.transfers % recorder.replies.size) 0

/-- The calls so far, the earliest first, and the recorder without them. -/
def takeCalls (recorder : Recorder) : List LinkCall × Recorder :=
  (recorder.calls.reverse, { recorder with calls := [] })

instance : SerialLink Recorder where
  select := modify (·.push .select)
  deselect := modify (·.push .deselect)
  transfer byte := modifyGet fun recorder =>
    (recorder.reply, { recorder.push (.transfer byte) with transfers := recorder.transfers + 1 })
  maskInterrupt := modifyGet fun recorder =>
    if recorder.wired then
      (recorder.enabled, { recorder.push .maskInterrupt with enabled := false })
    else (false, recorder)
  restoreInterrupt before := modify fun recorder =>
    if recorder.wired then
      { recorder.push (.restoreInterrupt before) with enabled := recorder.enabled || before }
    else recorder

end Recorder

end SpiEthernet
