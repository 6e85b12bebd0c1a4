import SpiEthernet.Chip.Endpoint

/-!
# Traces in short form

A trace is shown as runs of accesses to consecutive addresses, one text for each run, and equal
texts next to each other are counted.

* `flatMap_expand_ofTrace` : no access is lost or reordered by joining accesses to runs.
-/

namespace SpiEthernet

/-- Accesses to consecutive addresses that differ in nothing else. -/
structure AccessRun where
  direction : Direction
  masked : Bool
  start : UInt16
  data : List UInt8
deriving DecidableEq, Repr

namespace AccessRun

/-! ## Joining accesses -/

/-- The run of a single access. -/
def single (access : Access) : AccessRun :=
  ⟨access.direction, access.masked, access.address, [access.data]⟩

/-- Whether an access can stand in front of a run. -/
def follows (run : AccessRun) (access : Access) : Bool :=
  run.direction == access.direction && run.masked == access.masked
    && run.start == access.address + 1

/-- Puts an access in front of the runs of the accesses after it. -/
def cons (access : Access) : List AccessRun → List AccessRun
  | [] => [single access]
  | run :: runs =>
    if run.follows access then
      { run with start := access.address, data := access.data :: run.data } :: runs
    else single access :: run :: runs

/-- The runs of a trace. -/
def ofTrace (trace : Array Access) : List AccessRun := trace.foldr cons []

/-- Accesses to consecutive addresses from a first one on. -/
def accessesFrom (direction : Direction) (masked : Bool) (start : UInt16) :
    List UInt8 → List Access
  | [] => []
  | byte :: bytes =>
    ⟨direction, start, byte, masked⟩ :: accessesFrom direction masked (start + 1) bytes

/-- The accesses of a run. -/
def expand (run : AccessRun) : List Access :=
  accessesFrom run.direction run.masked run.start run.data

theorem flatMap_expand_cons (access : Access) (runs : List AccessRun) :
    (cons access runs).flatMap expand = access :: runs.flatMap expand := by
  cases runs with
  | nil => simp [cons, single, expand, accessesFrom]
  | cons run runs =>
    simp only [cons]
    split
    · next h =>
      simp only [follows, Bool.and_eq_true, beq_iff_eq] at h
      obtain ⟨⟨hd, hm⟩, hs⟩ := h
      simp [expand, accessesFrom, hd, hm, hs]
    · simp [single, expand, accessesFrom]

theorem flatMap_expand_ofTrace (trace : Array Access) :
    (ofTrace trace).flatMap expand = trace.toList := by
  rw [ofTrace, ← Array.foldr_toList]
  induction trace.toList with
  | nil => rfl
  | cons access rest ih => rw [List.foldr_cons, flatMap_expand_cons, ih]

/-! ## Texts -/

/-- The text of a run; `u` marks frames during which the interrupt was let through. -/
def text (run : AccessRun) : String :=
  let mark := if run.masked then "" else "u"
  let kind := match run.direction with
    | .read => "R"
    | .write => "W"
  s!"{mark}{kind}{hexWord run.start}:{hexBytes run.data}"

/-- Puts a text in front of counted texts, counting it together with an equal first one. -/
def countText (text : String) : List (String × Nat) → List (String × Nat)
  | (first, count) :: rest =>
    if first = text then (first, count + 1) :: rest else (text, 1) :: (first, count) :: rest
  | [] => [(text, 1)]

/-- The texts of the runs, where neighbours with the same text are counted. -/
def summary (runs : List AccessRun) : List String :=
  ((runs.map text).foldr countText []).map fun (text, count) =>
    if count = 1 then text else s!"{text}*{count}"

end AccessRun

end SpiEthernet
