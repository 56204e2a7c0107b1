set_option autoImplicit false

namespace DatalogLexer

/-- Where a machine stands between two symbols. -/
inductive Phase where
  /-- Still reading, in one of the machine's own states, numbered from `0`. -/
  | reading (state : Nat)
  /-- Halted with a match. -/
  | accepted
  /-- Halted without one. -/
  | rejected
  deriving DecidableEq, Repr

/-- Whether a phase is one where a machine has stopped. -/
def Phase.halted : Phase → Bool
  | .reading _ => false
  | .accepted => true
  | .rejected => true

/-- What a state does with the next symbol. -/
inductive Move where
  /-- Take the symbol and go on in `state`. -/
  | next (state : Nat)
  /-- Take the symbol and accept. -/
  | acceptTaking
  /-- Accept before the symbol, which is not part of the match. -/
  | acceptBefore
  /-- Give up: nothing is matched. -/
  | reject
  deriving DecidableEq, Repr

/-- The phase a move leads to, and the read count after it. -/
def Move.apply : Move → Int → Phase × Int
  | .next state, read => (.reading state, read + 1)
  | .acceptTaking, read => (.accepted, read + 1)
  | .acceptBefore, read => (.accepted, read)
  | .reject, _ => (.rejected, 0)

/-- A machine over characters and the end of input (`none`). Its own states are numbered, and
the move of a state may depend on the read count so far. -/
structure Machine where
  /-- Where a run begins. -/
  start : Phase
  /-- The move of an own state, given the read count and the next symbol. -/
  move : Nat → Int → Option Char → Move

namespace Machine

/-- One step on one symbol. A halted machine stays where it is and keeps its count. -/
def step (machine : Machine) : Phase → Int → Option Char → Phase × Int
  | .reading state, read, symbol => (machine.move state read symbol).apply read
  | .accepted, read, _ => (.accepted, read)
  | .rejected, read, _ => (.rejected, read)

/-- The read count at the end of a run from `phase` and `read` over the remaining characters,
then the end of input; the run stops at the first step that lands on a halted phase. -/
def runFrom (machine : Machine) : Phase → Int → List Char → Int
  | phase, read, [] => (machine.step phase read none).2
  | phase, read, c :: rest =>
    let next := machine.step phase read (some c)
    if next.1.halted then next.2 else machine.runFrom next.1 next.2 rest

/-- How many characters the machine reads from the front of the input. -/
def run (machine : Machine) (input : List Char) : Int :=
  machine.runFrom machine.start 0 input

end Machine

end DatalogLexer
