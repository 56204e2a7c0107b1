import DatalogLexer.Proofs.Reports

set_option autoImplicit false

namespace DatalogLexer

theorem Phase.exists_reading {phase : Phase} (going : phase.halted = false) :
    ∃ state, phase = .reading state := by
  cases phase with
  | reading state => exact ⟨state, rfl⟩
  | accepted => cases going
  | rejected => cases going

namespace Machine

/-- The symbols a run's loop feeds, one per iteration: each character, then the end of input. -/
def symbols (input : List Char) : List (Option Char) :=
  input.map some ++ [none]

@[simp] theorem symbols_cons (c : Char) (rest : List Char) :
    symbols (c :: rest) = some c :: symbols rest := rfl

theorem getElem?_symbols {input : List Char} {i : Nat} (within : i ≤ input.length) :
    (symbols input)[i]? = some input[i]? := by
  rcases Nat.lt_or_eq_of_le within with inside | rfl
  · rw [symbols, List.getElem?_append_left (by rw [List.length_map]; exact inside),
      List.getElem?_map, List.getElem?_eq_getElem inside]
    rfl
  · simp [symbols]

variable (machine : Machine)

/-- Where a loop from `phase` and `read` stands after its first `count` iterations. A halted phase
keeps its count, so past the exit this is where the loop left. -/
def afterFrom (phase : Phase) (read : Int) (input : List Char) (count : Nat) : Phase × Int :=
  ((symbols input).take count).foldl (fun now symbol => machine.step now.1 now.2 symbol)
    (phase, read)

/-- Where a run over `input` stands after its first `count` iterations. -/
def after (input : List Char) (count : Nat) : Phase × Int :=
  machine.afterFrom machine.start 0 input count

/-- The iteration at which a loop leaves: the first whose character lands on a halted phase, else
the last, which feeds the end of input. -/
def exitFrom : Phase → Int → List Char → Nat
  | _, _, [] => 0
  | phase, read, c :: rest =>
    let next := machine.step phase read (some c)
    if next.1.halted then 0 else exitFrom next.1 next.2 rest + 1

/-- The iteration at which a run over `input` leaves its loop. -/
def exitAt (input : List Char) : Nat :=
  machine.exitFrom machine.start 0 input

/-- Every own state halts on the end of input: it accepts or rejects there, and never reads on. -/
def HaltsAtEnd : Prop :=
  ∀ state read, (machine.step (.reading state) read none).1.halted = true

/-- The loop over `input` leaves through its break at iteration `exit`: every iteration up to it
begins in an own state with its own number as the count, and the step of `exit` halts first. -/
structure BreaksAt (input : List Char) (exit : Nat) : Prop where
  le_length : exit ≤ input.length
  reading : ∀ i ≤ exit, (machine.after input i).1.halted = false
  read_eq : ∀ i ≤ exit, (machine.after input i).2 = i
  halts : (machine.after input (exit + 1)).1.halted = true

variable {machine}

@[simp] theorem afterFrom_zero (phase : Phase) (read : Int) (input : List Char) :
    machine.afterFrom phase read input 0 = (phase, read) := rfl

theorem afterFrom_cons_succ (phase : Phase) (read : Int) (c : Char) (rest : List Char)
    (count : Nat) :
    machine.afterFrom phase read (c :: rest) (count + 1) =
      machine.afterFrom (machine.step phase read (some c)).1 (machine.step phase read (some c)).2
        rest count := by
  simp only [afterFrom, symbols_cons, List.take_succ_cons, List.foldl_cons]

/-- Iteration `i`, up to the end of input, is one step on the symbol it feeds. -/
theorem afterFrom_succ {phase : Phase} {read : Int} {input : List Char} {i : Nat}
    (within : i ≤ input.length) :
    machine.afterFrom phase read input (i + 1) =
      machine.step (machine.afterFrom phase read input i).1
        (machine.afterFrom phase read input i).2 input[i]? := by
  rw [afterFrom, List.take_add_one, getElem?_symbols within, List.foldl_append]
  rfl

theorem exitFrom_cons_of_halted {phase : Phase} {read : Int} {c : Char} (rest : List Char)
    (halts : (machine.step phase read (some c)).1.halted = true) :
    machine.exitFrom phase read (c :: rest) = 0 := by
  simp only [exitFrom, halts, ↓reduceIte]

theorem exitFrom_cons_of_going {phase : Phase} {read : Int} {c : Char} (rest : List Char)
    (going : (machine.step phase read (some c)).1.halted = false) :
    machine.exitFrom phase read (c :: rest) =
      machine.exitFrom (machine.step phase read (some c)).1 (machine.step phase read (some c)).2
        rest + 1 := by
  simp only [exitFrom, going, Bool.false_eq_true, ↓reduceIte]

theorem exitFrom_le_length (input : List Char) :
    ∀ {phase : Phase} {read : Int}, machine.exitFrom phase read input ≤ input.length := by
  induction input with
  | nil => intro phase read; exact Nat.le_refl 0
  | cons c rest ih =>
    intro phase read
    cases going : (machine.step phase read (some c)).1.halted with
    | true => rw [exitFrom_cons_of_halted rest going]; exact Nat.zero_le _
    | false => rw [exitFrom_cons_of_going rest going, List.length_cons]; exact Nat.succ_le_succ ih

/-- Up to its exit a loop from an own state stays in own states, reading one character a turn. -/
theorem afterFrom_of_le_exitFrom (input : List Char) :
    ∀ {state : Nat} {read : Int} {i : Nat}, i ≤ machine.exitFrom (.reading state) read input →
      ∃ now, machine.afterFrom (.reading state) read input i = (.reading now, read + i) := by
  induction input with
  | nil =>
    intro state read i early
    obtain rfl : i = 0 := Nat.le_zero.mp early
    exact ⟨state, by simp⟩
  | cons c rest ih =>
    intro state read i early
    cases i with
    | zero => exact ⟨state, by simp⟩
    | succ i =>
      cases going : (machine.step (.reading state) read (some c)).1.halted with
      | true => rw [exitFrom_cons_of_halted rest going] at early; omega
      | false =>
        -- an iteration before the exit goes on, so it stays in an own state and takes its symbol
        obtain ⟨next, stepped⟩ := Phase.exists_reading going
        have took := step_read_of_going going
        rw [exitFrom_cons_of_going rest going, stepped, took] at early
        obtain ⟨now, reached⟩ := ih (Nat.le_of_succ_le_succ early)
        refine ⟨now, ?_⟩
        rw [afterFrom_cons_succ, stepped, took, reached]
        congr 1
        omega

theorem afterFrom_exitFrom_halted (ends : machine.HaltsAtEnd) (input : List Char) :
    ∀ {state : Nat} {read : Int},
      (machine.afterFrom (.reading state) read input
        (machine.exitFrom (.reading state) read input + 1)).1.halted = true := by
  induction input with
  | nil => intro state read; exact ends state read
  | cons c rest ih =>
    intro state read
    cases going : (machine.step (.reading state) read (some c)).1.halted with
    | true =>
      rw [exitFrom_cons_of_halted rest going, afterFrom_cons_succ, afterFrom_zero]
      exact going
    | false =>
      obtain ⟨next, stepped⟩ := Phase.exists_reading going
      rw [exitFrom_cons_of_going rest going, afterFrom_cons_succ, stepped]
      exact ih

/-- A run answers with the count its exit iteration leaves. -/
theorem runFrom_eq_afterFrom_exitFrom (input : List Char) :
    ∀ {phase : Phase} {read : Int},
      machine.runFrom phase read input =
        (machine.afterFrom phase read input (machine.exitFrom phase read input + 1)).2 := by
  induction input with
  | nil => intro phase read; rfl
  | cons c rest ih =>
    intro phase read
    cases going : (machine.step phase read (some c)).1.halted with
    | true =>
      rw [runFrom_cons_of_halted rest going, exitFrom_cons_of_halted rest going,
        afterFrom_cons_succ, afterFrom_zero]
    | false =>
      rw [runFrom_cons_of_going rest going, exitFrom_cons_of_going rest going,
        afterFrom_cons_succ]
      exact ih

theorem step_reading_of_halted {state : Nat} {read : Int} {symbol : Option Char}
    (halts : (machine.step (.reading state) read symbol).1.halted = true) :
    (machine.move state read symbol = .reject ∧
        (machine.step (.reading state) read symbol).2 = 0) ∨
      (machine.move state read symbol = .acceptBefore ∧
        (machine.step (.reading state) read symbol).2 = read) ∨
      (machine.move state read symbol = .acceptTaking ∧
        (machine.step (.reading state) read symbol).2 = read + 1) := by
  simp only [step] at halts ⊢
  cases moved : machine.move state read symbol <;>
    simp_all [Move.apply, Phase.halted]

section Started

variable {first : Nat} (starts : machine.start = .reading first)
include starts

theorem after_of_le_exitAt {input : List Char} {i : Nat} (early : i ≤ machine.exitAt input) :
    ∃ now, machine.after input i = (Phase.reading now, (i : Int)) := by
  rw [exitAt, starts] at early
  obtain ⟨now, reached⟩ := afterFrom_of_le_exitFrom input early
  refine ⟨now, ?_⟩
  rw [after, starts, reached, Int.zero_add]

/-- The loop of a machine that starts in an own state and halts on the end of input leaves through
its break, with the count equal to the iteration before every iteration up to it. -/
theorem breaksAt_exitAt (ends : machine.HaltsAtEnd) (input : List Char) :
    machine.BreaksAt input (machine.exitAt input) where
  le_length := exitFrom_le_length input
  reading i early := by
    obtain ⟨now, reached⟩ := after_of_le_exitAt starts early
    rw [reached]
    rfl
  read_eq i early := by
    obtain ⟨now, reached⟩ := after_of_le_exitAt starts early
    rw [reached]
  halts := by
    have halted : (machine.afterFrom (.reading first) 0 input
        (machine.exitFrom (.reading first) 0 input + 1)).1.halted = true :=
      afterFrom_exitFrom_halted ends input
    rwa [← starts] at halted

theorem after_exitAt_succ (input : List Char) :
    ∃ state, machine.after input (machine.exitAt input) =
      (Phase.reading state, (machine.exitAt input : Int)) ∧
      machine.after input (machine.exitAt input + 1) =
        machine.step (.reading state) (machine.exitAt input) input[machine.exitAt input]? := by
  obtain ⟨state, reached⟩ := after_of_le_exitAt starts (Nat.le_refl (machine.exitAt input))
  have within : machine.exitAt input ≤ input.length := exitFrom_le_length input
  refine ⟨state, reached, ?_⟩
  rw [after, afterFrom_succ within, ← after, reached]

/-- The exit iteration rejects and the run reads nothing, or accepts before or after its symbol and
the run reads the exit's number or one more. -/
theorem run_of_exit (ends : machine.HaltsAtEnd) (input : List Char) :
    ∃ state, machine.after input (machine.exitAt input) =
      (Phase.reading state, (machine.exitAt input : Int)) ∧
      ((machine.move state (machine.exitAt input) input[machine.exitAt input]? = .reject ∧
          machine.run input = 0) ∨
        (machine.move state (machine.exitAt input) input[machine.exitAt input]? = .acceptBefore ∧
          machine.run input = machine.exitAt input) ∨
        (machine.move state (machine.exitAt input) input[machine.exitAt input]? = .acceptTaking ∧
          machine.run input = machine.exitAt input + 1)) := by
  obtain ⟨state, reached, stepped⟩ := after_exitAt_succ starts input
  have halts := (breaksAt_exitAt starts ends input).halts
  have answer : machine.run input = (machine.after input (machine.exitAt input + 1)).2 :=
    runFrom_eq_afterFrom_exitFrom input
  rw [stepped] at halts answer
  rw [answer]
  exact ⟨state, reached, step_reading_of_halted halts⟩

theorem run_eq_zero_or_exitAt (ends : machine.HaltsAtEnd) (input : List Char) :
    machine.run input = 0 ∨ machine.run input = machine.exitAt input ∨
      machine.run input = machine.exitAt input + 1 := by
  obtain ⟨state, -, (⟨-, read⟩ | ⟨-, read⟩ | ⟨-, read⟩)⟩ :=
    run_of_exit starts ends input
  · exact .inl read
  · exact .inr (.inl read)
  · exact .inr (.inr read)

/-- A run reads past its input only when its last step accepts by taking the end of input. -/
theorem run_gt_length (ends : machine.HaltsAtEnd) {input : List Char}
    (beyond : input.length < machine.run input) :
    machine.exitAt input = input.length ∧ machine.run input = input.length + 1 ∧
      ∃ state, (machine.after input input.length).1 = .reading state ∧
        machine.move state input.length none = .acceptTaking := by
  have within := (breaksAt_exitAt starts ends input).le_length
  obtain ⟨state, reached, cases⟩ := run_of_exit starts ends input
  rcases cases with ⟨-, read⟩ | ⟨-, read⟩ | ⟨taking, read⟩
  · omega
  · omega
  · have last : machine.exitAt input = input.length := by omega
    refine ⟨last, by omega, state, ?_, ?_⟩
    · rw [← last, reached]
    · rwa [last, List.getElem?_eq_none (Nat.le_refl _)] at taking

end Started

theorem length_take_toNat {input : List Char} {read : Int} (nonneg : 0 ≤ read)
    (within : read ≤ input.length) : ((input.take read.toNat).length : Int) = read := by
  rw [List.length_take]
  omega

theorem haltsWithin_take_exitFrom (input : List Char) :
    ∀ {phase : Phase} {read : Int}, machine.exitFrom phase read input < input.length →
      machine.haltsWithin phase read (input.take (machine.exitFrom phase read input + 1)) =
        true := by
  induction input with
  | nil => intro phase read early; exact absurd early (Nat.lt_irrefl 0)
  | cons c rest ih =>
    intro phase read early
    cases going : (machine.step phase read (some c)).1.halted with
    | true =>
      rw [exitFrom_cons_of_halted rest going, List.take_succ_cons]
      exact haltsWithin_cons_of_halted _ going
    | false =>
      rw [exitFrom_cons_of_going rest going, List.length_cons] at early
      rw [exitFrom_cons_of_going rest going, List.take_succ_cons]
      simp only [haltsWithin, going, Bool.false_or]
      exact ih (Nat.lt_of_succ_lt_succ early)

section Early

variable {input : List Char} (early : machine.exitAt input < input.length)
include early

theorem run_take_exitAt : machine.run (input.take (machine.exitAt input + 1)) = machine.run input :=
  calc machine.run (input.take (machine.exitAt input + 1))
      = machine.run (input.take (machine.exitAt input + 1) ++
          input.drop (machine.exitAt input + 1)) :=
        (runFrom_append_of_haltsWithin _ _ (haltsWithin_take_exitFrom input early)).symm
    _ = machine.run input := by rw [List.take_append_drop]

theorem run_take_exitAt_append (more : List Char) :
    machine.run (input.take (machine.exitAt input + 1) ++ more) = machine.run input := by
  rw [← run_take_exitAt early]
  exact runFrom_append_of_haltsWithin _ more (haltsWithin_take_exitFrom input early)

theorem run_le_exitAt_succ : machine.run input ≤ machine.exitAt input + 1 := by
  have bound : machine.run (input.take (machine.exitAt input + 1)) ≤
      0 + ((input.take (machine.exitAt input + 1)).length : Int) :=
    runFrom_le_of_haltsWithin (Int.le_refl 0) (haltsWithin_take_exitFrom input early)
  rw [run_take_exitAt early, List.length_take] at bound
  omega

end Early

end Machine

namespace Recognizer

open Machine

/-- On the end of input every recognizer rejects or accepts before it, except the end of input's own
machine, which accepts by taking it. -/
theorem move_end (recognizer : Recognizer) (state : Nat) (read : Int) :
    recognizer.machine.move state read none = .reject ∨
      recognizer.machine.move state read none = .acceptBefore ∨
      (recognizer = endOfInput ∧ recognizer.machine.move state read none = .acceptTaking) := by
  cases recognizer with
  | fixed text =>
    left
    simp only [machine, literal]
    split <;> simp
  | endOfInput => simp [machine, Machine.endOfInput]
  | blanks =>
    simp only [machine, blankRun, Option.any_none, Bool.false_eq_true, ↓reduceIte]
    split <;> simp
  | comment => rcases state with _ | state <;> simp [machine, lineComment]
  | quoted => rcases state with _ | _ | _ | state <;> simp [machine, quotedString]
  | identifier => rcases state with _ | state <;> simp [machine, Machine.identifier]
  | halted accepting => simp [machine, Machine.halted]

theorem haltsAtEnd (recognizer : Recognizer) : recognizer.machine.HaltsAtEnd := by
  intro state read
  rcases move_end recognizer state read with moved | moved | ⟨-, moved⟩ <;>
    simp [step, moved, Move.apply, Phase.halted]

theorem start_of_mem_standard {recognizer : Recognizer} (member : recognizer ∈ standard) :
    recognizer.machine.start = .reading 0 := by
  rcases mem_standard.mp member with ⟨text, rfl⟩ | rfl | rfl | rfl | rfl | rfl <;> rfl

/-- Of the language's recognizers only the end of input reads past its input, on the empty input. -/
theorem length_lt_read_iff {recognizer : Recognizer} (member : recognizer ∈ standard)
    (input : List Char) :
    input.length < recognizer.read input ↔ recognizer = endOfInput ∧ input = [] := by
  constructor
  · intro beyond
    obtain ⟨-, -, state, -, taking⟩ :=
      run_gt_length (start_of_mem_standard member) recognizer.haltsAtEnd beyond
    have own : recognizer = endOfInput := by
      rcases move_end recognizer state input.length with moved | moved | ⟨own, -⟩
      · rw [moved] at taking; cases taking
      · rw [moved] at taking; cases taking
      · exact own
    subst own
    refine ⟨rfl, ?_⟩
    rw [read_endOfInput] at beyond
    split at beyond
    · assumption
    · omega
  · rintro ⟨rfl, rfl⟩
    rw [read_endOfInput]
    decide

theorem readToken?_text_length (recognizer : Recognizer) {input : List Char}
    (within : recognizer.read input ≤ input.length) :
    ∃ token : Token, recognizer.readToken? input = .ok (recognizer.read input, token) ∧
      (token.text.length : Int) = recognizer.read input := by
  refine ⟨_, readToken?_eq recognizer input, ?_⟩
  rw [String.length_ofList]
  exact length_take_toNat (read_nonneg _ _) within

/-- A run that decides before the end of input reports the same, read and token, whatever follows
the character it decided on. -/
theorem readToken?_take_exit_append (recognizer : Recognizer) (input more : List Char)
    (early : recognizer.machine.exitAt input < input.length) :
    recognizer.readToken? (input.take (recognizer.machine.exitAt input + 1) ++ more) =
      recognizer.readToken? input := by
  have same : recognizer.read (input.take (recognizer.machine.exitAt input + 1) ++ more) =
      recognizer.read input := run_take_exitAt_append early more
  have bound : recognizer.read input ≤ recognizer.machine.exitAt input + 1 :=
    run_le_exitAt_succ early
  have cut : (recognizer.read input).toNat ≤
      (input.take (recognizer.machine.exitAt input + 1)).length := by
    rw [List.length_take]
    omega
  have text : recognizer.lexeme (input.take (recognizer.machine.exitAt input + 1) ++ more) =
      recognizer.lexeme input := by
    rw [lexeme, lexeme, same, List.take_append_of_le_length cut, List.take_take,
      Nat.min_eq_left (by omega)]
  rw [readToken?_eq, readToken?_eq, text, same]

/-- On `'a' x` the quoted-string machine decides at iteration 3, so a quote after the blank is not
looked at. -/
theorem readToken?_take_exit_append_quoted :
    quoted.machine.exitAt ['\'', 'a', '\'', ' ', 'x'] < 5 ∧
      quoted.readToken? (['\'', 'a', '\'', ' '] ++ ['\'']) =
        quoted.readToken? ['\'', 'a', '\'', ' ', 'x'] := by
  have exit : quoted.machine.exitAt ['\'', 'a', '\'', ' ', 'x'] = 3 := by decide
  have early : quoted.machine.exitAt ['\'', 'a', '\'', ' ', 'x'] < 5 := by rw [exit]; decide
  have same := readToken?_take_exit_append quoted ['\'', 'a', '\'', ' ', 'x'] ['\''] early
  rw [exit] at same
  exact ⟨early, same⟩

-- a run that gets to the end of input may answer otherwise once more follows
example : quoted.machine.exitAt ['\'', 'a', 'b'] = 3 ∧ quoted.read ['\'', 'a', 'b'] = 0 ∧
    quoted.read ['\'', 'a', 'b', '\''] = 4 := by
  decide

end Recognizer

open Machine Recognizer in
/-- For every machine that starts in an own state and halts on the end of input the count is the
number of iterations done; the sixteen recognizers are such machines. -/
theorem run_read_tracks_iteration :
    (∀ (machine : Machine) (first : Nat),
      machine.start = .reading first → machine.HaltsAtEnd →
      ∀ input : List Char,
        machine.BreaksAt input (machine.exitAt input) ∧
        machine.run input = (machine.after input (machine.exitAt input + 1)).2 ∧
        (machine.run input = 0 ∨ machine.run input = machine.exitAt input ∨
          machine.run input = machine.exitAt input + 1) ∧
        (input.length < machine.run input →
          machine.exitAt input = input.length ∧ machine.run input = input.length + 1 ∧
            ∃ state, (machine.after input input.length).1 = .reading state ∧
              machine.move state input.length none = .acceptTaking) ∧
        (machine.run input ≤ input.length →
          ((input.take (machine.run input).toNat).length : Int) = machine.run input)) ∧
    (∀ recognizer ∈ standard,
      recognizer.machine.start = .reading 0 ∧ recognizer.machine.HaltsAtEnd ∧
      ∀ input : List Char,
        (input.length < recognizer.read input ↔ recognizer = .endOfInput ∧ input = []) ∧
        (recognizer.read input ≤ input.length →
          ∃ token : Token, recognizer.readToken? input = .ok (recognizer.read input, token) ∧
            (token.text.length : Int) = recognizer.read input)) ∧
    Recognizer.endOfInput.readToken? [] = .ok (1, { kind := .eof, text := "" }) := by
  refine ⟨?machines, ?recognizers, by rw [readToken?_endOfInput]; rfl⟩
  case machines =>
    intro machine first starts ends input
    exact ⟨breaksAt_exitAt starts ends input, runFrom_eq_afterFrom_exitFrom input,
      run_eq_zero_or_exitAt starts ends input, run_gt_length starts ends,
      length_take_toNat (runFrom_nonneg input _ 0 (Int.le_refl 0))⟩
  case recognizers =>
    intro recognizer member
    exact ⟨start_of_mem_standard member, recognizer.haltsAtEnd, fun input =>
      ⟨length_lt_read_iff member input, recognizer.readToken?_text_length⟩⟩

open Recognizer in
/-- On `'ab' x` the quoted-string machine leaves at iteration 4, having read the literal. -/
theorem run_read_tracks_iteration_quoted :
    quoted.machine.start = .reading 0 ∧ quoted.machine.HaltsAtEnd ∧
      quoted.machine.BreaksAt ['\'', 'a', 'b', '\'', ' ', 'x'] 4 ∧
      quoted.read ['\'', 'a', 'b', '\'', ' ', 'x'] = 4 := by
  have exit : quoted.machine.exitAt ['\'', 'a', 'b', '\'', ' ', 'x'] = 4 := by decide
  obtain ⟨breaks, -, -, -, -⟩ :=
    run_read_tracks_iteration.1 quoted.machine 0 rfl quoted.haltsAtEnd
      ['\'', 'a', 'b', '\'', ' ', 'x']
  rw [exit] at breaks
  exact ⟨rfl, quoted.haltsAtEnd, breaks, by decide⟩

end DatalogLexer
