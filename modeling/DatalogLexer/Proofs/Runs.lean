import DatalogLexer.Machine

set_option autoImplicit false

namespace DatalogLexer

namespace Machine

variable (machine : Machine)

/-- Whether a run halts on a character of the input, before it reaches the end of input. -/
def haltsWithin : Phase → Int → List Char → Bool
  | _, _, [] => false
  | phase, read, c :: rest =>
    let next := machine.step phase read (some c)
    next.1.halted || haltsWithin next.1 next.2 rest

/-- Whether every step on `c` lands on a halted phase. -/
def HaltsOn (c : Char) : Prop :=
  ∀ phase read, (machine.step phase read (some c)).1.halted = true

variable {machine}

@[simp] theorem runFrom_nil (phase : Phase) (read : Int) :
    machine.runFrom phase read [] = (machine.step phase read none).2 := rfl

theorem runFrom_cons_step {phase next : Phase} {read count : Int} {c : Char} (rest : List Char)
    (stepped : machine.step phase read (some c) = (next, count)) :
    machine.runFrom phase read (c :: rest) =
      if next.halted then count else machine.runFrom next count rest := by
  simp only [runFrom, stepped]

theorem runFrom_cons_of_halted {phase : Phase} {read : Int} {c : Char} (rest : List Char)
    (halts : (machine.step phase read (some c)).1.halted = true) :
    machine.runFrom phase read (c :: rest) = (machine.step phase read (some c)).2 := by
  simp only [runFrom, halts, ↓reduceIte]

theorem runFrom_cons_of_going {phase : Phase} {read : Int} {c : Char} (rest : List Char)
    (going : (machine.step phase read (some c)).1.halted = false) :
    machine.runFrom phase read (c :: rest) =
      machine.runFrom (machine.step phase read (some c)).1 (machine.step phase read (some c)).2
        rest := by
  simp only [runFrom, going, Bool.false_eq_true, ↓reduceIte]

theorem haltsWithin_cons_of_halted {phase : Phase} {read : Int} {c : Char} (rest : List Char)
    (halts : (machine.step phase read (some c)).1.halted = true) :
    machine.haltsWithin phase read (c :: rest) = true := by
  simp only [haltsWithin, halts, Bool.true_or]

/-- A step never takes more than one symbol, and a reject resets the count to zero. -/
theorem step_read_bounds (phase : Phase) (read : Int) (symbol : Option Char) (nonneg : 0 ≤ read) :
    0 ≤ (machine.step phase read symbol).2 ∧ (machine.step phase read symbol).2 ≤ read + 1 := by
  cases phase with
  | reading state =>
    simp only [step]
    cases machine.move state read symbol <;> simp only [Move.apply] <;> omega
  | accepted => simp only [step]; omega
  | rejected => simp only [step]; omega

theorem step_read_of_going {phase : Phase} {read : Int} {symbol : Option Char}
    (going : (machine.step phase read symbol).1.halted = false) :
    (machine.step phase read symbol).2 = read + 1 := by
  cases phase with
  | reading state =>
    simp only [step] at going ⊢
    revert going
    cases machine.move state read symbol <;> simp [Move.apply, Phase.halted]
  | accepted => simp [step, Phase.halted] at going
  | rejected => simp [step, Phase.halted] at going

theorem runFrom_nonneg (input : List Char) :
    ∀ (phase : Phase) (read : Int), 0 ≤ read → 0 ≤ machine.runFrom phase read input := by
  induction input with
  | nil => intro phase read nonneg; exact (step_read_bounds phase read none nonneg).1
  | cons c rest ih =>
    intro phase read nonneg
    have bounds := machine.step_read_bounds phase read (some c) nonneg
    cases halts : (machine.step phase read (some c)).1.halted with
    | true =>
      rw [runFrom_cons_of_halted rest halts]
      exact bounds.1
    | false =>
      rw [runFrom_cons_of_going rest halts]
      exact ih _ _ bounds.1

/-- A run reads at most its input and the end of input; one that halts on a character of its
input reads at most that input. -/
theorem runFrom_le (input : List Char) :
    ∀ (phase : Phase) (read : Int), 0 ≤ read →
      machine.runFrom phase read input ≤
        read + input.length + if machine.haltsWithin phase read input then 0 else 1 := by
  induction input with
  | nil => intro phase read nonneg; simpa [haltsWithin] using (step_read_bounds phase read none nonneg).2
  | cons c rest ih =>
    intro phase read nonneg
    have bounds := machine.step_read_bounds phase read (some c) nonneg
    cases halts : (machine.step phase read (some c)).1.halted with
    | true =>
      rw [runFrom_cons_of_halted rest halts, haltsWithin_cons_of_halted rest halts]
      simp only [List.length_cons, ↓reduceIte]
      omega
    | false =>
      have took := machine.step_read_of_going halts
      have later := ih (machine.step phase read (some c)).1 (machine.step phase read (some c)).2
        bounds.1
      rw [runFrom_cons_of_going rest halts]
      simp only [haltsWithin, halts, Bool.false_or, List.length_cons]
      omega

theorem runFrom_le_of_haltsWithin {phase : Phase} {read : Int} {input : List Char}
    (nonneg : 0 ≤ read) (halts : machine.haltsWithin phase read input = true) :
    machine.runFrom phase read input ≤ read + input.length := by
  simpa [halts] using machine.runFrom_le input phase read nonneg

/-- A run that halts on a character of its input is unchanged by what follows that input. -/
theorem runFrom_append_of_haltsWithin (input : List Char) :
    ∀ {phase : Phase} {read : Int} (more : List Char),
      machine.haltsWithin phase read input = true →
        machine.runFrom phase read (input ++ more) = machine.runFrom phase read input := by
  induction input with
  | nil => intro phase read more halts; simp [haltsWithin] at halts
  | cons c rest ih =>
    intro phase read more halts
    cases stops : (machine.step phase read (some c)).1.halted with
    | true => rw [List.cons_append, runFrom_cons_of_halted _ stops, runFrom_cons_of_halted _ stops]
    | false =>
      simp only [haltsWithin, stops, Bool.false_or] at halts
      rw [List.cons_append, runFrom_cons_of_going _ stops, runFrom_cons_of_going _ stops]
      exact ih more halts

theorem haltsWithin_of_mem {c : Char} (halts : machine.HaltsOn c) {input : List Char}
    (mem : c ∈ input) : ∀ (phase : Phase) (read : Int), machine.haltsWithin phase read input = true := by
  induction input with
  | nil => cases mem
  | cons d rest ih =>
    intro phase read
    rcases List.mem_cons.mp mem with rfl | later
    · exact haltsWithin_cons_of_halted rest (halts phase read)
    · simp only [haltsWithin, ih later, Bool.or_true]

/-- Where every step on `c` that does not halt leads to a rejection of the end of input, a run
over an input that ends with `c` either halts inside it or reads nothing. -/
theorem haltsWithin_or_runFrom_eq_zero {c : Char}
    (rejects : ∀ phase read, (machine.step phase read (some c)).1.halted = false →
      (machine.step (machine.step phase read (some c)).1
        (machine.step phase read (some c)).2 none).2 = 0)
    (front : List Char) :
    ∀ (phase : Phase) (read : Int),
      machine.haltsWithin phase read (front ++ [c]) = true ∨
        machine.runFrom phase read (front ++ [c]) = 0 := by
  induction front with
  | nil =>
    intro phase read
    cases stops : (machine.step phase read (some c)).1.halted with
    | true => exact .inl (haltsWithin_cons_of_halted [] stops)
    | false =>
      right
      rw [List.nil_append, runFrom_cons_of_going [] stops, runFrom_nil]
      exact rejects phase read stops
  | cons d rest ih =>
    intro phase read
    cases stops : (machine.step phase read (some d)).1.halted with
    | true => exact .inl (haltsWithin_cons_of_halted _ stops)
    | false =>
      rw [List.cons_append, runFrom_cons_of_going _ stops]
      simp only [haltsWithin, stops, Bool.false_or]
      exact ih _ _

end Machine

end DatalogLexer
