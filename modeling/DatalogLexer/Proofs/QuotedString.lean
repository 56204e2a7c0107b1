import DatalogLexer.Proofs.Reports

set_option autoImplicit false

namespace DatalogLexer

/-- The first `length` characters of `input` are a closed quoted string, and no quote follows. -/
def ClosesAt (input : List Char) (length : Nat) : Prop :=
  ∃ inside rest, QuotesPaired inside ∧ input = '\'' :: (inside ++ '\'' :: rest) ∧
    rest.head? ≠ some '\'' ∧ length = inside.length + 2

namespace Machine

/-- Inside the quotes the machine reads nothing, or the input is a paired inside, a closing quote,
and a rest that does not start with a quote. -/
theorem quotedString_runFrom_inside_cases (input : List Char) :
    ∀ read : Int, quotedString.runFrom (.reading 1) read input = 0 ∨
      ∃ inside rest, QuotesPaired inside ∧ input = inside ++ '\'' :: rest ∧
        rest.head? ≠ some '\'' := by
  -- on the length of the input, since a quote written twice takes two steps
  induction size : input.length using Nat.strongRecOn generalizing input with
  | ind size ih =>
    intro read
    cases input with
    | nil => exact .inl (by simp [step, quotedString, Move.apply])
    | cons c rest =>
      by_cases quote : c = '\''
      · subst quote
        cases rest with
        | nil => exact .inr ⟨[], [], .nil, rfl, by simp⟩
        | cons d more =>
          by_cases again : d = '\''
          · subst again
            rw [runFrom_cons_step _ (quotedString_step_inside_quote read)]
            simp only [Phase.halted, Bool.false_eq_true, ↓reduceIte]
            rw [runFrom_cons_step _ (quotedString_step_closed_quote (read + 1))]
            simp only [Phase.halted, Bool.false_eq_true, ↓reduceIte]
            rcases ih more.length (by rw [← size, List.length_cons, List.length_cons]; omega) more rfl
              (read + 1 + 1) with
              nothing | closed
            · exact .inl nothing
            · obtain ⟨inside, after, paired, split, unquoted⟩ := closed
              exact .inr ⟨'\'' :: '\'' :: inside, after, .pair paired, by simp [split], unquoted⟩
          · exact .inr ⟨[], d :: more, .nil, rfl, by simpa using again⟩
      · rw [runFrom_cons_step _ (quotedString_step_inside_other read quote)]
        simp only [Phase.halted, Bool.false_eq_true, ↓reduceIte]
        rcases ih rest.length (by simp [← size]) rest rfl (read + 1) with nothing | closed
        · exact .inl nothing
        · obtain ⟨inside, after, paired, split, unquoted⟩ := closed
          exact .inr ⟨c :: inside, after, .other quote paired, by simp [split], unquoted⟩

end Machine

namespace Recognizer

open Machine

theorem read_quoted_of_closesAt {input : List Char} {length : Nat} (closes : ClosesAt input length) :
    quoted.read input = length := by
  obtain ⟨inside, rest, paired, rfl, unquoted, rfl⟩ := closes
  change quotedString.runFrom (.reading 0) 0 ('\'' :: (inside ++ '\'' :: rest)) = _
  rw [runFrom_cons_step _ (quotedString_step_open 0)]
  simp only [Phase.halted, Bool.false_eq_true, ↓reduceIte]
  rw [quotedString_runFrom_paired paired unquoted]
  push_cast
  omega

theorem read_quoted_of_unclosed {input : List Char} (unclosed : ∀ length, ¬ClosesAt input length) :
    quoted.read input = 0 := by
  cases input with
  | nil => rfl
  | cons c rest =>
    by_cases quote : c = '\''
    · subst quote
      change quotedString.runFrom (.reading 0) 0 ('\'' :: rest) = 0
      rw [runFrom_cons_step _ (quotedString_step_open 0)]
      simp only [Phase.halted, Bool.false_eq_true, ↓reduceIte]
      rcases quotedString_runFrom_inside_cases rest (0 + 1) with nothing | closed
      · exact nothing
      · obtain ⟨inside, after, paired, split, unquoted⟩ := closed
        exact absurd ⟨inside, after, paired, by rw [split], unquoted, rfl⟩ (unclosed _)
    · exact read_quoted_of_ne rest quote

theorem readToken?_quoted (input : List Char) :
    quoted.readToken? input =
      .ok (quoted.read input,
        { kind := .string, text := String.ofList (input.take (quoted.read input).toNat) }) :=
  readToken?_eq quoted input

end Recognizer

open Recognizer

/-- The quoted-string machine reads the closed quoted string at the front, whose length is unique,
or nothing when none is closed there; a doubled-quote literal is read whole. -/
theorem quoted_reads_closed_literal (input : List Char) :
    (∀ length, ClosesAt input length →
      quoted.readToken? input =
        .ok (length, { kind := .string, text := String.ofList (input.take length) })) ∧
    ((∀ length, ¬ClosesAt input length) →
      quoted.readToken? input = .ok (0, { kind := .string, text := "" })) ∧
    (∀ first second, ClosesAt input first → ClosesAt input second → first = second) ∧
    ∀ content rest : List Char, rest.head? ≠ some '\'' →
      quoted.read (stringLiteral content ++ rest) = (stringLiteral content).length := by
  refine ⟨?_, ?_, ?_, fun content rest unquoted => read_stringLiteral content rest unquoted⟩
  · intro length closes
    rw [readToken?_quoted, read_quoted_of_closesAt closes, Int.toNat_natCast]
  · intro unclosed
    rw [readToken?_quoted, read_quoted_of_unclosed unclosed]
    rfl
  · intro first second one two
    have same := (read_quoted_of_closesAt one).symm.trans (read_quoted_of_closesAt two)
    exact Int.ofNat_inj.mp same

/- A doubled quote at the end of the input leaves the string open, and it is not read. -/
example : quoted.read "'a''".toList = 0 := by decide

end DatalogLexer
