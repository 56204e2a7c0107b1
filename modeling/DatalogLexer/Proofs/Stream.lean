import DatalogLexer.Proofs.Front

set_option autoImplicit false

namespace DatalogLexer

open Recognizer

section Unfolding

variable {line : Int} {input : List Char} {kind : Token.Kind} {text : List Char}

theorem tokensFrom_of_ends (found : frontWith standard input = some (kind, text))
    (ends : kind.ends = true) :
    tokensFrom line input = [{ kind, text := String.ofList text, line }] := by
  rw [tokensFrom]
  split
  · simp_all
  · rename_i found'
    rw [found] at found'
    cases found'
    simp [ends]

theorem tokensFrom_of_whitespace (found : frontWith standard input = some (.whitespace, text)) :
    tokensFrom line input = tokensFrom (line + newlineCount text) (input.drop text.length) := by
  rw [tokensFrom]
  split
  · simp_all
  · rename_i found'
    rw [found] at found'
    cases found'
    simp [Token.Kind.ends]

theorem tokensFrom_of_shown (found : frontWith standard input = some (kind, text))
    (going : kind.ends = false) (shown : kind ≠ .whitespace) :
    tokensFrom line input =
      { kind, text := String.ofList text, line } ::
        tokensFrom (line + newlineCount text) (input.drop text.length) := by
  rw [tokensFrom]
  split
  · simp_all
  · rename_i found'
    rw [found] at found'
    cases found'
    simp [going, shown]

theorem tokensFrom_nil (line : Int) : tokensFrom line [] = [{ kind := .eof, text := "", line }] :=
  tokensFrom_of_ends frontWith_standard_nil rfl

end Unfolding

theorem isBlank_head_dropWhile {input rest : List Char} {c : Char}
    (front : input.dropWhile isBlank = c :: rest) : isBlank c = false := by
  simpa [front] using List.head?_dropWhile_not isBlank input

theorem dropWhile_eq_drop {input : List Char} :
    input.dropWhile isBlank = input.drop (input.takeWhile isBlank).length := by
  calc input.dropWhile isBlank
      = (input.takeWhile isBlank ++ input.dropWhile isBlank).drop
          (input.takeWhile isBlank).length := by rw [List.drop_left]
    _ = input.drop (input.takeWhile isBlank).length := by rw [List.takeWhile_append_dropWhile]

theorem tokensFrom_skip (line : Int) (input : List Char) :
    tokensFrom line input =
      tokensFrom (line + newlineCount (input.takeWhile isBlank)) (input.dropWhile isBlank) := by
  cases input with
  | nil => simp
  | cons c rest =>
    by_cases blank : isBlank c = true
    · rw [tokensFrom_of_whitespace (frontWith_standard_blank blank), dropWhile_eq_drop]
    · simp [blank]

/-- Blanks in front of an input move its tokens down by their line feeds, and nothing else. -/
theorem tokensFrom_blank_append {gap : List Char} (blank : ∀ c ∈ gap, isBlank c = true)
    (line : Int) (input : List Char) :
    tokensFrom line (gap ++ input) = tokensFrom (line + newlineCount gap) input := by
  rw [tokensFrom_skip, tokensFrom_skip (line + newlineCount gap), List.takeWhile_append_of_pos blank,
    List.dropWhile_append_of_pos blank, newlineCount_append]
  push_cast
  rw [Int.add_assoc]

theorem kind_ne_whitespace_of_dropWhile {input : List Char} {kind : Token.Kind} {text : List Char}
    (found : frontWith standard (input.dropWhile isBlank) = some (kind, text)) :
    kind ≠ .whitespace := by
  rintro rfl
  obtain ⟨c, rest, front, blank⟩ := frontWith_standard_whitespace found
  rw [isBlank_head_dropWhile front] at blank
  cases blank

/-- One token after the blanks, on the line after them; the stream goes on after its text unless it
ends the stream. -/
theorem tokensFrom_step {line : Int} {input : List Char} {kind : Token.Kind} {text : List Char}
    (found : frontWith standard (input.dropWhile isBlank) = some (kind, text)) :
    tokensFrom line input =
      { kind, text := String.ofList text, line := line + newlineCount (input.takeWhile isBlank) } ::
        if kind.ends then []
        else tokensFrom (line + newlineCount (input.takeWhile isBlank) + newlineCount text)
          ((input.dropWhile isBlank).drop text.length) := by
  have shown := kind_ne_whitespace_of_dropWhile found
  rw [tokensFrom_skip]
  cases ends : kind.ends with
  | true => rw [tokensFrom_of_ends found ends]; simp
  | false => rw [tokensFrom_of_shown found ends shown]; simp

theorem length_drop_lt {input : List Char} {kind : Token.Kind} {text : List Char}
    (found : frontWith standard (input.dropWhile isBlank) = some (kind, text))
    (going : kind.ends = false) :
    ((input.dropWhile isBlank).drop text.length).length < input.length := by
  have nonempty := ne_nil_of_frontWith_standard found (Token.Kind.ne_eof_of_ends_eq_false going)
  have positive := frontWith_length_pos found nonempty
  have shorter : (input.dropWhile isBlank).length ≤ input.length := by
    rw [dropWhile_eq_drop, List.length_drop]
    omega
  rw [List.length_drop]
  have := List.length_pos_iff.mpr nonempty
  omega

/-- Induction along the stream: what holds of an input whenever it holds of what is left after the
token past its blanks holds of every input. -/
theorem tokensFrom_induction (motive : Int → List Char → Prop)
    (step : ∀ line input kind text,
      frontWith standard (input.dropWhile isBlank) = some (kind, text) →
      (kind.ends = false →
        motive (line + newlineCount (input.takeWhile isBlank) + newlineCount text)
          ((input.dropWhile isBlank).drop text.length)) →
      motive line input)
    (line : Int) (input : List Char) : motive line input := by
  induction size : input.length using Nat.strongRecOn generalizing line input with
  | ind size ih =>
    obtain ⟨kind, text, found⟩ := frontWith_standard_isSome (input.dropWhile isBlank)
    apply step line input kind text found
    intro going
    exact ih _ (size ▸ length_drop_lt found going) _ _ rfl

theorem tokensFrom_ne_nil (line : Int) (input : List Char) : tokensFrom line input ≠ [] := by
  obtain ⟨kind, text, found⟩ := frontWith_standard_isSome (input.dropWhile isBlank)
  rw [tokensFrom_step found]
  simp

end DatalogLexer
