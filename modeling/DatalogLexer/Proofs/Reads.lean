import DatalogLexer.Recognizer
import DatalogLexer.Proofs.Runs

set_option autoImplicit false

namespace DatalogLexer

theorem Unicode.isLetterOrNumber_of_isLetter {c : Char} (letter : Unicode.isLetter c = true) :
    Unicode.isLetterOrNumber c = true := by
  simp [Unicode.isLetterOrNumber, letter]

/-- The inside of a quoted string as it is written: characters other than a quote, and quotes in
pairs. -/
inductive QuotesPaired : List Char → Prop
  | nil : QuotesPaired []
  | other {c : Char} {rest : List Char} (notQuote : c ≠ '\'') (paired : QuotesPaired rest) :
      QuotesPaired (c :: rest)
  | pair {rest : List Char} (paired : QuotesPaired rest) : QuotesPaired ('\'' :: '\'' :: rest)

theorem QuotesPaired.doubled (content : List Char) :
    QuotesPaired (content.flatMap fun c => if c = '\'' then ['\'', '\''] else [c]) := by
  induction content with
  | nil => exact .nil
  | cons c content paired =>
    by_cases quote : c = '\''
    · subst quote
      simpa using QuotesPaired.pair paired
    · simpa [quote] using QuotesPaired.other quote paired

namespace Machine

/-- In state `state` the literal machine has matched the first `state` characters of its text:
it goes on to read the rest of the text, or nothing. -/
theorem literal_runFrom (text input : List Char) :
    ∀ (state : Nat) (read : Int), state < text.length →
      (literal text).runFrom (.reading state) read input =
        if text.drop state <+: input then read + (text.length - state : Nat) else 0 := by
  induction input with
  | nil =>
    intro state read inside
    have expected : text[state]? = some text[state] := List.getElem?_eq_getElem inside
    rw [List.drop_eq_getElem_cons inside]
    simp [step, literal, expected, Move.apply]
    omega
  | cons c rest ih =>
    intro state read inside
    have expected : text[state]? = some text[state] := List.getElem?_eq_getElem inside
    simp only [List.drop_eq_getElem_cons inside, List.cons_prefix_cons]
    by_cases same : c = text[state]
    · subst same
      by_cases last : state + 1 = text.length
      · have finished : text.drop (state + 1) = [] := List.drop_eq_nil_of_le (by omega)
        have stepped : (literal text).step (.reading state) read (some text[state]) =
            (.accepted, read + 1) := by
          simp [step, literal, expected, last, Move.apply]
        rw [runFrom_cons_step rest stepped, finished]
        simp only [Phase.halted, ↓reduceIte, List.nil_prefix, and_self]
        omega
      · have stepped : (literal text).step (.reading state) read (some text[state]) =
            (.reading (state + 1), read + 1) := by
          simp [step, literal, expected, last, Move.apply]
        rw [runFrom_cons_step rest stepped, ih (state + 1) (read + 1) (by omega)]
        simp only [Phase.halted, Bool.false_eq_true, ↓reduceIte, true_and]
        split <;> omega
    · have stepped : (literal text).step (.reading state) read (some c) = (.rejected, 0) := by
        simp [step, literal, expected, same, Move.apply]
      have differs : text[state] ≠ c := Ne.symm same
      rw [runFrom_cons_step rest stepped]
      simp [Phase.halted, differs]

theorem blankRun_runFrom (input : List Char) :
    ∀ read : Int, blankRun.runFrom (.reading 0) read input =
      if 0 < read + (input.takeWhile isBlank).length then
        read + (input.takeWhile isBlank).length
      else 0 := by
  induction input with
  | nil =>
    intro read
    by_cases positive : 0 < read <;> simp [step, blankRun, positive, Move.apply]
  | cons c rest ih =>
    intro read
    by_cases blank : isBlank c = true
    · have stepped : blankRun.step (.reading 0) read (some c) = (.reading 0, read + 1) := by
        simp [step, blankRun, blank, Move.apply]
      rw [runFrom_cons_step rest stepped, ih (read + 1)]
      simp only [Phase.halted, Bool.false_eq_true, ↓reduceIte, List.takeWhile_cons, blank,
        List.length_cons]
      push_cast
      split <;> split <;> omega
    · have taken : (c :: rest).takeWhile isBlank = [] := by simp [blank]
      rw [taken]
      by_cases positive : 0 < read
      · have stepped : blankRun.step (.reading 0) read (some c) = (.accepted, read) := by
          simp [step, blankRun, blank, positive, Move.apply]
        rw [runFrom_cons_step rest stepped]
        simp [Phase.halted, positive]
      · have stepped : blankRun.step (.reading 0) read (some c) = (.rejected, 0) := by
          simp [step, blankRun, blank, positive, Move.apply]
        rw [runFrom_cons_step rest stepped]
        simp [Phase.halted, positive]

theorem lineComment_runFrom (input : List Char) :
    ∀ read : Int, lineComment.runFrom (.reading 1) read input =
      read + (input.takeWhile (· != '\n')).length := by
  induction input with
  | nil => intro read; simp [step, lineComment, Move.apply]
  | cons c rest ih =>
    intro read
    by_cases feed : c = '\n'
    · subst feed
      have stepped : lineComment.step (.reading 1) read (some '\n') = (.accepted, read) := by
        simp [step, lineComment, Move.apply]
      rw [runFrom_cons_step rest stepped]
      simp [Phase.halted]
    · have stepped : lineComment.step (.reading 1) read (some c) = (.reading 1, read + 1) := by
        simp [step, lineComment, feed, Move.apply]
      rw [runFrom_cons_step rest stepped, ih (read + 1)]
      simp only [Phase.halted, Bool.false_eq_true, ↓reduceIte, List.takeWhile_cons, bne_iff_ne,
        ne_eq, feed, not_false_eq_true, List.length_cons]
      push_cast
      omega

theorem identifier_runFrom (input : List Char) :
    ∀ read : Int, identifier.runFrom (.reading 1) read input =
      read + (input.takeWhile Unicode.isLetterOrNumber).length := by
  induction input with
  | nil => intro read; simp [step, identifier, Move.apply]
  | cons c rest ih =>
    intro read
    by_cases more : Unicode.isLetterOrNumber c = true
    · have stepped : identifier.step (.reading 1) read (some c) = (.reading 1, read + 1) := by
        simp [step, identifier, more, Move.apply]
      rw [runFrom_cons_step rest stepped, ih (read + 1)]
      simp only [Phase.halted, Bool.false_eq_true, ↓reduceIte, List.takeWhile_cons, more,
        List.length_cons]
      push_cast
      omega
    · have stepped : identifier.step (.reading 1) read (some c) = (.accepted, read) := by
        simp [step, identifier, more, Move.apply]
      rw [runFrom_cons_step rest stepped]
      simp [Phase.halted, more]

theorem quotedString_move_other (state : Nat) (read : Int) {c : Char} (other : c ≠ '\'') :
    quotedString.move state read (some c) =
      if state = 1 then .next 1 else if state = 2 then .acceptBefore else .reject := by
  rcases state with _ | _ | _ | state <;> simp [quotedString, other]

/-- In state `2`, just after a quote, anything but another quote closes the string before it. -/
theorem quotedString_runFrom_closed (rest : List Char) (read : Int)
    (unquoted : rest.head? ≠ some '\'') :
    quotedString.runFrom (.reading 2) read rest = read := by
  cases rest with
  | nil => simp [step, quotedString, Move.apply]
  | cons c more =>
    have other : c ≠ '\'' := by simpa using unquoted
    have stepped : quotedString.step (.reading 2) read (some c) = (.accepted, read) := by
      simp [step, quotedString_move_other 2 read other, Move.apply]
    rw [runFrom_cons_step more stepped]
    simp [Phase.halted]

theorem quotedString_step_open (read : Int) :
    quotedString.step (.reading 0) read (some '\'') = (.reading 1, read + 1) := by
  simp [step, quotedString, Move.apply]

theorem quotedString_step_inside_quote (read : Int) :
    quotedString.step (.reading 1) read (some '\'') = (.reading 2, read + 1) := by
  simp [step, quotedString, Move.apply]

theorem quotedString_step_inside_other (read : Int) {c : Char} (other : c ≠ '\'') :
    quotedString.step (.reading 1) read (some c) = (.reading 1, read + 1) := by
  simp [step, quotedString_move_other 1 read other, Move.apply]

theorem quotedString_step_closed_quote (read : Int) :
    quotedString.step (.reading 2) read (some '\'') = (.reading 1, read + 1) := by
  simp [step, quotedString, Move.apply]

/-- Inside the quotes the machine reads a paired inside, then the closing quote, and stops before
whatever follows when it is not a quote. -/
theorem quotedString_runFrom_paired {inside : List Char} (paired : QuotesPaired inside)
    {rest : List Char} (unquoted : rest.head? ≠ some '\'') :
    ∀ read : Int, quotedString.runFrom (.reading 1) read (inside ++ '\'' :: rest) =
      read + inside.length + 1 := by
  induction paired with
  | nil =>
    intro read
    rw [List.nil_append, runFrom_cons_step rest (quotedString_step_inside_quote read),
      quotedString_runFrom_closed rest (read + 1) unquoted]
    simp [Phase.halted]
  | @other c more notQuote _ ih =>
    intro read
    rw [List.cons_append, runFrom_cons_step _ (quotedString_step_inside_other read notQuote)]
    simp only [Phase.halted, Bool.false_eq_true, ↓reduceIte, List.length_cons]
    rw [ih (read + 1)]
    push_cast
    omega
  | @pair more _ ih =>
    intro read
    rw [List.cons_append, List.cons_append,
      runFrom_cons_step _ (quotedString_step_inside_quote read)]
    simp only [Phase.halted, Bool.false_eq_true, ↓reduceIte]
    rw [runFrom_cons_step _ (quotedString_step_closed_quote (read + 1))]
    simp only [Phase.halted, Bool.false_eq_true, ↓reduceIte, List.length_cons]
    rw [ih (read + 1 + 1)]
    push_cast
    omega

theorem quotedString_haltsWithin_or_runFrom_eq_zero (front : List Char) (phase : Phase)
    (read : Int) :
    quotedString.haltsWithin phase read (front ++ ['\n']) = true ∨
      quotedString.runFrom phase read (front ++ ['\n']) = 0 := by
  apply haltsWithin_or_runFrom_eq_zero
  intro phase read going
  cases phase with
  | reading state =>
    rcases state with _ | _ | _ | state <;>
      simp_all [step, quotedString, Move.apply, Phase.halted]
  | accepted => simp [step, Phase.halted] at going
  | rejected => simp [step, Phase.halted] at going

theorem literal_haltsOn {text : List Char} {c : Char} (absent : c ∉ text) :
    (literal text).HaltsOn c := by
  intro phase read
  cases phase with
  | reading state =>
    simp only [step, literal]
    split
    · rename_i expected found
      have differs : c ≠ expected := fun same => absent (same ▸ List.mem_of_getElem? found)
      simp only [Option.some.injEq, differs, ↓reduceIte, Move.apply, Phase.halted]
    · simp [Move.apply, Phase.halted]
  | accepted => rfl
  | rejected => rfl

theorem endOfInput_haltsOn (c : Char) : endOfInput.HaltsOn c := by
  intro phase read
  cases phase <;> simp [step, endOfInput, Move.apply, Phase.halted]

theorem lineComment_haltsOn_newline : lineComment.HaltsOn '\n' := by
  intro phase read
  cases phase with
  | reading state => rcases state with _ | state <;> simp [step, lineComment, Move.apply, Phase.halted]
  | accepted => rfl
  | rejected => rfl

theorem identifier_haltsOn {c : Char} (other : Unicode.isLetterOrNumber c = false) :
    identifier.HaltsOn c := by
  have notLetter : Unicode.isLetter c = false := by
    cases letter : Unicode.isLetter c
    · rfl
    · simp [Unicode.isLetterOrNumber_of_isLetter letter] at other
  intro phase read
  cases phase with
  | reading state =>
    rcases state with _ | state <;> simp [step, identifier, notLetter, other, Move.apply, Phase.halted]
  | accepted => rfl
  | rejected => rfl

end Machine

namespace Recognizer

open Machine

theorem read_nonneg (recognizer : Recognizer) (input : List Char) : 0 ≤ recognizer.read input :=
  runFrom_nonneg input _ 0 (Int.le_refl 0)

theorem read_fixed (text : FixedText) (input : List Char) :
    (fixed text).read input =
      if text.text.toList <+: input then (text.text.toList.length : Int) else 0 := by
  have nonempty : 0 < text.text.toList.length := by cases text <;> decide
  change (literal text.text.toList).runFrom (.reading 0) 0 input = _
  rw [literal_runFrom _ input 0 0 nonempty]
  simp

theorem read_endOfInput (input : List Char) :
    endOfInput.read input = if input = [] then 1 else 0 := by
  cases input with
  | nil => rfl
  | cons c rest =>
    have stepped : Machine.endOfInput.step (.reading 0) 0 (some c) = (.rejected, 0) := by
      simp [step, Machine.endOfInput, Move.apply]
    change Machine.endOfInput.runFrom (.reading 0) 0 (c :: rest) = _
    rw [runFrom_cons_step rest stepped]
    simp [Phase.halted]

theorem read_blanks (input : List Char) :
    blanks.read input = (input.takeWhile isBlank).length := by
  change blankRun.runFrom (.reading 0) 0 input = _
  rw [blankRun_runFrom]
  split <;> omega

theorem read_comment (input : List Char) :
    comment.read input =
      if input.head? = some '#' then (input.takeWhile (· != '\n')).length else 0 := by
  change lineComment.runFrom (.reading 0) 0 input = _
  cases input with
  | nil => rfl
  | cons c rest =>
    by_cases hash : c = '#'
    · subst hash
      have stepped : lineComment.step (.reading 0) 0 (some '#') = (.reading 1, 1) := by
        simp [step, lineComment, Move.apply]
      rw [runFrom_cons_step rest stepped, lineComment_runFrom]
      simp only [Phase.halted, Bool.false_eq_true, ↓reduceIte, List.head?_cons,
        List.takeWhile_cons]
      simp
      omega
    · have stepped : lineComment.step (.reading 0) 0 (some c) = (.rejected, 0) := by
        simp [step, lineComment, hash, Move.apply]
      rw [runFrom_cons_step rest stepped]
      simp [Phase.halted, hash]

theorem read_identifier (input : List Char) :
    identifier.read input =
      if input.head?.any Unicode.isLetter then (input.takeWhile Unicode.isLetterOrNumber).length
      else 0 := by
  change Machine.identifier.runFrom (.reading 0) 0 input = _
  cases input with
  | nil => rfl
  | cons c rest =>
    by_cases letter : Unicode.isLetter c = true
    · have stepped : Machine.identifier.step (.reading 0) 0 (some c) = (.reading 1, 1) := by
        simp [step, Machine.identifier, letter, Move.apply]
      rw [runFrom_cons_step rest stepped, identifier_runFrom]
      simp only [Phase.halted, Bool.false_eq_true, ↓reduceIte, List.head?_cons, Option.any_some,
        letter, List.takeWhile_cons, Unicode.isLetterOrNumber_of_isLetter letter, List.length_cons]
      push_cast
      omega
    · have stepped : Machine.identifier.step (.reading 0) 0 (some c) = (.rejected, 0) := by
        simp [step, Machine.identifier, letter, Move.apply]
      rw [runFrom_cons_step rest stepped]
      simp [Phase.halted, letter]

theorem read_quoted_nil : quoted.read [] = 0 := rfl

theorem read_quoted_of_ne {c : Char} (rest : List Char) (other : c ≠ '\'') :
    quoted.read (c :: rest) = 0 := by
  have stepped : quotedString.step (.reading 0) 0 (some c) = (.rejected, 0) := by
    simp [step, quotedString_move_other 0 0 other, Move.apply]
  change quotedString.runFrom (.reading 0) 0 (c :: rest) = _
  rw [runFrom_cons_step rest stepped]
  simp [Phase.halted]

/-- The quoted-string machine reads exactly the literal of any content, when no quote follows. -/
theorem read_stringLiteral (content rest : List Char) (unquoted : rest.head? ≠ some '\'') :
    quoted.read (stringLiteral content ++ rest) = (stringLiteral content).length := by
  change quotedString.runFrom (.reading 0) 0 (stringLiteral content ++ rest) = _
  simp only [stringLiteral, List.cons_append, List.append_assoc, List.nil_append]
  rw [runFrom_cons_step _ (quotedString_step_open 0)]
  simp only [Phase.halted, Bool.false_eq_true, ↓reduceIte]
  rw [quotedString_runFrom_paired (QuotesPaired.doubled content) unquoted]
  simp only [List.length_cons, List.length_append, List.length_nil]
  push_cast
  omega

example : quoted.read (stringLiteral "it's".toList ++ " x".toList) = 7 := by decide

theorem read_halted (accepting : Bool) (input : List Char) : (halted accepting).read input = 0 := by
  cases accepting <;> cases input <;> rfl

/-- The characters a recognizer can begin with: of any other input it reads nothing. -/
def starts : Recognizer → Char → Bool
  | fixed text, c => text.text.toList.head? == some c
  | endOfInput, _ => false
  | blanks, c => isBlank c
  | comment, c => c == '#'
  | quoted, c => c == '\''
  | identifier, c => Unicode.isLetter c
  | halted _, _ => false

theorem starts_of_read_pos {recognizer : Recognizer} {c : Char} {rest : List Char}
    (reads : 0 < recognizer.read (c :: rest)) : recognizer.starts c = true := by
  cases recognizer with
  | fixed text =>
    rw [read_fixed] at reads
    split at reads
    · rename_i front
      obtain ⟨first, more, spelled⟩ : ∃ first more, text.text.toList = first :: more := by
        cases text <;> exact ⟨_, _, rfl⟩
      rw [spelled, List.cons_prefix_cons] at front
      simp [starts, spelled, front.1]
    · omega
  | endOfInput => simp [read_endOfInput] at reads
  | blanks =>
    rw [read_blanks, List.takeWhile_cons] at reads
    split at reads
    · assumption
    · simp at reads
  | comment =>
    rw [read_comment] at reads
    split at reads
    · simp_all [starts]
    · omega
  | quoted =>
    by_cases quote : c = '\''
    · simp [starts, quote]
    · rw [read_quoted_of_ne rest quote] at reads
      omega
  | identifier =>
    rw [read_identifier] at reads
    split at reads
    · simp_all [starts]
    · omega
  | halted accepting => rw [read_halted] at reads; omega

theorem read_eq_zero_of_starts {recognizer : Recognizer} {c : Char} {rest : List Char}
    (other : recognizer.starts c = false) : recognizer.read (c :: rest) = 0 := by
  refine Int.le_antisymm (Int.not_lt.mp fun reads => ?_) (read_nonneg _ _)
  rw [starts_of_read_pos reads] at other
  cases other

end Recognizer

end DatalogLexer
