import DatalogLexer.Lexer
import DatalogLexer.Proofs.Longest

set_option autoImplicit false

namespace DatalogLexer

namespace Recognizer

theorem standard_nodup : standard.Nodup := by decide

theorem mem_standard {recognizer : Recognizer} :
    recognizer ∈ standard ↔
      (∃ text, recognizer = fixed text) ∨ recognizer = endOfInput ∨ recognizer = blanks ∨
        recognizer = comment ∨ recognizer = quoted ∨ recognizer = identifier := by
  constructor
  · intro member
    simp only [standard, List.mem_cons, List.not_mem_nil, or_false] at member
    rcases member with h | h | h | h | h | h | h | h | h | h | h | h | h | h | h | h <;>
      subst h <;> simp
  · rintro (⟨text, rfl⟩ | rfl | rfl | rfl | rfl | rfl) <;> try (simp [standard]; done)
    cases text <;> simp [standard]

/-- Whitespace comes only from the blank machine, and the end of input only from its own. -/
theorem kindOf_exclusive {recognizer : Recognizer} {text : List Char} :
    (recognizer.kindOf text = .whitespace → recognizer = blanks) ∧
      (recognizer.kindOf text = .eof → recognizer = endOfInput) := by
  cases recognizer with
  | fixed fixedText =>
    simp only [kindOf]
    split <;> cases fixedText <;> simp [FixedText.kind]
  | endOfInput => simp only [kindOf]; split <;> simp
  | blanks => simp [kindOf]
  | comment => simp [kindOf]
  | quoted => simp [kindOf]
  | identifier => simp only [kindOf]; split <;> simp
  | halted accepting => simp [kindOf]

theorem kindOf_fixed_of_read_pos {text : FixedText} {input : List Char}
    (reads : 0 < (fixed text).read input) :
    (fixed text).kindOf (input.take ((fixed text).read input).toNat) = text.kind ∧
      text.text.toList <+: input := by
  rw [read_fixed] at reads ⊢
  split at reads
  · rename_i front
    simp only [front, ↓reduceIte, Int.toNat_natCast, kindOf]
    rw [← List.prefix_iff_eq_take.mp front]
    simp
  · omega

theorem eq_blanks_of_starts {recognizer : Recognizer} {c : Char} (member : recognizer ∈ standard)
    (blank : isBlank c = true) (begins : recognizer.starts c = true) : recognizer = blanks := by
  have four : c = ' ' ∨ c = '\t' ∨ c = '\r' ∨ c = '\n' := by
    simpa [isBlank, or_assoc] using blank
  simp only [standard, List.mem_cons, List.not_mem_nil, or_false] at member
  rcases four with rfl | rfl | rfl | rfl <;>
    rcases member with h | h | h | h | h | h | h | h | h | h | h | h | h | h | h | h <;>
    subst h <;> first | rfl | (revert begins; decide)

/-- A blank, punctuation, `#` or a letter begins a token whatever follows it. -/
theorem beginsToken_of_starts {recognizer : Recognizer} {c : Char} (member : recognizer ∈ standard)
    (notQuoted : recognizer ≠ quoted) (begins : recognizer.starts c = true) :
    c ∈ [' ', '\t', '\r', '\n', ':', ',', '.', '?', '(', ')', '#'] ∨ Unicode.isLetter c = true := by
  cases recognizer with
  | fixed text => cases text <;> simp [starts, FixedText.text] at begins <;> subst begins <;> decide
  | endOfInput => simp [starts] at begins
  | blanks =>
    simp only [starts, isBlank, Bool.or_eq_true, beq_iff_eq] at begins
    rcases begins with ((rfl | rfl) | rfl) | rfl <;> decide
  | comment =>
    simp only [starts, beq_iff_eq] at begins
    subst begins
    decide
  | quoted => exact absurd rfl notQuoted
  | identifier => exact .inr begins
  | halted accepting => simp [starts] at begins

/-- Some recognizer of the language reads from a character that begins a token. -/
theorem exists_read_pos {c : Char} (rest : List Char)
    (begins : c ∈ [' ', '\t', '\r', '\n', ':', ',', '.', '?', '(', ')', '#'] ∨
      Unicode.isLetter c = true) :
    ∃ recognizer ∈ standard, 0 < recognizer.read (c :: rest) := by
  have fixedReads : ∀ text : FixedText, text.text.toList = [c] →
      0 < (fixed text).read (c :: rest) := by
    intro text single
    rw [read_fixed, single]
    simp
  have blankReads : isBlank c = true → 0 < blanks.read (c :: rest) := by
    intro blank
    simp [read_blanks, blank]
  rcases begins with listed | letter
  · simp only [List.mem_cons, List.not_mem_nil, or_false] at listed
    rcases listed with rfl | rfl | rfl | rfl | rfl | rfl | rfl | rfl | rfl | rfl | rfl
    · exact ⟨blanks, by decide, blankReads rfl⟩
    · exact ⟨blanks, by decide, blankReads rfl⟩
    · exact ⟨blanks, by decide, blankReads rfl⟩
    · exact ⟨blanks, by decide, blankReads rfl⟩
    · exact ⟨fixed .colon, by decide, fixedReads .colon rfl⟩
    · exact ⟨fixed .comma, by decide, fixedReads .comma rfl⟩
    · exact ⟨fixed .period, by decide, fixedReads .period rfl⟩
    · exact ⟨fixed .qMark, by decide, fixedReads .qMark rfl⟩
    · exact ⟨fixed .leftParen, by decide, fixedReads .leftParen rfl⟩
    · exact ⟨fixed .rightParen, by decide, fixedReads .rightParen rfl⟩
    · exact ⟨comment, by decide, by simp [read_comment]⟩
  · refine ⟨identifier, by decide, ?_⟩
    simp [read_identifier, letter, Unicode.isLetterOrNumber_of_isLetter letter]

/-- Nothing of the language matches exactly at a character that begins no token, a quote counting
as one only when no closed string follows. -/
theorem longest_standard_eq_none_iff {c : Char} {rest : List Char} :
    longest standard (c :: rest) = none ↔
      c ∉ [' ', '\t', '\r', '\n', ':', ',', '.', '?', '(', ')', '#'] ∧
        Unicode.isLetter c = false ∧ (c = '\'' → quoted.read (c :: rest) = 0) := by
  rw [longest_eq_none_iff]
  constructor
  · intro nothing
    have notBegins : ¬(c ∈ [' ', '\t', '\r', '\n', ':', ',', '.', '?', '(', ')', '#'] ∨
        Unicode.isLetter c = true) := by
      intro begins
      obtain ⟨recognizer, member, reads⟩ := exists_read_pos rest begins
      exact absurd (nothing recognizer member) (Int.not_le.mpr reads)
    refine ⟨fun listed => notBegins (.inl listed), by simpa using fun letter => notBegins (.inr letter), ?_⟩
    intro _
    exact Int.le_antisymm (nothing quoted (by decide)) (read_nonneg quoted _)
  · rintro ⟨notListed, notLetter, closed⟩ recognizer member
    refine Int.not_lt.mp fun reads => ?_
    have begins := starts_of_read_pos reads
    by_cases isQuoted : recognizer = quoted
    · subst isQuoted
      have quote : c = '\'' := by simpa [starts] using begins
      rw [closed quote] at reads
      exact Int.lt_irrefl 0 reads
    · rcases beginsToken_of_starts member isQuoted begins with listed | letter
      · exact notListed listed
      · rw [notLetter] at letter
        cases letter

/-- The longest match never makes an undefined token: a fixed text reads only its own text, and a
keyword goes to its own recognizer, which comes before the identifier. -/
theorem kindOf_longest_standard_ne_undefined {input : List Char} {winner : Recognizer} {read : Int}
    (found : longest standard input = some (winner, read)) :
    winner.kindOf (input.take read.toNat) ≠ .undefined := by
  obtain ⟨first, rfl, positive⟩ := longest_eq_some_iff.mp found
  have member := first.mem
  rcases mem_standard.mp member with ⟨text, rfl⟩ | rfl | rfl | rfl | rfl | rfl
  · rw [(kindOf_fixed_of_read_pos positive).1]
    cases text <;> decide
  · have empty : input = [] := by
      rw [read_endOfInput] at positive
      split at positive
      · assumption
      · omega
    subst empty
    simp [kindOf]
  · simp [kindOf]
  · simp [kindOf]
  · simp [kindOf]
  · intro keyword
    simp only [kindOf, ite_eq_left_iff, reduceCtorEq, imp_false, Decidable.not_not] at keyword
    -- the keyword's own recognizer reads exactly as much, and comes earlier
    have within : identifier.read input ≤ input.length := by
      rw [read_identifier]
      split
      · exact Int.ofNat_le.mpr (List.IsPrefix.length_le (List.takeWhile_prefix _))
      · omega
    have spelled : ∃ text ∈ [FixedText.schemes, .facts, .rules, .queries],
        text.text.toList = input.take (identifier.read input).toNat := by
      simp only [keywords, List.mem_cons, List.not_mem_nil, or_false] at keyword
      rcases keyword with spelled | spelled | spelled | spelled
      · exact ⟨.schemes, by simp, spelled.symm⟩
      · exact ⟨.facts, by simp, spelled.symm⟩
      · exact ⟨.rules, by simp, spelled.symm⟩
      · exact ⟨.queries, by simp, spelled.symm⟩
    obtain ⟨text, isKeyword, spelled⟩ := spelled
    have sameRead : (fixed text).read input = identifier.read input := by
      rw [read_fixed, spelled, if_pos (List.take_prefix _ _), List.length_take]
      omega
    have earlier : fixed text ∈ standard.takeWhile (· != identifier) := by
      simp only [List.mem_cons, List.not_mem_nil, or_false] at isKeyword
      rcases isKeyword with rfl | rfl | rfl | rfl <;> decide
    exact absurd sameRead (Int.ne_of_lt (first.lt_of_mem_takeWhile earlier))

end Recognizer

open Recognizer

theorem frontWith_standard_isSome (input : List Char) :
    ∃ kind text, frontWith standard input = some (kind, text) := by
  cases found : longest standard input with
  | some best =>
    obtain ⟨winner, read⟩ := best
    exact ⟨_, _, frontWith_of_longest_some found⟩
  | none =>
    cases input with
    | nil => exact ⟨_, _, frontWith_standard_nil⟩
    | cons c rest => exact ⟨_, _, frontWith_of_longest_none found⟩

/-- On a blank the scan reads the whole run of blanks, as whitespace. -/
theorem frontWith_standard_blank {c : Char} {rest : List Char} (blank : isBlank c = true) :
    frontWith standard (c :: rest) = some (.whitespace, (c :: rest).takeWhile isBlank) := by
  have positive : 0 < blanks.read (c :: rest) := by simp [read_blanks, blank]
  have others : ∀ q ∈ standard, q ≠ blanks → q.read (c :: rest) < blanks.read (c :: rest) := by
    intro q member other
    refine Int.lt_of_le_of_lt (Int.not_lt.mp fun reads => other ?_) positive
    exact eq_blanks_of_starts member blank (starts_of_read_pos reads)
  have found : longest standard (c :: rest) = some (blanks, blanks.read (c :: rest)) :=
    longest_eq_some_iff.mpr ⟨FirstLongest.of_unique (by decide) standard_nodup others, rfl,
      positive⟩
  rw [frontWith_of_longest_some found, read_blanks, Int.toNat_natCast,
    ← List.prefix_iff_eq_take.mp (List.takeWhile_prefix _)]
  rfl

theorem frontWith_standard_whitespace {input : List Char} {text : List Char}
    (found : frontWith standard input = some (.whitespace, text)) :
    ∃ c rest, input = c :: rest ∧ isBlank c = true := by
  unfold frontWith at found
  split at found
  · rename_i winner read longest
    simp only [Option.some.injEq, Prod.mk.injEq] at found
    have isBlanks := kindOf_exclusive.1 found.1
    subst isBlanks
    obtain ⟨-, rfl, positive⟩ := longest_eq_some_iff.mp longest
    cases input with
    | nil => simp [read_blanks] at positive
    | cons c rest => exact ⟨c, rest, rfl, starts_of_read_pos positive⟩
  · split at found <;> simp at found

theorem frontWith_standard_eof {input : List Char} {text : List Char}
    (found : frontWith standard input = some (.eof, text)) : input = [] ∧ text = [] := by
  unfold frontWith at found
  split at found
  · rename_i winner read longest
    simp only [Option.some.injEq, Prod.mk.injEq] at found
    have isEnd := kindOf_exclusive.2 found.1
    subst isEnd
    obtain ⟨-, rfl, positive⟩ := longest_eq_some_iff.mp longest
    have empty : input = [] := by
      rw [read_endOfInput] at positive
      split at positive
      · assumption
      · omega
    subst empty
    exact ⟨rfl, by simp [← found.2]⟩
  · split at found <;> simp at found

theorem Token.Kind.ne_eof_of_ends_eq_false {kind : Token.Kind} (going : kind.ends = false) :
    kind ≠ .eof := by
  rintro rfl
  cases going

theorem ne_nil_of_frontWith_standard {input : List Char} {kind : Token.Kind} {text : List Char}
    (found : frontWith standard input = some (kind, text)) (notEnd : kind ≠ .eof) : input ≠ [] := by
  rintro rfl
  rw [frontWith_standard_nil, Option.some.injEq, Prod.mk.injEq] at found
  exact notEnd found.1.symm

/-- An undefined token is scanned exactly at a character that begins no token, holding it alone. -/
theorem frontWith_standard_undefined_iff {input : List Char} {text : List Char} :
    frontWith standard input = some (.undefined, text) ↔
      ∃ c rest, input = c :: rest ∧ text = [c] ∧
        c ∉ [' ', '\t', '\r', '\n', ':', ',', '.', '?', '(', ')', '#'] ∧
        Unicode.isLetter c = false ∧ (c = '\'' → quoted.read input = 0) := by
  constructor
  · intro found
    cases longest : longest standard input with
    | some best =>
      obtain ⟨winner, read⟩ := best
      rw [frontWith_of_longest_some longest] at found
      simp only [Option.some.injEq, Prod.mk.injEq] at found
      exact absurd found.1 (kindOf_longest_standard_ne_undefined longest)
    | none =>
      cases input with
      | nil => rw [frontWith_standard_nil] at found; cases found
      | cons c rest =>
        rw [frontWith_of_longest_none longest] at found
        simp only [Option.some.injEq, Prod.mk.injEq, true_and] at found
        exact ⟨c, rest, rfl, found.symm, longest_standard_eq_none_iff.mp longest⟩
  · rintro ⟨c, rest, rfl, rfl, nothing⟩
    exact frontWith_of_longest_none (longest_standard_eq_none_iff.mpr nothing)

end DatalogLexer
