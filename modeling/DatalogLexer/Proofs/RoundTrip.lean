import DatalogLexer.Proofs.Stream

set_option autoImplicit false

namespace DatalogLexer

open Recognizer

/-- The texts a token of each kind is written as: a fixed text, an identifier that is no keyword,
the quoted literal of any content, and `#` with anything but a line feed after it. -/
inductive Spelling : Token.Kind → List Char → Prop
  | fixed (text : FixedText) : Spelling text.kind text.text.toList
  | ident {first : Char} {more : List Char} (letter : Unicode.isLetter first = true)
      (alphanumeric : ∀ c ∈ more, Unicode.isLetterOrNumber c = true)
      (notKeyword : first :: more ∉ keywords) : Spelling .ident (first :: more)
  | string (content : List Char) : Spelling .string (stringLiteral content)
  | comment {content : List Char} (oneLine : '\n' ∉ content) : Spelling .comment ('#' :: content)

namespace FixedText

theorem text_toList_injective {first second : FixedText}
    (same : first.text.toList = second.text.toList) : first = second := by
  cases first <;> cases second <;> first | rfl | (simp [text] at same)

theorem isBlank_of_mem (fixedText : FixedText) : ∀ c ∈ fixedText.text.toList, isBlank c = false := by
  cases fixedText <;> simp [text, isBlank]

theorem text_eq_cons (fixedText : FixedText) :
    ∃ first rest, fixedText.text.toList = first :: rest ∧ isBlank first = false ∧
      first ≠ '#' ∧ first ≠ '\'' := by
  cases fixedText <;> exact ⟨_, _, rfl, by decide, by decide, by decide⟩

theorem text_ne_of_isLetter (fixedText : FixedText) {first : Char} {more : List Char}
    (letter : Unicode.isLetter first = true) (notKeyword : first :: more ∉ keywords) :
    fixedText.text.toList ≠ first :: more := by
  intro same
  cases fixedText <;> first
    | (rw [← same] at notKeyword; exact notKeyword (by decide))
    | (simp [text] at same; obtain ⟨rfl, -⟩ := same; exact absurd letter (by decide))

theorem text_ne_of_head (fixedText : FixedText) {c : Char} {rest : List Char}
    (head : c = '#' ∨ c = '\'') : fixedText.text.toList ≠ c :: rest := by
  obtain ⟨first, more, spelledAs, -, notHash, notQuote⟩ := fixedText.text_eq_cons
  rw [spelledAs]
  intro same
  obtain ⟨rfl, -⟩ := List.cons.inj same
  rcases head with rfl | rfl
  · exact notHash rfl
  · exact notQuote rfl

end FixedText

theorem takeWhile_eq_nil_of_head {p : Char → Bool} {more : List Char}
    (stops : ∀ c ∈ more.head?, p c = false) : more.takeWhile p = [] := by
  cases more with
  | nil => rfl
  | cons c rest => simp [stops c rfl]

namespace Recognizer

/-- Another fixed text reads less than all of `text`, when what follows `text` does not go on with a
character of it. -/
theorem read_fixed_append_lt {fixedText : FixedText} {text more : List Char} (nonempty : text ≠ [])
    (other : fixedText.text.toList ≠ text)
    (boundary : ∀ c ∈ more.head?, c ∉ fixedText.text.toList) :
    (fixed fixedText).read (text ++ more) < text.length := by
  rw [read_fixed]
  split
  · rename_i prefixed
    refine Int.ofNat_lt.mpr (Nat.lt_of_not_le fun longer => ?_)
    obtain ⟨tail, spelled⟩ :=
      List.prefix_of_prefix_length_le (List.prefix_append text more) prefixed longer
    cases tail with
    | nil => exact other (by simpa using spelled.symm)
    | cons c tail =>
      rw [← spelled, List.prefix_append_right_inj] at prefixed
      obtain ⟨after, joined⟩ := prefixed
      have first : more.head? = some c := by rw [← joined]; rfl
      exact boundary c first (by rw [← spelled]; simp)
  · exact Int.ofNat_lt.mpr (List.length_pos_iff.mpr nonempty)

theorem read_identifier_append_le (text : List Char) {more : List Char}
    (boundary : ∀ c ∈ more.head?, Unicode.isLetterOrNumber c = false) :
    identifier.read (text ++ more) ≤ text.length := by
  have stops := takeWhile_eq_nil_of_head boundary
  have within : ((text ++ more).takeWhile Unicode.isLetterOrNumber).length ≤ text.length := by
    rw [List.takeWhile_append]
    split
    · simp [stops]
    · exact (List.takeWhile_prefix _).length_le
  rw [read_identifier]
  split
  · exact Int.ofNat_le.mpr within
  · exact Int.natCast_nonneg _

/-- The first longest match of the language: the identifier comes last, so it only has to read no
more than the winner. -/
theorem firstLongest_standard {input : List Char} {winner : Recognizer} (member : winner ∈ standard)
    (others : ∀ q ∈ standard, q ≠ winner → q ≠ identifier → q.read input < winner.read input)
    (lastNoLonger : identifier.read input ≤ winner.read input) :
    FirstLongest standard input winner := by
  by_cases isIdentifier : winner = identifier
  · subst isIdentifier
    exact FirstLongest.of_unique member standard_nodup fun q inside other => others q inside other other
  · have split : standard = standard.dropLast ++ [identifier] := rfl
    have notLast : identifier ∉ standard.dropLast := by decide
    rw [split]
    refine FirstLongest.append ?_ (by simpa using lastNoLonger)
    have early : winner ∈ standard.dropLast := by
      rw [split, List.mem_append, List.mem_singleton] at member
      exact member.resolve_right isIdentifier
    refine FirstLongest.of_unique early (by decide) fun q inside other => ?_
    exact others q (List.dropLast_subset _ inside) other fun same => notLast (same ▸ inside)

/-- Every recognizer but the identifier and the text's own reads less than all of a text followed by
a blank or by nothing. -/
theorem read_append_lt_length {q : Recognizer} {first : Char} {rest more : List Char}
    (member : q ∈ standard) (notIdentifier : q ≠ identifier)
    (blankAfter : ∀ c ∈ more.head?, isBlank c = true) (notBlank : isBlank first = false)
    (otherFixed : ∀ fixedText, q = fixed fixedText → fixedText.text.toList ≠ first :: rest)
    (otherComment : q = comment → first ≠ '#') (otherQuoted : q = quoted → first ≠ '\'') :
    q.read (first :: rest ++ more) < (first :: rest).length := by
  have positive : (0 : Int) < (first :: rest).length := by simp
  rcases mem_standard.mp member with ⟨fixedText, rfl⟩ | rfl | rfl | rfl | rfl | rfl
  · refine read_fixed_append_lt (List.cons_ne_nil _ _) (otherFixed fixedText rfl) ?_
    intro c head inside
    have blank := blankAfter c head
    rw [fixedText.isBlank_of_mem c inside] at blank
    cases blank
  · rw [List.cons_append, read_endOfInput, if_neg (List.cons_ne_nil _ _)]
    exact positive
  · rw [List.cons_append, read_eq_zero_of_starts (by simp [starts, notBlank])]
    exact positive
  · rw [List.cons_append, read_eq_zero_of_starts (by simp [starts, otherComment rfl])]
    exact positive
  · rw [List.cons_append, read_eq_zero_of_starts (by simp [starts, otherQuoted rfl])]
    exact positive
  · exact absurd rfl notIdentifier

end Recognizer

theorem frontWith_of_firstLongest {recognizers : List Recognizer} {input text : List Char}
    {winner : Recognizer} (first : FirstLongest recognizers input winner)
    (reads : winner.read input = text.length) (nonempty : text ≠ []) (prefixed : text <+: input) :
    frontWith recognizers input = some (winner.kindOf text, text) := by
  have positive : 0 < (text.length : Int) := Int.ofNat_lt.mpr (List.length_pos_iff.mpr nonempty)
  rw [frontWith_of_longest_some (longest_eq_some_iff.mpr ⟨first, reads, positive⟩),
    Int.toNat_natCast, ← List.prefix_iff_eq_take.mp prefixed]

theorem isBlank_eq_false_of_isLetter {c : Char} (letter : Unicode.isLetter c = true) :
    isBlank c = false := by
  cases blank : isBlank c
  · rfl
  · simp only [isBlank, Bool.or_eq_true, beq_iff_eq] at blank
    rcases blank with ((rfl | rfl) | rfl) | rfl <;> exact absurd letter (by decide)

theorem isLetterOrNumber_eq_false_of_isBlank {c : Char} (blank : isBlank c = true) :
    Unicode.isLetterOrNumber c = false := by
  simp only [isBlank, Bool.or_eq_true, beq_iff_eq] at blank
  rcases blank with ((rfl | rfl) | rfl) | rfl <;> decide

theorem takeWhile_ne_newline_append {content more : List Char} (oneLine : '\n' ∉ content)
    (lineEnds : ∀ c ∈ more.head?, c = '\n') :
    (content ++ more).takeWhile (· != '\n') = content := by
  have stops : more.takeWhile (· != '\n') = [] :=
    takeWhile_eq_nil_of_head fun c head => by simp [lineEnds c head]
  rw [List.takeWhile_append_of_pos, stops, List.append_nil]
  intro c inside
  simp only [bne_iff_ne, ne_eq]
  rintro rfl
  exact oneLine inside

namespace Spelling

variable {kind : Token.Kind} {text : List Char}

theorem ne_nil (spelled : Spelling kind text) : text ≠ [] := by
  cases spelled with
  | fixed fixedText =>
    obtain ⟨first, rest, spelledAs, -⟩ := fixedText.text_eq_cons
    rw [spelledAs]
    exact List.cons_ne_nil _ _
  | ident => exact List.cons_ne_nil _ _
  | string => exact List.cons_ne_nil _ _
  | comment => exact List.cons_ne_nil _ _

theorem ends_eq_false (spelled : Spelling kind text) : kind.ends = false := by
  cases spelled with
  | fixed fixedText => cases fixedText <;> rfl
  | ident => rfl
  | string => rfl
  | comment => rfl

theorem ne_whitespace (spelled : Spelling kind text) : kind ≠ .whitespace := by
  cases spelled with
  | fixed fixedText => cases fixedText <;> decide
  | ident => decide
  | string => decide
  | comment => decide

/-- A text of a kind, followed by a blank or by nothing, is scanned as a token of that kind with
exactly that text; after a comment the blank is a line feed. -/
theorem frontWith_standard_append (spelled : Spelling kind text) {more : List Char}
    (boundary : ∀ c ∈ more.head?, isBlank c = true ∧ (kind = .comment → c = '\n')) :
    frontWith standard (text ++ more) = some (kind, text) := by
  have blankAfter : ∀ c ∈ more.head?, isBlank c = true := fun c head => (boundary c head).1
  have identifierStops : ∀ c ∈ more.head?, Unicode.isLetterOrNumber c = false :=
    fun c head => isLetterOrNumber_eq_false_of_isBlank (blankAfter c head)
  have lastNoLonger := read_identifier_append_le text identifierStops
  have nonempty := spelled.ne_nil
  cases spelled with
  | fixed fixedText =>
    obtain ⟨first, rest, spelledAs, notBlank, notHash, notQuote⟩ := fixedText.text_eq_cons
    have reads : (Recognizer.fixed fixedText).read (fixedText.text.toList ++ more) =
        fixedText.text.toList.length := by
      rw [read_fixed, if_pos (List.prefix_append _ _)]
    have others : ∀ q ∈ standard, q ≠ Recognizer.fixed fixedText → q ≠ identifier →
        q.read (fixedText.text.toList ++ more) <
          (Recognizer.fixed fixedText).read (fixedText.text.toList ++ more) := by
      intro q member other notIdentifier
      rw [reads, spelledAs]
      refine read_append_lt_length member notIdentifier blankAfter notBlank ?_ (fun _ => notHash)
        (fun _ => notQuote)
      rintro otherText rfl same
      exact other (congrArg Recognizer.fixed
        (FixedText.text_toList_injective (same.trans spelledAs.symm)))
    have first := firstLongest_standard (by cases fixedText <;> decide) others (reads ▸ lastNoLonger)
    rw [frontWith_of_firstLongest first reads nonempty (List.prefix_append _ _)]
    simp [kindOf]
  | @ident first tail letter alphanumeric notKeyword =>
    have allAlphanumeric : ∀ c ∈ first :: tail, Unicode.isLetterOrNumber c = true := by
      intro c inside
      rcases List.mem_cons.mp inside with rfl | later
      · exact Unicode.isLetterOrNumber_of_isLetter letter
      · exact alphanumeric c later
    have reads : identifier.read (first :: tail ++ more) = (first :: tail).length := by
      rw [read_identifier, List.takeWhile_append_of_pos allAlphanumeric,
        takeWhile_eq_nil_of_head identifierStops, List.append_nil]
      simp [letter]
    have others : ∀ q ∈ standard, q ≠ identifier → q ≠ identifier →
        q.read (first :: tail ++ more) < identifier.read (first :: tail ++ more) := by
      intro q member notIdentifier _
      rw [reads]
      refine read_append_lt_length member notIdentifier blankAfter
        (isBlank_eq_false_of_isLetter letter) (fun fixedText _ => ?_) (fun _ hash => ?_)
        (fun _ quote => ?_)
      · exact fixedText.text_ne_of_isLetter letter notKeyword
      · rw [hash] at letter
        exact absurd letter (by decide)
      · rw [quote] at letter
        exact absurd letter (by decide)
    have first := firstLongest_standard (by decide) others (Int.le_refl _)
    rw [frontWith_of_firstLongest first reads nonempty (List.prefix_append _ _)]
    simp [kindOf, notKeyword]
  | string content =>
    have unquoted : more.head? ≠ some '\'' := fun quote => absurd (blankAfter '\'' quote) (by decide)
    have reads := read_stringLiteral content more unquoted
    obtain ⟨rest, opens⟩ : ∃ rest, stringLiteral content = '\'' :: rest := ⟨_, rfl⟩
    have others : ∀ q ∈ standard, q ≠ quoted → q ≠ identifier →
        q.read (stringLiteral content ++ more) < quoted.read (stringLiteral content ++ more) := by
      intro q member other notIdentifier
      rw [reads, opens]
      exact read_append_lt_length member notIdentifier blankAfter (by decide)
        (fun fixedText _ => fixedText.text_ne_of_head (.inr rfl)) (fun _ => by decide)
        (fun same => absurd same other)
    have first := firstLongest_standard (by decide) others (reads ▸ lastNoLonger)
    rw [frontWith_of_firstLongest first reads nonempty (List.prefix_append _ _)]
    rfl
  | @comment content oneLine =>
    have lineEnds : ∀ c ∈ more.head?, c = '\n' := fun c head => (boundary c head).2 rfl
    have reads : Recognizer.comment.read ('#' :: content ++ more) = ('#' :: content).length := by
      simp [read_comment, takeWhile_ne_newline_append oneLine lineEnds]
    have others : ∀ q ∈ standard, q ≠ Recognizer.comment → q ≠ identifier →
        q.read ('#' :: content ++ more) < Recognizer.comment.read ('#' :: content ++ more) := by
      intro q member other notIdentifier
      rw [reads]
      exact read_append_lt_length member notIdentifier blankAfter (by decide)
        (fun fixedText _ => fixedText.text_ne_of_head (.inl rfl)) (fun same => absurd same other)
        (fun _ => by decide)
    have first := firstLongest_standard (by decide) others (reads ▸ lastNoLonger)
    rw [frontWith_of_firstLongest first reads nonempty (List.prefix_append _ _)]
    rfl

end Spelling

/-- A token written out: a text of its kind, then the blanks up to the next token, which begin with
a line feed after a comment. -/
structure Written where
  kind : Token.Kind
  text : List Char
  after : List Char
  spelled : Spelling kind text
  blankAfter : ∀ c ∈ after, isBlank c = true
  lineAfterComment : kind = .comment → ∀ c ∈ after.head?, c = '\n'

namespace Written

def out (written : Written) : List Char := written.text ++ written.after

def token (written : Written) (line : Int) : Token :=
  { kind := written.kind, text := String.ofList written.text, line }

/-- What follows a written token's text: its blanks, then the later tokens after a non-empty run. -/
theorem boundary (written : Written) {rest : List Char} (separated : written.after = [] → rest = []) :
    ∀ c ∈ (written.after ++ rest).head?, isBlank c = true ∧ (written.kind = .comment → c = '\n') := by
  cases gap : written.after with
  | nil => simp [separated gap]
  | cons first more =>
    intro c head
    simp only [List.cons_append, List.head?_cons, Option.mem_def, Option.some.injEq] at head
    subst head
    exact ⟨written.blankAfter first (by simp [gap]), fun isComment =>
      written.lineAfterComment isComment first (by simp [gap])⟩

end Written

/-- Tokens written out read back as themselves, each on the line where its text starts, and then
the end of input. -/
theorem tokensFrom_written (line : Int) (items : List Written)
    (separated : ∀ written ∈ items.dropLast, written.after ≠ []) :
    tokensFrom line (items.flatMap Written.out) =
      items.mapIdx (fun i written =>
          written.token (line + newlineCount ((items.take i).flatMap Written.out))) ++
        [{ kind := .eof, text := "", line := line + newlineCount (items.flatMap Written.out) }] := by
  induction items generalizing line with
  | nil => simp [tokensFrom_nil, newlineCount]
  | cons written items ih =>
    have lastOrSeparated : written.after = [] → items.flatMap Written.out = [] := by
      intro gap
      cases items with
      | nil => rfl
      | cons next more => exact absurd gap (separated written (by simp))
    have laterSeparated : ∀ other ∈ items.dropLast, other.after ≠ [] := by
      intro other member
      apply separated other
      cases items with
      | nil => cases member
      | cons next more =>
        rw [List.dropLast_cons_of_ne_nil (List.cons_ne_nil _ _)]
        exact List.mem_cons_of_mem _ member
    have found := written.spelled.frontWith_standard_append (written.boundary lastOrSeparated)
    rw [List.flatMap_cons, Written.out, List.append_assoc,
      tokensFrom_of_shown found written.spelled.ends_eq_false written.spelled.ne_whitespace,
      List.drop_left, tokensFrom_blank_append written.blankAfter, ih _ laterSeparated]
    simp [List.mapIdx_cons, Written.token, Written.out, newlineCount_append, Int.add_assoc]

/-- A text written from tokens with blanks between them, and a line feed after a comment, lexes as
those tokens on their lines, and then the end of input. -/
theorem lex_written (lead : List Char) (leadBlank : ∀ c ∈ lead, isBlank c = true)
    (items : List Written) (separated : ∀ written ∈ items.dropLast, written.after ≠ []) :
    lex (String.ofList (lead ++ items.flatMap Written.out)) =
      items.mapIdx (fun i written =>
          written.token (1 + newlineCount (lead ++ (items.take i).flatMap Written.out))) ++
        [{ kind := .eof, text := "", line := 1 + newlineCount (lead ++ items.flatMap Written.out) }] := by
  rw [lex, String.toList_ofList, tokensFrom_blank_append leadBlank,
    tokensFrom_written _ items separated]
  simp [newlineCount_append, Int.add_assoc]

/-- A rule head, a comment and a quoted string, read back from the text they are written as. -/
theorem lex_written_rule :
    lex " a :-\n#x\n'i''s'" =
      [{ kind := .ident, text := "a", line := 1 }, { kind := .colonDash, text := ":-", line := 1 },
        { kind := .comment, text := "#x", line := 2 },
        { kind := .string, text := "'i''s'", line := 3 }, { kind := .eof, text := "", line := 3 }] :=
  lex_written [' '] (by simp [isBlank])
    [⟨.ident, ['a'], [' '], .ident (by decide +kernel) (by simp) (by decide), by simp [isBlank],
        by decide⟩,
      ⟨.colonDash, [':', '-'], ['\n'], .fixed .colonDash, by simp [isBlank], by decide⟩,
      ⟨.comment, ['#', 'x'], ['\n'], .comment (by decide), by simp [isBlank], by simp⟩,
      ⟨.string, stringLiteral ['i', '\'', 's'], [], .string _, by simp, by decide⟩]
    (by simp)

end DatalogLexer
