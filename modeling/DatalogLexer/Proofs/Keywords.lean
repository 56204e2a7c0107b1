import DatalogLexer.Proofs.RoundTrip
import DatalogLexer.Proofs.Reports

set_option autoImplicit false

namespace DatalogLexer

open Recognizer

theorem prefix_takeWhile_of_forall {front text : List Char} {p : Char → Bool}
    (prefixed : front <+: text) (all : ∀ c ∈ front, p c = true) : front <+: text.takeWhile p := by
  obtain ⟨after, rfl⟩ := prefixed
  rw [List.takeWhile_append_of_pos all]
  exact List.prefix_append _ _

theorem length_lt_of_prefix_of_ne {front text : List Char} (prefixed : front <+: text)
    (other : front ≠ text) : front.length < text.length :=
  Nat.lt_of_le_of_ne prefixed.length_le fun same => other (prefixed.eq_of_length same)

namespace FixedText

theorem isLetterOrNumber_of_head (fixedText : FixedText) {c : Char}
    (head : fixedText.text.toList.head? = some c) (letter : Unicode.isLetter c = true) :
    ∀ d ∈ fixedText.text.toList, Unicode.isLetterOrNumber d = true := by
  cases fixedText
  case schemes | facts | rules | queries =>
    simp [text, Unicode.isLetterOrNumber]
    decide +kernel
  all_goals
    simp [text] at head
    subst head
    exact absurd letter (by decide)

end FixedText

namespace Recognizer

/-- At a letter every recognizer but the identifier reads less than the run of letters and numbers
there, unless it is a fixed text that spells all of it. -/
theorem read_lt_of_isLetter {c : Char} {rest : List Char} (letter : Unicode.isLetter c = true)
    {q : Recognizer} (member : q ∈ standard) (notIdentifier : q ≠ identifier)
    (otherFixed : ∀ fixedText, q = fixed fixedText →
      fixedText.text.toList ≠ c :: rest.takeWhile Unicode.isLetterOrNumber) :
    q.read (c :: rest) < (c :: rest.takeWhile Unicode.isLetterOrNumber).length := by
  have positive : (0 : Int) < (c :: rest.takeWhile Unicode.isLetterOrNumber).length := by simp
  rcases mem_standard.mp member with ⟨fixedText, rfl⟩ | rfl | rfl | rfl | rfl | rfl
  · rw [read_fixed]
    split
    · rename_i prefixed
      -- a fixed text at a letter is a keyword, so it stays inside the run of letters and numbers
      obtain ⟨first, more, spelled, -⟩ := fixedText.text_eq_cons
      have head : fixedText.text.toList.head? = some c := by
        rw [spelled] at prefixed ⊢
        rw [(List.cons_prefix_cons.mp prefixed).1]
        rfl
      have inside := prefix_takeWhile_of_forall prefixed
        (fixedText.isLetterOrNumber_of_head head letter)
      rw [List.takeWhile_cons_of_pos (Unicode.isLetterOrNumber_of_isLetter letter)] at inside
      exact Int.ofNat_lt.mpr (length_lt_of_prefix_of_ne inside (otherFixed fixedText rfl))
    · exact positive
  · rw [read_endOfInput, if_neg (List.cons_ne_nil _ _)]
    exact positive
  · rw [read_eq_zero_of_starts (by simp [starts, isBlank_eq_false_of_isLetter letter])]
    exact positive
  · have notHash : c ≠ '#' := by
      rintro rfl
      exact absurd letter (by decide)
    rw [read_eq_zero_of_starts (by simp [starts, notHash])]
    exact positive
  · have notQuote : c ≠ '\'' := by
      rintro rfl
      exact absurd letter (by decide)
    rw [read_eq_zero_of_starts (by simp [starts, notQuote])]
    exact positive
  · exact absurd rfl notIdentifier

theorem read_identifier_of_isLetter {c : Char} (rest : List Char)
    (letter : Unicode.isLetter c = true) :
    identifier.read (c :: rest) = (c :: rest.takeWhile Unicode.isLetterOrNumber).length := by
  rw [read_identifier, List.takeWhile_cons_of_pos (Unicode.isLetterOrNumber_of_isLetter letter)]
  simp [letter]

end Recognizer

section Letter

variable {c : Char} {rest : List Char}

/-- A keyword run at a letter: the keyword ties with the identifier, comes first, and makes the
token. -/
theorem frontToken?_of_keyword_run (letter : Unicode.isLetter c = true) {keyword : FixedText}
    (isKeyword : keyword ∈ [FixedText.schemes, .facts, .rules, .queries])
    (spelled : c :: rest.takeWhile Unicode.isLetterOrNumber = keyword.text.toList) :
    frontToken? standard (c :: rest) =
      .ok { kind := keyword.kind,
            text := String.ofList (c :: rest.takeWhile Unicode.isLetterOrNumber) } := by
  have prefixed : c :: rest.takeWhile Unicode.isLetterOrNumber <+: c :: rest :=
    List.cons_prefix_cons.mpr ⟨rfl, List.takeWhile_prefix _⟩
  have keywordReads : (fixed keyword).read (c :: rest) =
      (c :: rest.takeWhile Unicode.isLetterOrNumber).length := by
    rw [read_fixed, ← spelled, if_pos prefixed]
  -- every recognizer but the keyword and the identifier reads less
  have others : ∀ q ∈ standard, q ≠ fixed keyword → q ≠ identifier →
      q.read (c :: rest) < (fixed keyword).read (c :: rest) := by
    intro q member other notIdentifier
    rw [keywordReads]
    refine read_lt_of_isLetter letter member notIdentifier ?_
    rintro fixedText rfl same
    exact other (congrArg fixed (FixedText.text_toList_injective (same.trans spelled)))
  have member : fixed keyword ∈ standard := by
    simp only [List.mem_cons, List.not_mem_nil, or_false] at isKeyword
    rcases isKeyword with rfl | rfl | rfl | rfl <;> decide
  have tie : identifier.read (c :: rest) ≤ (fixed keyword).read (c :: rest) :=
    Int.le_of_eq ((read_identifier_of_isLetter rest letter).trans keywordReads.symm)
  have first := firstLongest_standard member others tie
  rw [frontToken?_of_frontWith
    (frontWith_of_firstLongest first keywordReads (List.cons_ne_nil _ _) prefixed)]
  simp [kindOf, ← spelled]

/-- A run at a letter that is no keyword: the identifier reads strictly the most. -/
theorem frontToken?_of_identifier_run (letter : Unicode.isLetter c = true)
    (notKeyword : c :: rest.takeWhile Unicode.isLetterOrNumber ∉ keywords) :
    frontToken? standard (c :: rest) =
      .ok { kind := .ident,
            text := String.ofList (c :: rest.takeWhile Unicode.isLetterOrNumber) } := by
  have prefixed : c :: rest.takeWhile Unicode.isLetterOrNumber <+: c :: rest :=
    List.cons_prefix_cons.mpr ⟨rfl, List.takeWhile_prefix _⟩
  have reads := read_identifier_of_isLetter rest letter
  have others : ∀ q ∈ standard, q ≠ identifier → q ≠ identifier →
      q.read (c :: rest) < identifier.read (c :: rest) := by
    intro q member notIdentifier _
    rw [reads]
    exact read_lt_of_isLetter letter member notIdentifier fun fixedText _ =>
      fixedText.text_ne_of_isLetter letter notKeyword
  have first := firstLongest_standard (by decide) others (Int.le_refl _)
  rw [frontToken?_of_frontWith
    (frontWith_of_firstLongest first reads (List.cons_ne_nil _ _) prefixed)]
  simp [kindOf, notKeyword]

end Letter

/-- The token at a letter is the whole run of letters and numbers there: the keyword's own token
when it spells a keyword, an identifier otherwise. -/
theorem frontToken?_standard_letter {c : Char} (rest : List Char)
    (letter : Unicode.isLetter c = true) :
    identifier.read (c :: rest) = (c :: rest.takeWhile Unicode.isLetterOrNumber).length ∧
    (∀ keyword ∈ [FixedText.schemes, .facts, .rules, .queries],
      c :: rest.takeWhile Unicode.isLetterOrNumber = keyword.text.toList →
        frontToken? standard (c :: rest) =
          .ok { kind := keyword.kind,
                text := String.ofList (c :: rest.takeWhile Unicode.isLetterOrNumber) }) ∧
    (c :: rest.takeWhile Unicode.isLetterOrNumber ∉ keywords →
      frontToken? standard (c :: rest) =
        .ok { kind := .ident,
              text := String.ofList (c :: rest.takeWhile Unicode.isLetterOrNumber) }) :=
  ⟨read_identifier_of_isLetter rest letter,
    fun _ isKeyword spelled => frontToken?_of_keyword_run letter isKeyword spelled,
    frontToken?_of_identifier_run letter⟩

theorem frontToken?_standard_schemes_colon :
    Unicode.isLetter 'S' = true ∧
    (identifier.read ('S' :: "chemes:".toList) =
        ('S' :: "chemes:".toList.takeWhile Unicode.isLetterOrNumber).length ∧
      (∀ keyword ∈ [FixedText.schemes, .facts, .rules, .queries],
        'S' :: "chemes:".toList.takeWhile Unicode.isLetterOrNumber = keyword.text.toList →
          frontToken? standard ('S' :: "chemes:".toList) =
            .ok { kind := keyword.kind,
                  text := String.ofList ('S' :: "chemes:".toList.takeWhile Unicode.isLetterOrNumber) }) ∧
      ('S' :: "chemes:".toList.takeWhile Unicode.isLetterOrNumber ∉ keywords →
        frontToken? standard ('S' :: "chemes:".toList) =
          .ok { kind := .ident,
                text := String.ofList ('S' :: "chemes:".toList.takeWhile Unicode.isLetterOrNumber) })) :=
  ⟨by decide +kernel, frontToken?_standard_letter "chemes:".toList (by decide +kernel)⟩

end DatalogLexer
