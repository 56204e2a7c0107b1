import DatalogLexer.Proofs.RoundTrip

set_option autoImplicit false

namespace DatalogLexer

open Recognizer Machine

namespace Recognizer

/-- A recognizer has settled on `input` when its run stops within it, or reads nothing of it
whatever follows: either way what follows cannot change its read. -/
def Settled (recognizer : Recognizer) (input : List Char) : Prop :=
  recognizer.machine.haltsWithin recognizer.machine.start 0 input = true ∨
    ∀ more, recognizer.read (input ++ more) = 0

namespace Settled

variable {recognizer : Recognizer} {input : List Char}

theorem read_append (settled : recognizer.Settled input) (more : List Char) :
    recognizer.read (input ++ more) = recognizer.read input := by
  rcases settled with halts | nothing
  · exact runFrom_append_of_haltsWithin input more halts
  · rw [nothing more, ← nothing [], List.append_nil]

theorem read_le (settled : recognizer.Settled input) : recognizer.read input ≤ input.length := by
  rcases settled with halts | nothing
  · have bound := runFrom_le_of_haltsWithin (Int.le_refl 0) halts
    rw [Int.zero_add] at bound
    exact bound
  · rw [← List.append_nil input, nothing [], List.append_nil]
    exact Int.natCast_nonneg _

end Settled

/-- Every recognizer settles on an input that ends with a line feed and begins with no blank,
provided a quote there opens a string that closes. -/
theorem settled_of_newline {recognizer : Recognizer} {c : Char} {rest : List Char}
    (member : recognizer ∈ standard) (lineEnds : (c :: rest).getLast? = some '\n')
    (notBlank : isBlank c = false) (closes : c = '\'' → 0 < quoted.read (c :: rest)) :
    recognizer.Settled (c :: rest) := by
  obtain ⟨front, split⟩ := List.getLast?_eq_some_iff.mp lineEnds
  have newline : '\n' ∈ c :: rest := by rw [split]; simp
  rcases mem_standard.mp member with ⟨fixedText, rfl⟩ | rfl | rfl | rfl | rfl | rfl
  · have absent : '\n' ∉ fixedText.text.toList := fun inside =>
      absurd (fixedText.isBlank_of_mem '\n' inside) (by decide)
    exact .inl (haltsWithin_of_mem (literal_haltsOn absent) newline _ _)
  · exact .inl (haltsWithin_of_mem (endOfInput_haltsOn '\n') newline _ _)
  · refine .inr fun more => ?_
    rw [List.cons_append, read_eq_zero_of_starts (by simp [starts, notBlank])]
  · exact .inl (haltsWithin_of_mem lineComment_haltsOn_newline newline _ _)
  · by_cases quote : c = '\''
    · rcases quotedString_haltsWithin_or_runFrom_eq_zero front (.reading 0) 0 with halts | nothing
      · exact .inl (split ▸ halts)
      · have reads := closes quote
        change 0 < quotedString.runFrom (.reading 0) 0 (c :: rest) at reads
        rw [split, nothing] at reads
        exact absurd reads (Int.lt_irrefl 0)
    · exact .inr fun more => by rw [List.cons_append, read_quoted_of_ne _ quote]
  · exact .inl (haltsWithin_of_mem (identifier_haltsOn (by decide)) newline _ _)

end Recognizer

/-- What follows an input on which every recognizer has settled leaves the token at its front. -/
theorem frontWith_standard_append_of_settled {input : List Char} {kind : Token.Kind}
    {text : List Char} (settled : ∀ q ∈ standard, q.Settled input) (nonempty : input ≠ [])
    (found : frontWith standard input = some (kind, text)) (more : List Char) :
    frontWith standard (input ++ more) = some (kind, text) := by
  have same : longest standard (input ++ more) = longest standard input :=
    longest_congr fun q member => (settled q member).read_append more
  cases best : longest standard input with
  | none =>
    obtain ⟨c, rest, rfl⟩ := List.exists_cons_of_ne_nil nonempty
    rw [best, List.cons_append] at same
    rw [frontWith_of_longest_none best] at found
    rw [List.cons_append, frontWith_of_longest_none same, found]
  | some winner =>
    obtain ⟨winner, read⟩ := winner
    obtain ⟨first, reads, -⟩ := longest_eq_some_iff.mp best
    have within : read.toNat ≤ input.length := by
      have bound := (settled winner first.mem).read_le
      omega
    rw [frontWith_of_longest_some best] at found
    rw [frontWith_of_longest_some (same.trans best), List.take_append_of_le_length within, found]

theorem frontWith_dropWhile_append_of_newline {input : List Char} {kind : Token.Kind}
    {text : List Char} (found : frontWith standard (input.dropWhile isBlank) = some (kind, text))
    (going : kind.ends = false) (lineEnds : ∀ c ∈ input.getLast?, c = '\n') (more : List Char) :
    frontWith standard (input.dropWhile isBlank ++ more) = some (kind, text) := by
  have nonempty := ne_nil_of_frontWith_standard found (Token.Kind.ne_eof_of_ends_eq_false going)
  obtain ⟨c, rest, front⟩ := List.exists_cons_of_ne_nil nonempty
  have sameLast : input.getLast? = (c :: rest).getLast? := by
    rw [← @List.takeWhile_append_dropWhile _ isBlank input, front, List.getLast?_append,
      List.getLast?_cons, Option.some_or]
  have frontEnds : (c :: rest).getLast? = some '\n' := by
    rw [List.getLast?_eq_some_getLast (List.cons_ne_nil c rest), Option.some.injEq]
    exact lineEnds _ (by rw [sameLast, List.getLast?_eq_some_getLast (List.cons_ne_nil c rest)]; rfl)
  -- a quote here opens a string that closes: otherwise nothing reads it and it is undefined
  have closes : c = '\'' → 0 < quoted.read (c :: rest) := by
    rintro rfl
    refine Int.lt_of_not_ge fun nonpositive => ?_
    have unread : quoted.read ('\'' :: rest) = 0 :=
      Int.le_antisymm nonpositive (read_nonneg _ _)
    have undefined := frontWith_standard_undefined_iff.mpr
      ⟨'\'', rest, rfl, rfl, by decide, by decide, fun _ => unread⟩
    rw [← front, found, Option.some.injEq, Prod.mk.injEq] at undefined
    rw [undefined.1] at going
    cases going
  have settled : ∀ q ∈ standard, q.Settled (c :: rest) := fun q member =>
    settled_of_newline member frontEnds (isBlank_head_dropWhile front) closes
  rw [front] at found ⊢
  exact frontWith_standard_append_of_settled settled (List.cons_ne_nil c rest) found more

/-- Starting the stream `shift` lines further down moves every token down as far. -/
theorem tokensFrom_add (line shift : Int) (input : List Char) :
    tokensFrom (line + shift) input =
      (tokensFrom line input).map fun token => { token with line := token.line + shift } := by
  induction line, input using tokensFrom_induction with
  | step line input kind text found ih =>
    rw [tokensFrom_step found, tokensFrom_step found]
    cases ends : kind.ends with
    | true => simp [Int.add_right_comm]
    | false =>
      simp only [Bool.false_eq_true, ↓reduceIte, List.map_cons]
      rw [show line + shift + (newlineCount (input.takeWhile isBlank) : Int) + newlineCount text =
          line + newlineCount (input.takeWhile isBlank) + newlineCount text + shift by omega,
        ih ends]
      simp [Int.add_right_comm]

/-- Across a line break: the first stream without its end of input, then the stream of what follows
from the line after the first input. -/
theorem tokensFrom_append_of_newline (line : Int) (input : List Char) :
    (∀ c ∈ input.getLast?, c = '\n') →
      (∀ token ∈ (tokensFrom line input).getLast?, token.kind = .eof) →
      ∀ more, tokensFrom line (input ++ more) =
        (tokensFrom line input).dropLast ++ tokensFrom (line + newlineCount input) more := by
  induction line, input using tokensFrom_induction with
  | step line input kind text found ih =>
    intro lineEnds reachesEnd more
    have blank : ∀ c ∈ input.takeWhile isBlank, isBlank c = true :=
      List.all_eq_true.mp List.all_takeWhile
    have split := @List.takeWhile_append_dropWhile _ isBlank input
    rw [tokensFrom_step found] at reachesEnd ⊢
    cases ends : kind.ends with
    | true =>
      simp only [ends, ↓reduceIte, List.getLast?_singleton, Option.mem_def, Option.some.injEq,
        forall_eq'] at reachesEnd
      rw [reachesEnd] at found
      obtain ⟨empty, -⟩ := frontWith_standard_eof found
      rw [empty, List.append_nil] at split
      rw [split] at blank
      simp only [↓reduceIte, List.dropLast_singleton, List.nil_append]
      exact tokensFrom_blank_append blank line more
    | false =>
      obtain ⟨after, joined⟩ := frontWith_prefix found
      have later : (input.dropWhile isBlank).drop text.length = after := by
        rw [← joined, List.drop_left]
      have laterEnds : ∀ c ∈ after.getLast?, c = '\n' := by
        intro c last
        apply lineEnds c
        rw [← split, ← joined, List.getLast?_append, List.getLast?_append, last]
        rfl
      have rest := tokensFrom_ne_nil (line + newlineCount (input.takeWhile isBlank) +
        newlineCount text) after
      simp only [ends, Bool.false_eq_true, ↓reduceIte, later] at reachesEnd ⊢
      rw [List.getLast?_cons, List.getLast?_eq_some_getLast rest] at reachesEnd
      have restReachesEnd : ∀ token ∈ (tokensFrom (line + newlineCount (input.takeWhile isBlank) +
          newlineCount text) after).getLast?, token.kind = .eof := by
        rw [List.getLast?_eq_some_getLast rest]
        simpa using reachesEnd
      have across := frontWith_dropWhile_append_of_newline found ends lineEnds more
      rw [← joined, List.append_assoc] at across
      have ihAfter := ih ends
      rw [later] at ihAfter
      have whole : input ++ more = input.takeWhile isBlank ++ (text ++ (after ++ more)) := by
        rw [← List.append_assoc text, joined, ← List.append_assoc, split]
      have count : newlineCount input =
          newlineCount (input.takeWhile isBlank) + newlineCount text + newlineCount after := by
        conv => lhs; rw [← split, ← joined]
        rw [newlineCount_append, newlineCount_append, Nat.add_assoc]
      have lines : line + (newlineCount input : Int) =
          line + newlineCount (input.takeWhile isBlank) + newlineCount text + newlineCount after := by
        rw [count]
        push_cast
        omega
      rw [lines, List.dropLast_cons_of_ne_nil rest, List.cons_append,
        ← ihAfter laterEnds restReachesEnd more, whole, tokensFrom_blank_append blank,
        tokensFrom_of_shown across ends (kind_ne_whitespace_of_dropWhile found), List.drop_left]

/-- A text that ends with a line feed and lexes to the end of input lexes the same in front of any
other text, whose tokens move down by its lines. -/
theorem lex_append_of_newline (first second : String) (lineEnds : first.toList.getLast? = some '\n')
    (reachesEnd : (lex first).getLast?.map Token.kind = some .eof) :
    lex (first ++ second) =
      (lex first).dropLast ++
        (lex second).map fun token => { token with line := token.line + newlineCount first.toList } := by
  have lastIsEnd : ∀ token ∈ (lex first).getLast?, token.kind = .eof := by
    intro token last
    rw [Option.mem_def] at last
    rw [last, Option.map_some, Option.some.injEq] at reachesEnd
    exact reachesEnd
  rw [lex, String.toList_append,
    tokensFrom_append_of_newline 1 first.toList (by simp [lineEnds]) lastIsEnd second.toList,
    tokensFrom_add]
  rfl

/-- A section header on its own line lexes the same in front of an identifier. -/
theorem lex_append_of_newline_header :
    lex ("Facts :\n" ++ "x") =
      (lex "Facts :\n").dropLast ++
        (lex "x").map fun token => { token with line := token.line + newlineCount "Facts :\n".toList } :=
  lex_append_of_newline "Facts :\n" "x" (by decide) <|
    congrArg (fun tokens => tokens.getLast?.map Token.kind)
      (tokensFrom_written 1
        [⟨.facts, "Facts".toList, [' '], .fixed .facts, by simp [isBlank], by decide⟩,
          ⟨.colon, [':'], ['\n'], .fixed .colon, by simp [isBlank], by decide⟩] (by simp))

end DatalogLexer
