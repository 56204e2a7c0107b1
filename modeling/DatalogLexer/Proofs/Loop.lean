import DatalogLexer.Proofs.Reports
import DatalogLexer.Proofs.Stream

set_option autoImplicit false

namespace DatalogLexer

open Recognizer

theorem removePrefix_eq_drop {front text : List Char} (prefixed : front <+: text) :
    removePrefix front text = text.drop front.length :=
  if_pos prefixed

theorem eq_endOfInput_of_read_nil_pos {recognizer : Recognizer} (member : recognizer ∈ standard)
    (reads : 0 < recognizer.read []) : recognizer = endOfInput := by
  rcases mem_standard.mp member with ⟨text, rfl⟩ | rfl | rfl | rfl | rfl | rfl
  · rw [read_fixed] at reads
    cases text <;> simp [FixedText.text] at reads
  · rfl
  · simp [read_blanks] at reads
  · simp [read_comment] at reads
  · simp [read_quoted_nil] at reads
  · simp [read_identifier] at reads

/-- Only the end of input reads without taking a character, and only on the empty input. -/
theorem eq_endOfInput_of_lexeme_eq_nil {recognizer : Recognizer} (member : recognizer ∈ standard)
    {input : List Char} (reads : 0 < recognizer.read input) (empty : recognizer.lexeme input = []) :
    recognizer = endOfInput ∧ input = [] := by
  have noInput : input = [] := by
    rcases List.take_eq_nil_iff.mp empty with nothing | noInput
    · exact absurd (Int.toNat_eq_zero.mp nothing) (Int.not_le.mpr reads)
    · exact noInput
  subst noInput
  exact ⟨eq_endOfInput_of_read_nil_pos member reads, rfl⟩

namespace Cursor

section Turn

variable {cursor : Cursor} {kind : Token.Kind} {text : List Char}

theorem turn_of_frontWith (found : frontWith standard cursor.rest = some (kind, text)) :
    cursor.turn =
      .ok ({ kind, text := String.ofList text, line := cursor.line },
        { line := cursor.line + newlineCount text, rest := cursor.rest.drop text.length }) := by
  have prefixed := frontWith_prefix found
  rw [turn, frontToken?_of_frontWith found]
  simp only [bind, Except.bind, pure, Except.pure, String.toList_ofList,
    removePrefix_eq_drop prefixed]

theorem turn_ok (cursor : Cursor) : ∃ token next, cursor.turn = .ok (token, next) := by
  obtain ⟨kind, text, found⟩ := frontWith_standard_isSome cursor.rest
  exact ⟨_, _, turn_of_frontWith found⟩

variable {token : Token} {next : Cursor}

/-- A turn that does not end the stream removes a non-empty prefix of the rest, its token's text. -/
theorem turn_removes_prefix (turned : cursor.turn = .ok (token, next))
    (going : token.kind.ends = false) :
    token.text.toList ≠ [] ∧ cursor.rest = token.text.toList ++ next.rest := by
  obtain ⟨kind, text, found⟩ := frontWith_standard_isSome cursor.rest
  rw [turn_of_frontWith found, Except.ok.injEq, Prod.mk.injEq] at turned
  obtain ⟨rfl, rfl⟩ := turned
  rw [String.toList_ofList]
  have nonempty := ne_nil_of_frontWith_standard found (Token.Kind.ne_eof_of_ends_eq_false going)
  refine ⟨List.ne_nil_of_length_pos (frontWith_length_pos found nonempty), ?_⟩
  obtain ⟨after, joined⟩ := frontWith_prefix found
  rw [← joined, List.drop_left]

theorem turn_eof (turned : cursor.turn = .ok (token, next)) (isEnd : token.kind = .eof) :
    cursor.rest = [] ∧ token.kind.ends = true := by
  obtain ⟨kind, text, found⟩ := frontWith_standard_isSome cursor.rest
  rw [turn_of_frontWith found, Except.ok.injEq, Prod.mk.injEq] at turned
  obtain ⟨rfl, -⟩ := turned
  subst isEnd
  exact ⟨(frontWith_standard_eof found).1, rfl⟩

end Turn

section Loop

variable {cursor : Cursor} {kind : Token.Kind} {text : List Char}

theorem loop_succ_of_ends (found : frontWith standard cursor.rest = some (kind, text))
    (ends : kind.ends = true) (fuel : Nat) :
    cursor.loop (fuel + 1) =
      .ok ([{ kind, text := String.ofList text, line := cursor.line }], true) := by
  rw [loop, turn_of_frontWith found]
  simp only [bind, Except.bind, ends, ↓reduceIte, pure, Except.pure]

theorem loop_succ_of_going (found : frontWith standard cursor.rest = some (kind, text))
    (going : kind.ends = false) (fuel : Nat) :
    cursor.loop (fuel + 1) =
      (loop fuel
          { line := cursor.line + newlineCount text, rest := cursor.rest.drop text.length }).map
        fun (later, stopped) =>
          (if kind = .whitespace then later
            else { kind, text := String.ofList text, line := cursor.line } :: later, stopped) := by
  rw [loop, turn_of_frontWith found]
  simp only [bind, Except.bind, going, Bool.false_eq_true, ↓reduceIte, pure, Except.pure]
  cases loop fuel
      { line := cursor.line + newlineCount text, rest := cursor.rest.drop text.length } with
  | error failure => rfl
  | ok result => rfl

end Loop

/-- However many turns it runs, the loop fails nowhere and yields the first tokens of the stream,
all of them once it has stopped, which it has once it may run more turns than the rest is long. -/
theorem loop_run (fuel : Nat) : ∀ cursor : Cursor, ∃ tokens stopped,
    cursor.loop fuel = .ok (tokens, stopped) ∧ tokens <+: tokensFrom cursor.line cursor.rest ∧
      (stopped = true → tokens = tokensFrom cursor.line cursor.rest) ∧
      (cursor.rest.length < fuel → stopped = true) := by
  induction fuel with
  | zero =>
    intro cursor
    exact ⟨[], false, rfl, List.nil_prefix, nofun, nofun⟩
  | succ fuel ih =>
    intro cursor
    obtain ⟨kind, text, found⟩ := frontWith_standard_isSome cursor.rest
    cases ends : kind.ends with
    | true =>
      have whole : tokensFrom cursor.line cursor.rest =
          [{ kind, text := String.ofList text, line := cursor.line }] :=
        tokensFrom_of_ends found ends
      refine ⟨_, true, loop_succ_of_ends found ends fuel, whole ▸ List.prefix_refl _,
        fun _ => whole.symm, fun _ => rfl⟩
    | false =>
      have shorter := length_drop_frontWith_lt found (by simp [ends])
      obtain ⟨later, stopped, run, prefixed, whole, bound⟩ :=
        ih { line := cursor.line + newlineCount text, rest := cursor.rest.drop text.length }
      dsimp only at prefixed whole bound
      rw [loop_succ_of_going found ends, run]
      by_cases blank : kind = .whitespace
      · have skipped : tokensFrom cursor.line cursor.rest =
            tokensFrom (cursor.line + newlineCount text) (cursor.rest.drop text.length) :=
          tokensFrom_of_whitespace (blank ▸ found)
        refine ⟨later, stopped, by simp [Except.map, blank], skipped ▸ prefixed,
          fun done => skipped ▸ whole done, fun within => bound (by omega)⟩
      · have shown : tokensFrom cursor.line cursor.rest =
            { kind, text := String.ofList text, line := cursor.line } ::
              tokensFrom (cursor.line + newlineCount text) (cursor.rest.drop text.length) :=
          tokensFrom_of_shown found ends blank
        refine ⟨{ kind, text := String.ofList text, line := cursor.line } :: later, stopped,
          by simp [Except.map, blank], ?_, ?_, fun within => bound (by omega)⟩
        · rw [shown]
          exact List.cons_prefix_cons.mpr ⟨rfl, prefixed⟩
        · intro done
          rw [shown, whole done]

theorem length_le_of_loop (fuel : Nat) :
    ∀ {cursor : Cursor} {tokens : List Token} {stopped : Bool},
      cursor.loop fuel = .ok (tokens, stopped) → tokens.length ≤ fuel := by
  induction fuel with
  | zero =>
    intro cursor tokens stopped run
    cases run
    exact Nat.le_refl 0
  | succ fuel ih =>
    intro cursor tokens stopped run
    obtain ⟨kind, text, found⟩ := frontWith_standard_isSome cursor.rest
    cases ends : kind.ends with
    | true =>
      rw [loop_succ_of_ends found ends, Except.ok.injEq, Prod.mk.injEq] at run
      rw [← run.1]
      simp
    | false =>
      rw [loop_succ_of_going found ends] at run
      cases turns : loop fuel
          { line := cursor.line + newlineCount text, rest := cursor.rest.drop text.length } with
      | error failure => simp [turns, Except.map] at run
      | ok result =>
        obtain ⟨later, laterStopped⟩ := result
        have within := ih turns
        simp only [turns, Except.map, Except.ok.injEq, Prod.mk.injEq] at run
        rw [← run.1]
        split
        · omega
        · rw [List.length_cons]
          omega

end Cursor

/-- Lexing raises nothing: every report and every front token is made, no turn fails, and the loop
yields the first tokens of the stream for any number of turns. -/
theorem lexing_never_fails (s : String) :
    (∀ input, ∀ c ∈ blanks.lexeme input, isBlank c = true) ∧
    (∀ (recognizer : Recognizer) input,
      ∃ token, recognizer.readToken? input = .ok (recognizer.read input, token)) ∧
    (∀ input : List Char, input ≠ [] ∨ endOfInput ∈ standard ∧ endOfInput.read input = 1) ∧
    (∀ input, ∃ token, frontToken? standard input = .ok token) ∧
    (∀ cursor : Cursor, ∃ token next, cursor.turn = .ok (token, next)) ∧
    ∀ fuel, ∃ tokens stopped,
      (Cursor.mk 1 s.toList).loop fuel = .ok (tokens, stopped) ∧ tokens <+: lex s ∧
        (s.length < fuel → stopped = true) := by
  refine ⟨fun input c member => isBlank_of_mem_lexeme_blanks member,
    fun recognizer input => ⟨_, readToken?_eq recognizer input⟩, ?_, ?_, Cursor.turn_ok, ?_⟩
  · intro input
    cases input with
    | nil => exact .inr ⟨by decide, rfl⟩
    | cons c rest => exact .inl (List.cons_ne_nil c rest)
  · intro input
    obtain ⟨kind, text, found⟩ := frontWith_standard_isSome input
    exact ⟨_, frontToken?_of_frontWith found⟩
  · intro fuel
    obtain ⟨tokens, stopped, run, prefixed, -, bound⟩ := Cursor.loop_run fuel (Cursor.mk 1 s.toList)
    refine ⟨tokens, stopped, run, prefixed, fun within => bound ?_⟩
    rw [String.length_toList]
    exact within

/-- The lexer's loop on a text stops within one turn more than the text is long, having yielded the
whole stream: every turn that does not end it removes a non-empty prefix. -/
theorem lex_loop_stops (s : String) :
    (∀ (cursor : Cursor) (token : Token) (next : Cursor), cursor.turn = .ok (token, next) →
      token.kind.ends = false →
        token.text.toList ≠ [] ∧ cursor.rest = token.text.toList ++ next.rest) ∧
    (∀ recognizer ∈ standard, ∀ input, 0 < recognizer.read input →
      recognizer.lexeme input = [] → recognizer = endOfInput ∧ input = []) ∧
    (∀ (cursor : Cursor) (token : Token) (next : Cursor), cursor.turn = .ok (token, next) →
      token.kind = .eof → cursor.rest = [] ∧ token.kind.ends = true) ∧
    (Cursor.mk 1 s.toList).loop (s.length + 1) = .ok (lex s, true) ∧
    (lex s).length ≤ s.length + 1 := by
  obtain ⟨tokens, stopped, run, -, whole, bound⟩ := Cursor.loop_run (s.length + 1) (Cursor.mk 1 s.toList)
  have stops : stopped = true := bound (by rw [String.length_toList]; exact Nat.lt_succ_self _)
  have yielded : tokens = lex s := whole stops
  subst stops yielded
  refine ⟨fun _ _ _ turned going => Cursor.turn_removes_prefix turned going,
    fun _ member _ reads empty => eq_endOfInput_of_lexeme_eq_nil member reads empty,
    fun _ _ _ turned isEnd => Cursor.turn_eof turned isEnd, run, ?_⟩
  exact Cursor.length_le_of_loop (s.length + 1) run

end DatalogLexer
