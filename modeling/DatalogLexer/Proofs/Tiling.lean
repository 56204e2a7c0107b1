import DatalogLexer.Proofs.Stream

set_option autoImplicit false

namespace DatalogLexer

open Recognizer

/-- The text that gaps and tokens lay out: each token's text after the gap in front of it. -/
def laidOut : List (List Char × Token) → List Char
  | [] => []
  | (gap, token) :: pieces => gap ++ token.text.toList ++ laidOut pieces

@[simp] theorem laidOut_nil : laidOut [] = [] := rfl

@[simp] theorem laidOut_cons (gap : List Char) (token : Token) (pieces : List (List Char × Token)) :
    laidOut ((gap, token) :: pieces) = gap ++ token.text.toList ++ laidOut pieces := rfl

/-- `pieces` are the tokens of the stream of `input` from `line`, each with the run of blanks in
front of it, and `rest` is what is left after the last of them. -/
def Tiles : Int → List Char → List (List Char × Token) → List Char → Prop
  | _, input, [], rest => input = rest
  | line, input, (gap, token) :: pieces, rest =>
    gap = input.takeWhile isBlank ∧
    frontWith standard (input.dropWhile isBlank) = some (token.kind, token.text.toList) ∧
    token.line = line + newlineCount gap ∧
    Tiles (line + newlineCount gap + newlineCount token.text.toList)
      ((input.dropWhile isBlank).drop token.text.toList.length) pieces rest

/-- The stream of every input tiles it, and reads all of it when it ends with the end of input. -/
theorem tokensFrom_tiles (line : Int) (input : List Char) :
    ∃ pieces rest, pieces.map Prod.snd = tokensFrom line input ∧ Tiles line input pieces rest ∧
      ((tokensFrom line input).getLast?.map Token.kind = some .eof → rest = []) := by
  induction line, input using tokensFrom_induction with
  | step line input kind text found ih =>
    rw [tokensFrom_step found]
    cases ends : kind.ends with
    | true =>
      refine ⟨[(input.takeWhile isBlank,
          { kind, text := String.ofList text, line := line + newlineCount (input.takeWhile isBlank) })],
        (input.dropWhile isBlank).drop text.length, by simp, ?_, ?_⟩
      · simpa [Tiles] using found
      · intro endOfInput
        simp only [↓reduceIte, List.getLast?_singleton, Option.map_some, Option.some.injEq] at endOfInput
        subst endOfInput
        obtain ⟨empty, rfl⟩ := frontWith_standard_eof found
        simp [empty]
    | false =>
      obtain ⟨pieces, rest, tokens, tiles, lastEof⟩ := ih ends
      refine ⟨(input.takeWhile isBlank,
          { kind, text := String.ofList text, line := line + newlineCount (input.takeWhile isBlank) })
          :: pieces, rest, by simp [tokens], ?_, ?_⟩
      · simpa [Tiles] using ⟨found, tiles⟩
      · intro endOfInput
        apply lastEof
        obtain ⟨first, more, split⟩ := List.exists_cons_of_ne_nil (tokensFrom_ne_nil
          (line + newlineCount (input.takeWhile isBlank) + newlineCount text)
          ((input.dropWhile isBlank).drop text.length))
        simp only [split] at endOfInput ⊢
        exact endOfInput

theorem frontWith_dropWhile_text {input : List Char} {kind : Token.Kind} {text : List Char}
    (found : frontWith standard (input.dropWhile isBlank) = some (kind, text))
    (notEnd : kind ≠ .eof) : ∃ c more, text = c :: more ∧ isBlank c = false := by
  have nonempty := ne_nil_of_frontWith_standard found notEnd
  obtain ⟨c, more, front⟩ := List.exists_cons_of_ne_nil nonempty
  obtain ⟨d, tail, spelled⟩ := List.exists_cons_of_ne_nil
    (List.ne_nil_of_length_pos (frontWith_length_pos found nonempty))
  have prefixed := frontWith_prefix found
  rw [front, spelled, List.cons_prefix_cons] at prefixed
  rw [prefixed.1] at spelled
  exact ⟨c, tail, spelled, isBlank_head_dropWhile front⟩

namespace Tiles

variable {line : Int} {input : List Char} {gap : List Char} {token : Token}
  {pieces : List (List Char × Token)} {rest : List Char}

theorem cons_split (tiles : Tiles line input ((gap, token) :: pieces) rest) :
    input = gap ++ token.text.toList ++
      (input.dropWhile isBlank).drop token.text.toList.length := by
  obtain ⟨rfl, found, -, -⟩ := tiles
  obtain ⟨after, joined⟩ := frontWith_prefix found
  calc input = input.takeWhile isBlank ++ input.dropWhile isBlank :=
        List.takeWhile_append_dropWhile.symm
    _ = input.takeWhile isBlank ++ token.text.toList ++
          (input.dropWhile isBlank).drop token.text.toList.length := by
      rw [List.append_assoc, ← joined, List.drop_left]

theorem laidOut_append (tiles : Tiles line input pieces rest) : input = laidOut pieces ++ rest := by
  induction pieces generalizing line input with
  | nil => exact tiles
  | cons piece more ih =>
    obtain ⟨gap, token⟩ := piece
    have split := cons_split tiles
    rw [split, ih tiles.2.2.2]
    simp

/-- A tiling splits after any of its pieces: the later pieces tile what the earlier ones leave. -/
theorem append {first later : List (List Char × Token)}
    (tiles : Tiles line input (first ++ later) rest) :
    ∃ middle, Tiles line input first middle ∧
      Tiles (line + newlineCount (laidOut first)) middle later rest := by
  induction first generalizing line input with
  | nil => exact ⟨input, rfl, by simpa using tiles⟩
  | cons piece more ih =>
    obtain ⟨gap, token⟩ := piece
    obtain ⟨gapIs, found, onLine, tail⟩ := tiles
    obtain ⟨middle, front, back⟩ := ih tail
    refine ⟨middle, ⟨gapIs, found, onLine, front⟩, ?_⟩
    have lines : line + newlineCount gap + newlineCount token.text.toList +
        newlineCount (laidOut more) = line + newlineCount (laidOut ((gap, token) :: more)) := by
      simp only [laidOut_cons, newlineCount_append]
      push_cast
      omega
    rw [← lines]
    exact back

/-- A tiling that ends with an undefined token ends on the one character that token holds, on the
line after the line feeds before it. -/
theorem last_undefined {first : List (List Char × Token)} {gap : List Char} {token : Token}
    (tiles : Tiles line input (first ++ [(gap, token)]) rest) (undefined : token.kind = .undefined) :
    ∃ front c, input = front ++ c :: rest ∧ token.text = String.ofList [c] ∧
      token.line = line + newlineCount front := by
  obtain ⟨middle, front, back⟩ := tiles.append
  obtain ⟨gapIs, found, onLine, after⟩ := back
  rw [undefined] at found
  obtain ⟨c, more, start, spelled, -⟩ := frontWith_standard_undefined_iff.mp found
  -- the token takes its one character, and the rest of the input is left
  have emptied : more = rest := by
    rw [start, spelled] at after
    exact after
  refine ⟨laidOut first ++ gap, c, ?_, ?_, ?_⟩
  · rw [front.laidOut_append, ← List.takeWhile_append_dropWhile (p := isBlank) (l := middle),
      ← gapIs, start, emptied, List.append_assoc]
  · rw [← spelled, String.ofList_toList]
  · rw [onLine, newlineCount_append]
    push_cast
    omega

/-- The `i`-th piece: its gap is the run of blanks where it starts, its token is what a scan finds
after it, and its line counts the line feeds before its text. -/
theorem getElem (tiles : Tiles line input pieces rest) (i : Nat) (inside : i < pieces.length) :
    pieces[i].1 = (input.drop (laidOut (pieces.take i)).length).takeWhile isBlank ∧
      frontWith standard ((input.drop (laidOut (pieces.take i)).length).dropWhile isBlank) =
        some (pieces[i].2.kind, pieces[i].2.text.toList) ∧
      pieces[i].2.line =
        line + newlineCount (input.take ((laidOut (pieces.take i)).length + pieces[i].1.length)) := by
  induction pieces generalizing line input i with
  | nil => cases inside
  | cons piece more ih =>
    obtain ⟨gap, token⟩ := piece
    have split := cons_split tiles
    obtain ⟨gapIs, found, onLine, tail⟩ := tiles
    cases i with
    | zero =>
      have taken : input.take gap.length = gap := by
        rw [gapIs]
        exact (List.prefix_iff_eq_take.mp (List.takeWhile_prefix _)).symm
      simp only [List.take_zero, laidOut_nil, List.length_nil, List.drop_zero,
        List.getElem_cons_zero, Nat.zero_add, taken]
      exact ⟨gapIs, found, onLine⟩
    | succ i =>
      generalize (input.dropWhile isBlank).drop token.text.toList.length = after at split tail
      have later := ih tail i (by simpa using inside)
      have dropAt : ∀ k, input.drop (gap.length + token.text.toList.length + k) = after.drop k := by
        intro k
        rw [split, ← List.length_append, List.drop_length_add_append]
      have takeAt : ∀ k, input.take (gap.length + token.text.toList.length + k) =
          gap ++ token.text.toList ++ after.take k := by
        intro k
        rw [split, ← List.length_append, List.take_length_add_append]
      simp only [List.take_succ_cons, laidOut_cons, List.length_append, List.getElem_cons_succ]
      rw [dropAt, Nat.add_assoc (gap.length + token.text.toList.length), takeAt,
        newlineCount_append, newlineCount_append, later.2.2]
      refine ⟨later.1, later.2.1, ?_⟩
      push_cast
      omega

theorem frontWith_getElem (tiles : Tiles line input pieces rest) (i : Nat)
    (inside : i < pieces.length) :
    frontWith standard (input.drop ((laidOut (pieces.take i)).length + pieces[i].1.length)) =
      some (pieces[i].2.kind, pieces[i].2.text.toList) := by
  obtain ⟨gapIs, found, -⟩ := tiles.getElem i inside
  rw [← List.drop_drop, gapIs, ← dropWhile_eq_drop]
  exact found

theorem blank_getElem (tiles : Tiles line input pieces rest) (i : Nat)
    (inside : i < pieces.length) : ∀ c ∈ pieces[i].1, isBlank c = true := by
  rw [(tiles.getElem i inside).1]
  exact List.all_eq_true.mp List.all_takeWhile

/-- The end of input stands on the line after every line feed of the input. -/
theorem line_of_eof (tiles : Tiles line input pieces rest) (i : Nat) (inside : i < pieces.length)
    (isEnd : pieces[i].2.kind = .eof) : pieces[i].2.line = line + newlineCount input := by
  obtain ⟨gapIs, found, onLine⟩ := tiles.getElem i inside
  rw [isEnd] at found
  have emptied := (frontWith_standard_eof found).1
  have atGap : input.drop (laidOut (pieces.take i)).length = pieces[i].1 := by
    calc input.drop (laidOut (pieces.take i)).length
        = (input.drop (laidOut (pieces.take i)).length).takeWhile isBlank ++
            (input.drop (laidOut (pieces.take i)).length).dropWhile isBlank :=
          List.takeWhile_append_dropWhile.symm
      _ = pieces[i].1 := by rw [emptied, List.append_nil, gapIs]
  have whole : input.take ((laidOut (pieces.take i)).length + pieces[i].1.length) = input := by
    apply List.take_of_length_le
    have := congrArg List.length atGap
    rw [List.length_drop] at this
    omega
  rw [onLine, whole]

end Tiles

theorem scan_of_frontWith {recognizers : List Recognizer} {input : List Char}
    {kind : Token.Kind} {text : List Char} (found : frontWith recognizers input = some (kind, text)) :
    scan recognizers input = .ok { kind, text := String.ofList text } := by
  simp [scan, found]

theorem Token.Kind.ends_eq_true_iff (kind : Token.Kind) :
    kind.ends = true ↔ kind = .eof ∨ kind = .undefined := by
  cases kind <;> simp [Token.Kind.ends]

section Shape

theorem tokensFrom_getLast_ends (line : Int) (input : List Char) :
    ∀ token ∈ (tokensFrom line input).getLast?, token.kind.ends = true := by
  induction line, input using tokensFrom_induction with
  | step line input kind text found ih =>
    rw [tokensFrom_step found]
    cases ends : kind.ends with
    | true => simpa using ends
    | false =>
      obtain ⟨first, more, split⟩ := List.exists_cons_of_ne_nil (tokensFrom_ne_nil
        (line + newlineCount (input.takeWhile isBlank) + newlineCount text)
        ((input.dropWhile isBlank).drop text.length))
      have later := ih ends
      rw [split] at later ⊢
      simpa using later

theorem tokensFrom_dropLast_going (line : Int) (input : List Char) :
    ∀ token ∈ (tokensFrom line input).dropLast, token.kind.ends = false := by
  induction line, input using tokensFrom_induction with
  | step line input kind text found ih =>
    rw [tokensFrom_step found]
    cases ends : kind.ends with
    | true => simp
    | false =>
      have later := ih ends
      simp only [Bool.false_eq_true, ↓reduceIte]
      rw [List.dropLast_cons_of_ne_nil (tokensFrom_ne_nil _ _)]
      intro token member
      rcases List.mem_cons.mp member with rfl | member
      · exact ends
      · exact later token member

theorem tokensFrom_ne_whitespace (line : Int) (input : List Char) :
    ∀ token ∈ tokensFrom line input, token.kind ≠ .whitespace := by
  induction line, input using tokensFrom_induction with
  | step line input kind text found ih =>
    rw [tokensFrom_step found]
    intro token member
    rcases List.mem_cons.mp member with rfl | member
    · exact kind_ne_whitespace_of_dropWhile found
    · cases ends : kind.ends with
      | true => simp [ends] at member
      | false =>
        simp only [ends, Bool.false_eq_true, ↓reduceIte] at member
        exact ih ends token member

end Shape

/-- A text is its stream laid out: before each token the whole run of blanks, read there as one
whitespace token, then the token's text on the line after the line feeds before it. -/
theorem lex_tiles (s : String) :
    ∃ (pieces : List (List Char × Token)) (rest : List Char),
      pieces.map Prod.snd = lex s ∧
      s.toList = laidOut pieces ++ rest ∧
      (∀ i (inside : i < pieces.length),
        (∀ c ∈ pieces[i].1, isBlank c = true) ∧
        (pieces[i].1 ≠ [] →
          scan standard (s.toList.drop (laidOut (pieces.take i)).length) =
            .ok { kind := .whitespace, text := String.ofList pieces[i].1 }) ∧
        scan standard (s.toList.drop ((laidOut (pieces.take i)).length + pieces[i].1.length)) =
          .ok { pieces[i].2 with line := 0 } ∧
        (pieces[i].2.kind ≠ .eof →
          ∃ c more, pieces[i].2.text.toList = c :: more ∧ isBlank c = false) ∧
        pieces[i].2.line =
          1 + newlineCount (s.toList.take ((laidOut (pieces.take i)).length + pieces[i].1.length))) ∧
      ((lex s).getLast?.map Token.kind = some .eof → rest = []) ∧
      ∀ token ∈ lex s, token.kind = .eof → token.line = 1 + newlineCount s.toList := by
  obtain ⟨pieces, rest, tokens, tiles, lastEof⟩ := tokensFrom_tiles 1 s.toList
  refine ⟨pieces, rest, tokens, tiles.laidOut_append, fun i inside => ?_, lastEof, ?_⟩
  · obtain ⟨gapIs, found, onLine⟩ := tiles.getElem i inside
    have atText := tiles.frontWith_getElem i inside
    refine ⟨tiles.blank_getElem i inside, ?_, ?_, ?_, onLine⟩
    · intro nonempty
      rw [gapIs] at nonempty ⊢
      generalize s.toList.drop (laidOut (pieces.take i)).length = front at nonempty ⊢
      cases front with
      | nil => simp at nonempty
      | cons c more =>
        cases blank : isBlank c with
        | false => simp [blank] at nonempty
        | true => rw [scan_of_frontWith (frontWith_standard_blank blank)]
    · rw [scan_of_frontWith atText, String.ofList_toList]
    · exact frontWith_dropWhile_text found
  · intro token member isEnd
    change token ∈ tokensFrom 1 s.toList at member
    rw [← tokens] at member
    obtain ⟨piece, placed, rfl⟩ := List.mem_map.mp member
    obtain ⟨i, inside, rfl⟩ := List.mem_iff_getElem.mp placed
    exact tiles.line_of_eof i inside isEnd

/-- The stream is never empty and ends with the end of input or an undefined token, and an undefined
token stands exactly where a character begins no token, holding that character alone. -/
theorem lex_ends_and_undefined_iff (s : String) :
    lex s ≠ [] ∧
    (∀ token ∈ (lex s).getLast?, token.kind = .eof ∨ token.kind = .undefined) ∧
    (∀ token ∈ (lex s).dropLast,
      token.kind ≠ .eof ∧ token.kind ≠ .undefined ∧ token.kind ≠ .whitespace) ∧
    ∃ (pieces : List (List Char × Token)) (rest : List Char),
      pieces.map Prod.snd = lex s ∧ s.toList = laidOut pieces ++ rest ∧
      ∀ i (inside : i < pieces.length),
        pieces[i].1 = (s.toList.drop (laidOut (pieces.take i)).length).takeWhile isBlank ∧
        (pieces[i].2.kind = .undefined ↔
          ∃ c more,
            s.toList.drop ((laidOut (pieces.take i)).length + pieces[i].1.length) = c :: more ∧
            c ∉ [' ', '\t', '\r', '\n', ':', ',', '.', '?', '(', ')', '#'] ∧
            Unicode.isLetter c = false ∧ (c = '\'' → quoted.read (c :: more) = 0)) ∧
        (pieces[i].2.kind = .undefined →
          pieces[i].2.text.toList =
            (s.toList.drop ((laidOut (pieces.take i)).length + pieces[i].1.length)).take 1 ∧
          ∀ q ∈ standard,
            q.read (s.toList.drop ((laidOut (pieces.take i)).length + pieces[i].1.length)) = 0) := by
  obtain ⟨pieces, rest, tokens, tiles, -⟩ := tokensFrom_tiles 1 s.toList
  refine ⟨tokensFrom_ne_nil 1 s.toList, ?_, ?_, pieces, rest, tokens, tiles.laidOut_append, ?_⟩
  · intro token last
    exact (Token.Kind.ends_eq_true_iff _).mp (tokensFrom_getLast_ends 1 s.toList token last)
  · intro token member
    have going := tokensFrom_dropLast_going 1 s.toList token member
    have shown := tokensFrom_ne_whitespace 1 s.toList token (List.dropLast_subset _ member)
    refine ⟨?_, ?_, shown⟩
    all_goals
      intro ends
      rw [ends] at going
      cases going
  · intro i inside
    have found := tiles.frontWith_getElem i inside
    refine ⟨(tiles.getElem i inside).1, ?_, ?_⟩
    all_goals
      generalize s.toList.drop ((laidOut (pieces.take i)).length + pieces[i].1.length) = front
        at found ⊢
    · constructor
      · intro undefined
        rw [undefined] at found
        obtain ⟨c, more, rfl, -, outside, notLetter, unclosed⟩ :=
          frontWith_standard_undefined_iff.mp found
        exact ⟨c, more, rfl, outside, notLetter, unclosed⟩
      · rintro ⟨c, more, rfl, outside, notLetter, unclosed⟩
        have single := frontWith_standard_undefined_iff.mpr
          ⟨c, more, rfl, rfl, outside, notLetter, unclosed⟩
        rw [found, Option.some.injEq, Prod.mk.injEq] at single
        exact single.1
    · intro undefined
      rw [undefined] at found
      obtain ⟨c, more, rfl, spelled, outside, notLetter, unclosed⟩ :=
        frontWith_standard_undefined_iff.mp found
      refine ⟨by simp [spelled], ?_⟩
      have nothing := longest_standard_eq_none_iff.mpr ⟨outside, notLetter, unclosed⟩
      intro q member
      exact Int.le_antisymm (longest_eq_none_iff.mp nothing q member) (read_nonneg q _)

end DatalogLexer
