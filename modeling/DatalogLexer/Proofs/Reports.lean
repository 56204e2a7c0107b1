import DatalogLexer.Proofs.Front

set_option autoImplicit false

namespace DatalogLexer

namespace Recognizer

theorem lexeme_blanks (input : List Char) : blanks.lexeme input = input.takeWhile isBlank := by
  rw [lexeme, read_blanks, Int.toNat_natCast]
  exact (List.prefix_iff_eq_take.mp (List.takeWhile_prefix _)).symm

theorem isBlank_of_mem_lexeme_blanks {input : List Char} {c : Char}
    (member : c ∈ blanks.lexeme input) : isBlank c = true := by
  rw [lexeme_blanks] at member
  exact List.all_eq_true.mp List.all_takeWhile c member

theorem token?_eq_ok (recognizer : Recognizer) (text : List Char)
    (blank : recognizer.kindOf text = .whitespace → ∀ c ∈ text, isBlank c = true) :
    recognizer.token? (String.ofList text) =
      .ok { kind := recognizer.kindOf text, text := String.ofList text } := by
  unfold token? Token.make?
  rw [String.toList_ofList]
  split
  · rename_i failed
    obtain ⟨whitespace, notBlank⟩ := failed
    rw [List.all_eq_true.mpr (blank whitespace)] at notBlank
    cases notBlank
  · rfl

/-- Every run reports its read and the token of its text: the whitespace check passes on whatever
the blank machine reads. -/
theorem readToken?_eq (recognizer : Recognizer) (input : List Char) :
    recognizer.readToken? input =
      .ok (recognizer.read input,
        { kind := recognizer.kindOf (recognizer.lexeme input),
          text := String.ofList (recognizer.lexeme input) }) := by
  have made := recognizer.token?_eq_ok (recognizer.lexeme input) fun whitespace => by
    obtain rfl := kindOf_exclusive.1 whitespace
    exact fun c member => isBlank_of_mem_lexeme_blanks member
  rw [readToken?, made]
  rfl

/-- The characters before the first `stop` are as many as its index. -/
theorem length_takeWhile_bne (input : List Char) (stop : Char) :
    (input.takeWhile (· != stop)).length = input.idxOf stop := by
  induction input with
  | nil => rfl
  | cons c rest ih =>
    by_cases same : c = stop
    · subst same
      rw [List.takeWhile_cons_of_neg (by simp), List.idxOf_cons_self, List.length_nil]
    · rw [List.takeWhile_cons_of_pos (p := (· != stop)) (bne_iff_ne.mpr same), List.length_cons, ih,
        List.idxOf_cons, beq_eq_false_iff_ne.mpr same, cond_false]

theorem readToken?_fixed (text : FixedText) (input : List Char) :
    (fixed text).readToken? input =
      if text.text.toList <+: input then
        .ok (text.text.length, { kind := text.kind, text := text.text })
      else .ok (0, { kind := .undefined, text := "" }) := by
  rw [readToken?_eq, lexeme, read_fixed]
  split
  · rename_i front
    have taken : input.take text.text.toList.length = text.text.toList :=
      (List.prefix_iff_eq_take.mp front).symm
    rw [Int.toNat_natCast, taken]
    simp only [kindOf, ↓reduceIte, String.ofList_toList, String.length_toList]
  · rename_i notFront
    -- the empty text spells no fixed text, since every input starts with it
    have nonempty : [] ≠ text.text.toList := fun empty => notFront (empty ▸ List.nil_prefix)
    simp [kindOf, nonempty]

theorem readToken?_endOfInput (input : List Char) :
    endOfInput.readToken? input =
      .ok (if input = [] then 1 else 0, { kind := .eof, text := "" }) := by
  rw [readToken?_eq, lexeme, read_endOfInput]
  cases input <;> simp [kindOf]

theorem readToken?_blanks (input : List Char) :
    blanks.readToken? input =
      .ok ((input.takeWhile isBlank).length,
        { kind := .whitespace, text := String.ofList (input.takeWhile isBlank) }) := by
  rw [readToken?_eq, lexeme_blanks, read_blanks]
  rfl

theorem readToken?_comment (input : List Char) :
    comment.readToken? input =
      if input.head? = some '#' then
        .ok (input.idxOf '\n',
          { kind := .comment, text := String.ofList (input.take (input.idxOf '\n')) })
      else .ok (0, { kind := .comment, text := "" }) := by
  rw [readToken?_eq, lexeme, read_comment, length_takeWhile_bne]
  split <;> simp [kindOf]

/-- The reports of the comment, the blank run, the fixed texts and the end of input. -/
theorem readToken?_reference_reads (input : List Char) :
    comment.readToken? input =
        (if input.head? = some '#' then
          .ok (input.idxOf '\n',
            { kind := .comment, text := String.ofList (input.take (input.idxOf '\n')) })
        else .ok (0, { kind := .comment, text := "" })) ∧
      blanks.readToken? input =
        .ok ((input.takeWhile isBlank).length,
          { kind := .whitespace, text := String.ofList (input.takeWhile isBlank) }) ∧
      (∀ text : FixedText, (fixed text).readToken? input =
        if text.text.toList <+: input then
          .ok (text.text.length, { kind := text.kind, text := text.text })
        else .ok (0, { kind := .undefined, text := "" })) ∧
      endOfInput.readToken? input =
        .ok (if input = [] then 1 else 0, { kind := .eof, text := "" }) :=
  ⟨readToken?_comment input, readToken?_blanks input, fun text => readToken?_fixed text input,
    readToken?_endOfInput input⟩

end Recognizer

open Recognizer

/-- The best report kept so far: the best match's read and token, or `0` and an empty undefined
token before any match. -/
def bestReport (input : List Char) : Option (Recognizer × Int) → Int × Token
  | none => (0, { kind := .undefined, text := "" })
  | some (recognizer, count) =>
    (count,
      { kind := recognizer.kindOf (input.take count.toNat),
        text := String.ofList (input.take count.toNat) })

theorem bestReport_fst (input : List Char) (best : Option (Recognizer × Int)) :
    (bestReport input best).1 = score best := by
  cases best <;> rfl

theorem keepLonger_bestReport (input : List Char) (best : Option (Recognizer × Int))
    (recognizer : Recognizer) :
    keepLonger input (bestReport input best) recognizer =
      .ok (bestReport input
        (if score best < recognizer.read input then some (recognizer, recognizer.read input)
          else best)) := by
  rw [keepLonger, readToken?_eq]
  change Except.ok (if (bestReport input best).1 < recognizer.read input then _ else _) = _
  rw [bestReport_fst]
  split <;> rfl

/-- The best report kept over all the reports is the report of the first longest match. -/
theorem foldlM_keepLonger (input : List Char) (recognizers : List Recognizer) :
    ∀ best, recognizers.foldlM (keepLonger input) (bestReport input best) =
      .ok (bestReport input (longestFrom input best recognizers)) := by
  induction recognizers with
  | nil => intro best; rfl
  | cons recognizer rest ih =>
    intro best
    rw [List.foldlM_cons, keepLonger_bestReport, longestFrom_cons, ← ih]
    rfl

/-- The front token with every report made is the one `scan` chooses, failing where it fails. -/
theorem frontToken?_eq_scan (recognizers : List Recognizer) (input : List Char) :
    frontToken? recognizers input = (scan recognizers input).mapError .scan := by
  have folded : recognizers.foldlM (keepLonger input) (0, { kind := .undefined, text := "" }) =
      .ok (bestReport input (longest recognizers input)) :=
    foldlM_keepLonger input recognizers none
  rw [frontToken?.eq_def, folded, scan, frontWith.eq_def]
  cases found : longest recognizers input with
  | none =>
    cases input with
    | nil => rfl
    | cons c rest => rfl
  | some best =>
    obtain ⟨winner, read⟩ := best
    have positive := longest_pos found
    change (if read = 0 then _ else _) = _
    rw [if_neg (Int.ne_of_gt positive)]
    rfl

theorem frontToken?_of_frontWith {recognizers : List Recognizer} {input : List Char}
    {kind : Token.Kind} {text : List Char} (found : frontWith recognizers input = some (kind, text)) :
    frontToken? recognizers input = .ok { kind, text := String.ofList text } := by
  rw [frontToken?_eq_scan, scan.eq_def, found]
  rfl

/-- The front token over any list of recognizers: the report of the first with the largest positive
read; else the first character, undefined, or on an empty input no token at all. -/
theorem frontToken?_keeps_first_longest (recognizers : List Recognizer) :
    (∀ (input : List Char) (i : Nat) (inside : i < recognizers.length),
      0 < recognizers[i].read input →
      (∀ j (within : j < recognizers.length),
        recognizers[j].read input ≤ recognizers[i].read input) →
      (∀ j (within : j < recognizers.length), j < i →
        recognizers[j].read input < recognizers[i].read input) →
      ∃ read token, recognizers[i].readToken? input = .ok (read, token) ∧
        frontToken? recognizers input = .ok token) ∧
    (∀ (c : Char) (rest : List Char), (∀ q ∈ recognizers, q.read (c :: rest) ≤ 0) →
      frontToken? recognizers (c :: rest) =
        .ok { kind := .undefined, text := String.ofList [c] }) ∧
    ((∀ q ∈ recognizers, q.read [] ≤ 0) →
      frontToken? recognizers [] = .error (.scan .emptyInput)) := by
  refine ⟨?_, ?_, ?_⟩
  · intro input i inside positive noLonger earlier
    have first := FirstLongest.of_getElem i inside noLonger earlier
    have found := longest_eq_some_iff.mpr ⟨first, rfl, positive⟩
    exact ⟨_, _, readToken?_eq _ _, frontToken?_of_frontWith (frontWith_of_longest_some found)⟩
  · intro c rest nothing
    exact frontToken?_of_frontWith (frontWith_of_longest_none (longest_eq_none_iff.mpr nothing))
  · intro nothing
    rw [frontToken?_eq_scan, scan, frontWith, longest_eq_none_iff.mpr nothing]
    rfl

/-- On `Rules(` the keyword wins its tie with the identifier; `$` is undefined alone; and without
the end of input nothing reads the empty input. -/
theorem frontToken?_keeps_first_longest_standard :
    (0 < (fixed .rules).read "Rules(".toList ∧
      (∀ j (within : j < standard.length),
        standard[j].read "Rules(".toList ≤ (fixed .rules).read "Rules(".toList) ∧
      (∀ j (within : j < standard.length), j < 12 →
        standard[j].read "Rules(".toList < (fixed .rules).read "Rules(".toList) ∧
      ∃ read token, (fixed .rules).readToken? "Rules(".toList = .ok (read, token) ∧
        frontToken? standard "Rules(".toList = .ok token) ∧
    ((∀ q ∈ standard, q.read ['$'] ≤ 0) ∧
      frontToken? standard ['$'] = .ok { kind := .undefined, text := String.ofList ['$'] }) ∧
    ((∀ q ∈ [blanks, comment], q.read [] ≤ 0) ∧
      frontToken? [blanks, comment] [] = .error (.scan .emptyInput)) := by
  have positive : 0 < (fixed .rules).read "Rules(".toList := by decide +kernel
  have noLonger : ∀ j (within : j < standard.length),
      standard[j].read "Rules(".toList ≤ (fixed .rules).read "Rules(".toList := by
    decide +kernel
  have earlier : ∀ j (within : j < standard.length), j < 12 →
      standard[j].read "Rules(".toList < (fixed .rules).read "Rules(".toList := by
    decide +kernel
  have nothing : ∀ q ∈ standard, q.read ['$'] ≤ 0 := by decide +kernel
  have empty : ∀ q ∈ [blanks, comment], q.read [] ≤ 0 := by decide +kernel
  exact ⟨⟨positive, noLonger, earlier,
      (frontToken?_keeps_first_longest standard).1 _ 12 (by decide) positive noLonger earlier⟩,
    ⟨nothing, (frontToken?_keeps_first_longest standard).2.1 '$' [] nothing⟩,
    ⟨empty, (frontToken?_keeps_first_longest [blanks, comment]).2.2 empty⟩⟩

end DatalogLexer
