import DatalogLexer.Proofs.Tiling
import DatalogLexer.CommandLine

set_option autoImplicit false

namespace DatalogLexer

open Recognizer

section Decimal

/-- The decimal text of an integer: the digits of its size, after a minus sign when negative. -/
theorem toList_toString_int (n : Int) :
    (toString n).toList =
      if 0 ≤ n then Nat.toDigits 10 n.toNat else '-' :: Nat.toDigits 10 n.natAbs := by
  cases n with
  | ofNat k => simp [toString, Int.repr, Nat.toList_repr]
  | negSucc k => simp [toString, Int.repr, Nat.toList_repr]

theorem toDigits_ten_injective {m n : Nat} (same : Nat.toDigits 10 m = Nat.toDigits 10 n) :
    m = n :=
  calc m = Nat.ofDigitChars 10 (Nat.toDigits 10 m) 0 := Nat.ofDigitChars_ten_toDigits.symm
    _ = Nat.ofDigitChars 10 (Nat.toDigits 10 n) 0 := by rw [same]
    _ = n := Nat.ofDigitChars_ten_toDigits

theorem minus_not_mem_toDigits (n : Nat) : '-' ∉ Nat.toDigits 10 n := by
  intro member
  have digit := Nat.isDigit_of_mem_toDigits (by decide) (by decide) member
  exact absurd digit (by decide)

theorem mem_toString_int {n : Int} {c : Char} (member : c ∈ (toString n).toList) :
    c = '-' ∨ c.isDigit = true := by
  rw [toList_toString_int] at member
  split at member
  · exact .inr (Nat.isDigit_of_mem_toDigits (by decide) (by decide) member)
  · rcases List.mem_cons.mp member with minus | digits
    · exact .inl minus
    · exact .inr (Nat.isDigit_of_mem_toDigits (by decide) (by decide) digits)

theorem quote_not_mem_toString_int (n : Int) : '"' ∉ (toString n).toList := by
  intro member
  rcases mem_toString_int member with minus | digit
  · cases minus
  · cases digit

/-- Different integers are written differently: the sign is the first character, the digits the
size. -/
theorem toString_int_injective {m n : Int} (same : toString m = toString n) : m = n := by
  have chars := congrArg String.toList same
  rw [toList_toString_int, toList_toString_int] at chars
  split at chars <;> split at chars
  · have sizes := toDigits_ten_injective chars
    omega
  · exact absurd (chars ▸ List.mem_cons_self) (minus_not_mem_toDigits _)
  · exact absurd (chars ▸ List.mem_cons_self) (minus_not_mem_toDigits _)
  · have sizes := toDigits_ten_injective (List.cons.inj chars).2
    omega

end Decimal

section Cut

variable {α : Type} {sep : α} {front front' back back' : List α}

/-- Cutting at the first `sep`: where neither front holds `sep`, the fronts and the backs agree. -/
theorem append_cons_eq_iff_of_not_mem (absent : sep ∉ front) (absent' : sep ∉ front') :
    front ++ sep :: back = front' ++ sep :: back' ↔ front = front' ∧ back = back' := by
  constructor
  · intro same
    induction front generalizing front' with
    | nil =>
      cases front' with
      | nil => exact ⟨rfl, (List.cons.inj same).2⟩
      | cons c more =>
        obtain ⟨rfl, -⟩ := List.cons.inj same
        simp at absent'
    | cons c more ih =>
      cases front' with
      | nil =>
        obtain ⟨rfl, -⟩ := List.cons.inj same
        simp at absent
      | cons c' more' =>
        obtain ⟨rfl, rest⟩ := List.cons.inj same
        obtain ⟨rfl, rfl⟩ := ih (fun inside => absent (List.mem_cons_of_mem c inside))
          (fun inside => absent' (List.mem_cons_of_mem c inside)) rest
        exact ⟨rfl, rfl⟩
  · rintro ⟨rfl, rfl⟩
    rfl

/-- Cutting at the last `sep`: where neither back holds `sep`, the fronts and the backs agree. -/
theorem append_cons_eq_iff_of_not_mem_back (absent : sep ∉ back) (absent' : sep ∉ back') :
    front ++ sep :: back = front' ++ sep :: back' ↔ front = front' ∧ back = back' := by
  -- read both lists backwards, where the last `sep` comes first
  rw [← List.reverse_inj]
  simp only [List.reverse_append, List.reverse_cons, List.append_assoc, List.singleton_append]
  rw [append_cons_eq_iff_of_not_mem (by simpa using absent) (by simpa using absent'),
    List.reverse_inj, List.reverse_inj]
  exact And.comm

end Cut

namespace Token

theorem toList_render (token : Token) :
    token.render.toList =
      '(' :: (token.kind.name.toList ++ ',' :: '"' :: (token.text.toList ++ '"' :: ',' ::
        ((toString token.line).toList ++ [')']))) := by
  simp [render]

theorem Kind.comma_not_mem_name (kind : Kind) : ',' ∉ kind.name.toList := by
  cases kind <;> simp [Kind.name]

theorem Kind.ofName?_name (kind : Kind) : Kind.ofName? kind.name = some kind := by
  cases kind <;> rfl

theorem Kind.name_injective {kind kind' : Kind} (same : kind.name = kind'.name) : kind = kind' := by
  have named := Kind.ofName?_name kind
  rw [same, Kind.ofName?_name] at named
  exact (Option.some.inj named).symm

theorem render_injective {token token' : Token} (same : token.render = token'.render) :
    token = token' := by
  have chars := congrArg String.toList same
  rw [toList_render, toList_render, List.cons_inj_right] at chars
  -- the name ends at the first comma
  obtain ⟨names, afterName⟩ := (append_cons_eq_iff_of_not_mem (Kind.comma_not_mem_name _)
    (Kind.comma_not_mem_name _)).mp chars
  rw [List.cons_inj_right] at afterName
  -- the text ends at the last quote, since the line's digits hold none
  have closing : ∀ line : Int, '"' ∉ ',' :: ((toString line).toList ++ [')']) := fun line => by
    simpa using quote_not_mem_toString_int line
  obtain ⟨texts, afterText⟩ :=
    (append_cons_eq_iff_of_not_mem_back (closing _) (closing _)).mp afterName
  rw [List.cons_inj_right, List.append_cancel_right_eq] at afterText
  have kinds := Kind.name_injective (String.toList_inj.mp names)
  have lines := toString_int_injective (String.toList_inj.mp afterText)
  cases token
  cases token'
  simp only at kinds lines texts
  rw [kinds, String.toList_inj.mp texts, lines]

/-- Two tokens print alike exactly when they are equal, whatever their texts and lines hold. -/
theorem render_eq_render_iff {token token' : Token} :
    token.render = token'.render ↔ token = token' :=
  ⟨render_injective, congrArg render⟩

end Token

namespace Report

theorem ofTokensFrom_append_of_defined (written : String) (printed : Nat) {shown : List Token}
    (defined : ∀ token ∈ shown, token.kind ≠ .undefined) (more : List Token) :
    ofTokensFrom written printed (shown ++ more) =
      ofTokensFrom (written ++ String.join (shown.map fun token => token.render ++ "\n"))
        (printed + shown.length) more := by
  induction shown generalizing written printed with
  | nil => simp
  | cons token rest ih =>
    have kept : token.kind ≠ .undefined := defined token List.mem_cons_self
    rw [List.cons_append, ofTokensFrom, if_neg kept,
      ih _ _ (fun other member => defined other (List.mem_cons_of_mem token member))]
    simp only [List.map_cons, String.join_cons, String.append_assoc, List.length_cons]
    rw [Nat.add_assoc, Nat.add_comm 1]

/-- A report that meets no undefined token prints every token and counts them all. -/
theorem ofTokens_of_defined {tokens : List Token}
    (defined : ∀ token ∈ tokens, token.kind ≠ .undefined) :
    ofTokens tokens =
      String.join (tokens.map fun token => token.render ++ "\n") ++ "Total Tokens = " ++
        toString tokens.length := by
  have printed := ofTokensFrom_append_of_defined "" 0 defined []
  rw [List.append_nil] at printed
  rw [ofTokens, printed, ofTokensFrom, String.empty_append, Nat.zero_add]

/-- A report whose only undefined token is the last prints every token, then that token's line. -/
theorem ofTokens_of_undefined {shown : List Token}
    (defined : ∀ token ∈ shown, token.kind ≠ .undefined) {last : Token}
    (undefined : last.kind = .undefined) :
    ofTokens (shown ++ [last]) =
      String.join ((shown ++ [last]).map fun token => token.render ++ "\n") ++
        "\nTotal Tokens = Error on line " ++ toString last.line := by
  rw [ofTokens, ofTokensFrom_append_of_defined "" 0 defined, ofTokensFrom, if_pos undefined]
  simp [String.join_append, String.append_assoc]

end Report

theorem lex_dropLast_defined (s : String) :
    ∀ token ∈ (lex s).dropLast, token.kind ≠ .undefined := by
  intro token member undefined
  have going := tokensFrom_dropLast_going 1 s.toList token member
  rw [undefined] at going
  cases going

theorem lex_eq_append_last {s : String} {last : Token} (member : last ∈ (lex s).getLast?) :
    ∃ shown, lex s = shown ++ [last] ∧ ∀ token ∈ shown, token.kind ≠ .undefined := by
  obtain ⟨shown, split⟩ := List.getLast?_eq_some_iff.mp member
  have defined := lex_dropLast_defined s
  rw [split, List.dropLast_concat] at defined
  exact ⟨shown, split, defined⟩

/-- The report prints the whole stream, then its length when it reaches the end of input, or else
the line of the offending character, one more than the line feeds before it. -/
theorem report_prints_stream (s : String) :
    (∀ last ∈ (lex s).getLast?, last.kind = .eof →
      report s = String.join ((lex s).map fun token => token.render ++ "\n") ++
        "Total Tokens = " ++ toString (lex s).length) ∧
    ∀ last ∈ (lex s).getLast?, last.kind = .undefined →
      report s = String.join ((lex s).map fun token => token.render ++ "\n") ++
          "\nTotal Tokens = Error on line " ++ toString last.line ∧
        ∃ (pieces : List (List Char × Token)) (front rest : List Char) (c : Char),
          Tiles 1 s.toList pieces rest ∧ pieces.map Prod.snd = lex s ∧
          s.toList = front ++ c :: rest ∧ last.text = String.ofList [c] ∧
          last.line = 1 + newlineCount front := by
  refine ⟨?_, ?_⟩
  · intro last member isEnd
    obtain ⟨shown, split, defined⟩ := lex_eq_append_last member
    apply Report.ofTokens_of_defined
    intro token inside
    rw [split] at inside
    rcases List.mem_append.mp inside with early | final
    · exact defined token early
    · rw [List.mem_singleton.mp final, isEnd]
      decide
  · intro last member undefined
    obtain ⟨shown, split, defined⟩ := lex_eq_append_last member
    refine ⟨?_, ?_⟩
    · have printed := Report.ofTokens_of_undefined defined undefined
      rw [← split] at printed
      exact printed
    · -- the stream's tiling ends with the piece of the undefined token
      obtain ⟨pieces, rest, tokens, tiles, -⟩ := tokensFrom_tiles 1 s.toList
      change pieces.map Prod.snd = lex s at tokens
      rw [split] at tokens
      obtain ⟨first, final, rfl, -, single⟩ := List.map_eq_append_iff.mp tokens
      obtain ⟨⟨gap, token⟩, rfl, rfl⟩ := List.map_eq_singleton_iff.mp single
      obtain ⟨front, c, spelled, alone, onLine⟩ := tiles.last_undefined undefined
      exact ⟨_, front, rest, c, tiles, tokens.trans split.symm, spelled, alone, onLine⟩

end DatalogLexer
