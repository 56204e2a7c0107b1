import DatalogLexer.Scan

set_option autoImplicit false

namespace DatalogLexer

theorem frontWith_standard_nil : frontWith Recognizer.standard [] = some (.eof, []) := by
  decide +kernel

theorem frontWith_length_pos {recognizers : List Recognizer} {input : List Char}
    {kind : Token.Kind} {text : List Char} (found : frontWith recognizers input = some (kind, text))
    (nonempty : input ≠ []) : 0 < text.length := by
  unfold frontWith at found
  split at found
  · rename_i recognizer read longest
    have positive := Recognizer.longest_pos longest
    simp only [Option.some.injEq, Prod.mk.injEq] at found
    obtain ⟨-, rfl⟩ := found
    cases input with
    | nil => exact absurd rfl nonempty
    | cons c rest => simp only [List.length_take, List.length_cons]; omega
  · split at found
    · simp only [Option.some.injEq, Prod.mk.injEq] at found
      obtain ⟨-, rfl⟩ := found
      simp
    · cases found

/-- Taking the text of a token that does not end the stream leaves a shorter input. -/
theorem length_drop_frontWith_lt {input : List Char} {kind : Token.Kind} {text : List Char}
    (found : frontWith Recognizer.standard input = some (kind, text)) (going : ¬kind.ends = true) :
    (input.drop text.length).length < input.length := by
  cases input with
  | nil =>
    rw [frontWith_standard_nil] at found
    simp only [Option.some.injEq, Prod.mk.injEq] at found
    obtain ⟨rfl, -⟩ := found
    exact absurd rfl going
  | cons c rest =>
    have positive := frontWith_length_pos found (List.cons_ne_nil c rest)
    simp only [List.length_drop, List.length_cons]
    omega

/-- The tokens of `input` when its first character stands on line `line`. -/
def tokensFrom (line : Int) (input : List Char) : List Token :=
  match found : frontWith Recognizer.standard input with
  | none => []
  | some (kind, text) =>
    if going : kind.ends then [{ kind, text := String.ofList text, line }]
    else
      have := length_drop_frontWith_lt found going
      let rest := tokensFrom (line + newlineCount text) (input.drop text.length)
      if kind = .whitespace then rest else { kind, text := String.ofList text, line } :: rest
termination_by input.length
decreasing_by assumption

/-- The token stream of a text, from line 1. -/
def lex (input : String) : List Token :=
  tokensFrom 1 input.toList

/-- The text after `front`, when the text starts with `front`; otherwise the text itself. -/
def removePrefix (front text : List Char) : List Char :=
  if front <+: text then text.drop front.length else text

/-- Where the lexer's loop stands between two turns: the line of the next token, and the input
not read yet. -/
structure Cursor where
  line : Int
  rest : List Char
  deriving DecidableEq, Repr

namespace Cursor

/-- One turn of the loop: the token at the front of the rest, on the cursor's line; the line moves
on by the token's line feeds, and its text is removed from the front of the rest. -/
def turn (cursor : Cursor) : Except FrontError (Token × Cursor) := do
  let token ← frontToken? Recognizer.standard cursor.rest
  return ({ token with line := cursor.line },
    { line := cursor.line + newlineCount token.text.toList,
      rest := removePrefix token.text.toList cursor.rest })

/-- The loop for at most `fuel` turns: the tokens it yields, and whether it stopped within them,
after a token that ends the stream. Whitespace is read and not yielded. -/
def loop : Nat → Cursor → Except FrontError (List Token × Bool)
  | 0, _ => .ok ([], false)
  | fuel + 1, cursor => do
    let (token, next) ← cursor.turn
    if token.kind.ends then return ([token], true)
    let (later, stopped) ← next.loop fuel
    return (if token.kind = .whitespace then later else token :: later, stopped)

end Cursor

end DatalogLexer
