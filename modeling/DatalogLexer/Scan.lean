import DatalogLexer.Recognizer

set_option autoImplicit false

namespace DatalogLexer

namespace Recognizer

/-- The first recognizer of the list with the largest read, with that read, if it is positive. -/
def longest (recognizers : List Recognizer) (input : List Char) : Option (Recognizer × Int) :=
  recognizers.foldl
    (fun best recognizer =>
      let read := recognizer.read input
      if ((best.map Prod.snd).getD 0) < read then some (recognizer, read) else best)
    none

private theorem foldl_longest_pos (input : List Char) (recognizers : List Recognizer) :
    ∀ (start : Option (Recognizer × Int)),
      (∀ r n, start = some (r, n) → 0 < n) →
      ∀ r n, recognizers.foldl
          (fun best recognizer =>
            let read := recognizer.read input
            if ((best.map Prod.snd).getD 0) < read then some (recognizer, read) else best)
          start = some (r, n) → 0 < n := by
  induction recognizers with
  | nil => intro start positive r n found; exact positive r n found
  | cons head rest ih =>
    intro start positive
    apply ih
    intro r n found
    simp only at found
    split at found
    · rename_i larger
      simp only [Option.some.injEq, Prod.mk.injEq] at found
      obtain ⟨rfl, rfl⟩ := found
      cases start with
      | none => simpa using larger
      | some best =>
        have := positive best.1 best.2 rfl
        simp only [Option.map_some, Option.getD_some] at larger
        omega
    · exact positive r n found

theorem longest_pos {recognizers : List Recognizer} {input : List Char} {r : Recognizer} {n : Int}
    (found : longest recognizers input = some (r, n)) : 0 < n :=
  foldl_longest_pos input recognizers none (by simp) r n found

end Recognizer

/-- The kind and text of the token at the front: what the first longest match read, or the first
character alone, undefined; nothing when nothing reads an empty input. -/
def frontWith (recognizers : List Recognizer) (input : List Char) :
    Option (Token.Kind × List Char) :=
  match Recognizer.longest recognizers input with
  | some (recognizer, read) =>
    let text := input.take read.toNat
    some (recognizer.kindOf text, text)
  | none =>
    match input with
    | c :: _ => some (.undefined, [c])
    | [] => none

/-- Why no token could be scanned. -/
inductive ScanError where
  /-- No recognizer read anything, and the input is empty: there is no first character to
  report as undefined. -/
  | emptyInput
  deriving DecidableEq, Repr

/-- The message that goes with a scan error. -/
def ScanError.message : ScanError → String
  | .emptyInput => "string index out of range"

/-- The token at the front of the input, on line 0, chosen by `frontWith`. -/
def scan (recognizers : List Recognizer) (input : List Char) : Except ScanError Token :=
  match frontWith recognizers input with
  | some (kind, text) => .ok { kind, text := String.ofList text }
  | none => .error .emptyInput

/-- Why the token at the front could not be taken when every recognizer reports its token. -/
inductive FrontError where
  /-- A recognizer's token could not be made from the text it read. -/
  | token (error : TokenError)
  /-- Nothing reads the input, and it has no first character. -/
  | scan (error : ScanError)
  deriving DecidableEq, Repr

/-- The message that goes with a front error. -/
def FrontError.message : FrontError → String
  | .token error => error.message
  | .scan error => error.message

/-- The best report so far once the next recognizer has reported: the new one wins only when its
read is strictly larger. -/
def keepLonger (input : List Char) (best : Int × Token) (recognizer : Recognizer) :
    Except FrontError (Int × Token) := do
  let (read, token) ← (recognizer.readToken? input).mapError .token
  return if best.1 < read then (read, token) else best

/-- The token at the front, on line 0, with every recognizer's report made in full. The best read
starts at `0`, so with no positive read the first character is undefined on its own. -/
def frontToken? (recognizers : List Recognizer) (input : List Char) : Except FrontError Token := do
  let best ← recognizers.foldlM (keepLonger input) (0, { kind := .undefined, text := "" })
  if best.1 = 0 then
    match input with
    | c :: _ => return { kind := .undefined, text := String.ofList [c] }
    | [] => throw (.scan .emptyInput)
  else return best.2

end DatalogLexer
