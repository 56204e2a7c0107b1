import DatalogLexer.Unicode.Printable

set_option autoImplicit false

namespace DatalogLexer.Hex

/-- The lowercase hexadecimal digit of a value below sixteen. -/
def digit (value : Nat) : Char :=
  if value < 10 then Char.ofNat (0x30 + value) else Char.ofNat (0x57 + value)

/-- The last `width` hexadecimal digits of `value`, most significant first, zeros in front. -/
def digits : Nat → Nat → List Char
  | 0, _ => []
  | width + 1, value => digits width (value / 16) ++ [digit (value % 16)]

@[simp]
theorem length_digits (width value : Nat) : (digits width value).length = width := by
  induction width generalizing value with
  | zero => rfl
  | succ width ih => simp [digits, ih]

example : digits 2 0xff = ['f', 'f'] ∧ digits 4 0xa0 = ['0', '0', 'a', '0'] := by decide

end DatalogLexer.Hex

namespace DatalogLexer.Quoted

/-- The quote that encloses a text: a double quote when the text holds a single quote and no
double quote, a single quote otherwise. -/
def mark (text : List Char) : Char :=
  if '\'' ∈ text ∧ '"' ∉ text then '"' else '\''

/-- How a character is written between quotes of the kind `quote`: the quote and the backslash
behind a backslash, tab, line feed and carriage return by letter, a printable character as itself,
any other by its code point in hexadecimal, with two, four or eight digits. -/
def escape (quote c : Char) : List Char :=
  if c = quote ∨ c = '\\' then ['\\', c]
  else if c = '\t' then ['\\', 't']
  else if c = '\n' then ['\\', 'n']
  else if c = '\r' then ['\\', 'r']
  else if Unicode.isPrintable c then [c]
  else if c.toNat < 0x100 then '\\' :: 'x' :: Hex.digits 2 c.toNat
  else if c.toNat < 0x10000 then '\\' :: 'u' :: Hex.digits 4 c.toNat
  else '\\' :: 'U' :: Hex.digits 8 c.toNat

/-- The text between its quotes, each character written by `escape`. -/
def quote (text : String) : String :=
  let chars := text.toList
  let enclosing := mark chars
  String.ofList (enclosing :: chars.flatMap (escape enclosing) ++ [enclosing])

example : quote "missing.txt" = "'missing.txt'" := by decide
example : quote "it's" = "\"it's\"" := by decide
example : quote "a'b\"c\n" = "'a\\'b\"c\\n'" := by decide

end DatalogLexer.Quoted
