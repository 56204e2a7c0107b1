set_option autoImplicit false

namespace DatalogLexer

/-- Whether a character is one of the four blanks: space, tab, carriage return, line feed. -/
def isBlank (c : Char) : Bool :=
  c == ' ' || c == '\t' || c == '\r' || c == '\n'

/-- The number of line feeds in a text; a carriage return starts no new line. -/
def newlineCount (text : List Char) : Nat :=
  text.count '\n'

@[simp] theorem newlineCount_nil : newlineCount [] = 0 := rfl

theorem newlineCount_append (first second : List Char) :
    newlineCount (first ++ second) = newlineCount first + newlineCount second :=
  List.count_append

/-- The syntactic kind of a token. -/
inductive Token.Kind where
  | colon
  | colonDash
  | comma
  | comment
  | undefined
  | eof
  | facts
  | ident
  | leftParen
  | period
  | queries
  | qMark
  | rightParen
  | rules
  | schemes
  | string
  | whitespace
  deriving DecidableEq, Repr

namespace Token.Kind

/-- The upper-case name under which tokens of a kind are printed. -/
def name : Kind → String
  | colon => "COLON"
  | colonDash => "COLON_DASH"
  | comma => "COMMA"
  | comment => "COMMENT"
  | undefined => "UNDEFINED"
  | eof => "EOF"
  | facts => "FACTS"
  | ident => "ID"
  | leftParen => "LEFT_PAREN"
  | period => "PERIOD"
  | queries => "QUERIES"
  | qMark => "Q_MARK"
  | rightParen => "RIGHT_PAREN"
  | rules => "RULES"
  | schemes => "SCHEMES"
  | string => "STRING"
  | whitespace => "WHITESPACE"

/-- Every kind, each once. -/
def all : List Kind :=
  [colon, colonDash, comma, comment, undefined, eof, facts, ident, leftParen, period, queries,
    qMark, rightParen, rules, schemes, string, whitespace]

/-- The kind printed under `text`, if there is one. -/
def ofName? (text : String) : Option Kind :=
  all.find? fun kind => kind.name == text

/-- A kind that ends a token stream: the end of input, or a character that begins no token. -/
def ends : Kind → Bool
  | eof => true
  | undefined => true
  | _ => false

end Token.Kind

/-- A token: its kind, the text it was made from, and the line on which that text starts. -/
structure Token where
  kind : Token.Kind
  text : String
  line : Int := 0
  deriving DecidableEq, Repr

/-- Why a token could not be made. -/
inductive TokenError where
  /-- A whitespace token was asked for with a text that holds something other than blanks. -/
  | notBlank (text : String)
  deriving DecidableEq, Repr

/-- A failed blank check comes with no message of its own. -/
def TokenError.message : TokenError → String
  | .notBlank _ => ""

namespace Token

/-- The printed form `(KIND,"text",line)`. The text is written as it is, quotes and line feeds
included. -/
def render (token : Token) : String :=
  "(" ++ token.kind.name ++ ",\"" ++ token.text ++ "\"," ++ toString token.line ++ ")"

/-- A token of the given kind and text, on line 0. Only a whitespace token checks its text, and
every character of it must be a blank. -/
def make? (kind : Kind) (text : String) : Except TokenError Token :=
  if kind = .whitespace ∧ text.toList.all isBlank = false then .error (.notBlank text)
  else .ok { kind, text }

example : (Token.mk .colon ":" 10).render = "(COLON,\":\",10)" := by decide

end Token

end DatalogLexer
