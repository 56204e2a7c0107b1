import DatalogLexer.Machine
import DatalogLexer.Token
import DatalogLexer.Unicode.Alphanumeric

set_option autoImplicit false

namespace DatalogLexer

/-- The fixed texts of the language: punctuation and the four section keywords. -/
inductive FixedText where
  | colon
  | colonDash
  | comma
  | period
  | qMark
  | leftParen
  | rightParen
  | schemes
  | facts
  | rules
  | queries
  deriving DecidableEq, Repr

namespace FixedText

/-- The text itself. -/
def text : FixedText → String
  | colon => ":"
  | colonDash => ":-"
  | comma => ","
  | period => "."
  | qMark => "?"
  | leftParen => "("
  | rightParen => ")"
  | schemes => "Schemes"
  | facts => "Facts"
  | rules => "Rules"
  | queries => "Queries"

/-- The kind of token the text makes. -/
def kind : FixedText → Token.Kind
  | colon => .colon
  | colonDash => .colonDash
  | comma => .comma
  | period => .period
  | qMark => .qMark
  | leftParen => .leftParen
  | rightParen => .rightParen
  | schemes => .schemes
  | facts => .facts
  | rules => .rules
  | queries => .queries

end FixedText

/-- The section keywords, which are no identifiers. -/
def keywords : List (List Char) :=
  ["Schemes".toList, "Facts".toList, "Rules".toList, "Queries".toList]

/-- The quoted string that holds `content`, each of its quotes written twice. -/
def stringLiteral (content : List Char) : List Char :=
  '\'' :: content.flatMap (fun c => if c = '\'' then ['\'', '\''] else [c]) ++ ['\'']

namespace Machine

/-- A machine that reads one fixed text: in state `k` it has matched the first `k` characters. -/
def literal (text : List Char) : Machine where
  start := .reading 0
  move state _ symbol :=
    match text[state]? with
    | some expected =>
      if symbol = some expected then
        if state + 1 = text.length then .acceptTaking else .next (state + 1)
      else .reject
    | none => .reject

/-- A machine that reads the end of input: the end counts as one symbol read. -/
def endOfInput : Machine where
  start := .reading 0
  move _ _ symbol := if symbol = none then .acceptTaking else .reject

/-- A machine that reads the longest run of blanks; it rejects when the run is empty. -/
def blankRun : Machine where
  start := .reading 0
  move _ read symbol :=
    if symbol.any isBlank then .next 0 else if 0 < read then .acceptBefore else .reject

/-- A machine that reads a comment: `#` and the rest of its line, not the line feed. -/
def lineComment : Machine where
  start := .reading 0
  move state _ symbol :=
    match state with
    | 0 => if symbol = some '#' then .next 1 else .reject
    | _ => if symbol = none ∨ symbol = some '\n' then .acceptBefore else .next 1

/-- A machine that reads a quoted string: in state `1` it is inside, in state `2` it has just read
a quote, which closes the string unless another follows. State `3` rejects; nothing leads there. -/
def quotedString : Machine where
  start := .reading 0
  move state _ symbol :=
    match state, symbol with
    | 0, some '\'' => .next 1
    | 1, some '\'' => .next 2
    | 1, some _ => .next 1
    | 2, some '\'' => .next 1
    | 2, _ => .acceptBefore
    | _, _ => .reject

/-- A machine that reads an identifier: a letter, then as many letters and numbers as follow. -/
def identifier : Machine where
  start := .reading 0
  move state _ symbol :=
    match state with
    | 0 => if symbol.any Unicode.isLetter then .next 1 else .reject
    | _ => if symbol.any Unicode.isLetterOrNumber then .next 1 else .acceptBefore

/-- A machine that has halted before reading anything, accepting or not. -/
def halted (accepting : Bool) : Machine where
  start := if accepting then .accepted else .rejected
  move _ _ _ := .reject

end Machine

/-- A recognizer of one token class of the language, or a machine that halts at once. -/
inductive Recognizer where
  /-- One fixed text. -/
  | fixed (text : FixedText)
  /-- The end of input. -/
  | endOfInput
  /-- A run of blanks. -/
  | blanks
  /-- A comment. -/
  | comment
  /-- A quoted string. -/
  | quoted
  /-- An identifier. -/
  | identifier
  /-- A machine that halts before reading, and whose token is always undefined. -/
  | halted (accepting : Bool)
  deriving DecidableEq, Repr

namespace Recognizer

/-- The machine that does the reading. -/
def machine : Recognizer → Machine
  | fixed text => .literal text.text.toList
  | endOfInput => .endOfInput
  | blanks => .blankRun
  | comment => .lineComment
  | quoted => .quotedString
  | identifier => .identifier
  | halted accepting => .halted accepting

/-- How many own states the machine has; they are numbered from `0`. -/
def stateCount : Recognizer → Nat
  | fixed text => text.text.length
  | endOfInput => 1
  | blanks => 1
  | comment => 2
  | quoted => 4
  | identifier => 2
  | halted _ => 0

/-- The kind of the token a recognizer makes from a text: a fixed text and the end of input make
their own kind only from their own text, and a keyword read as an identifier is undefined. -/
def kindOf : Recognizer → List Char → Token.Kind
  | fixed text, value => if value = text.text.toList then text.kind else .undefined
  | endOfInput, value => if value = [] then .eof else .undefined
  | blanks, _ => .whitespace
  | comment, _ => .comment
  | quoted, _ => .string
  | identifier, value => if value ∈ keywords then .undefined else .ident
  | halted _, _ => .undefined

/-- The token a recognizer makes from a text, on line 0. -/
def token? (recognizer : Recognizer) (text : String) : Except TokenError Token :=
  Token.make? (recognizer.kindOf text.toList) text

/-- How many characters the recognizer reads from the front of the input. -/
def read (recognizer : Recognizer) (input : List Char) : Int :=
  recognizer.machine.run input

/-- The text a recognizer reads: as many characters from the front as its read count. -/
def lexeme (recognizer : Recognizer) (input : List Char) : List Char :=
  input.take (recognizer.read input).toNat

/-- A run as it reports back: the read and the token of the text read. The token is made on a
rejection too, so a whitespace token's check runs on every run of the blank machine. -/
def readToken? (recognizer : Recognizer) (input : List Char) : Except TokenError (Int × Token) := do
  let token ← recognizer.token? (String.ofList (recognizer.lexeme input))
  return (recognizer.read input, token)

/-- The recognizers of the language, in the order that breaks ties between equal reads. -/
def standard : List Recognizer :=
  [fixed .colon, endOfInput, blanks, fixed .comma, fixed .period, fixed .qMark, fixed .leftParen,
    fixed .rightParen, fixed .colonDash, comment, fixed .schemes, quoted, fixed .rules,
    fixed .queries, fixed .facts, identifier]

end Recognizer

end DatalogLexer
