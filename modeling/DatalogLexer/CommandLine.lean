import DatalogLexer.Lexer
import DatalogLexer.Folder
import DatalogLexer.Text.Utf8
import DatalogLexer.Text.Quoted

set_option autoImplicit false

namespace DatalogLexer

namespace Report

/-- The report `written` so far, with `printed` tokens printed, carried on through the tokens that
follow. -/
def ofTokensFrom (written : String) (printed : Nat) : List Token → String
  | [] => written ++ "Total Tokens = " ++ toString printed
  | token :: rest =>
    let written := written ++ token.render ++ "\n"
    if token.kind = .undefined then written ++ "\nTotal Tokens = Error on line " ++ toString token.line
    else ofTokensFrom written (printed + 1) rest

/-- The report of a token stream. -/
def ofTokens (tokens : List Token) : String :=
  ofTokensFrom "" 0 tokens

end Report

/-- The report of the token stream of a text: each token on a line of its own, then
`Total Tokens = N`, or at an undefined token a blank line and `Total Tokens = Error on line L`. -/
def report (input : String) : String :=
  Report.ofTokens (lex input)

/-- The text with each line break written as one line feed: `\r\n` and a lone `\r` become `\n`. -/
def unifyLineBreaks : List Char → List Char
  | [] => []
  | '\r' :: '\n' :: rest => '\n' :: unifyLineBreaks rest
  | '\r' :: rest => '\n' :: unifyLineBreaks rest
  | c :: rest => c :: unifyLineBreaks rest

/-- No carriage return is left after the line breaks are unified. -/
theorem carriageReturn_not_mem_unifyLineBreaks (text : List Char) :
    '\r' ∉ unifyLineBreaks text := by
  induction text using unifyLineBreaks.induct with
  | case1 => simp [unifyLineBreaks]
  | case2 rest ih => simpa [unifyLineBreaks] using ih
  | case3 rest _ ih => simpa [unifyLineBreaks] using ih
  | case4 c rest _ notReturn ih =>
    simp only [unifyLineBreaks, List.mem_cons, not_or]
    exact ⟨fun same => notReturn same.symm, ih⟩

example : unifyLineBreaks "a\r\nb\rc\n\r".toList = "a\nb\nc\n\n".toList := by decide

/-- Why the command line stopped with an error. -/
inductive Failure where
  /-- The path holds a NUL character, which no path may hold. -/
  | nullByte
  /-- The file at the path could not be read. -/
  | unreadable (path : String) (error : FileError)
  /-- The file's bytes are not UTF-8. -/
  | undecodable (error : Utf8.DecodeError)
  deriving DecidableEq, Repr

namespace Failure

/-- The name of the kind of error. -/
def kind : Failure → String
  | nullByte => "ValueError"
  | unreadable _ .notFound => "FileNotFoundError"
  | unreadable _ .permissionDenied => "PermissionError"
  | unreadable _ .notDirectory => "NotADirectoryError"
  | unreadable _ .isDirectory => "IsADirectoryError"
  | unreadable _ _ => "OSError"
  | undecodable _ => "UnicodeDecodeError"

/-- The words of the error: a file failure gives the system's number and description and the
path, quoted. -/
def message : Failure → String
  | nullByte => "embedded null byte"
  | unreadable path error =>
    "[Errno " ++ toString error.code ++ "] " ++ error.description ++ ": " ++ Quoted.quote path
  | undecodable error => error.message

end Failure

/-- What the command line printed, and the error it stopped with, if any. -/
structure Outcome where
  /-- Everything printed. -/
  stdout : String
  /-- The error the command line stopped with. -/
  failure : Option Failure := none
  deriving DecidableEq, Repr

namespace CommandLine

/-- How the command line is used. -/
def usage : String := "usage: project1 <input file>"

/-- The path of the file to read, when there is exactly one argument and it holds no NUL; the
outcome otherwise. -/
def target (args : List String) : Except Outcome String :=
  match args with
  | [path] =>
    if '\x00' ∈ path.toList then .error { stdout := "", failure := some .nullByte } else .ok path
  | _ => .error { stdout := usage ++ "\n" }

/-- The outcome once the file at `path` has been read: the report of its text and a line feed,
or the error that stopped it. -/
def ofContents (path : String) (contents : Except FileError (List UInt8)) : Outcome :=
  match contents with
  | .error error => { stdout := "", failure := some (.unreadable path error) }
  | .ok bytes =>
    match Utf8.decode bytes with
    | .error error => { stdout := "", failure := some (.undecodable error) }
    | .ok text => { stdout := report (String.ofList (unifyLineBreaks text.toList)) ++ "\n" }

/-- The command line with its arguments, run in a folder: one path, read as UTF-8 with its line
breaks unified, prints the report of its text; any other number of arguments prints the usage. -/
def run (folder : Folder) (args : List String) : Outcome :=
  match target args with
  | .error outcome => outcome
  | .ok path => ofContents path (folder.read path)

end CommandLine

end DatalogLexer
