import DatalogLexer.CommandLine

set_option autoImplicit false

open DatalogLexer

/-- The system's number of a failure to read, with its description. -/
def systemCode : IO.Error → Nat × String
  | .alreadyExists _ code details | .otherError code details | .resourceBusy code details
  | .resourceVanished code details | .unsupportedOperation code details
  | .hardwareFault code details | .unsatisfiedConstraints code details
  | .illegalOperation code details | .protocolError code details | .timeExpired code details
  | .interrupted _ code details | .noFileOrDirectory _ code details
  | .invalidArgument _ code details | .permissionDenied _ code details
  | .resourceExhausted _ code details | .inappropriateType _ code details
  | .noSuchThing _ code details => (code.toNat, details)
  | .unexpectedEof => (5, "Input/output error")
  | .userError message => (5, message)

/-- The bytes of the file at a path, or why they could not be read. -/
def readContents (path : String) : IO (Except FileError (List UInt8)) := do
  try
    return .ok (← IO.FS.readBinFile path).toList
  catch error =>
    let (code, description) := systemCode error
    return .error (FileError.ofCode code description)

/-- Prints the report of the file its one argument names; an error goes to the error stream as
its kind and words, with exit status 1. -/
def main (args : List String) : IO UInt32 := do
  let outcome ← match CommandLine.target args with
    | .error outcome => pure outcome
    | .ok path => do pure (CommandLine.ofContents path (← readContents path))
  IO.print outcome.stdout
  match outcome.failure with
  | none => return 0
  | some failure =>
    IO.eprintln (failure.kind ++ ": " ++ failure.message)
    return 1
