set_option autoImplicit false

namespace DatalogLexer

/-- Why the file a path names could not be read. -/
inductive FileError where
  /-- No entry has a name on the path. -/
  | notFound
  /-- The file may not be read. -/
  | permissionDenied
  /-- A component of the path follows a file. -/
  | notDirectory
  /-- The path names a folder. -/
  | isDirectory
  /-- The path, or a name on it, is too long. -/
  | nameTooLong
  /-- Any other failure, with the system's number and description of it. -/
  | other (code : Nat) (description : String)
  deriving DecidableEq, Repr

namespace FileError

/-- The system's number for the failure. -/
def code : FileError → Nat
  | notFound => 2
  | permissionDenied => 13
  | notDirectory => 20
  | isDirectory => 21
  | nameTooLong => 36
  | other code _ => code

/-- The system's description of the failure. -/
def description : FileError → String
  | notFound => "No such file or directory"
  | permissionDenied => "Permission denied"
  | notDirectory => "Not a directory"
  | isDirectory => "Is a directory"
  | nameTooLong => "File name too long"
  | other _ description => description

/-- The failure with a system number: the five named ones by their numbers, others as they come. -/
def ofCode (code : Nat) (description : String) : FileError :=
  match code with
  | 2 => notFound
  | 13 => permissionDenied
  | 20 => notDirectory
  | 21 => isDirectory
  | 36 => nameTooLong
  | _ => other code description

end FileError

/-- The folder the program runs in: its files by name, each with its bytes. Of every other folder
no entry is known. -/
structure Folder where
  /-- The files, by name. -/
  files : List (String × List UInt8)

/-- Where a walk along a path stands. -/
inductive Place where
  /-- In the working folder. -/
  | working
  /-- In a folder of which no entry is known. -/
  | elsewhere
  /-- On a file of the working folder, with its bytes. -/
  | file (bytes : List UInt8)
  deriving DecidableEq, Repr

namespace Folder

/-- The longest name a folder entry may have, in bytes. -/
def nameLimit : Nat := 255

/-- The longest path, in bytes. -/
def pathLimit : Nat := 4095

/-- The place one component of a path leads to from `place`: `.` and an empty component stay, `..`
goes up, and any other name is looked up. -/
def enter (folder : Folder) (place : Place) (name : String) : Except FileError Place :=
  match place with
  | .file _ => .error .notDirectory
  | _ =>
    if name = "" ∨ name = "." then .ok place
    else if name = ".." then .ok .elsewhere
    else if nameLimit < name.utf8ByteSize then .error .nameTooLong
    else
      match place, folder.files.find? (·.1 = name) with
      | .working, some (_, bytes) => .ok (.file bytes)
      | _, _ => .error .notFound

/-- The place a path leads to: from the root when it starts with a slash, from the working
folder otherwise. An empty path leads nowhere. -/
def locate (folder : Folder) (path : String) : Except FileError Place :=
  if path = "" then .error .notFound
  else if pathLimit < path.utf8ByteSize then .error .nameTooLong
  else
    let start := if path.startsWith "/" then Place.elsewhere else Place.working
    (path.splitOn "/").foldlM folder.enter start

/-- The bytes of the file a path names. -/
def read (folder : Folder) (path : String) : Except FileError (List UInt8) := do
  match ← folder.locate path with
  | .file bytes => .ok bytes
  | _ => .error .isDirectory

end Folder

end DatalogLexer
