import Ambient.Run.Outcome

/-!
# The command line

The program on the files of the machine.
-/

namespace Ambient

/-- The error that the machine gives a number to, which may be negated. -/
def FileError.ofCode (code : UInt32) (details : String) : FileError :=
  let code := min code (0 - code)
  if code = 2 then .notFound
  else if code = 17 then .alreadyExists
  else if code = 20 then .notDirectory
  else if code = 21 then .isDirectory
  else .other (details ++ " (os error " ++ toString code ++ ")")

/-- The error of a file operation on the machine. -/
def FileError.ofMachine : IO.Error → FileError
  | .noFileOrDirectory _ code details => .ofCode code details
  | .alreadyExists _ code details => .ofCode code details
  | .inappropriateType _ code details => .ofCode code details
  | .permissionDenied _ code details => .ofCode code details
  | .invalidArgument _ code details => .ofCode code details
  | .resourceExhausted _ code details => .ofCode code details
  | .resourceBusy code details => .ofCode code details
  | .hardwareFault code details => .ofCode code details
  | .otherError code details => .ofCode code details
  | error => .other (toString error)

/-- A file operation on the machine, with its error as a value. -/
def onMachine {α : Type} (operation : IO α) : IO (Except FileError α) := do
  try return .ok (← operation) catch error => return .error (.ofMachine error)

/-- A path as an entry of the directory that names are relative to. -/
def Path.entry (path : Path) : IO.FS.DirEntry := ⟨path.text, ""⟩

/-- What kind of file there is, if there is any. -/
def Path.fileType? (path : Path) : IO (Option IO.FS.FileType) := do
  try return some (← path.entry.root.metadata).type catch _ => return none

/-- The files below a directory. -/
partial def Path.filesBelow (directory : Path) : IO (List Path) := do
  let mut files := []
  for entry in ← directory.entry.root.readDir do
    let path := directory.join entry.fileName
    match ← path.fileType? with
    | some .dir => files := files ++ (← path.filesBelow)
    | some .file => files := files ++ [path]
    | _ => pure ()
  return files

instance : FileAccess IO where
  isFile path := do return (← path.fileType?) == some .file
  isDirectory path := do return (← path.fileType?) == some .dir
  read path := onMachine (IO.FS.readBinFile path.text)
  filesBelow path := onMachine path.filesBelow
  canonical path := onMachine do
    let _ ← path.entry.root.metadata
    return ⟨toString (← IO.FS.realPath path.text)⟩
  makeDirectory path := onMachine (IO.FS.createDir path.text)
  write path text := onMachine (IO.FS.writeFile path.text text)

end Ambient

def main (words : List String) : IO UInt32 := do
  let errors ← IO.getStderr
  let outcome ← Ambient.execute words (← errors.isTty)
  (← IO.getStdout).putStr outcome.output
  errors.putStr outcome.errors
  return UInt32.ofNat outcome.exitCode
