import Ambient.Path

namespace Ambient

/-!
# Files

What the program does with files, over any kind of file system. A tree of files
in memory is one; the files of the machine are another.
-/

/-- Why a file operation failed. -/
inductive FileError
  | notFound
  | alreadyExists
  | notDirectory
  | isDirectory
  /-- The content is not text. -/
  | notText
  | other (text : String)
deriving DecidableEq, Repr

def FileError.message : FileError → String
  | .notFound => "No such file or directory (os error 2)"
  | .alreadyExists => "File exists (os error 17)"
  | .notDirectory => "Not a directory (os error 20)"
  | .isDirectory => "Is a directory (os error 21)"
  | .notText => "stream did not contain valid UTF-8"
  | .other text => text

/-- Access to a file system. -/
class FileAccess (m : Type → Type) where
  isFile : Path → m Bool
  isDirectory : Path → m Bool
  read : Path → m (Except FileError ByteArray)
  /-- The files below a directory, at any depth, each as a path through it. -/
  filesBelow : Path → m (Except FileError (List Path))
  /-- The path from the root that leads to the same place without detours. -/
  canonical : Path → m (Except FileError Path)
  /-- Makes a directory inside one that exists. -/
  makeDirectory : Path → m (Except FileError Unit)
  /-- Writes a whole file, which need not have been there. -/
  write : Path → String → m (Except FileError Unit)

namespace FileAccess

variable {m : Type → Type} [Monad m] [FileAccess m]

/-- The text in a file. -/
def readText (path : Path) : m (Except FileError String) := do
  match ← read path with
  | .error e => return .error e
  | .ok bytes =>
    match String.fromUTF8? bytes with
    | some text => return .ok text
    | none => return .error .notText

/-- Makes a directory and those above it, given its steps with the last one
first. A directory that is already there will do. -/
def makeDirectoriesUp : List Step → m (Except FileError Unit)
  | [] => return .ok ()
  | step :: above => do
    let path := Path.ofSteps (step :: above).reverse
    let orThere (e : FileError) : m (Except FileError Unit) := do
      if ← isDirectory path then return .ok () else return .error e
    match ← makeDirectory path with
    | .ok () => return .ok ()
    | .error .notFound =>
      match ← makeDirectoriesUp above with
      | .error e => return .error e
      | .ok () =>
        match ← makeDirectory path with
        | .ok () => return .ok ()
        | .error e => orThere e
    | .error e => orThere e

/-- Makes a directory and those above it as far as they are not there. -/
def makeDirectories (steps : List Step) : m (Except FileError Unit) :=
  makeDirectoriesUp steps.reverse

end FileAccess

end Ambient
