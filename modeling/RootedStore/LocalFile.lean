import RootedStore.Text.Bytes

/-!
# Local files

What a name in the local file system leads to, and what comes of reading and writing it.
-/

namespace RootedStore

inductive LocalError where
  | notFound
  | notDirectory
  | isDirectory
  | nameTooLong
  | notText
  deriving DecidableEq, Repr

def LocalError.message : LocalError → String
  | .notFound => "No such file or directory (os error 2)"
  | .notDirectory => "Not a directory (os error 20)"
  | .isDirectory => "Is a directory (os error 21)"
  | .nameTooLong => "File name too long (os error 36)"
  | .notText => "stream did not contain valid UTF-8"

inductive LocalFile where
  /-- Nothing is there; a file can be made. -/
  | missing
  /-- Nothing is there and no file can be: why reading fails, and why writing does. -/
  | nowhere (reading writing : LocalError)
  | directory
  | file (content : Bytes)
  deriving DecidableEq, Repr

namespace LocalFile

def exists? : LocalFile → Bool
  | .missing | .nowhere _ _ => false
  | .directory | .file _ => true

def read : LocalFile → Except LocalError Bytes
  | .missing => .error .notFound
  | .nowhere why _ => .error why
  | .directory => .error .isDirectory
  | .file content => .ok content

def readText (f : LocalFile) : Except LocalError String := do
  match Text.decode? (← f.read) with
  | some s => return s
  | none => throw .notText

/-- What the name leads to once a text was written to it. -/
def writeText (f : LocalFile) (s : String) : Except LocalError LocalFile :=
  match f with
  | .nowhere _ why => .error why
  | .directory => .error .isDirectory
  | .missing | .file _ => .ok (.file (Text.encode s))

end LocalFile

end RootedStore
