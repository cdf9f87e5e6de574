import RootedStore.Json.Decode
import RootedStore.NameNode.Call
import RootedStore.Path.Basic
import RootedStore.Text.Blank
import RootedStore.WebHdfs.Exchange

/-!
# Reading answers

What the body of an answer says: a truth value, the status of a file, the statuses of the entries of a
directory, or the exception that a failed request ended with.
-/

namespace RootedStore.WebHdfs

open RootedStore.Json (Tree)

/-- The text as which a body is read. A malformed sequence is spelled as halves of characters, so that it may
stand in a string that is not read, and nowhere else. -/
def readable (body : Bytes) : String :=
  String.ofList ((Text.units body).flatMap fun
    | some c => [c]
    | none => Char.ofNat 0xFFFD :: "\\ud800\\ud800".toList)

def treeOfBytes? (body : Bytes) : Option Tree := Tree.parse? (readable body)

def envelope? (key : String) (t : Tree) : Option (Option Tree) := do
  match ← t.record? [key] with
  | [field] => return field
  | _ => none

/-- The value of a field that may be left out. -/
def fieldOr (default : α) (read : Tree → Option α) : Option Tree → Option α
  | none => some default
  | some t => read t

def boolean? (t : Tree) : Option Bool := do (← envelope? "boolean" t).bind Tree.bool?

structure WireStatus where
  pathSuffix : String
  length : UInt64
  /-- Milliseconds. -/
  modified : Int
  kind : String
  deriving DecidableEq, Repr

namespace WireStatus

def ofTree? (t : Tree) : Option WireStatus := do
  match ← t.record? ["pathSuffix", "length", "modificationTime", "type"] with
  | [suffix, length, modified, kind] =>
    return ⟨← fieldOr "" Tree.string? suffix, ← fieldOr 0 Tree.uint64? length,
      ← fieldOr 0 Tree.int64? modified, ← kind.bind Tree.string?⟩
  | _ => none

def isDir (w : WireStatus) : Bool := w.kind = "DIRECTORY"

/-- The status, under another name if the report has none. -/
def toStatus (w : WireStatus) (name : String) : FileStatus :=
  ⟨if w.pathSuffix.isEmpty then name else w.pathSuffix, w.length,
    Timestamp.ofMilliseconds w.modified, w.isDir⟩

end WireStatus

def status? (t : Tree) : Option WireStatus := do
  WireStatus.ofTree? (← (← envelope? "FileStatus" t))

def statusList? : Tree → Option (List WireStatus)
  | .array ts => ts.mapM WireStatus.ofTree?
  | _ => none

def statuses? (t : Tree) : Option (List WireStatus) := do
  let list ← (← envelope? "FileStatuses" t)
  fieldOr [] statusList? (← envelope? "FileStatus" list)

def exception? (t : Tree) : Option (String × String) := do
  let body ← (← envelope? "RemoteException" t)
  match ← body.record? ["exception", "message"] with
  | [name, message] => return (← name.bind Tree.string?, ← fieldOr "" Tree.string? message)
  | _ => none

/-- The error of a failed request about a path: the exception in its body, or what the status says. -/
def failure (status : Nat) (body path : String) : ClientError :=
  match (Tree.parse? body).bind exception? with
  | some ("FileNotFoundException", _) => .notFound path
  | some ("FileAlreadyExistsException", _) => .alreadyExists path
  | some ("AccessControlException", message) => .permissionDenied message
  | some ("SecurityException", message) => .permissionDenied message
  | some (name, message) => .exception name message
  | none =>
    if status = 404 then .notFound path
    else if status = 401 ∨ status = 403 then
      .permissionDenied (path ++ ": " ++ statusText status)
    else
      let text := Text.trim body
      .exception ("HTTP " ++ toString status)
        (if text.isEmpty then (reason? status).getD "" else text)

/-- The answer to a request about a path, if the request succeeded. A failed one whose body did not
arrive counts as one without a body. -/
def accept (path : String) : Outcome → Except ClientError Response
  | .error why => .error (.http why)
  | .ok r =>
    if r.isSuccess then .ok r
    else .error (failure r.status (if r.complete then r.text else "") path)

def decoded (read : Tree → Option α) (r : Response) : Except ClientError α := do
  match (treeOfBytes? (← r.content)).bind read with
  | some a => return a
  | none => throw (.http .undecodable)

end RootedStore.WebHdfs
