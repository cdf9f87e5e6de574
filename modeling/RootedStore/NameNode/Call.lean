import RootedStore.Error.Client
import RootedStore.Program
import RootedStore.Text.Bytes
import RootedStore.Timestamp

/-!
# Calls to a namenode

What a store asks of a namenode, as data. A handle is a value that the client hands out and gets back
with the calls that use it. A client is a function that replies to calls from a state; a program asks a
client, and asks between calls whether its request was interrupted.
-/

namespace RootedStore

structure FileStatus where
  name : String
  length : UInt64
  modified : Timestamp
  isDir : Bool
  deriving DecidableEq, Repr

structure WriteHandle where
  path : String
  closed : Bool
  deriving DecidableEq, Repr

/-- Where the content of an open file comes from. -/
inductive ReadSource where
  /-- The content as it was when the file was opened. -/
  | snapshot (content : Bytes)
  /-- Content that is asked for by its path when it is needed. -/
  | remote (path : String)
  deriving DecidableEq, Repr

structure ReadHandle where
  source : ReadSource
  /-- The length of the file when it was opened. -/
  length : UInt64
  position : UInt64
  deriving DecidableEq, Repr

inductive StreamErrorKind where
  | interrupted
  | timedOut
  | brokenPipe
  | unexpectedEof
  | other
  deriving DecidableEq, Repr

structure StreamError where
  kind : StreamErrorKind
  message : String
  deriving DecidableEq, Repr

def StreamError.ofInterruption : Interruption → StreamError
  | .cancelled => ⟨.interrupted, Interruption.message .cancelled⟩
  | .deadlineExceeded => ⟨.timedOut, Interruption.message .deadlineExceeded⟩

inductive StreamItem where
  | chunk (bytes : Bytes)
  | failure (e : StreamError)
  deriving DecidableEq, Repr

inductive Call where
  | content (path : String)
  | openRead (path : String)
  | create (path : String)
  | openAppend (path : String)
  /-- Removes a file or an empty directory. -/
  | remove (path : String)
  | removeTree (path : String)
  /-- Gives a path another name; a file of that name is replaced. -/
  | rename (source target : String)
  | status (path : String)
  | entries (path : String)
  /-- Creates a directory, and those missing above it, with a mode. -/
  | makeDirs (path : String) (mode : UInt32)
  | write (handle : WriteHandle) (data : Bytes)
  | close (handle : WriteHandle)
  /-- Positions a handle, at the end of the file at most. -/
  | seek (handle : ReadHandle) (offset : UInt64)
  | stream (handle : ReadHandle)
  deriving DecidableEq, Repr

abbrev Call.Result : Call → Type
  | .content _ => Bytes
  | .openRead _ => ReadHandle
  | .create _ | .openAppend _ => WriteHandle
  | .status _ => FileStatus
  | .entries _ => List FileStatus
  | .seek _ _ => ReadHandle
  | .stream _ => List StreamItem
  | .remove _ | .removeTree _ | .rename _ _ | .makeDirs _ _ | .write _ _ | .close _ => Unit

abbrev Call.Reply (c : Call) : Type := Except ClientError c.Result

/-- The kinds of calls by which failures are arranged. -/
inductive CallKind where
  | content
  | openRead
  | create
  | openAppend
  | remove
  | removeTree
  | rename
  | status
  | entries
  | makeDirs
  | write
  | close
  deriving DecidableEq, Repr

/-- The kind of a call; none for those on a handle that is read from. -/
def Call.kind? : Call → Option CallKind
  | .content _ => some .content
  | .openRead _ => some .openRead
  | .create _ => some .create
  | .openAppend _ => some .openAppend
  | .remove _ => some .remove
  | .removeTree _ => some .removeTree
  | .rename _ _ => some .rename
  | .status _ => some .status
  | .entries _ => some .entries
  | .makeDirs _ _ => some .makeDirs
  | .write _ _ => some .write
  | .close _ => some .close
  | .seek _ _ | .stream _ => none

namespace CallKind

def all : List CallKind :=
  [.content, .openRead, .create, .openAppend, .remove, .removeTree, .rename, .status, .entries,
    .makeDirs, .write, .close]

def name : CallKind → String
  | .content => "read_file"
  | .openRead => "open"
  | .create => "create"
  | .openAppend => "append"
  | .remove => "remove"
  | .removeTree => "remove_all"
  | .rename => "rename"
  | .status => "stat"
  | .entries => "read_dir"
  | .makeDirs => "mkdir_all"
  | .write => "write"
  | .close => "close"

def ofName? (s : String) : Option CallKind := all.find? (·.name = s)

end CallKind

/-- What a program that works for a request asks. -/
inductive Question where
  /-- Whether the request was interrupted, before a call. -/
  | interruption
  /-- Whether an interruption of the request has been noticed, while a stream is read. -/
  | signal
  | call (c : Call)
  deriving DecidableEq, Repr

abbrev Question.Reply : Question → Type
  | .interruption | .signal => Option Interruption
  | .call c => c.Reply

abbrev Work (α : Type) := Program Question.Reply α

/-- A client replies to calls from a state. -/
abbrev Client (σ : Type) := (c : Call) → σ → c.Reply × σ

/-- Replies to the questions of a request whose standing does not change on the way. -/
def Client.answer {σ : Type} (client : Client σ) (standing : Standing) :
    (q : Question) → σ → q.Reply × σ
  | .interruption, s => (standing.checked, s)
  | .signal, s => (standing.polled, s)
  | .call c, s => client c s

def Work.run {σ α : Type} (work : Work α) (client : Client σ) (standing : Standing)
    (s : σ) : α × σ :=
  Program.run (client.answer standing) work s

/-- Makes a call, unless the request was interrupted before. -/
def Call.guarded (c : Call) : Work c.Reply :=
  .ask .interruption fun
    | some why => .done (.error (.interrupted why))
    | none => .ask (.call c) .done

end RootedStore
