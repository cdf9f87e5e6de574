import RootedStore.Store.Resolve

/-!
# Write sessions

A session writes to one path through one handle. It is open at first; closing, committing and
cancelling end it in different ways. The handle is given up with the first attempt to close it,
whatever comes of that. Every operation returns the session as it is afterwards next to its result.
-/

namespace RootedStore

structure WriteSession where
  /-- The handle, as long as no attempt was made to close it. -/
  handle : Option WriteHandle
  path : String
  /-- The size of the object: what was there before an append, and what was written. -/
  size : UInt64
  state : WriteState
  deriving DecidableEq, Repr

namespace WriteSession

def start (handle : WriteHandle) (path : String) (size : UInt64) : WriteSession :=
  ⟨some handle, path, size, .opened⟩

abbrev Step (α : Type) := Work (Except StorageError α × WriteSession)

def report (s : WriteSession) (e : ClientError) : StorageError :=
  .ofClient driverName s.path e

def releaseHandle (s : WriteSession) : Step Unit :=
  match s.handle with
  | none => .done (.ok (), s)
  | some h =>
    (Call.close h).guarded.bind fun r => .done (r.mapError s.report, { s with handle := none })

/-- Writes data and returns how many bytes were taken, which is all of them. -/
def write (data : Bytes) (s : WriteSession) : Step Nat :=
  match s.state, s.handle with
  | .opened, some h =>
    (Call.write h data).guarded.bind fun
      | .ok _ => .done (.ok data.length, { s with size := s.size + UInt64.ofNat data.length })
      | .error e => .done (.error (s.report e), s)
  | .opened, none => .done (.error (.writerClosed .closed), s)
  | state, _ => .done (.error (.writerClosed state), s)

/-- Ends an open session, and closes the handle if that was not tried before. -/
def close (s : WriteSession) : Step Unit :=
  match s.state with
  | .opened => { s with state := .closed }.releaseHandle
  | _ => s.releaseHandle

/-- Closes the handle of an open session and ends the session if that succeeds. -/
def commit (s : WriteSession) : Step Unit :=
  match s.state with
  | .opened =>
    s.releaseHandle.bind fun
      | (.ok _, s') => .done (.ok (), { s' with state := .committed })
      | (.error e, s') => .done (.error e, s')
  | state => .done (.error (.writerClosed state), s)

/-- Ends the session and removes the object at its path, whatever the object held before. A handle that
cannot be closed does not prevent that, and an object that is already gone is as good as removed. -/
def cancel (s : WriteSession) : Step Unit :=
  match s.state with
  | .committed | .cancelled => .done (.error (.writerClosed s.state), s)
  | .opened | .closed =>
    { s with state := .cancelled }.releaseHandle.bind fun (_, s') =>
      (Call.remove s'.path).guarded.bind fun
        | .ok _ => .done (.ok (), s')
        | .error e => .done (if e.isNotFound then .ok () else .error (s'.report e), s')

end WriteSession

end RootedStore
