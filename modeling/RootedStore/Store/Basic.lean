import RootedStore.Store.ReadSession
import RootedStore.Store.WriteSession

/-!
# Operations of a store

The contract: content as a whole, streams in both directions, metadata, listing, moving, deleting. Each
operation resolves its paths first and then makes its calls one after the other; the first call that
fails ends it, except where a missing path is an answer of its own.
-/

namespace RootedStore

structure FileInfo where
  path : String
  size : UInt64
  modified : Timestamp
  isDir : Bool
  deriving DecidableEq, Repr

structure Store where
  options : Options
  deriving DecidableEq, Repr

namespace Store

/-- The path below the root that a path stands for. -/
def resolve (st : Store) (path : String) : Action String := ExceptT.mk (.done (st.options.resolve path))

theorem resolve_bind_ok {α : Type} {st : Store} {path full : String} (h : st.options.resolve path = .ok full)
    (next : String → Action α) : st.resolve path >>= next = next full := by
  rw [resolve, h]
  rfl

theorem resolve_bind_error {α : Type} {st : Store} {path : String} {e : StorageError}
    (h : st.options.resolve path = .error e) (next : String → Action α) : st.resolve path >>= next = throw e := by
  rw [resolve, h]
  rfl

def makeParents (st : Store) (full : String) : Action Unit :=
  Action.call (Path.parent full) (.makeDirs (Path.parent full) st.options.mask)

def get (st : Store) (path : String) : Action Bytes := do
  let full ← st.resolve path
  Action.call full (.content full)

/-- Opens a session that writes to a path. An object that is there is kept and extended by an append,
and is removed and created anew otherwise. -/
def openWriter (st : Store) (path : String) (append : Bool) : Action WriteSession := do
  let full ← st.resolve path
  st.makeParents full
  match ← Action.attempt (.status full) with
  | .ok found =>
    if append then
      let handle ← Action.call full (.openAppend full)
      return .start handle full found.length
    else
      Action.call full (.remove full)
      let handle ← Action.call full (.create full)
      return .start handle full 0
  | .error (.notFound _) =>
    let handle ← Action.call full (.create full)
    return .start handle full 0
  | .error e => throw (.ofClient driverName full e)

/-- Stores content as a whole, in place of what was there. If writing fails the handle is closed, and
the failure of the write is reported whatever comes of that. -/
def put (st : Store) (path : String) (content : Bytes) : Action Unit := do
  let opened ← st.openWriter path false
  match ← ExceptT.lift (opened.write content) with
  | (.error e, w) =>
    let _ ← ExceptT.lift w.close
    throw e
  | (.ok _, w) =>
    match ← ExceptT.lift w.commit with
    | (.error e, _) => throw e
    | (.ok _, w) => ExceptT.mk (w.close.bind fun r => .done r.1)

def openReader (st : Store) (path : String) (offset : UInt64) : Action ReadSession := do
  let full ← st.resolve path
  let handle ← Action.call full (.openRead full)
  if handle.length < offset then throw (.invalidOffset full offset)
  let placed ← Action.call full (.seek handle offset)
  if placed.position < offset then throw (.invalidOffset full offset)
  return ⟨full, offset, .unopened placed⟩

def stat (st : Store) (path : String) : Action FileInfo := do
  let full ← st.resolve path
  let found ← Action.call full (.status full)
  return ⟨full, found.length, found.modified, found.isDir⟩

/-- The paths of what lies directly in a directory, in ascending order. A missing directory is empty. -/
def list (st : Store) (path : String) : Action (List String) := do
  let full ← st.resolve path
  match ← Action.attempt (.entries full) with
  | .ok found => return (found.map fun entry => Path.join full entry.name).mergeSort
  | .error (.notFound _) => return []
  | .error e => throw (.ofClient driverName full e)

def move (st : Store) (source target : String) : Action Unit := do
  let fromPath ← st.resolve source
  let toPath ← st.resolve target
  st.makeParents toPath
  Action.call fromPath (.rename fromPath toPath)

def delete (st : Store) (path : String) : Action Unit := do
  let full ← st.resolve path
  Action.call full (.removeTree full)

/-- A link to an object for clients; this store gives none. -/
def link (_ : Store) (_ : String) : Action String := throw (.unsupportedMethod driverName)

end Store

end RootedStore
