import RootedStore.Path.Grammar
import RootedStore.Store.Basic

/-!
# Stores addressed by keys

The same operations for callers that are held to the grammar of keys: a path outside the grammar is
refused before anything else happens. Only listing takes the bare slash.
-/

namespace RootedStore

namespace Store

def checkKey (path : String) : Except StorageError Unit :=
  if Path.isKey path then .ok () else .error (.invalidPath path)

def checkListable (path : String) : Except StorageError Unit :=
  if Path.isListable path then .ok () else .error (.invalidPath path)

/-- An operation of a store, as data. -/
inductive Operation where
  | get (path : String)
  | put (path : String) (content : Bytes)
  | openReader (path : String) (offset : UInt64)
  | openWriter (path : String) (append : Bool)
  | stat (path : String)
  | list (path : String)
  | move (source target : String)
  | delete (path : String)
  | link (path : String)
  deriving DecidableEq, Repr

abbrev Operation.Result : Operation → Type
  | .get _ => Bytes
  | .openReader _ _ => ReadSession
  | .openWriter _ _ => WriteSession
  | .stat _ => FileInfo
  | .list _ => List String
  | .link _ => String
  | .put _ _ | .move _ _ | .delete _ => Unit

def perform (st : Store) : (op : Operation) → Action op.Result
  | .get path => st.get path
  | .put path content => st.put path content
  | .openReader path offset => st.openReader path offset
  | .openWriter path append => st.openWriter path append
  | .stat path => st.stat path
  | .list path => st.list path
  | .move source target => st.move source target
  | .delete path => st.delete path
  | .link path => st.link path

/-- Refuses an operation with a path outside the grammar; the first such path is reported. -/
def Operation.check : Operation → Except StorageError Unit
  | .get path | .put path _ | .openReader path _ | .openWriter path _ | .stat path | .delete path
  | .link path => checkKey path
  | .list path => checkListable path
  | .move source target => do
    checkKey source
    checkKey target

/-- The program of an operation for a caller that is held to the grammar, or that is not. -/
def request (st : Store) (keyed : Bool) (op : Operation) : Action op.Result :=
  if keyed then
    match op.check with
    | .error e => throw e
    | .ok _ => st.perform op
  else st.perform op

end Store

end RootedStore
