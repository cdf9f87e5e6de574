import RootedStore.NameNode.Call
import RootedStore.Options

/-!
# Resolving paths

Every path that a caller names is resolved below the root of the store before anything is asked of the
namenode. A path that lies under the root as written stays where it is, any other is taken to start at
the root. What does not lie under the root once normalised is refused.
-/

namespace RootedStore

def driverName : String := "HDFS Storage Driver"

def driverVersion : String := "0.1"

structure Capabilities where
  rangeRead : Bool
  append : Bool
  directLink : Bool
  /-- Whether writes are invisible until they are committed. -/
  transactionalWrites : Bool
  deriving DecidableEq, Repr

def capabilities : Capabilities := ⟨true, true, false, false⟩

namespace Options

/-- The path below the root that `path` stands for. -/
def resolve (o : Options) (path : String) : Except StorageError String :=
  let placed := if Path.isUnder path o.root then path else o.root ++ "/" ++ path
  let full := Path.normalize placed
  if Path.isUnder full o.root then .ok full else .error (.invalidPath path)

end Options

abbrev Action (α : Type) := ExceptT StorageError (Program Question.Reply) α

/-- Makes a call about a path for a request; its errors are reported about that path. -/
def Action.call (path : String) (c : Call) : Action c.Result :=
  c.guarded.bind fun r => .done (r.mapError (StorageError.ofClient driverName path))

def Action.attempt (c : Call) : Action c.Reply := ExceptT.lift c.guarded

end RootedStore
