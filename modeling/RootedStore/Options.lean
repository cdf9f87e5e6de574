import RootedStore.Error.Storage
import RootedStore.Path.Basic
import RootedStore.Text.Blank

/-!
# Options of a store

A store is set up by a map of options. Every option is checked by itself. The options that result are
what the rest of the library works with: a canonical root, the address of the namenode, the user, the
mode of new directories and a time limit.
-/

namespace RootedStore

structure Options where
  /-- The canonical path of the directory that holds everything in the store. -/
  root : String
  namenode : String
  user : String
  /-- The permission bits of directories that the store creates. -/
  mask : UInt32
  /-- Seconds. -/
  timeout : UInt64
  deriving DecidableEq, Repr

namespace Options

def rootKey : String := "hdfsrootdirectory"
def namenodeKey : String := "hdfsnamenode"
def userKey : String := "hdfsuser"
def maskKey : String := "directoryumask"
def timeoutKey : String := "requesttimeout"

def defaultRoot : String := "/tmp/hdfs-registry"
def defaultUser : String := "hdfs"
def defaultMask : UInt32 := 0o755
def defaultTimeout : UInt64 := 60

/-- The value of an option that is set to something else than null. -/
def value? (fields : List (String × Json.Value)) (key : String) : Option Json.Value :=
  match Table.lookup key fields with
  | some .null => none
  | other => other

def text? (fields : List (String × Json.Value)) (key : String) : Except OptionError (Option String) :=
  match value? fields key with
  | none => .ok none
  | some (.string s) => .ok (some s)
  | some other => .error (.notAString key other.kind)

/-- The root as a canonical path. A double dot is refused even where it would not lead out. -/
def readRoot (s : String) : Except OptionError String :=
  let root := Text.trim s
  if root.isEmpty then .error (.blank rootKey)
  else if Path.hasParentRef root then .error (.parentReference rootKey root)
  else .ok (Path.normalize root)

def readNamenode (s : String) : Except OptionError String :=
  let namenode := Text.trim s
  if namenode.isEmpty then .error (.missing namenodeKey) else .ok namenode

/-- The user as given: blanks around a name are part of it. -/
def readUser (s : String) : Except OptionError String :=
  if Text.isAllBlank s then .error (.blank userKey) else .ok s

def dropOctalMarks : List Char → List Char
  | '0' :: 'o' :: rest => dropOctalMarks rest
  | s => s

/-- The number that a text of octal digits spells, a plus sign allowed before them. -/
def octal? (s : String) : Option Nat :=
  match dropOctalMarks (Text.trim s).toList with
  | '+' :: ds => Text.digitsValue? 8 ds
  | ds => Text.digitsValue? 8 ds

/-- A mode as a number or in octal digits. No bits beyond the twelve permission bits may be set. -/
def readMode (v : Json.Value) : Except OptionError UInt32 :=
  let checked (n : Option Nat) : Except OptionError UInt32 :=
    match n with
    | some n => if n ≤ 0o7777 then .ok n.toUInt32 else .error (.invalidMode maskKey v)
    | none => .error (.invalidMode maskKey v)
  match v with
  | .number n => checked (n.toUInt64?.map UInt64.toNat)
  | .string s => checked (octal? s)
  | other => .error (.notAnInteger maskKey other.kind)

def readTimeout : Json.Value → Except OptionError UInt64
  | .number n =>
    match n.toUInt64? with
    | some seconds => if 0 < seconds then .ok seconds else .error (.notPositive timeoutKey n)
    | none => .error (.notPositive timeoutKey n)
  | other => .error (.notAnInteger timeoutKey other.kind)

/-- The options of a map. The first option that is not acceptable decides. -/
def ofFields (fields : List (String × Json.Value)) : Except OptionError Options := do
  let root ← readRoot ((← text? fields rootKey).getD defaultRoot)
  let namenode ← readNamenode ((← text? fields namenodeKey).getD "")
  let user ← readUser ((← text? fields userKey).getD defaultUser)
  let mask ← ((value? fields maskKey).map readMode).getD (.ok defaultMask)
  let timeout ← ((value? fields timeoutKey).map readTimeout).getD (.ok defaultTimeout)
  return { root, namenode, user, mask, timeout }

/-- The options of a value: a map, or null for no options. -/
def ofValue : Json.Value → Except StorageError Options
  | .null => (ofFields []).mapError .invalidConfig
  | .object fields => (ofFields fields).mapError .invalidConfig
  | other => .error (.invalidConfig (.notAMap other.kind))

def ofNamenode (namenode : String) : Except StorageError Options :=
  (ofFields [(namenodeKey, .string namenode)]).mapError .invalidConfig

end Options

end RootedStore
