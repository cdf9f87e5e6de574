import RootedStore.Json.Decode
import RootedStore.Json.Printer
import RootedStore.LocalFile
import RootedStore.Options

/-!
# Settings

What the program is set up with: a filter for its log, and the store to use. Settings are kept in a file
as JSON. A file that does not exist is made with the settings that hold by default.
-/

namespace RootedStore

open RootedStore.Json (Tree Value)

structure StoreSettings where
  id : String
  driverType : String
  options : Value

structure Settings where
  logFilter : String
  storage : StoreSettings

inductive SettingsError where
  | unreadable (why : LocalError)
  | malformed
  | unwritable (why : LocalError)
  deriving DecidableEq, Repr

def SettingsError.message : SettingsError → String
  | .unreadable why => "Failed to read config file: " ++ why.message
  | .malformed => "Failed to parse config file: these are no settings"
  | .unwritable why => "Failed to write config file: " ++ why.message

namespace Settings

def defaultLogFilter : String := "hdfs_blobstore=debug"

def initial : Settings :=
  { logFilter := defaultLogFilter
    storage :=
      { id := "registry"
        driverType := "hdfs"
        options := Value.ofFields
          [ (Options.namenodeKey, .string "localhost:9870"),
            (Options.rootKey, .string Options.defaultRoot),
            (Options.userKey, .string Options.defaultUser),
            (Options.maskKey, .string "755") ] } }

def toJson (s : Settings) : Value :=
  .object
    [ ("log_filter", .string s.logFilter),
      ("storage", .object
        [ ("id", .string s.storage.id),
          ("driver_type", .string s.storage.driverType),
          ("config", s.storage.options) ]) ]

def text (s : Settings) : String := s.toJson.text .pretty

/-- Options lie in the two records around them. -/
def optionDepth : Nat := Tree.nestingLimit - 2

def storageOfTree? (t : Tree) : Option StoreSettings := do
  match ← t.record? ["id", "driver_type", "config"] with
  | [id, driverType, options] =>
    return ⟨← id.bind Tree.string?, ← driverType.bind Tree.string?,
      ← options.elim (some .null) (Tree.value? optionDepth)⟩
  | _ => none

def ofTree? (t : Tree) : Option Settings := do
  match ← t.record? ["log_filter", "storage"] with
  | [logFilter, storage] =>
    return ⟨← logFilter.elim (some defaultLogFilter) Tree.string?, ← storage.bind storageOfTree?⟩
  | _ => none

def parse? (text : String) : Option Settings := (Tree.parse? text).bind ofTree?

def save (s : Settings) (f : LocalFile) : Except SettingsError LocalFile :=
  (f.writeText s.text).mapError .unwritable

structure Loaded where
  settings : Settings
  created : Bool
  file : LocalFile

/-- The settings in a file. Where there is none, one is made with the settings that hold by default. -/
def load (f : LocalFile) : Except SettingsError Loaded :=
  if f.exists? then do
    let text ← f.readText.mapError .unreadable
    match parse? text with
    | some settings => return ⟨settings, false, f⟩
    | none => throw .malformed
  else do
    let made ← initial.save f
    return ⟨initial, true, made⟩

/-- Where the file is: where the environment says, or in the directory the program was started in. -/
inductive Place where
  | named (path : String)
  | here
  deriving DecidableEq, Repr

def fileName : String := "config.json"

def environmentName : String := "HDFS_BLOBSTORE_CONFIG"

/-- The place that the environment names. A blank name is none. -/
def place (environment : Option String) : Place :=
  match environment with
  | some path => if Text.isAllBlank path then .here else .named path
  | none => .here

end Settings

end RootedStore
