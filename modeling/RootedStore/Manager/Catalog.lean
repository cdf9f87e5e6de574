import RootedStore.Options

/-!
# Descriptions

What is told about a kind of store: its name, the root it takes if none is given, and its options with
the texts that explain them.
-/

namespace RootedStore

structure OptionInfo where
  name : String
  title : Option String
  kind : String
  default : Option String
  required : Bool
  help : Option String
  deriving DecidableEq, Repr

structure DriverInfo where
  options : List OptionInfo
  name : String
  defaultRoot : Option String
  deriving DecidableEq, Repr

/-- Fields of an object; those without a value are left out. -/
def presentFields (fields : List (String × Option Json.Value)) : Json.Value :=
  .object (fields.filterMap fun f => f.2.map fun v => (f.1, v))

def OptionInfo.toJson (i : OptionInfo) : Json.Value :=
  presentFields
    [("name", some (.string i.name)), ("title", i.title.map .string), ("type", some (.string i.kind)),
      ("default", i.default.map .string), ("required", some (.bool i.required)),
      ("help", i.help.map .string)]

def DriverInfo.toJson (i : DriverInfo) : Json.Value :=
  .object
    [("additional", .array (i.options.map OptionInfo.toJson)),
      ("config", presentFields
        [("name", some (.string i.name)), ("default_root", i.defaultRoot.map .string)])]

namespace Options

def driverType : String := "hdfs"

def info : DriverInfo :=
  { name := "HDFS"
    defaultRoot := some defaultRoot
    options :=
      [ ⟨namenodeKey, some "名称节点地址", "string", none, true,
          some "WebHDFS namenode address, e.g. namenode:9870 or https://nn.example:9871"⟩,
        ⟨rootKey, some "根目录", "string", some defaultRoot, false,
          some "Directory on HDFS that holds all registry data"⟩,
        ⟨userKey, some "用户", "string", some defaultUser, false,
          some "User name presented to the namenode"⟩,
        ⟨maskKey, some "目录权限", "number", some "755", false,
          some "Permission bits for created directories, octal such as 755"⟩,
        ⟨timeoutKey, some "请求超时", "number", some (toString defaultTimeout.toNat), false,
          some "Per-request timeout in seconds"⟩ ] }

end Options

end RootedStore
