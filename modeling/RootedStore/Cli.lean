import RootedStore.Manager.Backend
import RootedStore.Settings

/-!
# The command line

One command on the store that the settings name. A run gives what goes to the two outputs and the exit
code. A command that fails is reported with the errors behind the error.
-/

namespace RootedStore.Cli

def usage : String :=
  "usage: hdfs-blobstore <command> [args]

commands:
  info                      show the configured driver type and its options
  ls [path]                 list direct children (default /)
  stat <path>               show object metadata
  cat <path> [offset]       write the object to stdout, starting at offset
  put <path> <file>         store a local file, replacing the object
  append <path> <file>      append a local file to the object
  mv <source> <dest>        move an object
  rm <path>                 delete an object recursively
  url <path>                request a direct download URL"

structure Failure where
  message : String
  causes : List String
  deriving DecidableEq, Repr

namespace Failure

def ofStorage (e : StorageError) : Failure := ⟨e.message, e.causes⟩

/-- A text with every line after the first one moved to the right. -/
def indented (margin : String) (s : String) : String :=
  margin.intercalate ((Path.pieces (· = '\n') s.toList).map fun line => String.ofList line)

def numbered (n : Nat) (cause : String) : String :=
  let number := toString n
  String.ofList (List.replicate (5 - number.length) ' ') ++ number ++ ": " ++ indented "\n       " cause

/-- The report of a failure. Several causes are numbered. -/
def text (f : Failure) : String :=
  "Error: " ++ f.message ++
    (match f.causes with
    | [] => ""
    | [cause] => "\n\nCaused by:\n    " ++ indented "\n    " cause
    | causes =>
      "\n\nCaused by:" ++
        String.join (causes.zipIdx.map fun (cause, n) => "\n" ++ numbered n cause)) ++ "\n"

end Failure

structure Report where
  code : Nat
  stdout : Bytes
  stderr : String
  deriving DecidableEq, Repr

structure Output where
  written : Bytes
  failure : Option Failure

namespace Output

def ofText (s : String) : Output := ⟨Text.encode s, none⟩

def failed (f : Failure) : Output := ⟨[], some f⟩

def report (o : Output) : Report :=
  match o.failure with
  | none => ⟨0, o.written, ""⟩
  | some f => ⟨1, o.written, f.text⟩

end Output

inductive Command where
  | list (path : String)
  | stat (path : String)
  | cat (path : String) (offset : UInt64)
  | put (path file : String)
  | append (path file : String)
  | move (source target : String)
  | delete (path : String)
  | link (path : String)
  deriving DecidableEq, Repr

/-- The number that an argument spells, or what is wrong with it. -/
def parseOffset (s : String) : Except String UInt64 :=
  let ds :=
    match s.toList with
    | '+' :: ds => if ds.isEmpty then ['+'] else ds
    | ds => ds
  if ds.isEmpty then .error "cannot parse integer from empty string"
  else
    match Text.digitsValue? 10 ds with
    | none => .error "invalid digit found in string"
    | some n =>
      if n < UInt64.size then .ok n.toUInt64 else .error "number too large to fit in target type"

def argument (args : List String) (index : Nat) (name : String) : Except Failure String :=
  match args[index]? with
  | some s => .ok s
  | none => .error ⟨"missing <" ++ name ++ ">\n\n" ++ usage, []⟩

namespace Command

def parse (name : String) (args : List String) : Except Failure Command :=
  match name with
  | "ls" => .ok (.list (args.headD "/"))
  | "stat" => (argument args 0 "path").map .stat
  | "cat" => do
    let path ← argument args 0 "path"
    match args[1]? with
    | none => return .cat path 0
    | some raw =>
      match parseOffset raw with
      | .ok offset => return .cat path offset
      | .error why => throw ⟨"invalid offset: " ++ raw, [why]⟩
  | "put" => return .put (← argument args 0 "path") (← argument args 1 "file")
  | "append" => return .append (← argument args 0 "path") (← argument args 1 "file")
  | "mv" => return .move (← argument args 0 "source") (← argument args 1 "dest")
  | "rm" => (argument args 0 "path").map .delete
  | "url" => (argument args 0 "path").map .link
  | other => .error ⟨"unknown command: " ++ other ++ "\n\n" ++ usage, []⟩

def file? : Command → Option String
  | .put _ file | .append _ file => some file
  | _ => none

end Command

/-- A command in the course of which failures are reported. -/
abbrev Run (α : Type) := ExceptT Failure (Program Question.Reply) α

def perform (st : Store) (op : Store.Operation) : Run op.Result :=
  ExceptT.mk ((st.request true op).run.bind fun r => .done (r.mapError .ofStorage))

def Run.ofSession (step : WriteSession.Step α) : Run WriteSession :=
  ExceptT.mk (step.bind fun (r, w) => .done ((r.map fun _ => w).mapError .ofStorage))

def pieceSize : Nat := 65536

def filePieces (content : Bytes) : List Bytes :=
  (List.range ((content.length + pieceSize - 1) / pieceSize)).map fun i =>
    (content.drop (i * pieceSize)).take pieceSize

/-- Writes one piece after the other. If one cannot be written the session is closed; a failure of that
is reported in the place of the one before. -/
def writePieces : List Bytes → WriteSession → Run WriteSession
  | [], w => pure w
  | piece :: rest, w => do
    match ← ExceptT.lift (w.write piece) with
    | (.ok _, w) => writePieces rest w
    | (.error e, w) =>
      let _ ← Run.ofSession w.close
      throw (.ofStorage e)

def line (s : String) : String := s ++ "\n"

/-- Adds a local file to an object, and tells how large that is then. -/
def append (st : Store) (path name : String) (file : LocalFile) : Run String := do
  if !file.exists? then throw ⟨"failed to open " ++ name, [LocalError.message .notFound]⟩
  let w ← perform st (.openWriter path true)
  match file.read with
  | .error why =>
    let _ ← Run.ofSession w.close
    throw ⟨"failed to read " ++ name, [why.message]⟩
  | .ok content =>
    let w ← writePieces (filePieces content) w
    let w ← Run.ofSession w.commit
    let w ← Run.ofSession w.close
    return line (path ++ " is now " ++ toString w.size.toNat ++ " bytes")

/-- Metadata as JSON; `now` is the moment of the run in milliseconds. -/
def infoJson (now : Int) (i : FileInfo) : Json.Value :=
  .object
    [("path", .string i.path), ("size", .natural i.size), ("mod_time", .string (i.modified.text now)),
      ("is_dir", .bool i.isDir)]

def textOf (now : Int) (st : Store) (files : String → LocalFile) : Command → Run String
  | .list path => do return String.join ((← perform st (.list path)).map line)
  | .stat path => do return line ((infoJson now (← perform st (.stat path))).text .pretty)
  | .put path name => do
    match (files name).read with
    | .error why => throw ⟨"failed to read " ++ name, [why.message]⟩
    | .ok content =>
      perform st (.put path content)
      return line (toString content.length ++ " bytes written to " ++ path)
  | .append path name => append st path name (files name)
  | .move source target => do
    perform st (.move source target)
    return ""
  | .delete path => do
    perform st (.delete path)
    return ""
  | .link path => do return line (← perform st (.link path))
  | .cat _ _ => pure ""

def execute (now : Int) (st : Store) (files : String → LocalFile) : Command → Work Output
  | .cat path offset =>
    (perform st (.openReader path offset)).run.bind fun
      | .error f => .done (.failed f)
      | .ok session =>
        (session.read none).bind fun (reading, _) =>
          .done ⟨reading.bytes, reading.failure.map fun e => ⟨e.message, []⟩⟩
  | command =>
    (textOf now st files command).run.bind fun
      | .error f => .done (.failed f)
      | .ok s => .done (.ofText s)

def manager : Manager Connector Driver := Manager.empty.register Options.driverType .web

def describe (type : String) : Output :=
  match manager.factories.find? type with
  | some _ => .ofText (line (Options.info.toJson.text .pretty))
  | none => .failed ⟨(ManagerError.unknownType type).message, []⟩

def runCommand (now : Int) (settings : StoreSettings) (name : String) (args : List String)
    (files : String → LocalFile) (site : Site) : Output × Site :=
  let (created, site) :=
    manager.create settings.id settings.driverType (Driver.make settings.options) site
  match created with
  | (.error e, _) => (.failed ⟨e.message, e.causes⟩, site)
  | (.ok id, m) =>
    match m.driver? id, Command.parse name args with
    | none, _ => (.failed ⟨(ManagerError.unknownDriver id).message, []⟩, site)
    | some _, .error f => (.failed f, site)
    | some d, .ok command =>
      Work.run (execute now d.store files command) d.backend.client .good site

def run (now : Int) (settings : Settings) (args : List String) (files : String → LocalFile)
    (site : Site) : Report × Site :=
  match args with
  | [] => (⟨0, [], line usage⟩, site)
  | "info" :: _ => ((describe settings.storage.driverType).report, site)
  | name :: args =>
    let (output, site) := runCommand now settings.storage name args files site
    (output.report, site)

def start (now : Int) (settingsFile : LocalFile) (args : List String) (files : String → LocalFile)
    (site : Site) : Report × LocalFile × Site :=
  match Settings.load settingsFile with
  | .error e => ((Output.failed ⟨e.message, []⟩).report, settingsFile, site)
  | .ok loaded =>
    let (report, site) := run now loaded.settings args files site
    (report, loaded.file, site)

end RootedStore.Cli
