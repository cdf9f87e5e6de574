import RootedStore.Cli
import RootedStore.Disk
import RootedStore.WebHdfs.Message
import Std.Async.DNS
import Std.Async.TCP
import Std.Time

/-!
# The program

Everything that touches the world: files, the clock, connections and the two outputs. What happens with
them is up to the command line. A run does not wait for answers: it starts again with one more answer
until no request of it is left without one. With the same answers a run always makes the same requests.
-/

namespace RootedStore.Main

open Std.Async

def isDirectory (name : String) : IO Bool := do
  try (← IO.FS.realPath name).isDir
  catch _ => return false

def directoryOf (name : String) : String :=
  let above := ((name.toList.reverse.dropWhile (· = '/')).dropWhile (· ≠ '/')).reverse
  if above.isEmpty then "." else String.ofList above

/-- Why reading a file failed, if it is one of the reasons that are told apart. The code of the system
may come with a minus sign. -/
def reasonOf : IO.Error → Option LocalError
  | .noFileOrDirectory .. => some .notFound
  | .inappropriateType _ code _ | .invalidArgument _ code _ =>
    [(20, LocalError.notDirectory), (21, .isDirectory), (36, .nameTooLong)].lookup (min code (-code))
  | _ => none

def observe (name : String) : IO LocalFile := do
  try return .file (← IO.FS.readBinFile name).toList
  catch e =>
    match reasonOf e with
    | some .isDirectory => return .directory
    | some why =>
      let below ← if name.isEmpty then pure false else isDirectory (directoryOf name)
      if below && name.endsWith "/" && name.utf8ByteSize ≤ Disk.nameLimit then
        return .nowhere why .isDirectory
      else if below && why = .notFound then return .missing
      else return .nowhere why why
    | none => throw e

partial def receive (connection : TCP.Socket.Client) (arrived : ByteArray) : Async ByteArray := do
  match ← connection.recv? 65536 with
  | none => return arrived
  | some piece => receive connection (arrived ++ piece)

def connectFirst (port : UInt16) : List Std.Net.IPAddr → Async TCP.Socket.Client
  | [] => throw (IO.userError "no address takes a connection")
  | address :: rest => do
    let socket : Std.Net.SocketAddress :=
      match address with
      | .v4 a => .v4 ⟨a, port⟩
      | .v6 a => .v6 ⟨a, port⟩
    try
      let connection ← TCP.Socket.Client.mk
      connection.connect socket
      return connection
    catch _ => connectFirst port rest

/-- Sends a request to the server that its URL names. -/
def send (r : WebHdfs.Request) : Async WebHdfs.Reply := do
  let host := String.ofList ((r.url.host.elim [] (·.text.toList)).filter fun c => c ≠ '[' && c ≠ ']')
  let port := WebHdfs.serverPort r.url
  let addresses ← DNS.getAddrInfo host (toString port)
  let connection ← connectFirst port.toUInt16 addresses.toList
  connection.send ⟨r.message.toArray⟩
  return .ofMessage (← receive connection .empty).toList

def answer (r : WebHdfs.Request) : IO WebHdfs.Reply := do
  try (send r).block
  catch _ => return .drop

/-- Runs until every request has its answer. -/
partial def converse (run : Site → Cli.Report × Site) (replies : List WebHdfs.Reply) :
    IO Cli.Report := do
  let (report, site) := run ⟨[], .ofReplies true replies⟩
  match site.link.takeSent.1[replies.length]? with
  | none => return report
  | some r => converse run (replies ++ [← answer r])

/-- Makes the file of the settings if there is none. What loads them reports what is wrong with them. -/
def prepare (name : String) : IO LocalFile := do
  let found ← observe name
  match Settings.load found with
  | .ok ⟨_, true, .file content⟩ => do
    IO.FS.writeBinFile name ⟨content.toArray⟩
    return .file content
  | _ => return found

def localFile (args : List String) : IO (Option (String × LocalFile)) := do
  match args with
  | [] => return none
  | name :: args =>
    match (Cli.Command.parse name args).toOption.bind (·.file?) with
    | none => return none
    | some file => return some (file, ← observe file)

end RootedStore.Main

open RootedStore in
def main (args : List String) : IO UInt32 := do
  let name :=
    match Settings.place (← IO.getEnv Settings.environmentName) with
    | .named path => path
    | .here => Settings.fileName
  let settingsFile ← Main.prepare name
  let named ← Main.localFile args
  let files (file : String) : LocalFile := (named.toList.lookup file).getD .missing
  let now := (← Std.Time.Timestamp.now).toMillisecondsSinceUnixEpoch.val
  let report ← Main.converse (fun site =>
    let (report, _, site) := Cli.start now settingsFile args files site
    (report, site)) []
  (← IO.getStdout).write ⟨report.stdout.toArray⟩
  (← IO.getStderr).putStr report.stderr
  return report.code.toUInt32
