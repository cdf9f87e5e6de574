import RootedStore.Options
import RootedStore.Url.Parser
import RootedStore.WebHdfs.Reply

/-!
# The WebHDFS client

How calls to a namenode become requests. The path goes into the URL, segment by segment, below the
address of the namenode; the operation, the user and what else the operation needs go into the query.
-/

namespace RootedStore

structure WebHdfs where
  base : Url
  user : String
  deriving DecidableEq, Repr

namespace WebHdfs

def mentions (mark : List Char) : List Char → Bool
  | [] => mark.isEmpty
  | c :: rest => mark.isPrefixOf (c :: rest) || mentions mark rest

/-- The address of a namenode as a URL. One without a scheme is taken for HTTP. -/
def address (namenode : String) : Except ClientError Url :=
  match Url.parse (if mentions "://".toList namenode.toList then namenode else "http://" ++ namenode) with
  | .error e => .error (.connect ("invalid namenode address " ++ namenode ++ ": " ++ e.message))
  | .ok url =>
    if url.scheme = "http" ∨ url.scheme = "https" then .ok url
    else .error (.connect ("namenode address must be an http(s) URL: " ++ namenode))

def ofOptions (o : Options) : Except ClientError WebHdfs :=
  (address o.namenode).map fun base => ⟨base, o.user⟩

/-- The segments of the address below which paths are put: one empty segment at the end does not count,
and a path that is nothing but a slash has none. -/
def baseSegments (url : Url) : List (List Char) :=
  let ws := url.segments
  let ws := if ws.getLast? = some [] then ws.dropLast else ws
  if ws = [[]] then [] else ws

/-- Puts one segment below others. A segment of dots only is left out. What is left of any other after
tabs and line breaks is read as a segment of a URL, and may still stand for the segment above. -/
def addSegment (ws : List (List Char)) (w : List Char) : List (List Char) :=
  if w = Path.here ∨ w = Path.above then ws
  else
    let visible := w.filter fun c => c ≠ '\t' && c ≠ '\n' && c ≠ '\r'
    if visible = Path.above then ws.dropLast ++ [[]]
    else if visible = Path.here then ws ++ [[]]
    else ws ++ [Url.percentEncode Url.inSegmentSet visible]

/-- The segments of a path as written, empty ones left out. -/
def pathSegments (path : String) : List (List Char) :=
  (Path.pieces (· = '/') path.toList).filter (!·.isEmpty)

/-- The segments of the URL for a path. The root has an empty segment of its own. -/
def urlSegments (base : Url) (path : String) : List (List Char) :=
  let start := addSegment (addSegment (baseSegments base) "webhdfs".toList) "v1".toList
  let ws := (pathSegments path).foldl addSegment start
  if (pathSegments path).isEmpty then addSegment ws [] else ws

def url (w : WebHdfs) (path op : String) (parameters : List (String × String)) : Url :=
  { w.base with
    path := .segments (urlSegments w.base path)
    query := some (Url.formAppend (w.base.query.getD [])
      (("op", op) :: ("user.name", w.user) :: parameters)) }

def octets : String := "application/octet-stream"

def send (path : String) (r : Request) : ExceptT ClientError (Program fun _ : Request => Outcome) Response :=
  ExceptT.mk (.ask r fun outcome => .done (accept path outcome))

def request (method : Method) (url : Url) : Request := ⟨method, url, none, []⟩

abbrev Remote (α : Type) := ExceptT ClientError (Program fun _ : Request => Outcome) α

/-- Sends a request and reads the body of its answer. -/
def ask (path : String) (r : Request) (read : Json.Tree → Option α) : Remote α := do
  let answer ← send path r
  ExceptT.mk (.done (decoded read answer))

def status (w : WebHdfs) (path : String) : Remote FileStatus := do
  let found ← ask path (request .get (w.url path "GETFILESTATUS" [])) status?
  return found.toStatus (Path.baseName path)

/-- The status of something that has to be a file. -/
def fileStatus (w : WebHdfs) (path : String) : Remote FileStatus := do
  let found ← w.status path
  if found.isDir then throw (.exception "IOException" ("Path is not a file: " ++ path))
  return found

/-- Removes a path. An answer of false says that it is not there. -/
def delete (w : WebHdfs) (path : String) (recursive : Bool) : Remote Unit := do
  let done ← ask path
    (request .delete (w.url path "DELETE" [("recursive", if recursive then "true" else "false")])) boolean?
  if !done then throw (.notFound path)

def tryRename (w : WebHdfs) (source target : String) : Remote Bool :=
  ask source (request .put (w.url source "RENAME" [("destination", target)])) boolean?

/-- Renames a path. An answer of false has no reason: if both paths turn out to be files, the one in the
way is removed and the request is made once more. -/
def rename (w : WebHdfs) (source target : String) : Remote Unit := do
  let failed : ClientError :=
    .exception "IOException" ("rename " ++ source ++ " -> " ++ target ++ " failed")
  if ← w.tryRename source target then return
  let found ← w.status source
  match ← ExceptT.lift (w.status target).run with
  | .ok other =>
    if other.isDir || found.isDir then throw (.alreadyExists target)
    w.delete target false
    if ← w.tryRename source target then return
    throw failed
  | .error (.notFound _) => throw failed
  | .error e => throw e

/-- The entries of a directory. A list of a file has the file itself, without a name. -/
def entries (w : WebHdfs) (path : String) : Remote (List FileStatus) := do
  let found ← ask path (request .get (w.url path "LISTSTATUS" [])) statuses?
  let alone : Bool :=
    match found with
    | [only] => only.pathSuffix.isEmpty && !only.isDir
    | _ => false
  if alone then throw (.exception "IOException" ("Not a directory: " ++ path))
  return found.map (·.toStatus "")

def octal (n : Nat) : String := String.ofList (Nat.toDigits 8 n)

def makeDirs (w : WebHdfs) (path : String) (mode : UInt32) : Remote Unit := do
  let done ← ask path
    (request .put (w.url path "MKDIRS" [("permission", octal mode.toNat)])) boolean?
  if !done then throw (.exception "IOException" ("mkdirs failed: " ++ path))

def content (w : WebHdfs) (path : String) : Remote Bytes := do
  let answer ← send path (request .get (w.url path "OPEN" []))
  ExceptT.mk (.done answer.content)

def create (w : WebHdfs) (path : String) : Remote WriteHandle := do
  let _ ← send path ⟨.put, w.url path "CREATE" [("overwrite", "false")], some octets, []⟩
  return ⟨path, false⟩

/-- Adds data to a file. No data needs no request. -/
def append (w : WebHdfs) (h : WriteHandle) (data : Bytes) : Remote Unit := do
  if h.closed then throw (.exception "IOException" "Stream closed")
  if data.isEmpty then return
  let _ ← send h.path ⟨.post, w.url h.path "APPEND" [], some octets, data⟩

def streamItems (r : Response) : List StreamItem :=
  (if r.body.isEmpty then [] else [.chunk r.body]) ++
    if r.complete then []
    else [.failure ⟨.other, (ClientError.http .truncated).message⟩]

/-- The content from the position of a handle on. At the end of the file there is nothing to ask for. -/
def stream (w : WebHdfs) (h : ReadHandle) : Remote (List StreamItem) := do
  match h.source with
  | .snapshot content => return [.chunk (content.drop h.position.toNat)]
  | .remote path =>
    if h.length ≤ h.position then return []
    let answer ← send path
      (request .get (w.url path "OPEN" [("offset", toString h.position.toNat)]))
    return streamItems answer

/-- The requests that make up a call, and its reply. -/
def perform (w : WebHdfs) : (c : Call) → Wire c.Reply
  | .content path => (w.content path).run
  | .openRead path => (do return ⟨.remote path, (← w.fileStatus path).length, 0⟩ : Remote ReadHandle).run
  | .create path => (w.create path).run
  | .openAppend path => (do let _ ← w.fileStatus path; return ⟨path, false⟩ : Remote WriteHandle).run
  | .remove path => (w.delete path false).run
  | .removeTree path => (w.delete path true).run
  | .rename source target => (w.rename source target).run
  | .status path => (w.status path).run
  | .entries path => (w.entries path).run
  | .makeDirs path mode => (w.makeDirs path mode).run
  | .write h data => (w.append h data).run
  | .close _ => .done (.ok ())
  | .seek h offset => .done (.ok { h with position := min offset h.length })
  | .stream h => (w.stream h).run

/-- Makes a client and asks for the status of the root to see whether the namenode answers. -/
def connect (o : Options) : Remote WebHdfs := do
  let w ← ExceptT.mk (.done (ofOptions o))
  match ← ExceptT.lift (w.status "/").run with
  | .ok _ => return w
  | .error e => throw (.connect (w.base.text ++ ": " ++ e.message))

def client {σ : Type} (w : WebHdfs) (exchange : Request → σ → Outcome × σ) : Client σ := fun c s =>
  (w.perform c).run exchange s

end WebHdfs

end RootedStore
