import RootedStore.NameNode.Call
import RootedStore.Path.Basic
import RootedStore.Table

/-!
# Namespaces

A namenode held as a value: a table from paths to files and directories, and the kinds of calls whose
next one is to fail. A call either fails and leaves the table as it was, or does all of its work. A file
is created only in a directory that exists; nothing but an empty directory or a file is removed without
what lies below it; a tree is renamed as a whole.
-/

namespace RootedStore

inductive Node where
  | file (content : Bytes) (modified : Timestamp)
  | dir (mode : UInt32) (modified : Timestamp)
  deriving DecidableEq, Repr

namespace Node

def isDir : Node → Bool
  | .dir _ _ => true
  | .file _ _ => false

def status (path : String) : Node → FileStatus
  | .file content modified =>
    ⟨Path.baseName path, UInt64.ofNat content.length, modified, false⟩
  | .dir _ modified => ⟨Path.baseName path, 0, modified, true⟩

end Node

structure Namespace where
  nodes : Table Node
  /-- The kinds of calls of which the next one fails. -/
  faults : List CallKind

namespace Namespace

def rootMode : UInt32 := 0o755

def initial : Namespace := ⟨Table.empty.insert "/" (.dir rootMode .present), []⟩

def node? (ns : Namespace) (path : String) : Option Node := ns.nodes.find? path

def contains (ns : Namespace) (path : String) : Bool := ns.nodes.contains (Path.normalize path)

def dirMode? (ns : Namespace) (path : String) : Option UInt32 :=
  match ns.node? (Path.normalize path) with
  | some (.dir mode _) => some mode
  | _ => none

def failNext (ns : Namespace) (kind : CallKind) : Namespace :=
  { ns with faults := kind :: ns.faults.filter (· ≠ kind) }

def injected (kind : CallKind) : ClientError := .exception "InjectedFault" (kind.name ++ " failed")

def notAFile (path : String) : ClientError :=
  .exception "IOException" ("Path is not a file: " ++ path)

/-- The paths of the namespace that are `path` or lie below it. -/
def subtree (nodes : Table Node) (path : String) : List String :=
  nodes.keys.filter (Path.isUnder · path)

def fileAt (nodes : Table Node) (path : String) : Except ClientError Bytes :=
  match nodes.find? path with
  | some (.file content _) => .ok content
  | some (.dir _ _) => .error (notAFile path)
  | none => .error (.notFound path)

def create (nodes : Table Node) (path : String) : Except ClientError (Table Node) :=
  if nodes.contains path then .error (.alreadyExists path)
  else
    match nodes.find? (Path.parent path) with
    | some (.dir _ _) => .ok (nodes.insert path (.file [] .present))
    | some (.file _ _) =>
      .error (.exception "ParentNotDirectoryException"
        ("Parent path is not a directory: " ++ Path.parent path))
    | none => .error (.notFound (Path.parent path))

/-- Removes a file or an empty directory. The root always counts as not empty. -/
def remove (nodes : Table Node) (path : String) : Except ClientError (Table Node) :=
  if !nodes.contains path then .error (.notFound path)
  else if path = "/" ∨ 1 < (subtree nodes path).length then
    .error (.exception "PathIsNotEmptyDirectoryException" (path ++ " is non empty"))
  else .ok (nodes.erase path)

/-- Removes a path and everything below it. The root itself stays. -/
def removeTree (nodes : Table Node) (path : String) : Except ClientError (Table Node) :=
  if !nodes.contains path then .error (.notFound path)
  else .ok (nodes.filterKeys fun key => key = "/" || !Path.isUnder key path)

/-- The path of what is at `key`, below `source`, once `source` is called `target`. -/
def rebased (source target key : String) : String :=
  target ++ String.ofList (key.toList.drop source.toList.length)

def rebaseAll (source target : String) (nodes : Table Node) (keys : List String) : Table Node :=
  keys.foldl (fun nodes key =>
    match nodes.find? key with
    | some node => (nodes.erase key).insert (rebased source target key) node
    | none => nodes) nodes

/-- Gives a path, and everything below it, the name `target`. A file may take the place of a file. -/
def rename (nodes : Table Node) (source target : String) : Except ClientError (Table Node) :=
  match nodes.find? source with
  | none => .error (.notFound source)
  | some moved =>
    if source = target then .ok nodes
    else if Path.isUnder target source then
      .error (.exception "IOException"
        ("Cannot move " ++ source ++ " into its own subtree " ++ target))
    else
      match nodes.find? (Path.parent target) with
      | some (.dir _ _) =>
        match nodes.find? target with
        | some (.dir _ _) => .error (.alreadyExists target)
        | some (.file _ _) =>
          if moved.isDir then .error (.alreadyExists target)
          else .ok (rebaseAll source target nodes (subtree nodes source))
        | none => .ok (rebaseAll source target nodes (subtree nodes source))
      | _ => .error (.notFound (Path.parent target))

def entries (nodes : Table Node) (path : String) : Except ClientError (List FileStatus) :=
  match nodes.find? path with
  | some (.dir _ _) =>
    .ok ((nodes.entries.filter fun e => e.1 ≠ path && Path.parent e.1 = path).map
      fun e => e.2.status e.1)
  | some (.file _ _) => .error (.exception "IOException" ("Not a directory: " ++ path))
  | none => .error (.notFound path)

/-- Creates the directories of a list that are missing, in order. Stops at a file; the directories
created before it stay. -/
def makeEach (mode : UInt32) : Table Node → List String → Option ClientError × Table Node
  | nodes, [] => (none, nodes)
  | nodes, path :: rest =>
    match nodes.find? path with
    | some (.dir _ _) => makeEach mode nodes rest
    | some (.file _ _) =>
      (some (.exception "ParentNotDirectoryException" ("Path is not a directory: " ++ path)), nodes)
    | none => makeEach mode (nodes.insert path (.dir mode .present)) rest

def write (nodes : Table Node) (h : WriteHandle) (data : Bytes) :
    Except ClientError (Table Node) :=
  if h.closed then .error (.exception "IOException" "Stream closed")
  else
    match nodes.find? h.path with
    | some (.file content _) => .ok (nodes.insert h.path (.file (content ++ data) .present))
    | _ => .error (.notFound h.path)

def chunkSize : Nat := 65536

def chunks (content : Bytes) : List Bytes :=
  (List.range ((content.length + chunkSize - 1) / chunkSize)).map fun i =>
    (content.drop (i * chunkSize)).take chunkSize

/-- The stream of what a handle has still to give. -/
def stream (ns : Namespace) (h : ReadHandle) : List StreamItem :=
  let content :=
    match h.source with
    | .snapshot content => content
    | .remote path => (fileAt ns.nodes path).toOption.getD []
  (chunks (content.drop h.position.toNat)).map .chunk

/-- The namespace with the table that a call left, or as it was if the call failed. -/
def apply (ns : Namespace) (a : α) : Except ClientError (Table Node) → Except ClientError α × Namespace
  | .ok nodes => (.ok a, { ns with nodes })
  | .error e => (.error e, ns)

def serve : Client Namespace
  | .content path, ns => (fileAt ns.nodes path, ns)
  | .openRead path, ns =>
    ((fileAt ns.nodes path).map fun content => ⟨.snapshot content, UInt64.ofNat content.length, 0⟩, ns)
  | .create path, ns => ns.apply ⟨path, false⟩ (create ns.nodes path)
  | .openAppend path, ns => ((fileAt ns.nodes path).map fun _ => ⟨path, false⟩, ns)
  | .remove path, ns => ns.apply () (remove ns.nodes path)
  | .removeTree path, ns => ns.apply () (removeTree ns.nodes path)
  | .rename source target, ns => ns.apply () (rename ns.nodes source target)
  | .status path, ns =>
    match ns.node? path with
    | some node => (.ok (node.status path), ns)
    | none => (.error (.notFound path), ns)
  | .entries path, ns => (entries ns.nodes path, ns)
  | .makeDirs path mode, ns =>
    match makeEach mode ns.nodes (Path.lineage path) with
    | (none, nodes) => (.ok (), { ns with nodes })
    | (some e, nodes) => (.error e, { ns with nodes })
  | .write h data, ns => ns.apply () (write ns.nodes h data)
  | .close _, ns => (.ok (), ns)
  | .seek h offset, ns => (.ok { h with position := min offset h.length }, ns)
  | .stream h, ns => (.ok (ns.stream h), ns)

/-- Replies to a call. A call that was arranged to fail does so before anything else, once. -/
def client : Client Namespace := fun c ns =>
  match c.kind?.filter (ns.faults.contains ·) with
  | some kind => (.error (injected kind), { ns with faults := ns.faults.filter (· ≠ kind) })
  | none => serve c ns

/-- A directory and what lies below it, found by listing it and the directories in it, the last one
first, as deep as there is fuel. -/
def walk (nodes : Table Node) : Nat → String × FileStatus → Except ClientError (List (String × FileStatus))
  | 0, _ => .ok []
  | fuel + 1, dir => do
    let found := (← entries nodes dir.1).map fun entry => (Path.join dir.1 entry.name, entry)
    let below ← (found.filter (·.2.isDir)).reverse.mapM (walk nodes fuel)
    return dir :: found.filter (fun e => !e.2.isDir) ++ below.flatten

/-- The root and what lies below it, found by listing directories, in ascending order of the paths. No
path is deeper than there are nodes. -/
def reachable (ns : Namespace) : Except ClientError (List (String × FileStatus)) := do
  let found ← walk ns.nodes (ns.nodes.entries.length + 1) ("/", ⟨"", 0, .present, true⟩)
  return found.mergeSort fun a b => a.1 ≤ b.1

end Namespace

end RootedStore
