import RootedStore.LocalFile
import RootedStore.Path.Basic

/-!
# Disks

A local file system held as a value. A name is followed from directory to directory, one part after the
other; it stays where it is at an empty part or a dot and goes up at two dots. A name that ends in a slash
is one of a directory: it can be read if the directory is there, and no file is ever made at it.
-/

namespace RootedStore

structure Disk where
  /-- Files and directories by the parts of their paths. What lies above one of them is a directory. -/
  entries : List (List String × LocalFile)
  /-- The path of the directory that names without a leading slash start in. -/
  home : List String

namespace Disk

/-- How many bytes a part of a name can have. -/
def partLimit : Nat := 255

/-- How many bytes a name can have. -/
def nameLimit : Nat := 4095

def look (d : Disk) (path : List String) : LocalFile :=
  match d.entries.lookup path with
  | some f => f
  | none =>
    if path.isPrefixOf d.home || d.entries.any fun e => path.isPrefixOf e.1 then .directory else .missing

def put (d : Disk) (path : List String) (f : LocalFile) : Disk :=
  { d with entries := (path, f) :: d.entries.filter (·.1 ≠ path) }

/-- The path that is reached from another one. Every part leaves a directory; nothing need be where the
last one leads. -/
def follow (d : Disk) : List String → List String → Except LocalError (List String)
  | path, [] => .ok path
  | path, part :: parts =>
    match d.look path with
    | .directory =>
      if part = "" ∨ part = "." then d.follow path parts
      else if part = ".." then d.follow path.dropLast parts
      else if partLimit < part.utf8ByteSize then .error .nameTooLong
      else d.follow (path ++ [part]) parts
    | .file _ => .error .notDirectory
    | .missing => .error .notFound
    | .nowhere why _ => .error why

def partsOf (d : Disk) (name : String) : List String × List String :=
  ((Path.pieces (· = '/') name.toList).map String.ofList, if name.startsWith "/" then [] else d.home)

def path (d : Disk) (name : String) : Except LocalError (List String) :=
  if name.isEmpty then .error .notFound
  else if nameLimit < name.utf8ByteSize then .error .nameTooLong
  else
    let (parts, start) := d.partsOf name
    d.follow start parts

/-- Why no file can be made at a name that spells no path. -/
def obstacle (d : Disk) (name : String) (why : LocalError) : LocalError :=
  let (parts, start) := d.partsOf name
  if name.endsWith "/" ∧ name.utf8ByteSize ≤ nameLimit then
    let above := (parts.reverse.dropWhile (· = "")).drop 1
    match (d.follow start above.reverse).map d.look with
    | .ok .directory => .isDirectory
    | _ => why
  else why

def file (d : Disk) (name : String) : LocalFile :=
  match d.path name with
  | .ok path => d.look path
  | .error why => .nowhere why (d.obstacle name why)

end Disk

end RootedStore
