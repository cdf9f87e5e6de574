import RootedStore.NameNode.Call

/-!
# Read sessions

A session reads the items of a stream in order. It holds the rest of one chunk at a time: a read gives
bytes of that chunk only, and a failure in the stream is given to one read, after which the items behind
it follow. The content of a remote file is asked for by the first read.
-/

namespace RootedStore

inductive Feed where
  /-- Nothing was asked for yet. -/
  | unopened (handle : ReadHandle)
  /-- The rest of the current chunk, and the items behind it. -/
  | flowing (chunk : Bytes) (rest : List StreamItem)
  deriving DecidableEq, Repr

structure ReadSession where
  path : String
  /-- Where the session started. -/
  offset : UInt64
  feed : Feed
  deriving DecidableEq, Repr

namespace Feed

/-- Reads at most `n` bytes of the current chunk, or of the first one behind it that has any. No bytes
mean the end, if any were asked for. -/
def take (n : Nat) : Bytes → List StreamItem → StreamItem × Feed
  | b :: chunk, rest => (.chunk ((b :: chunk).take n), .flowing ((b :: chunk).drop n) rest)
  | [], .chunk bytes :: rest => take n bytes rest
  | [], .failure e :: rest => (.failure e, .flowing [] rest)
  | [], [] => (.chunk [], .flowing [] [])
termination_by _ rest => rest.length

def itemBytes : StreamItem → Bytes
  | .chunk bytes => bytes
  | .failure _ => []

/-- How many reads are enough to reach a failure or the end, if every read has room. -/
def bound : Feed → Nat
  | .unopened _ => 0
  | .flowing chunk rest => chunk.length + (rest.flatMap itemBytes).length + 1

end Feed

namespace ReadSession

def ofItems (path : String) (offset : UInt64) (items : List StreamItem) : ReadSession :=
  ⟨path, offset, .flowing [] items⟩

abbrev Step (α : Type) := Work (α × ReadSession)

/-- The items of a stream. One that could not be opened has a single failure. -/
def items : Except ClientError (List StreamItem) → List StreamItem
  | .ok items => items
  | .error e => [.failure ⟨.other, e.message⟩]

def draw (n : Nat) (chunk : Bytes) (rest : List StreamItem) (s : ReadSession) :
    StreamItem × ReadSession :=
  let (item, feed) := Feed.take n chunk rest
  (item, { s with feed })

/-- One read with room for `n` bytes. A request whose interruption was noticed gets no more bytes. A read
without room leaves the stream alone. -/
def readOnce (n : Nat) (s : ReadSession) : Step StreamItem :=
  .ask .signal fun
    | some why => .done (.failure (.ofInterruption why), s)
    | none =>
      if n = 0 then .done (.chunk [], s)
      else match s.feed with
      | .flowing chunk rest => .done (s.draw n chunk rest)
      | .unopened h => .ask (.call (.stream h)) fun r => .done (s.draw n [] (items r))

/-- What was read before the reading stopped, and the failure that stopped it, if one did. -/
structure Reading where
  bytes : Bytes
  failure : Option StreamError
  deriving DecidableEq, Repr

def room : Nat := 65536

def readThen (limit : Option Nat) (read : Bytes) (s : ReadSession)
    (next : Option Nat → Bytes → ReadSession → Step Reading) : Step Reading :=
  (s.readOnce (limit.getD room)).bind fun
    | (.failure e, s') => .done (⟨read, some e⟩, s')
    | (.chunk [], s') => .done (⟨read, none⟩, s')
    | (.chunk bytes, s') => next (limit.map (· - bytes.length)) (read ++ bytes) s'

/-- Reads on after `read` until no more bytes are wanted, at most as many times as there is fuel. -/
def readOn : Nat → Option Nat → Bytes → ReadSession → Step Reading
  | 0, _, read, s => .done (⟨read, none⟩, s)
  | fuel + 1, limit, read, s =>
    if limit = some 0 then .done (⟨read, none⟩, s) else s.readThen limit read (readOn fuel)

/-- Reads until `limit` bytes are there, or to the end where there is no limit. There is one read in any
case; after it the stream is there, and its length bounds the reads that follow. -/
def read (limit : Option Nat) (s : ReadSession) : Step Reading :=
  s.readThen limit [] fun limit bytes s' => readOn s'.feed.bound limit bytes s'

end ReadSession

end RootedStore
