import RootedStore.Text.Blank
import RootedStore.WebHdfs.Link

/-!
# Messages

A request and its answer as they go over a connection that carries nothing else and ends with the
answer. An answer has a head of lines, a blank line and a body. The body is as long as its head
declares, comes in chunks, or lasts until the connection ends.
-/

namespace RootedStore.WebHdfs

open RootedStore.Path (pieces)

def serverPort (u : Url) : Nat := (u.port.or (Url.defaultPort? u.scheme)).getD 80

namespace Request

def head (r : Request) : List String :=
  [r.method.name ++ " " ++ String.ofList r.url.bare.location ++ " HTTP/1.1",
    "Host: " ++ String.ofList r.url.authority, "Accept: */*", "Connection: close",
    "Content-Length: " ++ toString r.body.length] ++
    (r.contentType.map ("Content-Type: " ++ ·)).toList

def message (r : Request) : Bytes :=
  Text.encode (String.join ((r.head ++ [""]).map (· ++ "\r\n"))) ++ r.body

end Request

/-- What stands before the first blank line, and what after it. -/
def splitHead? : Bytes → Option (Bytes × Bytes)
  | 13 :: 10 :: 13 :: 10 :: rest => some ([], rest)
  | b :: rest => (splitHead? rest).map fun (head, body) => (b :: head, body)
  | [] => none

/-- The value of a line of a head whose name, in lower case, is the given one. -/
def headValue? (name line : String) : Option String :=
  let (found, rest) := line.toList.span (· ≠ ':')
  if String.ofList (found.map Char.toLower) = name then some (Text.trim (String.ofList (rest.drop 1)))
  else none

/-- The content of chunks, and whether the last one is among them. A chunk is a line with its length in
hexadecimal digits, that many bytes, and the end of a line. The last one is empty. -/
def unchunk : Nat → Bytes → Bytes × Bool
  | 0, _ => ([], false)
  | fuel + 1, s =>
    let (line, rest) := s.span (· ≠ 10)
    let content := rest.drop 1
    match Text.digitsValue? 16
        ((Text.decodeLossy line).toList.takeWhile fun c => (Text.digitValue? 16 c).isSome) with
    | none => ([], false)
    | some 0 => ([], true)
    | some n =>
      let (more, complete) := unchunk fuel (content.drop (n + 2))
      (content.take n ++ more, complete)

def Reply.ofHead (lines : List String) (body : Bytes) : Reply :=
  let value? (name : String) : Option String := lines.findSome? (headValue? name)
  match (pieces (· = ' ') (lines.headD "").toList)[1]?.bind (Text.digitsValue? 10) with
  | none => .drop
  | some status =>
    if (value? "transfer-encoding").map (·.toLower) = some "chunked" then
      let (content, complete) := unchunk (body.length + 1) body
      .answer status content (value? "location") (if complete then none else some (content.length + 1))
    else
      .answer status body (value? "location")
        ((value? "content-length").bind fun s => Text.digitsValue? 10 s.toList)

/-- The answer that arrived. What has no head, or no status in it, is none. -/
def Reply.ofMessage (s : Bytes) : Reply :=
  match splitHead? s with
  | none => .drop
  | some (head, body) =>
    .ofHead ((pieces (· = '\n') (Text.decodeLossy head).toList).map fun line =>
      Text.trim (String.ofList line)) body

end RootedStore.WebHdfs
