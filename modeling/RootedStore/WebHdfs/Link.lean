import RootedStore.Url.Parser
import RootedStore.WebHdfs.Exchange

/-!
# Links

A connection to servers whose answers are known beforehand: the next request gets the next answer, and
all requests are on record. An answer may refer to another place; the request is then made again there,
up to nine times. A request that does not reach any server is not answered and not recorded.
-/

namespace RootedStore.WebHdfs

inductive Reply where
  | drop
  | answer (status : Nat) (body : Bytes) (location : Option String) (length : Option Nat)
  deriving DecidableEq, Repr

structure Link where
  /-- Whether plain requests reach a server. -/
  reaches : Bool
  /-- Whether requests over a secured connection do. -/
  secured : Bool
  replies : List Reply
  /-- The requests on record, the last one first. -/
  sent : List Request
  deriving DecidableEq, Repr

namespace Link

def carries (link : Link) (r : Request) : Bool :=
  match r.url.scheme with
  | "http" => link.reaches
  | "https" => link.secured
  | _ => false

def hasBody (status : Nat) : Bool := status ≠ 204 && status ≠ 304 && 200 ≤ status

/-- The response of an answer. A declared length cuts the body, or leaves it incomplete. -/
def response (status : Nat) (body : Bytes) (length : Option Nat) : Response :=
  if hasBody status then
    let arrived := body.take (length.getD body.length)
    ⟨status, arrived, length.getD body.length ≤ body.length, Text.decodeMarked arrived⟩
  else ⟨status, [], true, ""⟩

/-- The request made again elsewhere: as it is, or as one that only asks for content. -/
def redirected (status : Nat) (r : Request) (url : Url) : Option Request :=
  if status = 307 ∨ status = 308 then some { r with url }
  else if status = 301 ∨ status = 302 ∨ status = 303 then some ⟨.get, url, none, []⟩
  else none

/-- Makes one request and follows references while there is fuel. -/
def follow : Nat → Request → Link → Outcome × Link
  | fuel, r, link =>
    if !link.carries r then (.error .unanswered, link)
    else
      let recorded := { link with sent := { r with url := r.url.bare } :: link.sent }
      match link.replies with
      | [] => (.error .unanswered, recorded)
      | .drop :: rest => (.error .unanswered, { recorded with replies := rest })
      | .answer status body location length :: rest =>
        let link := { recorded with replies := rest }
        let next := do redirected status r (← (r.url.join (← location)).toOption)
        match next, fuel with
        | none, _ => (.ok (response status body length), link)
        | some _, 0 => (.error .redirectedTooOften, link)
        | some r, fuel + 1 => follow fuel r link

def exchange (r : Request) (link : Link) : Outcome × Link := follow 9 r link

/-- A link over plain connections, with the answers to come. -/
def ofReplies (reaches : Bool) (replies : List Reply) : Link := ⟨reaches, false, replies, []⟩

def takeSent (link : Link) : List Request × Link := (link.sent.reverse, { link with sent := [] })

end Link

end RootedStore.WebHdfs
