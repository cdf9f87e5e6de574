import RootedStore.Url.Host

/-!
# URLs

A URL in its parts, each encoded as it is written, and the text of a URL.
-/

namespace RootedStore

inductive UrlPath where
  /-- Segments, each after a slash. -/
  | segments (ws : List (List Char))
  /-- A text that is no sequence of segments. -/
  | plain (s : List Char)
  deriving DecidableEq, Repr

def UrlPath.text : UrlPath → List Char
  | .segments ws => ws.flatMap ('/' :: ·)
  | .plain s => s

structure Url where
  scheme : String
  user : List Char
  password : List Char
  host : Option Url.Host
  /-- The port, if it is not the one that goes with the scheme. -/
  port : Option Nat
  path : UrlPath
  query : Option (List Char)
  fragment : Option (List Char)
  deriving DecidableEq, Repr

namespace Url

/-- Whether the scheme is one of those whose hosts and paths have a common form. -/
def isSpecial (scheme : String) : Bool := ["http", "https", "ws", "wss", "ftp", "file"].contains scheme

def defaultPort? : String → Option Nat
  | "http" => some 80
  | "ws" => some 80
  | "https" => some 443
  | "wss" => some 443
  | "ftp" => some 21
  | _ => none

def segments (u : Url) : List (List Char) :=
  match u.path with
  | .segments ws => ws
  | .plain _ => []

def credentials (u : Url) : List Char :=
  if u.user.isEmpty ∧ u.password.isEmpty then []
  else u.user ++ (if u.password.isEmpty then [] else ':' :: u.password) ++ ['@']

def authority (u : Url) : List Char :=
  (u.host.elim [] fun h => h.text.toList) ++ (u.port.elim [] fun p => ':' :: Nat.toDigits 10 p)

def location (u : Url) : List Char :=
  u.path.text ++ (u.query.elim [] ('?' :: ·)) ++ (u.fragment.elim [] ('#' :: ·))

def text (u : Url) : String :=
  u.scheme ++ ":" ++
    String.ofList
      ((if u.host.isSome ∨ u.scheme = "file" then '/' :: '/' :: (u.credentials ++ u.authority) else []) ++
        u.location)

/-- The URL as it goes over a connection: without user, password and fragment. -/
def bare (u : Url) : Url := { u with user := [], password := [], fragment := none }

end Url

end RootedStore
