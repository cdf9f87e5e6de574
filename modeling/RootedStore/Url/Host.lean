import RootedStore.Path.Basic
import RootedStore.Url.Domain.Basic
import RootedStore.Url.Percent

/-!
# Hosts

The host of a URL: a domain in ASCII, an address of four bytes, an address of eight groups, or a text
that is taken as it is where the scheme gives hosts no meaning. A domain whose last label is a number is
an address of four bytes.
-/

namespace RootedStore.Url

open RootedStore.Path (pieces)

inductive UrlError where
  | emptyHost
  | domain
  | port
  | ipv4
  | ipv6
  | hostCharacter
  | relative
  deriving DecidableEq, Repr

def UrlError.message : UrlError → String
  | .emptyHost => "empty host"
  | .domain => "invalid international domain name"
  | .port => "invalid port number"
  | .ipv4 => "invalid IPv4 address"
  | .ipv6 => "invalid IPv6 address"
  | .hostCharacter => "invalid domain character"
  | .relative => "relative URL without a base"

inductive Host where
  | domain (name : String)
  | ipv4 (address : Nat)
  | ipv6 (groups : List Nat)
  | verbatim (text : String)
  deriving DecidableEq, Repr

namespace Host

def isForbidden (c : Char) : Bool :=
  [Char.ofNat 0, '\t', '\n', '\r', ' ', '#', '/', ':', '<', '>', '?', '@', '[', '\\', ']', '^', '|'].contains c

def isForbiddenInDomain (c : Char) : Bool := isForbidden c || isControl c || c = '%'

def domain? (s : List Char) : Option (List Char) := do
  let decoded ← Text.decode? (percentDecode (Text.encode (String.ofList s)))
  let ascii ← Domain.ascii? decoded.toList
  if ascii.any isForbiddenInDomain then none else some ascii

/-- The number that a part of an address spells, in the base that its start tells. -/
def ipv4Number? : List Char → Option Nat
  | [] => none
  | '0' :: x :: ds =>
    if x = 'x' ∨ x = 'X' then if ds.isEmpty then some 0 else Text.digitsValue? 16 ds
    else Text.digitsValue? 8 (x :: ds)
  | ds => Text.digitsValue? 10 ds

/-- The parts of an address. A dot at the end does not count. -/
def ipv4Parts (s : List Char) : List (List Char) :=
  let parts := pieces (· = '.') s
  if 1 < parts.length ∧ parts.getLast? = some [] then parts.dropLast else parts

/-- Whether the last label makes a domain an address. -/
def endsInNumber (s : List Char) : Bool :=
  match (ipv4Parts s).getLast? with
  | some last => (!last.isEmpty && last.all Char.isDigit) || (ipv4Number? last).isSome
  | none => false

/-- The address of up to four parts: the last one fills all bytes that are left. -/
def ipv4? (s : List Char) : Option Nat := do
  let parts := ipv4Parts s
  let numbers ← parts.mapM ipv4Number?
  let last ← numbers.getLast?
  let leading := numbers.dropLast
  if 4 < numbers.length ∨ leading.any (255 < ·) ∨ Nat.pow 256 (4 - leading.length) ≤ last then none
  else some (leading.foldl (fun n b => n * 256 + b) 0 * Nat.pow 256 (4 - leading.length) + last)

def ipv4Bytes (n : Nat) : List Nat := [n / 0x1000000 % 256, n / 0x10000 % 256, n / 0x100 % 256, n % 256]

def group? (s : List Char) : Option Nat := if 4 < s.length then none else Text.digitsValue? 16 s

def byte? : List Char → Option Nat
  | '0' :: _ :: _ => none
  | s => (Text.digitsValue? 10 s).filter (· < 256)

/-- The two groups of an address of four bytes at the end of an address. -/
def embedded? (s : List Char) : Option (List Nat) := do
  match ← (pieces (· = '.') s).mapM byte? with
  | [a, b, c, d] => return [a * 256 + b, c * 256 + d]
  | _ => none

def groups? : List (List Char) → Option (List Nat)
  | [] => some []
  | [w] => if w.contains '.' then embedded? w else (group? w).map ([·])
  | w :: ws => do return (← group? w) :: (← groups? ws)

/-- The groups of a side that may be empty. Four bytes can only be at the end of the address. -/
def side? (atEnd : Bool) (s : List Char) : Option (List Nat) :=
  if s.isEmpty then some []
  else if !atEnd && s.contains '.' then none
  else groups? (pieces (· = ':') s)

def splitGap : List Char → Option (List Char × List Char)
  | ':' :: ':' :: rest => some ([], rest)
  | c :: rest => (splitGap rest).map fun (a, b) => (c :: a, b)
  | [] => none

/-- The eight groups of an address; a double colon stands for at least one group of zero. -/
def ipv6? (s : List Char) : Option (List Nat) := do
  match splitGap s with
  | none =>
    let gs ← groups? (pieces (· = ':') s)
    if gs.length = 8 then some gs else none
  | some (left, right) =>
    let ls ← side? false left
    let rs ← side? true right
    let gap := 8 - (ls.length + rs.length)
    if gap = 0 then none else some (ls ++ List.replicate gap 0 ++ rs)

/-- The start and length of the first of the longest runs of zero. -/
def longestGap (gs : List Nat) : Nat × Nat :=
  (List.range gs.length).foldl (fun best i =>
    let n := ((gs.drop i).takeWhile (· = 0)).length
    if best.2 < n then (i, n) else best) (0, 0)

def hexText (n : Nat) : List Char := Nat.toDigits 16 n

/-- The groups of an address with the longest run of two or more zeros left out. -/
def ipv6Text (gs : List Nat) : List Char :=
  let (start, n) := longestGap gs
  if n < 2 then [':'].intercalate (gs.map hexText)
  else
    [':'].intercalate ((gs.take start).map hexText) ++ [':', ':'] ++
      [':'].intercalate ((gs.drop (start + n)).map hexText)

def parse (s : List Char) : Except UrlError Host :=
  match s with
  | '[' :: rest =>
    if rest.getLast? = some ']' then
      match ipv6? rest.dropLast with
      | some gs => .ok (.ipv6 gs)
      | none => .error .ipv6
    else .error .ipv6
  | s =>
    match domain? s with
    | none => .error .domain
    | some [] => .error .emptyHost
    | some name =>
      if endsInNumber name then
        match ipv4? name with
        | some n => .ok (.ipv4 n)
        | none => .error .ipv4
      else .ok (.domain (String.ofList name))

/-- The host of a URL whose scheme gives hosts no meaning. -/
def parseVerbatim (s : List Char) : Except UrlError Host :=
  match s with
  | '[' :: rest =>
    if rest.getLast? = some ']' then
      match ipv6? rest.dropLast with
      | some gs => .ok (.ipv6 gs)
      | none => .error .ipv6
    else .error .ipv6
  | s =>
    if s.any isForbidden then .error .hostCharacter
    else .ok (.verbatim (String.ofList (percentEncode isControl s)))

def text : Host → String
  | .domain name => name
  | .verbatim text => text
  | .ipv4 n => String.ofList (['.'].intercalate ((ipv4Bytes n).map (Nat.toDigits 10)))
  | .ipv6 gs => String.ofList ('[' :: (ipv6Text gs ++ [']']))

end Host

end RootedStore.Url
