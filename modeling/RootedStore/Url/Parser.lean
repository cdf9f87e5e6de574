import RootedStore.Url.Basic

/-!
# Reading URLs

A text is read part by part: the scheme, what is before the host, the host, the port, the path, the
query, the fragment. A text without a scheme is read relative to another URL. Control characters and
spaces around the text do not count, and tabs and line breaks count nowhere.
-/

namespace RootedStore.Url

def stripped (s : String) : List Char :=
  let outer (c : Char) : Bool := c.toNat ≤ 0x20
  ((s.toList.dropWhile outer).reverse.dropWhile outer).reverse.filter fun c =>
    c ≠ '\t' && c ≠ '\n' && c ≠ '\r'

/-- The scheme in lower case, and the text after its colon. -/
def splitScheme? (s : List Char) : Option (String × List Char) :=
  match s.span fun c => c.isAlphanum || c = '+' || c = '-' || c = '.' with
  | (c :: name, ':' :: rest) =>
    if c.isAlpha then some (String.ofList ((c :: name).map Char.toLower), rest) else none
  | _ => none

def splitFragment (s : List Char) : List Char × Option (List Char) :=
  match s.span (· ≠ '#') with
  | (before, '#' :: rest) => (before, some (percentEncode inFragmentSet rest))
  | (before, _) => (before, none)

def splitQuery (special : Bool) (s : List Char) : List Char × Option (List Char) :=
  match s.span (· ≠ '?') with
  | (before, '?' :: rest) =>
    (before, some (percentEncode (fun c => inQuerySet c && (special || c ≠ '\'')) rest))
  | (before, _) => (before, none)

/-- Spellings of the segments that stand for the directory itself and for the one above. -/
def isHere (w : List Char) : Bool := w.map Char.toLower ∈ [".".toList, "%2e".toList]

def isAbove (w : List Char) : Bool :=
  w.map Char.toLower ∈ ["..".toList, ".%2e".toList, "%2e.".toList, "%2e%2e".toList]

/-- Whether a segment names a drive: a letter and a colon or bar. -/
def isDrive : List Char → Bool
  | [letter, mark] => letter.isAlpha && (mark = ':' || mark = '|')
  | _ => false

/-- The segments of the directory above. A drive has none above it. -/
def dropSegment (ws : List (List Char)) : List (List Char) :=
  if ws.getLast?.any isDrive then ws else ws.dropLast

/-- Adds the segments of a path to those before them. -/
def addSegments (before : List (List Char)) : List (List Char) → List (List Char)
  | [] => before
  | w :: ws =>
    let w := percentEncode inPathSet w
    let closed := if ws.isEmpty then [[]] else []
    if isAbove w then addSegments (dropSegment before ++ closed) ws
    else if isHere w then addSegments (before ++ closed) ws
    else addSegments (before ++ [w]) ws

def isSlash (special : Bool) (c : Char) : Bool := c = '/' || (special && c = '\\')

/-- The segments that a path adds to those before it. -/
def readPath (special : Bool) (before : List (List Char)) (s : List Char) : List (List Char) :=
  addSegments before (Path.pieces (isSlash special) s)

def readRootedPath (special : Bool) (s : List Char) : List (List Char) :=
  match s with
  | c :: rest => readPath special [] (if isSlash special c then rest else c :: rest)
  | [] => if special then [[]] else []

/-- A port, which a backslash may end, and what follows it. -/
def readPort (scheme : String) (s : List Char) : Except UrlError (Option Nat × List Char) :=
  let (digits, rest) := s.span Char.isDigit
  let n := (Text.digitsValue? 10 digits).getD 0
  if rest.head?.any (· ≠ '\\') ∨ 65535 < n then .error .port
  else .ok (if digits.isEmpty ∨ defaultPort? scheme = some n then none else some n, rest)

/-- Host and port: the port is after the first colon outside brackets. -/
def splitPort (inBrackets : Bool) : List Char → List Char × Option (List Char)
  | [] => ([], none)
  | c :: rest =>
    if c = ':' && !inBrackets then ([], some rest)
    else
      let (host, port) := splitPort (if c = '[' then true else if c = ']' then false else inBrackets) rest
      (c :: host, port)

/-- The part before the last sign that ends user and password, and the part after it. -/
def splitUser (s : List Char) : Option (List Char) × List Char :=
  match s.reverse.span (· ≠ '@') with
  | (after, _ :: before) => (some before.reverse, after.reverse)
  | (_, []) => (none, s)

/-- User, password, host and port, and what is left after the port. Without a host a text may end after
an empty user, but not go on. -/
def readAuthority (scheme : String) (atEnd : Bool) (s : List Char) :
    Except UrlError (List Char × List Char × Host × Option Nat × List Char) := do
  let special := isSpecial scheme
  let (user, s) := splitUser s
  if user = some [] ∧ s.isEmpty ∧ !atEnd then throw .emptyHost
  let (name, password) := (user.getD []).span (· ≠ ':')
  let password := password.drop 1
  let (hostText, port) := splitPort false s
  if special ∧ hostText.isEmpty then throw .emptyHost
  let host ← if special then Host.parse hostText else Host.parseVerbatim hostText
  if hostText.isEmpty ∧ (port.isSome ∨ !name.isEmpty ∨ !password.isEmpty) then throw .emptyHost
  let (port, rest) ← (port.map (readPort scheme)).getD (.ok (none, []))
  return (percentEncode inUserSet name, percentEncode inUserSet password, host, port, rest)

def readHierarchy (scheme : String) (s : List Char) : Except UrlError Url := do
  let special := isSpecial scheme
  let (beforeFragment, fragment) := splitFragment s
  let (beforeQuery, query) := splitQuery special beforeFragment
  let (start, path) := beforeQuery.span fun c => !isSlash special c
  let (user, password, host, port, rest) ← readAuthority scheme (start.length = s.length) start
  return ⟨scheme, user, password, some host, port, .segments (readRootedPath special (rest ++ path)), query,
    fragment⟩

def readFileUrl (s : List Char) : Except UrlError Url := do
  let (s, fragment) := splitFragment s
  let (s, query) := splitQuery true s
  let slashes := (s.takeWhile (isSlash true)).length
  let (start, path) := if slashes < 2 then ([], s) else (s.drop 2).span fun c => !isSlash true c
  let host ←
    if start.isEmpty ∨ isDrive start then pure none
    else do
      let host ← Host.parse start
      pure (if host = .domain "localhost" then none else some host)
  let path := if isDrive start then '/' :: start ++ path else path
  return ⟨"file", [], [], host, none, .segments (readRootedPath true path), query, fragment⟩

def readAfterScheme (scheme : String) (s : List Char) : Except UrlError Url :=
  if scheme = "file" then readFileUrl s
  else if isSpecial scheme then readHierarchy scheme (s.dropWhile (isSlash true))
  else
    match s with
    | '/' :: '/' :: rest => readHierarchy scheme rest
    | s =>
      let (s, fragment) := splitFragment s
      let (s, query) := splitQuery false s
      let path : UrlPath :=
        match s with
        | '/' :: rest => .segments (readPath false [] rest)
        | s => .plain (percentEncode isControl s)
      .ok ⟨scheme, [], [], none, none, path, query, fragment⟩

def parse (s : String) : Except UrlError Url :=
  let s := stripped s
  match splitScheme? s with
  | some (scheme, rest) => readAfterScheme scheme rest
  | none => .error .relative

/-- A text without a scheme, relative to a URL with host and segments. -/
def readRelative (base : Url) (s : List Char) : Except UrlError Url :=
  let slashes := (s.takeWhile (isSlash true)).length
  if 2 ≤ slashes then readHierarchy base.scheme (s.drop slashes)
  else
    let (s, fragment) := splitFragment s
    let (path, query) := splitQuery true s
    if path.isEmpty then
      .ok { base with query := if query.isSome then query else base.query, fragment }
    else
      let ws :=
        if slashes = 1 then readRootedPath true path else readPath true base.segments.dropLast path
      .ok { base with path := .segments ws, query, fragment }

/-- A text relative to a URL of a special scheme. A text that repeats the scheme and has less than two
slashes after it is relative as well. -/
def join (base : Url) (s : String) : Except UrlError Url :=
  let s := stripped s
  match splitScheme? s with
  | some (scheme, rest) =>
    if scheme = base.scheme ∧ (rest.takeWhile (isSlash true)).length < 2 then readRelative base rest
    else readAfterScheme scheme rest
  | none => readRelative base s

end RootedStore.Url
