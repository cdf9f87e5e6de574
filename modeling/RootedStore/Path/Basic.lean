/-!
# Paths

A path is text. Its components lie between separators, and both slashes separate. Normalising
evaluates the components on a stack: an empty component and a single dot are skipped, a double dot
drops the last component kept (and does nothing at the top), anything else is kept. A canonical
path is the rendering of such a stack.
-/

namespace RootedStore.Path

/-- Both slashes separate components. -/
def isSeparator (c : Char) : Bool := c = '/' || c = '\\'

/-- The pieces of a text between separators, empty pieces included. There is always at least one. -/
def pieces (sep : Char → Bool) : List Char → List (List Char)
  | [] => [[]]
  | c :: rest =>
    if sep c then [] :: pieces sep rest
    else
      match pieces sep rest with
      | [] => [[c]]
      | w :: ws => (c :: w) :: ws

def here : List Char := ['.']

def above : List Char := ['.', '.']

/-- One component read onto the stack of components kept, the last one first. -/
def push (stack : List (List Char)) (w : List Char) : List (List Char) :=
  if w = [] ∨ w = here then stack
  else if w = above then stack.tail
  else w :: stack

def resolve (ws : List (List Char)) : List (List Char) := (ws.foldl push []).reverse

/-- A slash before every component; the slash alone when there is none. -/
def render : List (List Char) → List Char
  | [] => ['/']
  | w :: ws => (w :: ws).flatMap ('/' :: ·)

def components (path : String) : List (List Char) := pieces isSeparator path.toList

def normalize (path : String) : String := String.ofList (render (resolve (components path)))

def hasParentRef (path : String) : Bool := (components path).any (· = above)

def dropTrailingSlashes (s : List Char) : List Char :=
  (s.reverse.dropWhile (· = '/')).reverse

def after? (lead s : List Char) : Option (List Char) :=
  if lead.isPrefixOf s then some (s.drop lead.length) else none

/-- Whether `path` is `root` or lies below it. Both are compared as written, on component
boundaries; only the slashes at the end of `root` do not count. -/
def isUnder (path root : String) : Bool :=
  match dropTrailingSlashes root.toList with
  | [] => path.toList.head? = some '/'
  | lead =>
    match after? lead path.toList with
    | none => false
    | some [] => true
    | some (c :: _) => c = '/'

/-- The canonical path of `name` below the directory `dir`. -/
def join (dir name : String) : String := normalize (dir ++ "/" ++ name)

/-- The canonical path of the directory that holds the path. The root holds itself. -/
def parent (path : String) : String :=
  String.ofList (render (resolve (components path)).dropLast)

/-- The last component as written, the slashes at the end of the path aside. -/
def baseName (path : String) : String :=
  String.ofList
    (((path.toList.reverse.dropWhile (· = '/')).takeWhile (· ≠ '/')).reverse)

/-- The canonical paths on the way from the root down to the path, the path itself last. The root
is not among them. -/
def lineage (path : String) : List String :=
  let ws := resolve (components path)
  (List.range ws.length).map fun n => String.ofList (render (ws.take (n + 1)))

end RootedStore.Path
