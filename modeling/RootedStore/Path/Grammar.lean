import RootedStore.Path.Basic

/-!
# Object keys

The grammar of the keys that callers may use: one or more groups of a slash and a word, the words
made of ASCII letters, digits, dots, underscores and hyphens. The bare slash is no key; it is
accepted where a directory is listed.
-/

namespace RootedStore.Path

def isKeyChar (c : Char) : Bool := c.isAlphanum || c = '.' || c = '_' || c = '-'

def isKeyWord (w : List Char) : Bool := !w.isEmpty && w.all isKeyChar

def isKey (path : String) : Bool :=
  match pieces (· = '/') path.toList with
  | [] :: w :: ws => (w :: ws).all isKeyWord
  | _ => false

/-- Whether the path may be listed: a key, or the bare slash. -/
def isListable (path : String) : Bool := path = "/" || isKey path

end RootedStore.Path
