import RootedStore.Text.CombiningClass
import RootedStore.Text.Composed
import RootedStore.Text.Direction
import RootedStore.Text.Joining
import RootedStore.Url.Domain.Mapping
import RootedStore.Url.Punycode

/-!
# Labels

A label of a domain: the characters that it is read as, and its form in ASCII. A label outside ASCII is
written in Punycode with a mark before it. It does not start with a mark on a character, has joiners only
where they change how letters are written, and in a domain with letters that are written from right to
left runs in one direction.
-/

namespace RootedStore.Url.Domain

open RootedStore.Text (Direction)

structure Label where
  /-- The label in ASCII. -/
  written : List Char
  read : List Char
  deriving DecidableEq, Repr

def isAscii (s : List Char) : Bool := s.all (·.toNat < 0x80)

def codeMark : List Char := ['x', 'n', '-', '-']

/-- How long a label in Punycode can be without its mark. -/
def codeLimit : Nat := 2000

/-- How long a label outside ASCII can be. -/
def readLimit : Nat := 1000

/-- Whether mapping and composing leave a label as it is. -/
def isMapped (s : List Char) : Bool := s.all (fun c => map? c = some [c]) && Text.composed s = s

namespace Label

/-- The label that the part of a domain spells that was mapped already. -/
def ofMapped? (s : List Char) : Option Label :=
  if isAscii s ∧ !codeMark.isPrefixOf s then some ⟨s, s⟩
  else
    let s := Text.composed s
    if codeMark.isPrefixOf s then do
      let code := s.drop codeMark.length
      let read ← Punycode.decode? code
      if isAscii code ∧ code.length ≤ codeLimit ∧ code.getLast?.any (· ≠ '-') ∧
          read.length ≤ readLimit ∧ isMapped read then some ⟨s, read⟩ else none
    else if isAscii s then some ⟨s, s⟩
    else if s.length ≤ readLimit then some ⟨codeMark ++ Punycode.encode s, s⟩
    else none

def startsWithMark (l : Label) : Bool := l.read.head?.any Text.isMark

end Label

def nonJoiner : Char := Char.ofNat 0x200C

def joiner : Char := Char.ofNat 0x200D

def meets (p : Char → Bool) (s : List Char) : Bool := (s.dropWhile Text.isTransparent).head?.any p

/-- Whether the joiners of a text fit in after the characters before it, the last one first. -/
def joinersFit (before : List Char) : List Char → Bool
  | [] => true
  | c :: rest =>
    let afterVirama := before.head?.any Text.isVirama
    let fits :=
      if c = nonJoiner then
        afterVirama || (meets Text.joinsNext before && meets Text.joinsPrevious rest)
      else c ≠ joiner || afterVirama
    fits && joinersFit (c :: before) rest

/-- Whether the character makes a domain one that runs in both directions. -/
def turns (c : Char) : Bool := [Direction.right, .arabicLetter, .arabicNumber].contains (.of c)

def directionless : List Direction :=
  [.europeanNumber, .europeanSeparator, .commonSeparator, .europeanTerminator, .neutral, .boundaryNeutral,
    .nonspacingMark]

/-- Whether a label runs in one direction from its first character to the last one that is no mark. -/
def runsOneWay (label : List Char) : Bool :=
  match label.map Direction.of with
  | [] => true
  | first :: rest =>
    let body := (rest.reverse.dropWhile (· = .nonspacingMark)).reverse
    match first with
    | .left =>
      body.all (fun d => d = .left || directionless.contains d) &&
        body.getLast?.all fun d => d = .left || d = .europeanNumber
    | .right | .arabicLetter =>
      let letters : List Direction := [.right, .arabicLetter, .arabicNumber]
      body.all (fun d => letters.contains d || directionless.contains d) &&
        body.getLast?.all (fun d => letters.contains d || d = .europeanNumber) &&
        !(body.contains .europeanNumber && body.contains .arabicNumber)
    | _ => false

end RootedStore.Url.Domain
