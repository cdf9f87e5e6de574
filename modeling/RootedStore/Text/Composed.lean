import RootedStore.Text.CombiningClass
import RootedStore.Text.Decomposition

/-!
# The composed form

Texts that are the same by decomposition have one form in common: all characters are taken apart, the
marks of each character are put in the order of their classes, and what can be put together again is.
-/

namespace RootedStore.Text

/-- How often a character can be taken apart at most. -/
def splitDepth : Nat := 3

def decompose : Nat → Char → List Char
  | 0, c => [c]
  | depth + 1, c =>
    match splitChar? c with
    | none => [c]
    | some cs => cs.flatMap (decompose depth)

/-- Puts a mark before those of higher classes, and before all others of its own. -/
def insertMark (c : Char) : List Char → List Char
  | [] => [c]
  | x :: xs =>
    if 0 < combiningClass x ∧ combiningClass x < combiningClass c then x :: insertMark c xs
    else c :: x :: xs

def orderMarks (s : List Char) : List Char := s.foldr insertMark []

/-- Puts together what follows a character of class zero. `kept` are the marks that were not put together
with it, the last one first. A mark of the same class as one of them, or of a lower one, stays. -/
def composeFrom (start : Char) (kept : List Char) : List Char → List Char
  | [] => start :: kept.reverse
  | c :: rest =>
    let blocked := kept.head?.any fun k => combiningClass c ≤ combiningClass k
    match if blocked then none else joinChars? start c with
    | some x => composeFrom x kept rest
    | none =>
      if combiningClass c = 0 then start :: kept.reverse ++ composeFrom c [] rest
      else composeFrom start (c :: kept) rest

def compose : List Char → List Char
  | [] => []
  | c :: rest => if combiningClass c = 0 then composeFrom c [] rest else c :: compose rest

def composed (s : List Char) : List Char := compose (orderMarks (s.flatMap (decompose splitDepth)))

end RootedStore.Text
