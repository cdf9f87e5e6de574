import RootedStore.Path.Basic
import RootedStore.Text.Bytes

/-!
# Tables of characters

Sets of characters as ranges of code points, and functions on characters as rules for ranges. Both are
written in words: a range as its first and last code point in hexadecimal with a hyphen between them, or
as its only one; a rule as a range, an arrow head, and the code points that take the place of the first
one of the range. Those of the others follow at the same distance. All tables are of Unicode 17, with
later characters added: the Seal, Jurchen and Chisoi scripts, archaic cuneiform numerals, and some single
letters, marks and signs.
-/

namespace RootedStore.Text

/-- The words of a line. -/
def words (line : String) : List (List Char) :=
  (Path.pieces (· = ' ') line.toList).filter fun w => !w.isEmpty

structure CodeRange where
  first : Nat
  last : Nat
  deriving DecidableEq, Repr

namespace CodeRange

def contains (r : CodeRange) (c : Char) : Bool := r.first ≤ c.toNat && c.toNat ≤ r.last

def ofWord? (w : List Char) : Option CodeRange := do
  let (first, last) := w.span (· ≠ '-')
  let first ← digitsValue? 16 first
  return ⟨first, ← if last.isEmpty then some first else digitsValue? 16 (last.drop 1)⟩

def ofLines (lines : List String) : List CodeRange := (lines.flatMap words).filterMap ofWord?

end CodeRange

def isIn (rs : List CodeRange) (c : Char) : Bool := rs.any (·.contains c)

structure CodeRule where
  range : CodeRange
  /-- What takes the place of the first code point. -/
  image : List Nat
  deriving DecidableEq, Repr

namespace CodeRule

def ofWord? (w : List Char) : Option CodeRule := do
  let (range, image) := w.span (· ≠ '>')
  return ⟨← CodeRange.ofWord? range, ← (Path.pieces (· = ',') (image.drop 1)).mapM (digitsValue? 16)⟩

def ofLines (lines : List String) : List CodeRule := (lines.flatMap words).filterMap ofWord?

def apply (r : CodeRule) (c : Char) : List Char :=
  r.image.map fun n => Char.ofNat (n + (c.toNat - r.range.first))

end CodeRule

/-- What takes the place of a character by the first rule for it. -/
def image? (rules : List CodeRule) (c : Char) : Option (List Char) :=
  (rules.find? (·.range.contains c)).map (·.apply c)

end RootedStore.Text
