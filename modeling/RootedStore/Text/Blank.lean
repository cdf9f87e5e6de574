/-!
# Blank characters

The characters with the Unicode property White_Space, and trimming them from both ends of a text.
-/

namespace RootedStore.Text

/-- The code points with the property White_Space. -/
def blanks : List Nat :=
  [0x09, 0x0A, 0x0B, 0x0C, 0x0D, 0x20, 0x85, 0xA0, 0x1680, 0x2000, 0x2001, 0x2002, 0x2003, 0x2004,
    0x2005, 0x2006, 0x2007, 0x2008, 0x2009, 0x200A, 0x2028, 0x2029, 0x202F, 0x205F, 0x3000]

def isBlank (c : Char) : Bool := blanks.contains c.toNat

/-- A text without the elements at its ends that satisfy `p`. -/
def trimBoth (p : α → Bool) (s : List α) : List α :=
  ((s.dropWhile p).reverse.dropWhile p).reverse

def trim (s : String) : String := String.ofList (trimBoth isBlank s.toList)

def isAllBlank (s : String) : Bool := s.toList.all isBlank

end RootedStore.Text
