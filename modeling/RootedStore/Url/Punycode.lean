/-!
# Punycode

A label with characters outside ASCII, written with letters, digits and hyphens: first its ASCII
characters, then the places and values of the others as differences, each a number to the base 36 whose
digits have thresholds that adapt to the differences before it.
-/

namespace RootedStore.Url.Punycode

def digit (d : Nat) : Char := if d < 26 then Char.ofNat (97 + d) else Char.ofNat (22 + d)

def digitValue? (c : Char) : Option Nat :=
  if c.isAlpha then some (c.toLower.toNat - 97)
  else if c.isDigit then some (c.toNat - 22)
  else none

/-- The threshold of the digit at a place. -/
def threshold (bias place : Nat) : Nat := max 1 (min 26 (place - bias))

/-- Divides until the difference is small; gives the places passed and what is left. -/
def settle : Nat → Nat → Nat → Nat × Nat
  | 0, places, delta => (places, delta)
  | fuel + 1, places, delta =>
    if delta ≤ 455 then (places, delta) else settle fuel (places + 36) (delta / 35)

/-- The bias after a difference, when `count` characters are placed. -/
def adapt (delta count : Nat) (first : Bool) : Nat :=
  let delta := if first then delta / 700 else delta / 2
  let delta := delta + delta / count
  let (places, delta) := settle delta 0 delta
  places + 36 * delta / (delta + 38)

/-- A difference in digits from a place on. The value decides how many are needed. -/
def digits (bias : Nat) : Nat → Nat → Nat → List Char
  | 0, _, _ => []
  | fuel + 1, place, n =>
    let t := threshold bias place
    if n < t then [digit n]
    else digit (t + (n - t) % (36 - t)) :: digits bias fuel (place + 36) ((n - t) / (36 - t))

structure State where
  next : Nat
  delta : Nat
  bias : Nat
  placed : Nat
  written : List Char

def place (basic char : Nat) (s : State) (c : Char) : State :=
  if c.toNat < char then { s with delta := s.delta + 1 }
  else if c.toNat = char then
    { s with
      delta := 0
      bias := adapt s.delta (s.placed + 1) (s.placed = basic)
      placed := s.placed + 1
      written := s.written ++ digits s.bias (s.delta + 1) 36 s.delta }
  else s

/-- Places one character after the other, the least first. -/
def placeAll (basic : Nat) (label : List Char) (s : State) : List Nat → State
  | [] => s
  | char :: rest =>
    let s := { s with delta := s.delta + (char - s.next) * (s.placed + 1) }
    let s := label.foldl (place basic char) s
    placeAll basic label { s with next := char + 1, delta := s.delta + 1 } rest

def encode (label : List Char) : List Char :=
  let basic := label.filter (·.toNat < 0x80)
  let others := ((label.filter (0x80 ≤ ·.toNat)).map Char.toNat).mergeSort.eraseDups
  let start : State :=
    ⟨0x80, 0, 72, basic.length, if basic.isEmpty then [] else basic ++ ['-']⟩
  (placeAll basic.length label start others).written

def limit : Nat := 0x100000000

/-- A difference in digits from a place on, added to `n`, and what follows it. -/
def addDigits? (bias place weight n : Nat) : List Char → Option (Nat × List Char)
  | [] => none
  | c :: rest => do
    let d ← digitValue? c
    let n := n + d * weight
    let t := threshold bias place
    if limit ≤ n ∨ limit ≤ weight then none
    else if d < t then some (n, rest)
    else addDigits? bias (place + 36) (weight * (36 - t)) n rest

/-- Where the next character goes: the value and the place that the difference to it is counted from. -/
structure Cursor where
  bias : Nat
  char : Nat
  place : Nat

/-- Puts the characters that differences spell into a label. No difference is without a digit, so there
are not more of them than the fuel says. -/
def insertAll : Nat → Cursor → List Char → List Char → Option (List Char)
  | _, _, label, [] => some label
  | 0, _, _, _ => none
  | fuel + 1, cursor, label, s => do
    let (reached, rest) ← addDigits? cursor.bias 36 1 cursor.place s
    let count := label.length + 1
    let char := cursor.char + reached / count
    let place := reached % count
    if char.isValidChar then
      insertAll fuel ⟨adapt (reached - cursor.place) count (cursor.place = 0), char, place + 1⟩
        (label.take place ++ Char.ofNat char :: label.drop place) rest
    else none

/-- The ASCII characters before the last hyphen, and the differences after it. A hyphen at the start has
none before it and is no digit either. -/
def splitBasic (s : List Char) : List Char × List Char :=
  match s.reverse.span (· ≠ '-') with
  | (after, _ :: before) => if before.isEmpty then ([], s) else (before.reverse, after.reverse)
  | (_, []) => ([], s)

def decode? (s : List Char) : Option (List Char) :=
  let (basic, differences) := splitBasic s
  if basic.all (·.toNat < 0x80) then insertAll s.length ⟨72, 0x80, 0⟩ basic differences else none

end RootedStore.Url.Punycode
