/-!
# Bytes

Content is a list of bytes. Text becomes bytes in UTF-8. Bytes become text in two ways: strictly,
where a malformed sequence fails, and with replacement, where every maximal malformed sequence
becomes one U+FFFD. Bytes with a mark of the byte order at their start may also be UTF-16. Hexadecimal
digits stand at the end.
-/

namespace RootedStore

abbrev Bytes := List UInt8

namespace Text

def encode (s : String) : Bytes := s.toList.flatMap String.utf8EncodeChar

/-- How many bytes follow a first byte, the bits it contributes, and the range of the byte after it.
The range excludes overlong forms, surrogates and what lies beyond U+10FFFF. -/
def leadByte? (b : Nat) : Option (Nat × Nat × Nat × Nat) :=
  if b < 0x80 then some (0, b, 0, 0)
  else if b < 0xC2 then none
  else if b < 0xE0 then some (1, b - 0xC0, 0x80, 0xBF)
  else if b = 0xE0 then some (2, 0, 0xA0, 0xBF)
  else if b = 0xED then some (2, 0xD, 0x80, 0x9F)
  else if b < 0xF0 then some (2, b - 0xE0, 0x80, 0xBF)
  else if b = 0xF0 then some (3, 0, 0x90, 0xBF)
  else if b < 0xF4 then some (3, b - 0xF0, 0x80, 0xBF)
  else if b = 0xF4 then some (3, 4, 0x80, 0x8F)
  else none

/-- Reads the bytes after a first byte: how many are owed, the range of the next one, the value so
far. Stops before the first byte that does not fit, and then answers `none` and what is left. -/
def tailBytes : Nat → Nat → Nat → Nat → Bytes → Option Nat × Bytes
  | 0, _, _, value, rest => (some value, rest)
  | _ + 1, _, _, _, [] => (none, [])
  | owed + 1, low, high, value, b :: rest =>
    if low ≤ b.toNat ∧ b.toNat ≤ high then
      tailBytes owed 0x80 0xBF (value * 64 + (b.toNat - 0x80)) rest
    else (none, b :: rest)

theorem tailBytes_length (owed low high value : Nat) (rest : Bytes) :
    (tailBytes owed low high value rest).2.length ≤ rest.length := by
  induction rest generalizing owed low high value with
  | nil => cases owed <;> simp [tailBytes]
  | cons b rest ih =>
    cases owed with
    | zero => simp [tailBytes]
    | succ owed =>
      rw [tailBytes]
      split
      · exact Nat.le_succ_of_le (ih ..)
      · simp

/-- The characters of the bytes, `none` for every maximal malformed sequence. -/
def units : Bytes → List (Option Char)
  | [] => []
  | b :: rest =>
    match leadByte? b.toNat with
    | none => none :: units rest
    | some (owed, value, low, high) =>
      let read := tailBytes owed low high value rest
      read.1.map Char.ofNat :: units read.2
termination_by s => s.length
decreasing_by
  · simp
  · exact Nat.lt_succ_of_le (tailBytes_length ..)

def decode? (s : Bytes) : Option String := ((units s).mapM id).map String.ofList

/-- The text that the bytes spell, U+FFFD in the place of each malformed sequence. -/
def decodeLossy (s : Bytes) : String :=
  String.ofList ((units s).map (·.getD (Char.ofNat 0xFFFD)))

/-- The character of a pair of surrogates. -/
def pairedChar (high low : Nat) : Char :=
  Char.ofNat (0x10000 + (high - 0xD800) * 0x400 + (low - 0xDC00))

def units16 (little : Bool) : Bytes → List Nat × Bool
  | a :: b :: rest =>
    let (units, odd) := units16 little rest
    ((if little then b.toNat * 256 + a.toNat else a.toNat * 256 + b.toNat) :: units, odd)
  | [_] => ([], true)
  | [] => ([], false)

/-- The character of one unit, U+FFFD for half of a pair. -/
def loneChar (unit : Nat) : Char :=
  if 0xD800 ≤ unit ∧ unit < 0xE000 then Char.ofNat 0xFFFD else Char.ofNat unit

/-- The characters of units of UTF-16. A byte that is left becomes U+FFFD, together with the first half
of a pair that stands before it. -/
def chars16 (odd : Bool) : List Nat → List Char
  | [] => if odd then [Char.ofNat 0xFFFD] else []
  | [unit] =>
    loneChar unit :: if odd ∧ ¬ (0xD800 ≤ unit ∧ unit < 0xDC00) then [Char.ofNat 0xFFFD] else []
  | high :: low :: rest =>
    if 0xD800 ≤ high ∧ high < 0xDC00 ∧ 0xDC00 ≤ low ∧ low < 0xE000 then
      pairedChar high low :: chars16 odd rest
    else loneChar high :: chars16 odd (low :: rest)

/-- The text that the bytes spell with replacement, in the encoding that a mark at their start tells, or
else in UTF-8. The mark does not count. -/
def decodeMarked : Bytes → String
  | 0xEF :: 0xBB :: 0xBF :: rest => decodeLossy rest
  | 0xFF :: 0xFE :: rest => String.ofList (chars16 (units16 true rest).2 (units16 true rest).1)
  | 0xFE :: 0xFF :: rest => String.ofList (chars16 (units16 false rest).2 (units16 false rest).1)
  | s => decodeLossy s

def hexDigit (upper : Bool) (n : Nat) : Char :=
  if n < 10 then Char.ofNat (48 + n)
  else if upper then Char.ofNat (55 + n)
  else Char.ofNat (87 + n)

def digitValue? (base : Nat) (c : Char) : Option Nat :=
  let value :=
    if '0' ≤ c ∧ c ≤ '9' then some (c.toNat - 48)
    else if 'a' ≤ c ∧ c ≤ 'f' then some (c.toNat - 87)
    else if 'A' ≤ c ∧ c ≤ 'F' then some (c.toNat - 55)
    else none
  value.filter (· < base)

def digitsValue? (base : Nat) : List Char → Option Nat
  | [] => none
  | s => s.foldlM (fun value c => (digitValue? base c).map (value * base + ·)) 0

def hexByte (upper : Bool) (b : UInt8) : List Char :=
  [hexDigit upper (b.toNat / 16), hexDigit upper (b.toNat % 16)]

def hex (s : Bytes) : String := String.ofList (s.flatMap (hexByte false))

def unhex? : List Char → Option Bytes
  | [] => some []
  | a :: b :: rest => do
    let high ← digitValue? 16 a
    let low ← digitValue? 16 b
    return UInt8.ofNat (high * 16 + low) :: (← unhex? rest)
  | [_] => none

end Text

end RootedStore
