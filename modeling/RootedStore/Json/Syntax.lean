import RootedStore.Json.Numeral

/-!
# JSON texts

Reading a text into a tree that keeps what the text says: numerals as written, fields in order with
repeated keys, and a mark on strings in which an escape names half of a character only. What of this
is acceptable is for the reader of the tree to say (`RootedStore.Json.Decode`).
-/

namespace RootedStore.Json

/-- What a text says. A string is `none` if it has an unpaired surrogate. -/
inductive Tree where
  | null
  | bool (b : Bool)
  | number (m : Numeral)
  | string (s : Option String)
  | array (items : List Tree)
  | object (fields : List (Option String × Tree))
  deriving Inhabited

namespace Tree

def skipBlanks (s : List Char) : List Char :=
  s.dropWhile fun c => c = ' ' ∨ c = '\n' ∨ c = '\t' ∨ c = '\r'

def spanDigits (s : List Char) : List Char × List Char := s.span Char.isDigit

/-- An exponent at the start of a text, if there is one. `none` if the letter is not followed by
digits. -/
def readExponent : List Char → Option (Option (Bool × List Char) × List Char)
  | c :: rest =>
    if c = 'e' ∨ c = 'E' then
      let (neg, rest) :=
        match rest with
        | '+' :: r => (false, r)
        | '-' :: r => (true, r)
        | r => (false, r)
      match spanDigits rest with
      | ([], _) => none
      | (ds, rest) => some (some (neg, ds), rest)
    else some (none, c :: rest)
  | [] => some (none, [])

/-- A numeral at the start of a text after its sign. No zero stands before another digit. -/
def readUnsigned (negative : Bool) (s : List Char) : Option (Numeral × List Char) :=
  match spanDigits s with
  | ([], _) => none
  | ('0' :: _ :: _, _) => none
  | (whole, '.' :: rest) =>
    match spanDigits rest with
    | ([], _) => none
    | (fraction, rest) => (readExponent rest).map fun (e, r) => (⟨negative, whole, fraction, e⟩, r)
  | (whole, rest) => (readExponent rest).map fun (e, r) => (⟨negative, whole, [], e⟩, r)

def readNumeral : List Char → Option (Numeral × List Char)
  | '-' :: s => readUnsigned true s
  | s => readUnsigned false s

def hex4? (a b c d : Char) : Option Nat := Text.digitsValue? 16 [a, b, c, d]

def low? : List Char → Option Nat
  | '\\' :: 'u' :: a :: b :: c :: d :: _ => hex4? a b c d
  | _ => none

def escaped? : Char → Option Char
  | '"' => some '"'
  | '\\' => some '\\'
  | '/' => some '/'
  | 'b' => some '\x08'
  | 'f' => some '\x0c'
  | 'n' => some '\n'
  | 'r' => some '\r'
  | 't' => some '\t'
  | _ => none

/-- The string up to the closing quote and the text after it. The characters read so far come last
first, with whether all surrogates were paired. A control character is refused. -/
def readString (read : List Char) (whole : Bool) : List Char → Option (Option String × List Char)
  | '"' :: rest => some (if whole then some (String.ofList read.reverse) else none, rest)
  | '\\' :: 'u' :: a :: b :: c :: d :: rest => do
    let n ← hex4? a b c d
    if 0xD800 ≤ n ∧ n < 0xE000 then
      match low? rest with
      | some m =>
        if n < 0xDC00 ∧ 0xDC00 ≤ m ∧ m < 0xE000 then
          readString (Text.pairedChar n m :: read) whole (rest.drop 6)
        else readString read false rest
      | none => readString read false rest
    else readString (Char.ofNat n :: read) whole rest
  | '\\' :: c :: rest => do readString ((← escaped? c) :: read) whole rest
  | c :: rest => if c.toNat < 0x20 ∨ c = '\\' then none else readString (c :: read) whole rest
  | [] => none
termination_by s => s.length
decreasing_by all_goals simp <;> omega

mutual

def readValue : Nat → List Char → Option (Tree × List Char)
  | 0, _ => none
  | fuel + 1, s =>
    match skipBlanks s with
    | 'n' :: 'u' :: 'l' :: 'l' :: rest => some (.null, rest)
    | 't' :: 'r' :: 'u' :: 'e' :: rest => some (.bool true, rest)
    | 'f' :: 'a' :: 'l' :: 's' :: 'e' :: rest => some (.bool false, rest)
    | '"' :: rest => (readString [] true rest).map fun (t, r) => (.string t, r)
    | '[' :: rest =>
      match skipBlanks rest with
      | ']' :: after => some (.array [], after)
      | _ => (readItems fuel [] rest).map fun (ts, r) => (.array ts, r)
    | '{' :: rest =>
      match skipBlanks rest with
      | '}' :: after => some (.object [], after)
      | _ => (readFields fuel [] rest).map fun (fs, r) => (.object fs, r)
    | s => (readNumeral s).map fun (m, r) => (.number m, r)

def readItems : Nat → List Tree → List Char → Option (List Tree × List Char)
  | 0, _, _ => none
  | fuel + 1, read, s => do
    let (t, rest) ← readValue fuel s
    match skipBlanks rest with
    | ',' :: rest => readItems fuel (t :: read) rest
    | ']' :: rest => some ((t :: read).reverse, rest)
    | _ => none

def readFields : Nat → List (Option String × Tree) → List Char →
    Option (List (Option String × Tree) × List Char)
  | 0, _, _ => none
  | fuel + 1, read, s =>
    match skipBlanks s with
    | '"' :: rest => do
      let (key, rest) ← readString [] true rest
      match skipBlanks rest with
      | ':' :: rest =>
        let (t, rest) ← readValue fuel rest
        match skipBlanks rest with
        | ',' :: rest => readFields fuel ((key, t) :: read) rest
        | '}' :: rest => some (((key, t) :: read).reverse, rest)
        | _ => none
      | _ => none
    | _ => none

end

/-- The tree of a text that holds one value and blanks around it. Every second step of reading takes a
character, which bounds the steps. -/
def parse? (text : String) : Option Tree :=
  let s := text.toList
  match readValue (2 * s.length + 2) s with
  | some (t, rest) => if (skipBlanks rest).isEmpty then some t else none
  | none => none

end Tree

end RootedStore.Json
