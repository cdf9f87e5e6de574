import RootedStore.Decimal.Layout
import RootedStore.Json.Value
import RootedStore.Text.Bytes

/-!
# Writing JSON

Two forms: on one line without blanks, and over several lines with an indent of two. Empty arrays and
objects have no blanks in either.
-/

namespace RootedStore.Json

/-- Doubles have an exponent from ten to the sixteenth on and below one hundred thousandth, always with
its sign. -/
def doubleLayout : Decimal.Layout := ⟨-4, 16, true⟩

def Number.text : Number → String
  | .natural n => toString n.toNat
  | .negative k => "-" ++ toString (k.val + 1)
  | .double bits => doubleLayout.double bits

/-- A character inside quotes: quotes, backslashes and control characters are escaped. -/
def escape (c : Char) : List Char :=
  if c = '"' then ['\\', '"']
  else if c = '\\' then ['\\', '\\']
  else if c = '\x08' then ['\\', 'b']
  else if c = '\x0c' then ['\\', 'f']
  else if c = '\n' then ['\\', 'n']
  else if c = '\r' then ['\\', 'r']
  else if c = '\t' then ['\\', 't']
  else if c.toNat < 0x20 then '\\' :: 'u' :: '0' :: '0' :: Text.hexByte false c.toNat.toUInt8
  else [c]

def quote (s : String) : List Char := '"' :: (s.toList.flatMap escape ++ ['"'])

/-- How the parts of arrays and objects are set apart. -/
inductive Style where
  | compact
  | pretty
  deriving DecidableEq, Repr

def Style.newline : Style → Nat → List Char
  | .compact, _ => []
  | .pretty, depth => '\n' :: List.replicate (2 * depth) ' '

def Style.colon : Style → List Char
  | .compact => [':']
  | .pretty => [':', ' ']

mutual

/-- A value, its own line being at `depth`. -/
def Value.chars (style : Style) (depth : Nat) : Value → List Char
  | .null => "null".toList
  | .bool true => "true".toList
  | .bool false => "false".toList
  | .number n => n.text.toList
  | .string s => quote s
  | .array [] => ['[', ']']
  | .array (v :: vs) =>
    '[' :: (style.newline (depth + 1) ++ Value.chars style (depth + 1) v ++
      (moreItems style (depth + 1) vs ++ style.newline depth ++ [']']))
  | .object [] => ['{', '}']
  | .object ((k, v) :: fs) =>
    '{' :: (style.newline (depth + 1) ++ (quote k ++ style.colon ++ Value.chars style (depth + 1) v) ++
      (moreFields style (depth + 1) fs ++ style.newline depth ++ ['}']))

def moreItems (style : Style) (depth : Nat) : List Value → List Char
  | [] => []
  | v :: vs =>
    ',' :: (style.newline depth ++ Value.chars style depth v ++ moreItems style depth vs)

def moreFields (style : Style) (depth : Nat) : List (String × Value) → List Char
  | [] => []
  | (k, v) :: fs =>
    ',' :: (style.newline depth ++ (quote k ++ style.colon ++ Value.chars style depth v) ++
      moreFields style depth fs)

end

def Value.text (style : Style) (v : Value) : String := String.ofList (v.chars style 0)

end RootedStore.Json
