import RootedStore.Table

/-!
# JSON values

Numbers are whole numbers of 64 bits, with or without a sign, or doubles; a number is held in one way
only. An object is a list of fields. A value that was read has its fields in ascending order of their
keys, each key once.
-/

namespace RootedStore.Json

inductive Number where
  | natural (n : UInt64)
  /-- The whole number `-(k + 1)`. -/
  | negative (k : Fin 0x8000000000000000)
  | double (bits : UInt64)
  deriving DecidableEq, Repr

inductive Value where
  | null
  | bool (b : Bool)
  | number (n : Number)
  | string (s : String)
  | array (items : List Value)
  | object (fields : List (String × Value))
  deriving Repr, Inhabited

namespace Number

def toUInt64? : Number → Option UInt64
  | .natural n => some n
  | _ => none

def toInt64? : Number → Option Int
  | .natural n => if n.toNat < 0x8000000000000000 then some n.toNat else none
  | .negative k => some (-(k.val + 1 : Nat))
  | .double _ => none

end Number

namespace Value

/-- The value of a field. Of a repeated key the last value counts. -/
def get? (v : Value) (key : String) : Option Value :=
  match v with
  | .object fields => Table.lookup key fields.reverse
  | _ => none

def kind : Value → String
  | .null => "null"
  | .bool _ => "bool"
  | .number _ => "number"
  | .string _ => "string"
  | .array _ => "array"
  | .object _ => "map"

def ofFields (fields : List (String × Value)) : Value :=
  .object (fields.foldl (fun es f => Table.put f.1 f.2 es) [])

def natural (n : UInt64) : Value := .number (.natural n)

def ofOption (f : α → Value) : Option α → Value
  | none => .null
  | some a => f a

end Value

end RootedStore.Json
