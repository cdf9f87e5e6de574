import RootedStore.Json.Syntax

/-!
# Reading trees

What a tree stands for. Where a value of any kind is asked for, nesting is limited, every number must
be representable and every string whole. A record takes the fields it knows, each at most once, from
an object, where others are ignored whatever they hold, or in their order from an array, where fields
at the end may be left out.
-/

namespace RootedStore.Json

namespace Tree

/-- One more than the number of arrays and objects that may lie in one another. -/
def nestingLimit : Nat := 128

mutual

/-- The value of a tree with fewer than `depth` levels. -/
def value? (depth : Nat) : Tree → Option Value
  | .null => some .null
  | .bool b => some (.bool b)
  | .number m => m.number?.map .number
  | .string s => s.map .string
  | .array ts => if depth ≤ 1 then none else (values? (depth - 1) ts).map .array
  | .object fs => if depth ≤ 1 then none else (fields? (depth - 1) fs).map Value.ofFields

def values? (depth : Nat) : List Tree → Option (List Value)
  | [] => some []
  | t :: ts => do
    let v ← value? depth t
    return v :: (← values? depth ts)

def fields? (depth : Nat) : List (Option String × Tree) → Option (List (String × Value))
  | [] => some []
  | (key, t) :: fs => do
    let k ← key
    let v ← value? depth t
    return (k, v) :: (← fields? depth fs)

end

def string? : Tree → Option String
  | .string s => s
  | _ => none

def bool? : Tree → Option Bool
  | .bool b => some b
  | _ => none

def uint64? : Tree → Option UInt64
  | .number m => m.number?.bind Number.toUInt64?
  | _ => none

def int64? : Tree → Option Int
  | .number m => m.number?.bind Number.toInt64?
  | _ => none

def under (key : String) (fields : List (Option String × Tree)) : List Tree :=
  fields.filterMap fun f => if f.1 = some key then some f.2 else none

/-- The one tree under a key, `some none` if there is none. A repeated key fails. -/
def single? (fields : List (Option String × Tree)) (key : String) : Option (Option Tree) :=
  match under key fields with
  | [] => some none
  | [t] => some (some t)
  | _ => none

/-- The fields of a record with these keys, in their order. -/
def record? (keys : List String) : Tree → Option (List (Option Tree))
  | .object fields =>
    if fields.all (·.1.isSome) then keys.mapM (single? fields) else none
  | .array items =>
    if items.length ≤ keys.length then
      some (items.map some ++ List.replicate (keys.length - items.length) none)
    else none
  | _ => none

end Tree

def parse? (text : String) : Option Value := (Tree.parse? text).bind (Tree.value? Tree.nestingLimit)

end RootedStore.Json
