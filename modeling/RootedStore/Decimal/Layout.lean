import RootedStore.Decimal.Shortest

/-!
# Layout of decimals

How the digits of a decimal are laid out as text: with the point among them, or with one digit before
the point and an exponent.
-/

namespace RootedStore.Decimal

/-- Where the point may stand. It is counted from the first digit: zero is just before it. -/
structure Layout where
  /-- The least position that is written without an exponent. -/
  leftmost : Int
  /-- The greatest position that is written without an exponent. -/
  rightmost : Int
  plus : Bool

/-- The digits of a decimal with the zeros at its end cut, and the position of the point. -/
def Scaled.split (d : Scaled) : List Char × Int :=
  let ds := digits d.number
  ((ds.reverse.dropWhile (· = '0')).reverse, ds.length + d.power)

def Layout.exponent (l : Layout) (e : Int) : List Char :=
  'e' :: ((if 0 ≤ e ∧ l.plus then ['+'] else []) ++ (toString e).toList)

/-- A decimal as text. A whole number without an exponent keeps the point and one zero. -/
def Layout.text (l : Layout) (d : Scaled) : List Char :=
  let (ds, point) := d.split
  if point < l.leftmost ∨ l.rightmost < point then
    match ds with
    | [] => ['0', '.', '0']
    | [c] => c :: l.exponent (point - 1)
    | c :: rest => c :: '.' :: (rest ++ l.exponent (point - 1))
  else if point ≤ 0 then '0' :: '.' :: (List.replicate (-point).toNat '0' ++ ds)
  else
    let whole := ds.take point.toNat
    let rest := ds.drop point.toNat
    whole ++ List.replicate (point.toNat - whole.length) '0' ++ '.' ::
      (if rest.isEmpty then ['0'] else rest)

/-- The bits from here on are those of doubles with a minus sign. -/
def signBit : Nat := 0x8000000000000000

def Layout.double (l : Layout) (bits : UInt64) : String :=
  let magnitude := bits.toNat % signBit
  let unsigned := if magnitude = 0 then ['0', '.', '0'] else l.text (shortest magnitude)
  String.ofList (if bits.toNat < signBit then unsigned else '-' :: unsigned)

end RootedStore.Decimal
