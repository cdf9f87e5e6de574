/-!
# Shortest decimals

A finite double is a rational number, and an interval of rationals rounds to it. `shortest` finds the
decimal with the fewest digits in that interval: for one digit, two digits, and so on, it tries the
two neighbours of the value on the grid of that many digits. Of two hits the nearer one is taken, of
two equally near ones the even one.
-/

namespace RootedStore.Decimal

/-- A positive rational with the ends of the interval around it, all over one denominator. -/
structure Interval where
  value : Nat
  low : Nat
  high : Nat
  denominator : Nat
  /-- Whether the ends belong to the interval. -/
  closed : Bool
  deriving Repr, DecidableEq

def binadeSize : Nat := 0x10000000000000

/-- The interval that rounds to a positive finite double, given its bits without the sign. The lower
half is narrower at a power of two. -/
def Interval.ofBits (bits : Nat) : Interval :=
  let exponent := bits / binadeSize
  let fraction := bits % binadeSize
  let m := if exponent = 0 then fraction else fraction + binadeSize
  let q : Nat := if exponent = 0 then 1 else exponent
  let low := if fraction = 0 ∧ 1 < exponent then 4 * m - 1 else 4 * m - 2
  let up := Nat.pow 2 (q - 1077)
  ⟨4 * m * up, low * up, (4 * m + 2) * up, Nat.pow 2 (1077 - q), m % 2 = 0⟩

def digits (n : Nat) : List Char := Nat.toDigits 10 n

/-- The least power of ten by which a fraction below one becomes at least one, up to a bound. -/
def leadingZeros (value denominator : Nat) : Nat → Nat
  | 0 => 0
  | bound + 1 =>
    if denominator ≤ value then 0 else 1 + leadingZeros (value * 10) denominator bound

/-- The exponent of the first digit of the value. -/
def Interval.exponent (i : Interval) : Int :=
  if i.denominator ≤ i.value then ((digits (i.value / i.denominator)).length : Int) - 1
  else -(leadingZeros i.value i.denominator 400 : Int)

/-- Whether `n` times `unit` lies in the interval, where the interval has been multiplied by `scale`. -/
def Interval.holds (i : Interval) (scale unit n : Nat) : Bool :=
  let x := n * unit * i.denominator
  if i.closed then i.low * scale ≤ x ∧ x ≤ i.high * scale
  else i.low * scale < x ∧ x < i.high * scale

/-- The best multiple of ten to the power `-places` in the interval. -/
def Interval.onGrid? (i : Interval) (places : Int) : Option Nat :=
  let scale := Nat.pow 10 places.toNat
  let unit := Nat.pow 10 (-places).toNat
  let below := i.value * scale / (unit * i.denominator)
  let above := below + 1
  match i.holds scale unit below, i.holds scale unit above with
  | false, false => none
  | true, false => some below
  | false, true => some above
  | true, true =>
    let left := i.value * scale - below * unit * i.denominator
    let right := above * unit * i.denominator - i.value * scale
    if left < right then some below
    else if right < left then some above
    else if below % 2 = 0 then some below
    else some above

/-- A decimal: the digits as a number, and the power of ten by which it is multiplied. -/
structure Scaled where
  number : Nat
  power : Int
  deriving Repr, DecidableEq

/-- Tries the grids of `tried + 1`, `tried + 2`, … digits, `left` of them. -/
def Interval.search (i : Interval) (tried : Nat) : Nat → Scaled
  | 0 => ⟨0, 0⟩
  | left + 1 =>
    let places := (tried : Int) - i.exponent
    match i.onGrid? places with
    | some n => ⟨n, -places⟩
    | none => i.search (tried + 1) left

/-- The decimal with the fewest digits that rounds to a positive finite double. Seventeen digits are
always enough. -/
def shortest (bits : Nat) : Scaled := (Interval.ofBits bits).search 0 17

end RootedStore.Decimal
