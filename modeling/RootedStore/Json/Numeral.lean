import RootedStore.Json.Value
import RootedStore.Text.Bytes

/-!
# Numerals

A numeral as written, and the number it stands for. A numeral without fraction and exponent stands for
a whole number if that fits 64 bits. Any other stands for a double, read with one rounding for the
digits that fit 64 bits and one for each scaling by a power of ten. Minus zero is a double.
-/

namespace RootedStore.Json

structure Numeral where
  negative : Bool
  whole : List Char
  /-- The digits after the point; empty if there is no point. -/
  fraction : List Char
  /-- Whether the exponent is negative, and its digits. -/
  exponent : Option (Bool × List Char)
  deriving DecidableEq, Repr

namespace Numeral

/-- The value of the digits as far as it fits 64 bits, and the digits that do not go in. -/
def significand : List Char → Nat → Nat × List Char
  | [], n => (n, [])
  | c :: rest, n =>
    let next := n * 10 + (c.toNat - 48)
    if next < UInt64.size then significand rest next else (n, c :: rest)

def power (n : Nat) : Float := Float.ofScientific 1 false n

/-- A double scaled by a power of ten, in steps of at most 308. A result that is not finite fails. -/
def scale (f : Float) (e : Int) : Option Float :=
  if e.natAbs ≤ 308 then
    if 0 ≤ e then
      let g := f * power e.toNat
      if g.isInf then none else some g
    else some (f / power e.natAbs)
  else if f == 0 then some f
  else if 0 ≤ e then none
  else scale (f / power 308) (e + 308)
termination_by e.natAbs
decreasing_by omega

/-- The digits of the whole part and of the fraction as a number below two to the 64th, and the power
of ten that belongs to it. Digits that do not fit are dropped: those of the whole part raise the
power, those of the fraction do not count. -/
def mantissa (m : Numeral) : Nat × Int :=
  let (n, left) := significand m.whole 0
  let (n', left') := significand m.fraction n
  (n', (left.length : Int) - (m.fraction.length - left'.length : Nat))

def exponentValue? (ds : List Char) : Option Nat :=
  let (n, left) := significand ds 0
  if left.isEmpty ∧ n < 0x80000000 then some n else none

/-- The power of ten that an exponent adds to a power, kept within 32 bits. -/
def addExponent (power : Int) (negative : Bool) (e : Nat) : Int :=
  max (-0x80000000) (min 0x7FFFFFFF (if negative then power - e else power + e))

/-- The double that the numeral stands for, the sign aside. -/
def magnitude? (m : Numeral) : Option Float :=
  let (n, e) := m.mantissa
  match m.exponent with
  | none => scale n.toUInt64.toFloat e
  | some (neg, ds) =>
    match exponentValue? ds with
    | some x => scale n.toUInt64.toFloat (addExponent e neg x)
    | none => if n ≠ 0 ∧ !neg then none else some 0

def number? (m : Numeral) : Option Number :=
  let double : Option Number :=
    m.magnitude?.map fun f => .double (if m.negative then (-f).toBits else f.toBits)
  if m.fraction.isEmpty ∧ m.exponent = none then
    let (n, left) := significand m.whole 0
    if left.isEmpty then
      if !m.negative then some (.natural n.toUInt64)
      else if h : 0 < n ∧ n ≤ 0x8000000000000000 then some (.negative ⟨n - 1, by omega⟩)
      else double
    else double
  else double

end Numeral

end RootedStore.Json
