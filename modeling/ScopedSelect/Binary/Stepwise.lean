import ScopedSelect.Binary.Nearest

/-!
# Scaling by powers of ten in steps

A whole significand is scaled by a power of ten within a floating-point format: the significand is
rounded, the power of ten is rounded, and their product or quotient is rounded again. Each step is
to the nearest magnitude, but the result need not be the magnitude nearest to the decimal. Negative
powers below the table are reached by dividing by the last entry first. Signs are not covered.
-/

namespace ScopedSelect

namespace Format

/-- The magnitude nearest to the product of two finite magnitudes. -/
def product (F : Format) (a b : Nat) : Nat :=
  F.nearestMagnitude (F.units a * F.units b) (2 ^ (2 * F.scale))

/-- The magnitude nearest to the quotient of two finite magnitudes, the second one not zero. -/
def quotient (F : Format) (a b : Nat) : Nat := F.nearestMagnitude (F.units a) (F.units b)

/-- The magnitude nearest to a power of ten. -/
def powerOfTen (F : Format) (exponent : Nat) : Nat := F.nearestMagnitude (10 ^ exponent) 1

/-- Divide by `10 ^ top` the given number of times; zero stays zero. -/
def lower (F : Format) (top : Nat) : (times : Nat) → (magnitude : Nat) → Nat
  | 0, magnitude => magnitude
  | times + 1, magnitude =>
    if magnitude = 0 then 0 else F.lower top times (F.quotient magnitude (F.powerOfTen top))

/-- A whole number scaled by a power of ten in steps, where `10 ^ top` is the greatest power that is
used. The result is `none` when it is out of range. -/
def stepwise? (F : Format) (top significand : Nat) (exponent : Int) : Option Nat :=
  let start := F.nearestMagnitude significand 1
  if 0 ≤ exponent then
    if exponent.toNat ≤ top then
      let raised := F.product start (F.powerOfTen exponent.toNat)
      if raised < F.infinity then some raised else none
    else if start = 0 then some 0 else none
  else
    let down := (-exponent).toNat
    let times := (down - 1) / top
    some (F.quotient (F.lower top times start) (F.powerOfTen (down - times * top)))

end Format

end ScopedSelect
