/-!
# Decimal numbers

A non-negative decimal is a natural number scaled by a power of ten. One number has many decimals;
`Decimal.num` and `Decimal.den` give its value as a fraction of naturals.

Ranges and sizes of numbers are powers of naturals and integers throughout. There are other ways to
take the same powers, as powers in a monoid; the instances here settle on one of them.
-/

namespace ScopedSelect

/-- Powers of naturals. -/
instance natPow : Pow Nat Nat := instPowNat

/-- Powers of integers. -/
instance intPow : Pow Int Nat := instPowNat

/-- The number `digits * 10 ^ exponent`. -/
structure Decimal where
  digits : Nat
  exponent : Int
deriving DecidableEq, Repr

namespace Decimal

/-- The numerator of the value. -/
def num (d : Decimal) : Nat := d.digits * 10 ^ d.exponent.toNat

/-- The denominator of the value, a power of ten. -/
def den (d : Decimal) : Nat := 10 ^ (-d.exponent).toNat

/-- A decimal is a fraction: its denominator is not zero. -/
theorem den_pos (d : Decimal) : 0 < d.den := Nat.pow_pos (by decide)

/-- The written digits, without leading zeros. -/
def digitChars (d : Decimal) : List Char := Nat.toDigits 10 d.digits

/-- The exponent of ten at the first written digit. -/
def leading (d : Decimal) : Int := d.exponent + d.digitChars.length - 1

end Decimal

end ScopedSelect
