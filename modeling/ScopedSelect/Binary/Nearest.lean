import ScopedSelect.Binary.Format

/-!
# The nearest floating-point number

A fraction of naturals goes to the nearest magnitude of a format, a tie to the even one. The
significand of a magnitude is even exactly when the magnitude is, so the tie rule is the usual one.
A decimal outside the range of the format has no nearest finite number. Other rounding directions
are not covered.
-/

namespace ScopedSelect

namespace Format

/-- How many low bits of a whole number of units lie beyond the significand of the format. -/
def excessBits (F : Format) (units : Nat) : Nat := units.log2 - F.fractionBits

/-- The magnitude nearest to `num / den`, ties to the even magnitude. The quotient and remainder
keep the leading bits that the format has room for; the remainder is compared with half a step.
Carrying into the next exponent is a plain successor. -/
def nearestMagnitude (F : Format) (num den : Nat) : Nat :=
  let scaled := num * 2 ^ F.scale
  let excess := F.excessBits (scaled / den)
  let step := den * 2 ^ excess
  let below := excess * 2 ^ F.fractionBits + scaled / step
  let rest := 2 * (scaled % step)
  if rest < step then below
  else if step < rest then below + 1
  else below + below % 2

end Format

namespace Binary

/-- The number nearest to the decimal, or `none` when that is no finite number. The first two tests
settle decimals far outside the range without forming a power of ten: below the first bound the
value is less than half the least positive number, from the second on it is above every finite one. -/
def nearest? (F : Format) (negative : Bool) (d : Decimal) : Option (Binary F) :=
  if d.digits = 0 ∨ d.exponent + (d.digits.log2 + 1 : Nat) ≤ -(F.scale : Int) then
    some (zero F negative)
  else if (2 ^ F.exponentBits : Nat) ≤ d.exponent then none
  else if h : F.nearestMagnitude d.num d.den < F.infinity then
    some (finite negative (F.nearestMagnitude d.num d.den) h)
  else none

/-- The nearest decimal value as a number: an infinity stands in when there is no finite one. -/
def ofDecimal (F : Format) (negative : Bool) (d : Decimal) : Binary F :=
  (nearest? F negative d).getD (infinity F negative)

/-- The number of another format nearest to a given one; NaN and the infinities stay so. When the
target is the wider format every finite number keeps its exact value. -/
def convert {F : Format} (G : Format) (x : Binary F) : Binary G :=
  if x.isNaN then nan G
  else if h : x.isFinite ∧ G.nearestMagnitude (F.units x.magnitude.val) (2 ^ F.scale) < G.infinity then
    finite x.negative _ h.2
  else infinity G x.negative

end Binary

end ScopedSelect
