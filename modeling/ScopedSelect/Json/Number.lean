import ScopedSelect.Binary.Stepwise

/-!
# Numbers in JSON

A numeral is kept as it was written: sign, whole digits, fraction and exponent. Read as a number it
is one of three things. A numeral without fraction and exponent is an integer if it fits into 64
bits, unsigned or signed, and is not a minus zero; every other numeral is a 64-bit floating-point
number, unless it is out of range. How the latter are read is a parameter: `Reading.nearest` takes
the number nearest to the numeral, and `Reading.stepwise`, which documents are read with, keeps the
digits that fit into 64 bits and scales them by a power of ten, rounding at each step.
-/

namespace ScopedSelect

/-- A number of a JSON document. -/
inductive JsonNumber where
  /-- An integer from zero on. -/
  | natural (n : UInt64)
  /-- An integer below zero. -/
  | negative (n : Int64)
  | double (x : Double)

/-- A numeral of the JSON grammar. -/
structure Numeral where
  minus : Bool
  whole : List Char
  fraction : Option (List Char)
  /-- Whether the exponent is below zero, and its digits. -/
  exponent : Option (Bool × List Char)

namespace Numeral

/-- The number that a run of decimal digits denotes. -/
def digitsValue (digits : List Char) : Nat := Nat.ofDigitChars 10 digits 0

/-- The written exponent, zero if there is none. -/
def exponentValue (n : Numeral) : Int :=
  match n.exponent with
  | none => 0
  | some (false, digits) => digitsValue digits
  | some (true, digits) => -digitsValue digits

/-- The magnitude that the numeral denotes. -/
def decimal (n : Numeral) : Decimal :=
  let fraction := n.fraction.getD []
  ⟨digitsValue (n.whole ++ fraction), n.exponentValue - fraction.length⟩

/-- Append digits to a number as long as it stays below `2 ^ 64`, and tell which digits are left. -/
def absorb : Nat → List Char → Nat × List Char
  | n, [] => (n, [])
  | n, d :: ds =>
    let next := n * 10 + (d.toNat - '0'.toNat)
    if next < 2 ^ (64 : Nat) then absorb next ds else (n, d :: ds)

/-- The digits that fit into 64 bits with the power of ten that they are scaled by. Each whole digit
left out raises the exponent, each digit taken from the fraction lowers it. The fraction is taken
up anew, so its digits may fit although a whole digit before them did not. -/
def kept (n : Numeral) : Decimal :=
  let fraction := n.fraction.getD []
  let (whole, wholeLeft) := absorb 0 n.whole
  let (digits, fractionLeft) := absorb whole fraction
  ⟨digits, n.exponentValue + wholeLeft.length - (fraction.length - fractionLeft.length : Nat)⟩

end Numeral

/-- How numerals are read as floating-point numbers; `none` is for those out of range. -/
abbrev Reading := Numeral → Option Double

namespace Reading

/-- The number nearest to the numeral. -/
def nearest : Reading := fun n => Binary.nearest? .binary64 n.minus n.decimal

/-- The greatest power of ten in the range of the format. -/
def topExponent : Nat := 308

/-- The number that the digits kept are scaled to in steps. -/
def stepwise : Reading := fun n =>
  match Format.binary64.stepwise? topExponent n.kept.digits n.kept.exponent with
  | none => none
  | some magnitude =>
    if h : magnitude < Format.binary64.infinity then some (.finite n.minus magnitude h) else none

/-- Reading in steps may end beside the nearest number: dividing by the rounded `10 ^ 28` gives the
neighbour above. -/
example :
    (nearest ⟨false, ['1'], none, some (true, ['2', '8'])⟩).map Binary.toBits =
      some 0x3a1fb0f6be506019 ∧
    (stepwise ⟨false, ['1'], none, some (true, ['2', '8'])⟩).map Binary.toBits =
      some 0x3a1fb0f6be50601a := by decide +kernel

end Reading

namespace Numeral

/-- The number that the numeral denotes, or `none` when it is out of range. -/
def number? (reading : Reading) (n : Numeral) : Option JsonNumber :=
  match n.fraction, n.exponent, n.minus with
  | none, none, false =>
    if h : digitsValue n.whole < UInt64.size then
      some (.natural (UInt64.ofNatLT (digitsValue n.whole) h))
    else (reading n).map .double
  | none, none, true =>
    if 0 < digitsValue n.whole ∧ digitsValue n.whole ≤ 2 ^ (63 : Nat) then
      some (.negative (Int64.ofInt (-digitsValue n.whole)))
    else (reading n).map .double
  | _, _, _ => (reading n).map .double

end Numeral

namespace JsonNumber

/-- The number as a signed 64-bit integer, if it is one. -/
def asInt64? : JsonNumber → Option Int64
  | natural n => if n.toNat < 2 ^ (63 : Nat) then some n.toInt64 else none
  | negative n => some n
  | double _ => none

/-- The number as an unsigned 64-bit integer, if it is one. -/
def asUInt64? : JsonNumber → Option UInt64
  | natural n => some n
  | negative _ => none
  | double _ => none

/-- The number as a floating-point number, an integer rounded to the nearest. -/
def asDouble : JsonNumber → Double
  | natural n => Binary.ofDecimal .binary64 false ⟨n.toNat, 0⟩
  | negative n => Binary.ofDecimal .binary64 true ⟨n.toInt.natAbs, 0⟩
  | double x => x

end JsonNumber

end ScopedSelect
