import ScopedSelect.Binary.Shortest

/-!
# Written numbers

A number is written as its sign and its shortest digits, either with a decimal point and at least
one digit on each side of it, or with an exponent of ten after at most one digit before the point.
`NumberStyle` holds what writers of numbers decide differently: which exponents get the point form,
how the exponent is signed, how a draw between two decimals is settled, and the words for what is
not finite. Digit grouping, fixed places and padding are not covered.
-/

namespace ScopedSelect

/-- The decisions of a writer of numbers. -/
structure NumberStyle where
  /-- How a draw between two shortest decimals is settled. -/
  tie : Tie
  /-- The least leading exponent in the point form. -/
  plainFrom : Int
  /-- The greatest leading exponent in the point form. -/
  plainTo : Int
  /-- Whether a non-negative exponent carries a plus sign. -/
  plusExponent : Bool
  nanWord : String
  infinityWord : String
  minusInfinityWord : String

namespace Decimal

/-- The digits with a decimal point, padded with zeros to reach it. -/
def plainChars (d : Decimal) : List Char :=
  let digits := d.digitChars
  if 0 ≤ d.exponent then digits ++ List.replicate d.exponent.toNat '0' ++ ['.', '0']
  else if 0 ≤ d.leading then
    digits.take (d.leading.toNat + 1) ++ '.' :: digits.drop (d.leading.toNat + 1)
  else '0' :: '.' :: List.replicate (-d.leading - 1).toNat '0' ++ digits

/-- An exponent in decimal, the sign of a non-negative one written on demand. -/
def exponentChars (plus : Bool) (e : Int) : List Char :=
  (if e < 0 then ['-'] else if plus then ['+'] else []) ++ Nat.toDigits 10 e.natAbs

/-- One digit, the others after a point if there are any, and the exponent of the first digit. -/
def scientificChars (plus : Bool) (d : Decimal) : List Char :=
  let tail := d.digitChars.drop 1
  d.digitChars.take 1 ++ (if tail.isEmpty then [] else '.' :: tail) ++
    'e' :: exponentChars plus d.leading

end Decimal

namespace NumberStyle

/-- The characters of a decimal: zero and the exponents of the point form are written plainly. -/
def decimalChars (style : NumberStyle) (d : Decimal) : List Char :=
  if d.digits = 0 ∨ (style.plainFrom ≤ d.leading ∧ d.leading ≤ style.plainTo) then d.plainChars
  else d.scientificChars style.plusExponent

/-- The characters of a finite number: a minus sign for the negative ones, zero included. -/
def finiteChars (style : NumberStyle) {F : Format} (x : Binary F) : List Char :=
  (if x.negative then ['-'] else []) ++
    style.decimalChars (F.shortest style.tie x.magnitude.val)

/-- The written number. -/
def write (style : NumberStyle) {F : Format} (x : Binary F) : String :=
  if x.isNaN then style.nanWord
  else if x.isFinite then String.ofList (style.finiteChars x)
  else if x.negative then style.minusInfinityWord
  else style.infinityWord

end NumberStyle

end ScopedSelect
