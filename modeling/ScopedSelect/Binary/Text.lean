import ScopedSelect.Decimal.Layout
import ScopedSelect.Json.Token

/-!
# Numbers as the host shows and reads them

The host shows a number of any format by its shortest decimal and reads any decimal text as the
number nearest to it. Whether the point form is used is settled by comparing numbers of the format,
not decimals: the bounds are the numbers nearest to `10 ^ (-4)` and `10 ^ 16`. What is read need not
have a digit on both sides of the point, may have superfluous zeros or a plus sign in front, and may
be one of the words for an infinity or NaN. Nothing may follow it.
-/

namespace ScopedSelect

/-- Whether the magnitude is shown in the point form: it is zero, or from `10 ^ (-4)` up to below
`10 ^ 16` as the format has them. -/
def Format.usesPoint (F : Format) (magnitude : Nat) : Bool :=
  magnitude = 0 || (F.nearestMagnitude 1 (10 ^ (4 : Nat)) ≤ magnitude &&
    magnitude < F.nearestMagnitude (10 ^ (16 : Nat)) 1)

namespace Decimal

/-- The digits behind a point, if one follows, and the text after them. There may be none. -/
def behindPoint : List Char → List Char × List Char
  | '.' :: cs => (cs.takeWhile Char.isDigit, cs.dropWhile Char.isDigit)
  | cs => ([], cs)

/-- The decimal that an unsigned text denotes. -/
def ofChars? (cs : List Char) : Option Decimal :=
  let whole := cs.takeWhile Char.isDigit
  let (fraction, rest) := behindPoint (cs.dropWhile Char.isDigit)
  if whole.isEmpty && fraction.isEmpty then none
  else
    match Token.exponentDigits rest with
    | some (exponent, []) => some (Numeral.decimal ⟨false, whole, some fraction, exponent⟩)
    | _ => none

end Decimal

namespace Binary

/-- The text that the host shows. -/
def shown {F : Format} (x : Binary F) : String :=
  if x.isNaN then "NaN"
  else if x.isFinite then
    let d := F.shortest .up x.magnitude.val
    String.ofList ((if x.negative then ['-'] else []) ++
      if F.usesPoint x.magnitude.val then d.plainChars else d.scientificChars false)
  else if x.negative then "-inf"
  else "inf"

/-- The number of the given sign that a text without a sign denotes; the words are read in either
case. -/
def ofUnsigned? (F : Format) (negative : Bool) (cs : List Char) : Option (Binary F) :=
  match Decimal.ofChars? cs with
  | some d => some (ofDecimal F negative d)
  | none =>
    let word := cs.map Char.toLower
    if word = ['i', 'n', 'f'] ∨ word = ['i', 'n', 'f', 'i', 'n', 'i', 't', 'y'] then
      some (infinity F negative)
    else if word = ['n', 'a', 'n'] then some ⟨negative, (nan F).magnitude⟩
    else none

/-- The number that a text denotes. -/
def ofText? (F : Format) (s : String) : Option (Binary F) :=
  match s.toList with
  | '-' :: cs => ofUnsigned? F true cs
  | '+' :: cs => ofUnsigned? F false cs
  | cs => ofUnsigned? F false cs

end Binary

end ScopedSelect
