import ScopedSelect.Binary.Format

/-!
# The shortest decimal that reads back

Every finite number is a whole multiple of a power of a tenth, so the choice of its decimal is made
between naturals. The reals that round to the number form a window with ends halfway to its
neighbours, the ends included when the magnitude is even. Among the grids of multiples of a power
of ten, the coarsest one with a point in the window decides how many digits are written; of its
points in the window the one nearest to the number is written, and the tie rule settles a draw.
-/

namespace ScopedSelect

/-- Which of two equally near decimals is written. -/
inductive Tie where
  /-- The greater one. -/
  | up
  /-- The one with the even last digit. -/
  | even
deriving DecidableEq

/-- An interval between naturals, its ends doubled so that halves can be written. -/
structure Window where
  lower : Nat
  upper : Nat
  closed : Bool

/-- Whether the natural number lies in the interval. -/
def Window.contains (w : Window) (n : Nat) : Bool :=
  (w.lower < 2 * n && 2 * n < w.upper) || (w.closed && (2 * n == w.lower || 2 * n == w.upper))

/-- The multiple of `step` in the window that is nearest to `exact`, as a quotient by `step`. Only
the two multiples around `exact` can be nearest. -/
def Window.nearestMultiple (w : Window) (tie : Tie) (exact step : Nat) : Option Nat :=
  let below := exact / step
  match w.contains (below * step), w.contains ((below + 1) * step) with
  | false, false => none
  | true, false => some below
  | false, true => some (below + 1)
  | true, true =>
    match compare (2 * exact) ((2 * below + 1) * step), tie with
    | .lt, _ => some below
    | .gt, _ => some (below + 1)
    | .eq, .up => some (below + 1)
    | .eq, .even => some (below + below % 2)

/-- The nearest multiple on the coarsest grid from `10 ^ place` downward that has one in the
window. The number itself is on the finest grid. -/
def Window.coarsest (w : Window) (tie : Tie) (exact : Nat) : (place : Nat) → Decimal
  | 0 => ⟨exact, 0⟩
  | place + 1 =>
    match w.nearestMultiple tie exact (10 ^ (place + 1)) with
    | some digits => ⟨digits, (place + 1 : Nat)⟩
    | none => w.coarsest tie exact place

/-- A place whose power of ten exceeds the number, for `2 ^ 93 < 10 ^ 28`. -/
def placeAbove (n : Nat) : Nat := (n.log2 + 1) * 28 / 93 + 1

namespace Format

/-- The value of a magnitude in multiples of `10 ^ (-F.scale)`. -/
def exactDigits (F : Format) (magnitude : Nat) : Nat := F.units magnitude * 5 ^ F.scale

/-- The reals that round to a non-zero magnitude, in multiples of `10 ^ (-F.scale)`. -/
def window (F : Format) (magnitude : Nat) : Window where
  lower := F.exactDigits (magnitude - 1) + F.exactDigits magnitude
  upper := F.exactDigits magnitude + F.exactDigits (magnitude + 1)
  closed := magnitude % 2 == 0

/-- The shortest decimal that reads back to the magnitude, the nearest of them. -/
def shortest (F : Format) (tie : Tie) (magnitude : Nat) : Decimal :=
  if magnitude = 0 then ⟨0, 0⟩
  else
    let exact := F.exactDigits magnitude
    let found := (F.window magnitude).coarsest tie exact (placeAbove exact)
    ⟨found.digits, found.exponent - F.scale⟩

end Format

end ScopedSelect
